-- The laws of a command of the program on its own: what its words ask of the
-- assistant, what they come to nothing for, and what is printed and called for a
-- question.
import OcamlAssist.Cli.Run
import OcamlAssist.Proofs.Cli.Offset
import OcamlAssist.Proofs.Session.Answers

namespace OcamlAssist.Cli

/-! ## What a command asks and prints -/

/-- What a command asks the assistant about a document, in a view of it: the completions at an
offset, or the type at the cursor, which is put there. -/
inductive Asks (a : Arguments) (config : Config) (d : Document) : String → View → Event → Prop
  | complete {word : String} {offset : Nat} (said : a.positional[2]? = some word)
      (placed : readOffset d word = .ok offset) :
      Asks a config d "complete" (viewOf config d)
        (.completionAsked (a.typed.getD (d.buffer.wordBefore offset)) [offset])
  | type {word : String} {offset : Nat} (said : a.positional[2]? = some word)
      (placed : readOffset d word = .ok offset) :
      Asks a config d "type"
        { viewOf config d with document := (viewOf config d).document.setCursor offset } .typeShown

/-- A completion list as it is printed: as JSON, or with a line for each entry. -/
def listText (json : Bool) (list : CompletionList) : String :=
  if json then Json.print list.json ++ "\n"
  else String.join (list.items.map fun item => item.label ++ "\t" ++ item.insertText ++ "\n")

/-- An answer of the assistant as it is printed. -/
def answerText (json : Bool) : Answer → String
  | .completion (some list) => listText json list
  | .message (some text) => text ++ "\n"
  | .completion none | .message none | .nothing | .selections _ => ""

theorem printed_singleton (line : String) : printed [line] = line ++ "\n" := by
  simp [printed, String.join]

theorem printed_lines (list : CompletionList) :
    printed list.lines =
      String.join (list.items.map fun item => item.label ++ "\t" ++ item.insertText ++ "\n") := by
  simp only [printed, CompletionList.lines, CompletionList.pairs, List.map_map]
  rfl

theorem listText_eq (json : Bool) (list : CompletionList) :
    listText json list =
      if json then printed [Json.print list.json] else printed list.lines := by
  rw [listText, printed_singleton, printed_lines]

theorem offsetWord_of_said {d : Document} {word : String} {offset : Nat} {word? : Option String}
    (hsaid : word? = some word) (hplaced : readOffset d word = .ok offset) :
    offsetWord d word? = .ok offset := by
  rw [hsaid, offsetWord, hplaced]
  rfl

/-- A command that asks has a task, which puts the question of what is asked and prints the answer
to it. Without a question it prints nothing. -/
theorem task_of_asks {a : Arguments} {config : Config} {d : Document} {command : String}
    {view : View} {event : Event} (session : Session) (h : Asks a config d command view event) :
    ∃ task, taskOf a session (viewOf config d) command = .ok task ∧ task.otherwise.text = "" ∧
      task.question.map (Lookup.map Outcome.text) =
        (session.question? view event).map (Lookup.map (answerText a.json)) := by
  cases h with
  | @complete word offset hsaid hplaced =>
    have hoffset : offsetWord (viewOf config d).document a.positional[2]? = .ok offset :=
      offsetWord_of_said hsaid hplaced
    refine ⟨completeTask a session (viewOf config d) offset, ?_, rfl, ?_⟩
    · simp only [taskOf, hoffset, Except.map]
    · simp only [completeTask, Session.question?, Option.map_map]
      refine congrArg (Option.map · _) (funext fun lookup => congrArg (Lookup.mk _) ?_)
      funext reply
      exact (listText_eq a.json _).symm
  | @type word offset hsaid hplaced =>
    have hoffset : offsetWord (viewOf config d).document a.positional[2]? = .ok offset :=
      offsetWord_of_said hsaid hplaced
    refine ⟨typeTask session (viewOf config d) offset, ?_, rfl, ?_⟩
    · simp only [taskOf, hoffset, Except.map]
    · simp only [typeTask, Session.question?, Option.map_map]
      refine congrArg (Option.map · _) (funext fun lookup => congrArg (Lookup.mk _) ?_)
      funext reply
      exact printed_singleton _

/-! ## Faults of a command -/

/-- What the words that belong to no option come to nothing for. -/
inductive CommandFails (m : Machine) (a : Arguments) : Fault → Prop
  | few (few : a.positional.length < 2) : CommandFails m a .usage
  | unreadable {command : String} {file : Path} {more : List String} {fault : FileFault}
      (said : a.positional = command :: file :: more)
      (unread : openDocument m file = .error fault) : CommandFails m a (.unreadable file fault)
  | unknown {command : String} {file : Path} {more : List String} {d : Document}
      (said : a.positional = command :: file :: more) (opened : openDocument m file = .ok d)
      (unknown : command ∉ ["complete", "type", "locals"]) :
      CommandFails m a (.unknownCommand command)
  | noOffset {command : String} {file : Path} {d : Document} (said : a.positional = [command, file])
      (opened : openDocument m file = .ok d) (asks : command = "complete" ∨ command = "type") :
      CommandFails m a .usage
  | badOffset {command word : String} {file : Path} {more : List String} {d : Document}
      {fault : OffsetFault} (said : a.positional = command :: file :: word :: more)
      (opened : openDocument m file = .ok d) (asks : command = "complete" ∨ command = "type")
      (misplaced : readOffset d word = .error fault) : CommandFails m a (.offset fault)

theorem taskOf_of_unknown (a : Arguments) (session : Session) (v : View) {command : String}
    (h : command ∉ ["complete", "type", "locals"]) :
    taskOf a session v command = .error (.unknownCommand command) := by
  unfold taskOf
  split
  · simp at h
  · simp at h
  · simp at h
  · rfl

theorem taskOf_of_misplaced {a : Arguments} {session : Session} {v : View} {command : String}
    {fault : Fault} (hasks : command = "complete" ∨ command = "type")
    (hoffset : offsetWord v.document a.positional[2]? = .error fault) :
    taskOf a session v command = .error fault := by
  rcases hasks with rfl | rfl
  · simp only [taskOf, hoffset, Except.map]
  · simp only [taskOf, hoffset, Except.map]

/-! ## Commands -/

section Commands

variable {m : Machine} {config : Config} {a : Arguments} {command : String} {file : Path}
  {d : Document}

theorem runArguments_of_opened {more : List String} (hsaid : a.positional = command :: file :: more)
    (hopened : openDocument m file = .ok d) :
    runArguments m config a = runCommand m config a command file d := by
  simp only [runArguments, hsaid, hopened]

theorem runCommand_of_fault {fault : Fault}
    (h : taskOf a (sessionFor config file (viewOf config d)) (viewOf config d) command =
      .error fault) :
    (runCommand m config a command file d).result = .error fault ∧
      (runCommand m config a command file d).calls = [] := by
  simp only [runCommand, h, and_self]

/-- A task without a question does not touch the files. -/
theorem runCommand_of_no_question {task : Task}
    (h : taskOf a (sessionFor config file (viewOf config d)) (viewOf config d) command = .ok task)
    (hnone : task.question = none) :
    let done := runCommand m config a command file d
    done.result = .ok task.otherwise.text ∧ done.calls = [] ∧ done.files = m.files := by
  simp only [runCommand, h, Task.perform, hnone, and_self]

/-- A task with a question calls the tool once, and prints the answer to the reply. -/
theorem runCommand_of_question {task : Task} {lookup : Lookup Outcome}
    (h : taskOf a (sessionFor config file (viewOf config d)) (viewOf config d) command = .ok task)
    (hsome : task.question = some lookup) :
    let done := runCommand m config a command file d
    let called := Tool.run m config.toolLocation lookup.invocation
    done.result = .ok (lookup.answer called.value).text ∧ done.calls = [lookup.invocation] ∧
      done.files = called.files := by
  simp only [runCommand, h, Task.perform, hsome, and_self]

theorem runArguments_of_fails (config : Config) {fault : Fault} (h : CommandFails m a fault) :
    (runArguments m config a).result = .error fault ∧ (runArguments m config a).calls = [] := by
  cases h with
  | few hfew =>
    unfold runArguments
    split
    · rename_i hsaid
      rw [hsaid, List.length_cons, List.length_cons] at hfew
      omega
    · exact ⟨rfl, rfl⟩
  | unreadable hsaid hunread => simp only [runArguments, hsaid, hunread, and_self]
  | unknown hsaid hopened hunknown =>
    rw [runArguments_of_opened hsaid hopened]
    exact runCommand_of_fault (taskOf_of_unknown a _ _ hunknown)
  | noOffset hsaid hopened hasks =>
    rw [runArguments_of_opened hsaid hopened]
    refine runCommand_of_fault (taskOf_of_misplaced hasks ?_)
    rw [hsaid]
    rfl
  | @badOffset _ word _ _ d fault hsaid hopened hasks hmisplaced =>
    rw [runArguments_of_opened hsaid hopened]
    refine runCommand_of_fault (taskOf_of_misplaced hasks ?_)
    have hword : readOffset (viewOf config d).document word = .error fault := hmisplaced
    simp only [hsaid, List.getElem?_cons_succ, List.getElem?_cons_zero, offsetWord, hword,
      Except.mapError]

/-- The command that lists names asks nothing. -/
theorem runArguments_of_locals (config : Config) {more : List String}
    (hsaid : a.positional = "locals" :: file :: more) (hopened : openDocument m file = .ok d) :
    (runArguments m config a).result = .ok (printed (Locals.scan d.buffer.text)) ∧
      (runArguments m config a).calls = [] := by
  rw [runArguments_of_opened hsaid hopened]
  have htask : taskOf a (sessionFor config file (viewOf config d)) (viewOf config d) "locals" =
      .ok (localsTask (viewOf config d)) := rfl
  obtain ⟨hresult, hcalls, -⟩ := runCommand_of_no_question (m := m) htask rfl
  exact ⟨hresult, hcalls⟩

/-- A command that asks calls the tool once if there is a question, and otherwise not at all. -/
theorem runArguments_of_asks {more : List String} {view : View} {event : Event}
    (hsaid : a.positional = command :: file :: more) (hopened : openDocument m file = .ok d)
    (hasks : Asks a config d command view event) :
    let question := (sessionFor config file (viewOf config d)).question? view event
    let done := runArguments m config a
    (question = none → done.result = .ok "" ∧ done.calls = [] ∧ done.files = m.files) ∧
      ∀ lookup, question = some lookup →
        let called := Tool.run m config.toolLocation lookup.invocation
        done.result = .ok (answerText a.json (lookup.answer called.value)) ∧
          done.calls = [lookup.invocation] ∧ done.files = called.files := by
  intro question done
  obtain ⟨task, htask, hsilent, hquestion⟩ :=
    task_of_asks (sessionFor config file (viewOf config d)) hasks
  have hdone : done = runCommand m config a command file d := runArguments_of_opened hsaid hopened
  change _ = question.map _ at hquestion
  rw [hdone]
  refine ⟨fun hnone => ?_, fun lookup hsome => ?_⟩
  · have hown : task.question = none := by simpa [hnone] using hquestion
    obtain ⟨hresult, hrest⟩ := runCommand_of_no_question (m := m) htask hown
    exact ⟨hresult.trans (congrArg Except.ok hsilent), hrest⟩
  · rw [hsome, Option.map_some, Option.map_eq_some_iff] at hquestion
    obtain ⟨own, hown, hsame⟩ := hquestion
    obtain ⟨hresult, hcalls, hfiles⟩ := runCommand_of_question (m := m) htask hown
    have hcall : own.invocation = lookup.invocation := congrArg Lookup.invocation hsame
    have htext (reply : Reply) :
        (own.answer reply).text = answerText a.json (lookup.answer reply) :=
      congrFun (congrArg Lookup.answer hsame) reply
    rw [← hcall]
    exact ⟨hresult.trans (congrArg Except.ok (htext _)), hcalls, hfiles⟩

/-- The words fail, list names, or ask. -/
theorem command_cases (m : Machine) (config : Config) (a : Arguments) :
    (∃ fault, CommandFails m a fault) ∨
      ∃ command file more d, a.positional = command :: file :: more ∧
        openDocument m file = .ok d ∧
        (command = "locals" ∨ ∃ view event, Asks a config d command view event) := by
  rcases hsaid : a.positional with _ | ⟨command, _ | ⟨file, more⟩⟩
  · exact Or.inl ⟨_, .few (by simp [hsaid])⟩
  · exact Or.inl ⟨_, .few (by simp [hsaid])⟩
  · rcases hopened : openDocument m file with fault | d
    · exact Or.inl ⟨_, .unreadable hsaid hopened⟩
    · by_cases hasks : command = "complete" ∨ command = "type"
      · rcases more with _ | ⟨word, more⟩
        · exact Or.inl ⟨_, .noOffset hsaid hopened hasks⟩
        · have hword : a.positional[2]? = some word := by rw [hsaid]; rfl
          rcases hplaced : readOffset d word with fault | offset
          · exact Or.inl ⟨_, .badOffset hsaid hopened hasks hplaced⟩
          · refine Or.inr ⟨command, file, word :: more, d, rfl, hopened, Or.inr ?_⟩
            rcases hasks with rfl | rfl
            · exact ⟨_, _, .complete hword hplaced⟩
            · exact ⟨_, _, .type hword hplaced⟩
      · by_cases hlocals : command = "locals"
        · exact Or.inr ⟨command, file, more, d, rfl, hopened, Or.inl hlocals⟩
        · refine Or.inl ⟨_, .unknown hsaid hopened ?_⟩
          simpa [hlocals] using hasks

end Commands

/-! ## What a command gets -/

theorem map_eq_ok_iff {ε α β : Type} {x : Except ε α} {f : α → β} {b : β} :
    x.map f = .ok b ↔ ∃ a, x = .ok a ∧ f a = b := by
  cases x <;> simp [Except.map]

section Behaviour

variable (m : Machine) (config : Config) (a : Arguments)
  (behaviour : FileTree → Program → Except FileFault ProgramOutput)

end Behaviour

end OcamlAssist.Cli
