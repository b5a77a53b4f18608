-- The laws of questions to the assistant: whether there is an answer is settled
-- before the index tool is asked, an answer takes one call and no answer takes
-- none, and a reply that is a fault changes only what the answer says.
import OcamlAssist.Proofs.Query.Basic
import OcamlAssist.Proofs.Session.Steps

namespace OcamlAssist

open OcamlAssist.Text

/-! ## Questions with an answer -/

/-- One of the scopes at an offset is of the OCaml family. -/
def View.InOcaml (v : View) (offset : Nat) : Prop :=
  ∃ scope ∈ piecesAt ' ' (v.scopeAt offset).toList, scope ∈ Scope.family

/-- The event asks something that the assistant has an answer to, whatever the index tool says. -/
inductive Answerable (v : View) : Event → Prop
  | completion {typed : String} {location : Nat} (ocaml : v.InOcaml location)
      (token : Query.TokenEndsAt v.document location) :
      Answerable v (.completionAsked typed [location])
  | shown {region : Region} (selected : v.document.selections.head? = some region)
      (ocaml : v.InOcaml region.first)
      (token : Query.TokenEndsAt v.document (Session.typePlace v.document.buffer region)) :
      Answerable v .typeShown
  | type {region : Region}
      (token : Query.TokenEndsAt v.document (Session.typePlace v.document.buffer region)) :
      Answerable v (.typeAsked region)

theorem isOcamlAt_iff (v : View) (offset : Nat) : v.isOcamlAt offset = true ↔ v.InOcaml offset := by
  simp [View.isOcamlAt, Scope.isOcaml, View.InOcaml]

/-! ## The question behind an event -/

/-- A question with its answer put in another form. -/
def Lookup.map {α β : Type} (f : α → β) (lookup : Lookup α) : Lookup β :=
  ⟨lookup.invocation, fun reply => f (lookup.answer reply)⟩

namespace Session

/-- What an event makes the assistant ask the index tool. -/
def question? (s : Session) (v : View) : Event → Option (Lookup Answer)
  | .completionAsked typed locations =>
    (s.complete? v typed locations).map (Lookup.map fun list => .completion (some list))
  | .typeShown => (s.shownType? v).map (Lookup.map fun text => .message (some text))
  | .typeAsked region => (s.type? v region).map (Lookup.map fun text => .message (some text))
  | _ => none

theorem completionPlace?_eq_some_iff {v : View} {locations : List Nat} {location : Nat} :
    completionPlace? v locations = some location ↔ locations = [location] ∧ v.InOcaml location := by
  unfold completionPlace?
  split
  · rename_i place
    rw [Option.ite_none_right_eq_some, isOcamlAt_iff]
    constructor
    · rintro ⟨hocaml, heq⟩
      obtain rfl := Option.some.inj heq
      exact ⟨rfl, hocaml⟩
    · rintro ⟨heq, hocaml⟩
      obtain rfl := List.singleton_inj.mp heq
      exact ⟨hocaml, rfl⟩
  · rename_i hone
    simp only [reduceCtorEq, false_iff]
    rintro ⟨heq, -⟩
    exact hone location heq

theorem isSome_complete?_iff (s : Session) (v : View) (typed : String) (locations : List Nat) :
    (s.complete? v typed locations).isSome = true ↔
      Answerable v (.completionAsked typed locations) := by
  constructor
  · intro h
    obtain ⟨lookup, hlookup⟩ := Option.isSome_iff_exists.mp h
    obtain ⟨location, hplace, hfound⟩ := Option.bind_eq_some_iff.mp hlookup
    obtain ⟨rfl, hocaml⟩ := completionPlace?_eq_some_iff.mp hplace
    obtain ⟨query, hquery, -⟩ := Option.map_eq_some_iff.mp hfound
    exact .completion hocaml ((Query.isSome_at?_iff _ _).mp (Option.isSome_of_eq_some hquery))
  · intro h
    cases h with
    | completion hocaml htoken =>
      have hplace := completionPlace?_eq_some_iff.mpr ⟨rfl, hocaml⟩
      rw [complete?, hplace, Option.bind_some, Completion.lookup?, Option.isSome_map]
      exact (Query.isSome_at?_iff _ _).mpr htoken

theorem isSome_type?_iff (s : Session) (v : View) (region : Region) :
    (s.type? v region).isSome = true ↔ Answerable v (.typeAsked region) := by
  rw [type?, Option.isSome_map, Query.isSome_at?_iff]
  constructor
  · exact .type
  · intro h
    cases h with
    | type htoken => exact htoken

theorem ocamlSelection?_eq_some_iff {v : View} {region : Region} :
    v.ocamlSelection? = some region ↔
      v.document.selections.head? = some region ∧ v.InOcaml region.first := by
  rw [View.ocamlSelection?, Option.filter_eq_some_iff, isOcamlAt_iff]

theorem isSome_shownType?_iff (s : Session) (v : View) :
    (s.shownType? v).isSome = true ↔ Answerable v .typeShown := by
  constructor
  · intro h
    obtain ⟨lookup, hlookup⟩ := Option.isSome_iff_exists.mp h
    obtain ⟨region, hregion, htype⟩ := Option.bind_eq_some_iff.mp hlookup
    obtain ⟨hselected, hocaml⟩ := ocamlSelection?_eq_some_iff.mp hregion
    cases (s.isSome_type?_iff v region).mp (Option.isSome_of_eq_some htype) with
    | type htoken => exact .shown hselected hocaml htoken
  · intro h
    cases h with
    | shown hselected hocaml htoken =>
      have hregion := ocamlSelection?_eq_some_iff.mpr ⟨hselected, hocaml⟩
      rw [shownType?, hregion, Option.bind_some]
      exact (s.isSome_type?_iff v _).mpr (.type htoken)

/-- The gates in front of the index tool are the conditions for an answer. -/
theorem isSome_question?_iff (s : Session) (v : View) (event : Event) :
    (s.question? v event).isSome = true ↔ Answerable v event := by
  cases event with
  | completionAsked typed locations =>
    rw [question?, Option.isSome_map, isSome_complete?_iff]
  | typeShown => rw [question?, Option.isSome_map, isSome_shownType?_iff]
  | typeAsked region => rw [question?, Option.isSome_map, isSome_type?_iff]
  | loaded | saved | closed | selectionMoved | cursorSet _ | statusSet _ _ | statusErased _ =>
    simp only [question?, Option.isSome_none, Bool.false_eq_true, false_iff]
    intro hanswerable
    cases hanswerable

end Session

/-! ## What an answer says -/

namespace Answer

/-- Whether an answer holds what was asked for. -/
def isSome : Answer → Bool
  | .completion list => list.isSome
  | .message text => text.isSome
  | .nothing | .selections _ => false

/-- The answer to a reply, where `names` are kept for the buffer. A completion that failed has
nothing of the tool's and of the buffer's, and of the fixed entries only the wildcard. -/
def expected (names : List String) (call : Invocation) (reply : Reply) : Event → Answer
  | .completionAsked typed _ =>
    .completion <| some <| .alone <|
      match reply with
      | .ok output =>
        Completion.builtins typed ++ Listing.entries output typed ++
          names.map fun name => ⟨name ++ "\tlet", name, .variable, .buffer⟩
      | .error fault =>
        (if typed = "_" then [⟨"_\t wildcard", "_", .keyword, .builtin⟩] else []) ++
          [⟨fault.message, fault.message, .text, .fault⟩]
  | .typeShown | .typeAsked _ =>
    .message <| some <|
      match reply with
      | .ok output => if output = "" then Session.unknownType call.query else "Type: " ++ output
      | .error _ => Session.unknownType call.query
  | _ => .nothing

end Answer

namespace Session

theorem items_eq (typed : String) (names : Option (List String)) (call : Invocation)
    (locations : List Nat) (reply : Reply) :
    .completion (some (.alone (Completion.items typed names reply))) =
      Answer.expected (names.getD []) call reply (.completionAsked typed locations) := by
  cases reply with
  | ok output => rfl
  | error fault =>
    by_cases htyped : typed = "_"
    · subst htyped
      rfl
    · have hwildcard : typed ≠ Completion.wildcard := htyped
      simp only [Completion.items, Answer.expected, if_neg hwildcard, if_neg htyped]
      rfl

theorem typeMessage_eq (token : String) (reply : Reply) :
    typeMessage token reply =
      match reply with
      | .ok output => if output = "" then unknownType token else "Type: " ++ output
      | .error _ => unknownType token := by
  cases reply with
  | ok output => simp only [typeMessage, String.isEmpty_iff]
  | error fault => rfl

theorem answer_of_type? {s : Session} {v : View} {region : Region} {lookup : Lookup String}
    (h : s.type? v region = some lookup) (reply : Reply) :
    lookup.answer reply = typeMessage lookup.invocation.query reply := by
  obtain ⟨query, -, rfl⟩ := Option.map_eq_some_iff.mp h
  rfl

/-- The answer to a question is the one that is expected for the call and its reply. -/
theorem answer_of_question? {s : Session} {v : View} {event : Event} {lookup : Lookup Answer}
    (h : s.question? v event = some lookup) (reply : Reply) :
    lookup.answer reply =
      Answer.expected ((s.locals.get? v.id).getD []) lookup.invocation reply event := by
  cases event with
  | completionAsked typed locations =>
    rw [question?, Option.map_eq_some_iff] at h
    obtain ⟨found, hfound, rfl⟩ := h
    unfold complete? at hfound
    obtain ⟨location, -, hlookup⟩ := Option.bind_eq_some_iff.mp hfound
    obtain ⟨query, -, rfl⟩ := Option.map_eq_some_iff.mp hlookup
    exact items_eq typed _ _ locations reply
  | typeShown =>
    rw [question?, Option.map_eq_some_iff] at h
    obtain ⟨found, hfound, rfl⟩ := h
    unfold shownType? at hfound
    obtain ⟨region, -, htype⟩ := Option.bind_eq_some_iff.mp hfound
    simp only [Lookup.map, answer_of_type? htype, typeMessage_eq, Answer.expected]
  | typeAsked region =>
    rw [question?, Option.map_eq_some_iff] at h
    obtain ⟨found, hfound, rfl⟩ := h
    simp only [Lookup.map, answer_of_type? hfound, typeMessage_eq, Answer.expected]
  | loaded | saved | closed | selectionMoved | cursorSet _ | statusSet _ _ | statusErased _ =>
    cases h

end Session

/-! ## One event -/

namespace Turn

variable {σ : Type} (indexer : Indexer σ) (session : Session) (view : View) (tool : σ)

theorem ask_isSome {α : Type} (lookup : Option (Lookup α)) :
    (ask indexer tool lookup).1.isSome = lookup.isSome := by
  cases lookup <;> rfl

theorem ask_calls {α : Type} (lookup : Option (Lookup α)) :
    (ask indexer tool lookup).2.1 = lookup.toList.map Lookup.invocation := by
  cases lookup <;> rfl

/-- An event has an answer and makes a call exactly if there is a question behind it. -/
theorem take_asked (event : Event) :
    (take indexer session view tool event).answer.isSome =
        (session.question? view event).isSome ∧
      (take indexer session view tool event).calls =
        (session.question? view event).toList.map Lookup.invocation := by
  cases event with
  | completionAsked _ _ | typeShown | typeAsked _ =>
    simp only [take, Session.question?, Answer.isSome, ask_isSome, ask_calls, Option.isSome_map,
      Option.toList_map, List.map_map]
    exact ⟨trivial, rfl⟩
  | loaded | saved | closed | selectionMoved | cursorSet _ | statusSet _ _ | statusErased _ =>
    exact ⟨rfl, rfl⟩

/-- The answer is the question's answer to the reply. -/
theorem take_answer {event : Event} {lookup : Lookup Answer}
    (h : session.question? view event = some lookup) :
    (take indexer session view tool event).answer =
      lookup.answer (indexer tool lookup.invocation).1 := by
  cases event with
  | completionAsked _ _ | typeShown | typeAsked _ =>
    rw [Session.question?, Option.map_eq_some_iff] at h
    obtain ⟨found, hfound, rfl⟩ := h
    simp only [take, hfound, ask]
    rfl
  | loaded | saved | closed | selectionMoved | cursorSet _ | statusSet _ _ | statusErased _ =>
    cases h

end Turn

/-! ## Two tools on the same views -/

/-- A view without its status line, the only part of a view that a reply changes. -/
def View.unmarked (v : View) : View := { v with document := { v.document with status := [] } }

/-- A view after an event, up to its status line. -/
def View.after (v : View) : Event → View
  | .cursorSet offset => { v with document := v.document.setCursor offset }
  | _ => v

/-- No question depends on a status line. -/
theorem Session.question?_unmarked (s : Session) (v : View) (event : Event) :
    s.question? v.unmarked event = s.question? v event := by
  cases event <;> rfl

theorem Occurrence.remember_unmarked (cache : LocalCache) (v : View) (event : Event) :
    remember cache ⟨v.unmarked, event⟩ = remember cache ⟨v, event⟩ := by
  cases event <;> rfl

/-- What an event does to a view besides its status line is settled without the tool. -/
theorem Turn.unmarked_take_view {σ : Type} (indexer : Indexer σ) (session : Session) (view : View)
    (tool : σ) (event : Event) :
    (take indexer session view tool event).view.unmarked = view.unmarked.after event := by
  cases event with
  | typeShown =>
    simp only [take]
    rcases ask indexer tool (session.shownType? view) with ⟨message, calls, tool'⟩
    cases message <;> rfl
  | completionAsked _ _ | typeAsked _ =>
    simp only [take]
    rfl
  | loaded | saved | closed | selectionMoved | cursorSet _ | statusSet _ _ | statusErased _ => rfl

theorem Turn.take_abreast {σ τ : Type} (indexer : Indexer σ) (indexer' : Indexer τ)
    (session : Session) {view view' : View} (h : view.unmarked = view'.unmarked) (tool : σ)
    (tool' : τ) (event : Event) :
    let turn := take indexer session view tool event
    let turn' := take indexer' session view' tool' event
    turn.session = turn'.session ∧ turn.view.unmarked = turn'.view.unmarked ∧
      (turn.answer.isSome, turn.calls) = (turn'.answer.isSome, turn'.calls) := by
  intro turn turn'
  have hquestion : session.question? view event = session.question? view' event := by
    rw [← Session.question?_unmarked, h, Session.question?_unmarked]
  obtain ⟨hanswer, hcalls⟩ := take_asked indexer session view tool event
  obtain ⟨hanswer', hcalls'⟩ := take_asked indexer' session view' tool' event
  refine ⟨?_, ?_, ?_⟩
  · rw [take_session, take_session, ← Occurrence.remember_unmarked, h,
      Occurrence.remember_unmarked]
  · rw [unmarked_take_view, unmarked_take_view, h]
  · rw [hanswer, hcalls, hanswer', hcalls', hquestion]

/-! ## One step -/

/-- Whether a step gave an answer, and the calls that it made. -/
def StepResult.asked (result : StepResult) : Bool × List Invocation :=
  (result.answer.isSome, result.calls)

namespace Desk

variable {σ τ : Type}

/-- Two desks that differ only in their tools and in the status lines of their views. -/
structure Abreast (desk : Desk σ) (other : Desk τ) : Prop where
  session : desk.session = other.session
  views : ∀ name, (desk.view? name).map View.unmarked = (other.view? name).map View.unmarked

/-- A step asks the same at two desks that are abreast, and leaves them so. -/
theorem abreast_step (indexer : Indexer σ) (indexer' : Indexer τ) {desk : Desk σ} {other : Desk τ}
    (h : Abreast desk other) (s : Step) :
    Abreast (desk.step indexer s).1 (other.step indexer' s).1 ∧
      (desk.step indexer s).2.asked = (other.step indexer' s).2.asked := by
  cases s with
  | opened name view =>
    refine ⟨⟨h.session, fun found => ?_⟩, rfl⟩
    simp only [step, view?_put]
    split
    · rfl
    · exact h.views found
  | event name event =>
    have hviews := h.views name
    cases hview : desk.view? name with
    | none =>
      rw [hview, Option.map_none, eq_comm, Option.map_eq_none_iff] at hviews
      rw [step_of_absent indexer desk event hview, step_of_absent indexer' other event hviews]
      exact ⟨h, rfl⟩
    | some view =>
      rw [hview, Option.map_some, eq_comm, Option.map_eq_some_iff] at hviews
      obtain ⟨view', hview', hsame⟩ := hviews
      rw [step_of_present indexer desk event hview, step_of_present indexer' other event hview']
      obtain ⟨hsession, hunmarked, hasked⟩ :=
        Turn.take_abreast indexer indexer' desk.session hsame.symm desk.tool other.tool event
      rw [← h.session]
      refine ⟨⟨hsession, fun found => ?_⟩, hasked⟩
      simp only [view?_put]
      split
      · exact congrArg some hunmarked
      · exact h.views found

/-- Runs of the same steps from desks that are abreast ask the same, step for step. -/
theorem abreast_run (indexer : Indexer σ) (indexer' : Indexer τ) {desk : Desk σ} {other : Desk τ}
    (h : Abreast desk other) (steps : List Step) :
    Abreast (desk.run indexer steps).1 (other.run indexer' steps).1 ∧
      (desk.run indexer steps).2.map StepResult.asked =
        (other.run indexer' steps).2.map StepResult.asked := by
  induction steps generalizing desk other with
  | nil => exact ⟨h, rfl⟩
  | cons first rest ih =>
    obtain ⟨hnext, hasked⟩ := abreast_step indexer indexer' h first
    obtain ⟨hend, hrest⟩ := ih hnext
    simp only [run, List.map_cons, hasked, hrest]
    exact ⟨hend, trivial⟩

/-- What an event at a desk asks and gets, and what it makes of the tool. -/
theorem event_asked (indexer : Indexer σ) (desk : Desk σ) {name : String} {view : View}
    (hview : desk.view? name = some view) (event : Event) :
    let after := desk.step indexer (.event name event)
    (after.2.answer.isSome = true ↔ Answerable view event) ∧
      (Answerable view event → ∃ call, after.2.calls = [call] ∧
        after.2.answer = Answer.expected ((desk.session.locals.get? view.id).getD []) call
          (indexer desk.tool call).1 event ∧
        after.1.tool = (indexer desk.tool call).2) ∧
      (¬Answerable view event → after.2.calls = [] ∧ after.1.tool = desk.tool) := by
  have hanswerable := desk.session.isSome_question?_iff view event
  obtain ⟨hanswer, hcalls⟩ := Turn.take_asked indexer desk.session view desk.tool event
  intro after
  have htool : after.1.tool = indexer.after desk.tool after.2.calls := desk.step_tool indexer _
  have hresult : after.2 = ⟨(Turn.take indexer desk.session view desk.tool event).answer,
      (Turn.take indexer desk.session view desk.tool event).calls⟩ := by
    simp only [after, step_of_present indexer desk event hview]
  rw [htool, hresult]
  simp only [hanswer, hcalls]
  refine ⟨hanswerable, fun h => ?_, fun h => ?_⟩
  · obtain ⟨lookup, hlookup⟩ := Option.isSome_iff_exists.mp (hanswerable.mpr h)
    refine ⟨lookup.invocation, by rw [hlookup]; rfl, ?_, by rw [hlookup]; rfl⟩
    rw [Turn.take_answer indexer desk.session view desk.tool hlookup]
    exact Session.answer_of_question? hlookup _
  · rw [← hanswerable, Option.not_isSome_iff_eq_none] at h
    rw [h]
    exact ⟨rfl, rfl⟩

end Desk

/-! ## The law -/

/-- At whatever desk a run ends, an event on a view has an answer exactly if it is answerable. It
then calls the tool once and gets the answer that is expected for the call's reply, and otherwise
the tool stays as it is. No call but those that are written down reaches the tool in the whole run.
Another tool behind the same run has other replies, but the same questions have an answer and they
make the same calls. -/
theorem one_answer_is_one_call {σ τ : Type} (indexer : Indexer σ) (indexer' : Indexer τ)
    (session : Session) (tool : σ) (tool' : τ) (views : List (String × View))
    (steps : List Step) :
    let run := Desk.run indexer { session, tool, views } steps
    let desk := run.1
    (∀ name view event, desk.view? name = some view →
      let after := desk.step indexer (.event name event)
      (after.2.answer.isSome = true ↔ Answerable view event) ∧
      (Answerable view event → ∃ call, after.2.calls = [call] ∧
        after.2.answer = Answer.expected ((desk.session.locals.get? view.id).getD []) call
          (indexer desk.tool call).1 event ∧
        after.1.tool = (indexer desk.tool call).2) ∧
      (¬Answerable view event → after.2.calls = [] ∧ after.1.tool = desk.tool)) ∧
    desk.tool = indexer.after tool (run.2.flatMap StepResult.calls) ∧
    run.2.map StepResult.asked =
      (Desk.run indexer' { session, tool := tool', views } steps).2.map StepResult.asked := by
  intro run desk
  refine ⟨fun name view event hview => ?_, ?_, ?_⟩
  · exact desk.event_asked indexer hview event
  · exact Desk.run_tool indexer { session, tool, views } steps
  · exact (Desk.abreast_run indexer indexer' ⟨rfl, fun _ => rfl⟩ steps).2

-- The index tool is missing, and the wildcard still stands in front of the fault.
example :
    let view : View := ⟨⟨1⟩, { Document.ofString "List.ma" with scope := "source.ocaml" }, []⟩
    let missing : Indexer Unit := fun _ _ => (.error .toolMissing, ())
    let turn := Turn.take missing {} view () (.completionAsked "_" [7])
    turn.calls.length = 1 ∧ ∃ list, turn.answer = .completion (some list) ∧
      list.items.map Item.insertText =
        ["_", "ocp-index not found on PATH or in the opam bin directory"] := by
  refine ⟨by decide +kernel, _, rfl, by decide +kernel⟩

end OcamlAssist
