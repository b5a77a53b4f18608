-- The laws of a run of the program: whatever can make it fail is settled before
-- the index tool is asked and before anything is printed. A tool that fails
-- changes what is printed, and never how the run ends.
import OcamlAssist.Proofs.Cli.Commands
import OcamlAssist.Proofs.Indexer.Tool

namespace OcamlAssist.Cli

/-! ## Reports -/

namespace Finished

variable {f : Finished} (warning : String) (log : Option LogFiles.OpenLog)

theorem report_of_ok {text : String} (h : f.result = .ok text) :
    (f.report warning log).exitCode = 0 ∧ (f.report warning log).stdout = text := by
  simp only [report, h, and_self]

theorem report_of_fault {fault : Fault} (h : f.result = .error fault) :
    (f.report warning log).exitCode = 1 ∧ (f.report warning log).stdout = "" ∧
      (f.report warning log).stderr = warning ++ complaint fault.message := by
  simp only [report, h, and_self]

end Finished

/-- The machine as the start of the log leaves it. -/
def atWork (m : Machine) (config : Config) : Machine :=
  { m with files := (LogFiles.start m config.log).files }

/-- The reply that a call gets in a run. -/
def replyTo (m : Machine) (config : Config) (call : Invocation) : Reply :=
  (Tool.run (atWork m config) config.toolLocation call).value

/-- The words of a command line ask for a run with a configuration. -/
structure Configured (m : Machine) (words : List String) (a : Arguments) (config : Config) :
    Prop where
  asksNoVersion : asksVersion words = false
  read : Arguments.read words = .ok a
  configured : configFor m a = .ok config

/-- The words of a command line lead to a command on the document in a file. -/
structure Opens (m : Machine) (words : List String) (a : Arguments) (config : Config)
    (command : String) (file : Path) (d : Document) : Prop
    extends Configured m words a config where
  said : ∃ more, a.positional = command :: file :: more
  opened : openDocument (atWork m config) file = .ok d

/-- What the words of a command line come to nothing for. -/
inductive Fails (m : Machine) (words : List String) : Fault → Prop
  | arguments {fault : ArgumentFault} (asksNoVersion : asksVersion words = false)
      (unread : Arguments.read words = .error fault) : Fails m words (.arguments fault)
  | config {a : Arguments} {fault : Fault} (asksNoVersion : asksVersion words = false)
      (read : Arguments.read words = .ok a) (unread : configFor m a = .error fault) :
      Fails m words fault
  | command {a : Arguments} {config : Config} {fault : Fault}
      (configured : Configured m words a config) (fails : CommandFails (atWork m config) a fault) :
      Fails m words fault

variable {m : Machine} {words : List String} {a : Arguments} {config : Config}

theorem run_of_version (m : Machine) (h : asksVersion words = true) :
    run m words = { exitCode := 0, stdout := version ++ "\n", files := m.files } := if_pos h

theorem run_of_unread (m : Machine) {fault : ArgumentFault} (hversion : asksVersion words = false)
    (hread : Arguments.read words = .error fault) :
    run m words =
      { exitCode := 1, stderr := complaint (Fault.arguments fault).message, files := m.files } := by
  simp only [run, hversion, hread, Except.mapError, error_bind]
  rfl

theorem run_of_unconfigured {fault : Fault} (hversion : asksVersion words = false)
    (hread : Arguments.read words = .ok a) (hconfig : configFor m a = .error fault) :
    run m words = { exitCode := 1, stderr := complaint fault.message, files := m.files } := by
  simp only [run, hversion, hread, Except.mapError, ok_bind, hconfig, error_bind]
  rfl

theorem run_of_configured (h : Configured m words a config) :
    run m words = runConfigured m config a := by
  simp only [run, h.asksNoVersion, h.read, Except.mapError, ok_bind, h.configured]
  rfl

/-- No program has a part in the start of the log. -/
theorem start_behaviour (m : Machine) (settings : LogSettings)
    (behaviour : FileTree → Program → Except FileFault ProgramOutput) :
    LogFiles.start { m with behaviour } settings = LogFiles.start m settings := by
  have hfolder : LogFiles.folder { m with behaviour } = LogFiles.folder m := rfl
  have hsweep (files folder maxAge) :
      LogFiles.sweep { { m with behaviour } with files } folder maxAge =
        LogFiles.sweep { m with files } folder maxAge := rfl
  have hopen (path swept) : LogFiles.openLog { m with behaviour } settings path swept =
      LogFiles.openLog m settings path swept := rfl
  simp only [LogFiles.start, hfolder, hsweep, hopen]

/-- A run with a configuration carries out the words on the machine as the start of the log leaves
it, and no program has a part in what the log adds to it. -/
theorem run_eq_report (h : Configured m words a config) :
    ∃ warning log, ∀ behaviour, run { m with behaviour } words =
      (runArguments { atWork m config with behaviour } config a).report warning log := by
  have hrun (behaviour) : run { m with behaviour } words =
      runConfigured { m with behaviour } config a := run_of_configured ⟨h.1, h.2, h.3⟩
  simp only [hrun, runConfigured, start_behaviour]
  rcases hstart : (LogFiles.start m config.log).result with fault | _ | log
  · exact ⟨_, _, fun _ => rfl⟩
  · exact ⟨_, _, fun _ => rfl⟩
  · exact ⟨_, _, fun _ => rfl⟩

/-- The version is asked for, the words fail, or they lead to a command that lists names or asks. -/
theorem run_cases (m : Machine) (words : List String) :
    asksVersion words = true ∨ (∃ fault, Fails m words fault) ∨
      ∃ a config command file d, Opens m words a config command file d ∧
        (command = "locals" ∨ ∃ view event, Asks a config d command view event) := by
  rcases hversion : asksVersion words with _ | _
  · right
    rcases hread : Arguments.read words with fault | a
    · exact Or.inl ⟨_, .arguments hversion hread⟩
    · rcases hconfig : configFor m a with fault | config
      · exact Or.inl ⟨_, .config hversion hread hconfig⟩
      · have hconfigured : Configured m words a config := ⟨hversion, hread, hconfig⟩
        rcases command_cases (atWork m config) config a with
          ⟨fault, hfails⟩ | ⟨command, file, more, d, hsaid, hopened, h⟩
        · exact Or.inl ⟨_, .command hconfigured hfails⟩
        · exact Or.inr ⟨a, config, command, file, d, ⟨hconfigured, ⟨more, hsaid⟩, hopened⟩, h⟩
  · exact Or.inl rfl

/-- A run whose words fail prints nothing, asks nothing and says why. -/
theorem run_of_fails {fault : Fault} (h : Fails m words fault) :
    (run m words).exitCode = 1 ∧ (run m words).stdout = "" ∧ (run m words).calls = [] ∧
      ∃ warning, (run m words).stderr = warning ++ complaint fault.message := by
  cases h with
  | arguments hversion hunread =>
    rw [run_of_unread m hversion hunread]
    exact ⟨rfl, rfl, rfl, "", (String.empty_append).symm⟩
  | config hversion hread hunread =>
    rw [run_of_unconfigured hversion hread hunread]
    exact ⟨rfl, rfl, rfl, "", (String.empty_append).symm⟩
  | @command a config fault hconfigured hfails =>
    obtain ⟨warning, log, hrun⟩ := run_eq_report hconfigured
    rw [show run m words = _ from hrun m.behaviour]
    obtain ⟨hresult, hcalls⟩ := runArguments_of_fails config hfails
    obtain ⟨hexit, hstdout, hstderr⟩ := Finished.report_of_fault warning log hresult
    exact ⟨hexit, hstdout, hcalls, warning, hstderr⟩

section Opened

variable {command : String} {file : Path} {d : Document}

theorem run_of_locals (h : Opens m words a config "locals" file d) :
    (run m words).exitCode = 0 ∧ (run m words).calls = [] ∧
      (run m words).stdout = printed (Locals.scan d.buffer.text) := by
  obtain ⟨warning, log, hrun⟩ := run_eq_report h.toConfigured
  rw [show run m words = _ from hrun m.behaviour]
  obtain ⟨more, hsaid⟩ := h.said
  obtain ⟨hresult, hcalls⟩ := runArguments_of_locals config hsaid h.opened
  obtain ⟨hexit, hstdout⟩ := Finished.report_of_ok warning log hresult
  exact ⟨hexit, hcalls, hstdout⟩

/-- A run that asks calls the tool once if there is a question, and otherwise it prints nothing and
leaves the files as the start of the log did. -/
theorem run_of_asks {view : View} {event : Event} (h : Opens m words a config command file d)
    (hasks : Asks a config d command view event) :
    let question := (sessionFor config file (viewOf config d)).question? view event
    let report := run m words
    report.exitCode = 0 ∧
      (question = none →
        report.stdout = "" ∧ report.calls = [] ∧ report.files = (atWork m config).files) ∧
      ∀ lookup, question = some lookup →
        report.stdout = answerText a.json (lookup.answer (replyTo m config lookup.invocation)) ∧
          report.calls = [lookup.invocation] ∧
          report.files =
            (Tool.run (atWork m config) config.toolLocation lookup.invocation).files := by
  intro question report
  obtain ⟨warning, log, hrun⟩ := run_eq_report h.toConfigured
  obtain ⟨more, hsaid⟩ := h.said
  obtain ⟨hnone, hsome⟩ := runArguments_of_asks hsaid h.opened hasks
  have hreport : report = (runArguments (atWork m config) config a).report warning log :=
    hrun m.behaviour
  rw [hreport]
  rcases hquestion : question with _ | lookup
  · obtain ⟨hresult, hcalls, hfiles⟩ := hnone hquestion
    obtain ⟨hexit, hstdout⟩ := Finished.report_of_ok warning log hresult
    exact ⟨hexit, fun _ => ⟨hstdout, hcalls, hfiles⟩, nofun⟩
  · obtain ⟨hresult, hcalls, hfiles⟩ := hsome lookup hquestion
    obtain ⟨hexit, hstdout⟩ := Finished.report_of_ok warning log hresult
    refine ⟨hexit, nofun, fun other hother => ?_⟩
    obtain rfl := Option.some.inj hother
    exact ⟨hstdout, hcalls, hfiles⟩

end Opened

/-- A run calls nothing, or it calls the tool once, with the question of its command. -/
theorem run_calls (m : Machine) (words : List String) :
    (run m words).calls = [] ∨
      ∃ a config command file d view event lookup, Opens m words a config command file d ∧
        Asks a config d command view event ∧
        (sessionFor config file (viewOf config d)).question? view event = some lookup ∧
        (run m words).calls = [lookup.invocation] := by
  rcases run_cases m words with
    hversion | ⟨fault, hfails⟩ | ⟨a, config, command, file, d, hopens, h⟩
  · exact Or.inl (by rw [run_of_version m hversion])
  · exact Or.inl (run_of_fails hfails).2.2.1
  · rcases h with rfl | ⟨view, event, hasks⟩
    · exact Or.inl (run_of_locals hopens).2.1
    · obtain ⟨-, hnone, hsome⟩ := run_of_asks hopens hasks
      rcases hquestion : (sessionFor config file (viewOf config d)).question? view event with
        _ | lookup
      · exact Or.inl (hnone hquestion).2.1
      · exact Or.inr ⟨a, config, command, file, d, view, event, lookup, hopens, hasks, hquestion,
          (hsome lookup hquestion).2.1⟩

/-- A call of a run is the question of the run's command. -/
theorem call_of_run {call : Invocation} (hcall : call ∈ (run m words).calls) :
    ∃ a config command file d view event lookup, Opens m words a config command file d ∧
      Asks a config d command view event ∧
      (sessionFor config file (viewOf config d)).question? view event = some lookup ∧
      lookup.invocation = call := by
  rcases run_calls m words with
    hnone | ⟨a, config, command, file, d, view, event, lookup, hopens, hasks, hquestion, hone⟩
  · rw [hnone] at hcall
    cases hcall
  · rw [hone, List.mem_singleton] at hcall
    exact ⟨a, config, command, file, d, view, event, lookup, hopens, hasks, hquestion, hcall.symm⟩

end OcamlAssist.Cli
