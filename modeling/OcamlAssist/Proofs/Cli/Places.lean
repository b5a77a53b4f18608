-- The law of what the index tool finds: it runs in the directory of the file,
-- and it is told of both as the program was, from another place. It finds them
-- exactly if the way into the directory leads back to it from within.
import OcamlAssist.Proofs.Cli.Run
import OcamlAssist.Proofs.Machine.Places

namespace OcamlAssist

open OcamlAssist.Cli

/-! ## Where the tool runs -/

/-- The place that the index tool runs in for a call. -/
def Invocation.runsIn (call : Invocation) (here : Place) : Place :=
  call.workingDir.elim here here.along

/-- Whether a path names to the tool what it names to the program. -/
def Invocation.Finds (call : Invocation) (here : Place) (path : Path) : Prop :=
  (call.runsIn here).along path = here.along path

instance (call : Invocation) (here : Place) (path : Path) : Decidable (call.Finds here path) :=
  inferInstanceAs (Decidable (_ = _))

namespace Cli

/-! ## What the tool is told -/

theorem path_of_openDocument {m : Machine} {file : Path} {d : Document}
    (h : openDocument m file = .ok d) : d.path = some file ∧ d.folders = [] := by
  obtain ⟨text, -, rfl⟩ := map_eq_ok_iff.mp h
  exact ⟨rfl, rfl⟩

theorem includes_sessionFor (config : Config) (file : Path) {v : View}
    (h : v.document.folders = []) :
    (sessionFor config file v).includes v = foldersFor config file := by
  have hkept (s : Session) : (s.rescan v).fallbackFolders = s.fallbackFolders := by
    unfold Session.rescan
    split <;> rfl
  rw [Session.includes, h, sessionFor, hkept]
  rfl

/-- A question names the includes of its view, and the file of its document with a place in it. -/
theorem invocation_of_asks {a : Arguments} {config : Config} {d : Document} {command : String}
    {view : View} {event : Event} {session : Session} {lookup : Lookup Answer}
    (hasks : Asks a config d command view event)
    (h : session.question? view event = some lookup) :
    lookup.invocation.includes = session.includes (viewOf config d) ∧
      ∃ location, lookup.invocation.context =
        Query.contextAt (viewOf config d).document location := by
  cases hasks with
  | complete _ _ =>
    obtain ⟨found, hfound, rfl⟩ := Option.map_eq_some_iff.mp h
    obtain ⟨location, -, hlookup⟩ := Option.bind_eq_some_iff.mp hfound
    obtain ⟨query, hquery, rfl⟩ := Option.map_eq_some_iff.mp hlookup
    obtain ⟨token, -, rfl⟩ := Option.map_eq_some_iff.mp hquery
    exact ⟨rfl, location, rfl⟩
  | type _ _ =>
    obtain ⟨found, hfound, rfl⟩ := Option.map_eq_some_iff.mp h
    obtain ⟨region, -, htype⟩ := Option.bind_eq_some_iff.mp hfound
    obtain ⟨query, hquery, rfl⟩ := Option.map_eq_some_iff.mp htype
    obtain ⟨token, -, rfl⟩ := Option.map_eq_some_iff.mp hquery
    exact ⟨rfl, _, rfl⟩

/-! ## The law -/

/-- The tool finds a file and its directory exactly if the file is named from the root, or the way
into the directory leads from there to there again. -/
theorem finds_iff {config : Config} {file : Path} {call : Invocation} (here : Place)
    (hfolders : config.folders = []) (hincludes : call.includes = foldersFor config file) :
    (∀ path, path = file ∨ path ∈ call.includes → call.Finds here path) ↔
      Path.isAbsolute file.toList = true ∨
        ∀ dir ∈ call.includes, (Route.ofPath dir).LeadsBack here := by
  rw [foldersFor, hfolders, List.isEmpty_nil, if_pos rfl] at hincludes
  unfold Invocation.Finds
  rcases hparent : (Path.parent? file).filter (!·.isEmpty) with _ | dir
  · rw [hparent] at hincludes
    simp [Invocation.runsIn, Invocation.workingDir, hincludes]
  · rw [hparent] at hincludes
    obtain ⟨hdir, hnotEmpty⟩ := Option.filter_eq_some_iff.mp hparent
    obtain ⟨habsolute, last, hlast⟩ := Path.along_of_parent? hdir (by simpa using hnotEmpty)
    have hruns : call.runsIn here = here.along dir := by
      simp [Invocation.runsIn, Invocation.workingDir, hincludes]
    simp only [hincludes, Option.toList_some, List.mem_singleton, forall_eq_or_imp, forall_eq,
      hlast, hruns, ← habsolute, ← along_along_iff]
    -- Whoever finds the directory finds the file in it.
    exact ⟨And.right, fun hback => ⟨by rw [hback], hback⟩⟩

/-- What the index tool is asked in a run names the file as the command line does, and without
folders in the configuration its one include is the directory of the file, where the tool runs. The
tool finds both exactly if the file is named from the root or its directory leads back to itself. -/
theorem the_tool_finds_what_leads_back (m : Machine) (words : List String) :
    ∀ call ∈ (run m words).calls, ∃ a config command file more,
      Arguments.read words = .ok a ∧ configFor m a = .ok config ∧
        a.positional = command :: file :: more ∧
        (∃ place : Position, call.context =
          some (file ++ ":" ++ toString place.line ++ "," ++ toString place.column)) ∧
        (config.folders = [] →
          call.includes = ((Path.parent? file).filter (!·.isEmpty)).toList ∧
          ((∀ path, path = file ∨ path ∈ call.includes → call.Finds m.workingDir path) ↔
            Path.isAbsolute file.toList = true ∨
              ∀ dir ∈ call.includes, (Route.ofPath dir).LeadsBack m.workingDir)) := by
  intro call hcall
  obtain ⟨a, config, command, file, d, view, event, lookup, hopens, hasks, hquestion, rfl⟩ :=
    call_of_run hcall
  obtain ⟨more, hsaid⟩ := hopens.said
  obtain ⟨hpath, hnoFolders⟩ := path_of_openDocument hopens.opened
  obtain ⟨hincludes, location, hcontext⟩ := invocation_of_asks hasks hquestion
  rw [includes_sessionFor config file hnoFolders] at hincludes
  refine ⟨a, config, command, file, more, hopens.read, hopens.configured, hsaid, ?_,
    fun hfolders => ?_⟩
  · refine ⟨d.buffer.positionOf location, ?_⟩
    rw [hcontext, Query.contextAt, viewOf, hpath]
    rfl
  · refine ⟨?_, finds_iff m.workingDir hfolders hincludes⟩
    rw [hincludes, foldersFor, hfolders]
    rfl

/-- A file in a folder beside this one: the way out and in again is the same from there. -/
theorem a_folder_beside_is_found :
    let files : FileTree := ⟨[(["w"], .folder), (["w", "lib"], .folder), (["w", "src"], .folder),
      (["w", "src", "a.ml"], .file (Text.encode "foo".toList) false 0)]⟩
    let m : Machine := { files, workingDir := ["w", "lib"] }
    let words := ["complete", "../src/a.ml", "3"]
    ∃ call ∈ (run m words).calls, call.includes = ["../src"] ∧
      call.Finds m.workingDir "../src" ∧ call.Finds m.workingDir "../src/a.ml" := by
  intro files m words
  obtain ⟨⟨call, hcall, hincludes⟩, hwords, hnone⟩ :
      (∃ call ∈ (run m words).calls, call.includes = ["../src"]) ∧
        Arguments.read words = .ok { positional := words } ∧
        (configFor m { positional := words }).toOption.map Config.folders = some [] := by
    decide +kernel +revert
  have hback : (Route.ofPath "../src").LeadsBack ["w", "lib"] := by decide +kernel
  obtain ⟨a, config, command, file, more, hread, hconfig, hsaid, -, hfinds⟩ :=
    the_tool_finds_what_leads_back m words call hcall
  obtain rfl := Except.ok.inj (hwords.symm.trans hread)
  obtain ⟨-, rfl, -⟩ : "complete" = command ∧ "../src/a.ml" = file ∧ ["3"] = more := by
    simpa [words] using hsaid
  have hfolders : config.folders = [] := by
    simpa [hconfig, Except.toOption] using hnone
  have hfound := (hfinds hfolders).2.mpr (Or.inr (by simpa [hincludes] using hback))
  exact ⟨call, hcall, hincludes, hfound "../src" (Or.inr (by simp [hincludes])),
    hfound "../src/a.ml" (Or.inl rfl)⟩

/-- A file in a folder below: the tool runs in the folder, and looks for it within itself. -/
theorem a_folder_below_is_looked_for_in_itself :
    let files : FileTree := ⟨[(["w"], .folder), (["w", "src"], .folder),
      (["w", "src", "a.ml"], .file (Text.encode "foo".toList) false 0)]⟩
    let m : Machine := { files, workingDir := ["w"] }
    let words := ["complete", "src/a.ml", "3"]
    (configFor m { positional := words }).toOption.map Config.folders = some [] ∧
      ∃ call ∈ (run m words).calls, call.includes = ["src"] ∧ call.context = some "src/a.ml:0,3" ∧
        ¬ call.Finds m.workingDir "src" ∧ ¬ call.Finds m.workingDir "src/a.ml" := by
  decide +kernel

end Cli

end OcamlAssist
