-- The laws of the status line: the assistant leaves a view as it is but for one
-- text of its status line, the one under its own key, and that text is the last
-- one that was written there.
import OcamlAssist.Proofs.Session.Answers

namespace OcamlAssist

/-! ## Texts under keys -/

namespace StatusLine

@[simp]
theorem get?_erase (status : StatusLine) (key other : String) :
    (status.erase key).get? other = if other = key then none else status.get? other :=
  lookup_filter_ne status key other

@[simp]
theorem get?_put (status : StatusLine) (key other text : String) :
    (status.put key text).get? other = if other = key then some text else status.get? other :=
  lookup_cons_filter_ne status key other text

end StatusLine

/-- The text of a view's status line under a key. -/
def View.status? (v : View) (key : String) : Option String := v.document.status.get? key

@[simp]
theorem status?_withMessage (v : View) (message key : String) :
    (Session.withMessage v message).status? key =
      if key = statusKey then some message else v.status? key :=
  StatusLine.get?_put v.document.status statusKey key message

@[simp]
theorem status?_withoutMessage (v : View) (key : String) :
    (Session.withoutMessage v).status? key = if key = statusKey then none else v.status? key :=
  StatusLine.get?_erase v.document.status statusKey key

/-! ## Who writes -/

namespace Event

/-- Whether the host brings an event about by itself. All others are put to the assistant. -/
def isHosts : Event → Bool
  | .cursorSet _ | .statusSet _ _ | .statusErased _ => true
  | _ => false

/-- What an event with this answer writes in place of the assistant's text, if it writes there: a
text, or nothing. A type that could not be shown leaves what was there. -/
def written? : Event → Answer → Option (Option String)
  | .typeShown, .message (some text) => some (some text)
  | .selectionMoved, _ => some none
  | .statusSet key text, _ => if key = statusKey then some (some text) else none
  | .statusErased key, _ => if key = statusKey then some none else none
  | _, _ => none

end Event

/-- What a step with this result writes in place of the assistant's text for the view under a name.
A view that is opened brings its own text along. -/
def Step.written? (name : String) : Step → StepResult → Option (Option String)
  | .opened given view, _ => if given = name then some (view.status? statusKey) else none
  | .event given happened, result => if given = name then happened.written? result.answer else none

/-! ## One event -/

namespace Turn

variable {σ : Type} (indexer : Indexer σ) (session : Session) (view : View) (tool : σ)

/-- Of the events that are put to the assistant, two may change the view. -/
theorem take_view_eq {event : Event} (hhosts : event.isHosts = false) (hshown : event ≠ .typeShown)
    (hmoved : event ≠ .selectionMoved) : (take indexer session view tool event).view = view := by
  cases event with
  | typeShown => contradiction
  | selectionMoved => contradiction
  | cursorSet _ | statusSet _ _ | statusErased _ => cases hhosts
  | completionAsked _ _ | typeAsked _ => simp only [take]
  | loaded | saved | closed => rfl

/-- These two leave the names that are kept. -/
theorem take_session_eq {event : Event} (h : event = .typeShown ∨ event = .selectionMoved) :
    (take indexer session view tool event).session = session := by
  rw [take_session]
  rcases h with rfl | rfl <;> rfl

theorem take_unmarked_eq {event : Event} (hhosts : event.isHosts = false) :
    (take indexer session view tool event).view.unmarked = view.unmarked := by
  rw [unmarked_take_view]
  cases event with
  | cursorSet _ => cases hhosts
  | loaded | saved | closed | selectionMoved | completionAsked _ _ | typeShown | typeAsked _
  | statusSet _ _ | statusErased _ => rfl

theorem take_status?_of_ne {event : Event} (hhosts : event.isHosts = false) {key : String}
    (hkey : key ≠ statusKey) :
    (take indexer session view tool event).view.status? key = view.status? key := by
  cases event with
  | typeShown =>
    simp only [take]
    rcases ask indexer tool (session.shownType? view) with ⟨message, calls, tool'⟩
    cases message with
    | none => rfl
    | some message => simp [hkey]
  | selectionMoved => simp [take, hkey]
  | cursorSet _ | statusSet _ _ | statusErased _ => cases hhosts
  | completionAsked _ _ | typeAsked _ => simp only [take]
  | loaded | saved | closed => rfl

/-- The assistant's text after an event is what the event wrote, or else what was there. -/
theorem take_message (event : Event) :
    (take indexer session view tool event).view.status? statusKey =
      (event.written? (take indexer session view tool event).answer).getD
        (view.status? statusKey) := by
  cases event with
  | typeShown =>
    simp only [take]
    rcases ask indexer tool (session.shownType? view) with ⟨message, calls, tool'⟩
    cases message with
    | none => rfl
    | some message => simp [Event.written?]
  | selectionMoved => simp [take, Event.written?]
  | statusSet key text =>
    by_cases h : key = statusKey
    · simp [take, View.status?, Document.setStatus, Event.written?, h]
    · simp [take, View.status?, Document.setStatus, Event.written?, h, Ne.symm h]
  | statusErased key =>
    by_cases h : key = statusKey
    · simp [take, View.status?, Document.eraseStatus, Event.written?, h]
    · simp [take, View.status?, Document.eraseStatus, Event.written?, h, Ne.symm h]
  | completionAsked _ _ | typeAsked _ =>
    simp only [take]
    rfl
  | loaded | saved | closed | cursorSet _ => rfl

end Turn

/-! ## One step -/

namespace Desk

variable {σ : Type}

/-- What an event that is put to the assistant leaves, from the desk before it to the desk after. -/
structure Keeps (desk next : Desk σ) (name : String) (event : Event) : Prop where
  /-- All other views. -/
  others : ∀ other, other ≠ name → next.view? other = desk.view? other
  /-- The view that it is about, up to its status line. -/
  unmarked : (next.view? name).map View.unmarked = (desk.view? name).map View.unmarked
  /-- The texts of others in the status line. -/
  status : ∀ key, key ≠ statusKey →
    (next.view? name).map (·.status? key) = (desk.view? name).map (·.status? key)
  /-- The view as a whole, where no type is shown and no selection moved. -/
  view : event ≠ .typeShown → event ≠ .selectionMoved → next.view? name = desk.view? name
  /-- The names that are kept for buffers, where one of these happens. -/
  session : event = .typeShown ∨ event = .selectionMoved → next.session = desk.session

theorem Keeps.refl (desk : Desk σ) (name : String) (event : Event) : Keeps desk desk name event :=
  ⟨fun _ _ => rfl, rfl, fun _ _ => rfl, fun _ _ => rfl, fun _ => rfl⟩

theorem keeps_step (indexer : Indexer σ) (desk : Desk σ) (name : String) {event : Event}
    (hhosts : event.isHosts = false) :
    Keeps desk (desk.step indexer (.event name event)).1 name event := by
  rcases hview : desk.view? name with _ | view
  · rw [step_of_absent indexer desk event hview]
    exact .refl desk name event
  · rw [step_of_present indexer desk event hview]
    refine ⟨fun other hother => ?_, ?_, fun key hkey => ?_, fun hshown hmoved => ?_, fun h => ?_⟩
    · exact (view?_put _ name other _).trans (if_neg hother)
    · simp only [view?_put, if_pos, hview, Option.map_some]
      rw [Turn.take_unmarked_eq indexer desk.session view desk.tool hhosts]
    · simp only [view?_put, if_pos, hview, Option.map_some]
      rw [Turn.take_status?_of_ne indexer desk.session view desk.tool hhosts hkey]
    · simp only [view?_put, if_pos, hview]
      rw [Turn.take_view_eq indexer desk.session view desk.tool hhosts hshown hmoved]
    · exact Turn.take_session_eq indexer desk.session view desk.tool h

/-- The assistant's text for the view under a name, if there are such a view and such a text. -/
def message? (desk : Desk σ) (name : String) : Option String :=
  (desk.view? name).bind (·.status? statusKey)

/-- A view that stands after a step has the text that the step wrote, or else the one before. -/
theorem message_step (indexer : Indexer σ) (desk : Desk σ) (s : Step) {name : String} {view : View}
    (hview : (desk.step indexer s).1.view? name = some view) :
    view.status? statusKey =
      (s.written? name (desk.step indexer s).2).getD (desk.message? name) := by
  cases s with
  | opened given opened =>
    simp only [step, view?_put] at hview
    by_cases hname : name = given
    · rw [if_pos hname] at hview
      cases hview
      simp [Step.written?, hname]
    · rw [if_neg hname] at hview
      simp [Step.written?, Ne.symm hname, message?, hview]
  | event given event =>
    rcases hgiven : desk.view? given with _ | before
    · rw [step_of_absent indexer desk event hgiven] at hview ⊢
      have hname : given ≠ name := by
        rintro rfl
        rw [hgiven] at hview
        cases hview
      simp [Step.written?, hname, message?, hview]
    · rw [step_of_present indexer desk event hgiven] at hview ⊢
      simp only [view?_put] at hview
      by_cases hname : name = given
      · subst hname
        rw [if_pos rfl] at hview
        cases hview
        simp only [Step.written?, if_pos, message?, hgiven, Option.bind_some]
        exact Turn.take_message indexer desk.session before desk.tool event
      · rw [if_neg hname] at hview
        have hbefore : desk.view? name = some view := hview
        simp [Step.written?, Ne.symm hname, message?, hbefore]

/-- A step that writes nothing for a view does not open it either. -/
theorem isSome_view?_of_step (indexer : Indexer σ) (desk : Desk σ) {s : Step} {name : String}
    (hview : ((desk.step indexer s).1.view? name).isSome = true)
    (hwritten : s.written? name (desk.step indexer s).2 = none) :
    (desk.view? name).isSome = true := by
  cases s with
  | opened given opened =>
    have hname : name ≠ given := by
      rintro rfl
      simp [Step.written?] at hwritten
    simpa only [step, view?_put, if_neg hname] using hview
  | event given event =>
    rcases hgiven : desk.view? given with _ | before
    · rwa [step_of_absent indexer desk event hgiven] at hview
    · rw [step_of_present indexer desk event hgiven] at hview
      simp only [view?_put] at hview
      by_cases hname : name = given
      · simp [hname, hgiven]
      · rwa [if_neg hname] at hview

/-! ## Runs -/

/-- What the steps of a run wrote in place of the assistant's text for the view under a name. -/
def writings (name : String) (steps : List Step) (results : List StepResult) :
    List (Option String) :=
  (steps.zip results).filterMap fun (s, result) => s.written? name result

theorem writings_cons (name : String) (s : Step) (steps : List Step) (result : StepResult)
    (results : List StepResult) :
    writings name (s :: steps) (result :: results) =
      (s.written? name result).toList ++ writings name steps results := by
  simp only [writings, List.zip_cons_cons, List.filterMap_cons]
  cases s.written? name result <;> rfl

theorem isSome_view?_of_run (indexer : Indexer σ) (desk : Desk σ) {steps : List Step}
    {name : String} (hview : ((desk.run indexer steps).1.view? name).isSome = true)
    (hwritten : writings name steps (desk.run indexer steps).2 = []) :
    (desk.view? name).isSome = true := by
  induction steps generalizing desk with
  | nil => exact hview
  | cons first rest ih =>
    simp only [run, writings_cons, List.append_eq_nil_iff, Option.toList_eq_nil_iff] at hview hwritten
    exact isSome_view?_of_step indexer desk (ih _ hview hwritten.2) hwritten.1

/-- A view that stands after a run has the text that was written last, or else the one before. -/
theorem message_run (indexer : Indexer σ) (desk : Desk σ) (steps : List Step) {name : String}
    {view : View} (hview : (desk.run indexer steps).1.view? name = some view) :
    view.status? statusKey =
      (writings name steps (desk.run indexer steps).2).getLast?.getD (desk.message? name) := by
  induction steps generalizing desk with
  | nil =>
    have hbefore : desk.view? name = some view := hview
    simp [writings, message?, hbefore]
  | cons first rest ih =>
    simp only [run, writings_cons] at hview ⊢
    have hlast := ih _ hview
    rcases hrest : writings name rest ((desk.step indexer first).1.run indexer rest).2 with
      _ | ⟨text, texts⟩
    · -- Nothing was written later, so the view stood after the first step already.
      have hsome := isSome_view?_of_run indexer _ (Option.isSome_of_eq_some hview) hrest
      obtain ⟨before, hbefore⟩ := Option.isSome_iff_exists.mp hsome
      rw [hrest, List.getLast?_nil, Option.getD_none, message?, hbefore, Option.bind_some,
        message_step indexer desk first hbefore] at hlast
      rw [hlast, List.append_nil]
      cases first.written? name (desk.step indexer first).2 <;> rfl
    · rw [hrest] at hlast
      rw [hlast, List.getLast?_append_of_ne_nil _ (List.cons_ne_nil text texts),
        List.getLast?_cons, Option.getD_some, Option.getD_some]

/-! ## The law -/

/-- At whatever desk a run ends, an event that is put to the assistant leaves all but what it owns.
The assistant's text for a view is the one that the run wrote last: a type that was shown, nothing
where a selection moved, what the host put there itself, or what the view was opened with. -/
theorem the_assistant_owns_one_text (indexer : Indexer σ) (start : Desk σ) (steps : List Step)
    (name : String) :
    let desk := (start.run indexer steps).1
    let results := (start.run indexer steps).2
    (∀ event, event.isHosts = false →
      Keeps desk (desk.step indexer (.event name event)).1 name event) ∧
    ∀ view, desk.view? name = some view →
      view.status? statusKey = (writings name steps results).getLast?.getD (start.message? name) := by
  intro desk results
  exact ⟨fun event hhosts => keeps_step indexer desk name hhosts,
    fun view hview => message_run indexer start steps hview⟩

-- A type that can not be shown leaves the one that was, and a selection that moves takes it away.
example :
    let view : View := ⟨⟨1⟩, { Document.ofString "x +" with scope := "source.ocaml" }, []⟩
    let int : Indexer Unit := fun _ _ => (.ok "int", ())
    let shown (steps : List Step) := ((Desk.run int ⟨{}, (), [("v", view)]⟩ steps).1).message? "v"
    let first : List Step := [.event "v" (.cursorSet 1), .event "v" .typeShown]
    let second : List Step := first ++ [.event "v" (.cursorSet 3), .event "v" .typeShown]
    shown first = some "Type: int" ∧ shown second = some "Type: int" ∧
      shown (second ++ [.event "v" .selectionMoved]) = none := by
  decide +kernel

end Desk

end OcamlAssist
