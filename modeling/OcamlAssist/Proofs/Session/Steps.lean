-- What one step of a run can change. An event changes the session only through
-- the names that are kept for its own view's buffer, and it leaves every other
-- view of the desk as it is.
import OcamlAssist.Proofs.Locals.Cache
import OcamlAssist.Session.Desk

namespace OcamlAssist

/-- An event, with the view that it happened to as the view was then. -/
structure Occurrence where
  view : View
  event : Event

namespace Occurrence

/-- A load or a save of a view that has a first selection, where that selection starts in OCaml
text. -/
def Effective (o : Occurrence) : Prop :=
  (o.event = .loaded ∨ o.event = .saved) ∧
    ∃ region, o.view.document.selections.head? = some region ∧ o.view.isOcamlAt region.first = true

/-- The names that the view's text binds. -/
def names (o : Occurrence) : List String := Locals.scan o.view.document.buffer.text

/-- The names that are kept after an occurrence. -/
def remember (cache : LocalCache) (o : Occurrence) : LocalCache :=
  match o.event with
  | .loaded | .saved => (Session.boundNames? o.view).elim cache (cache.insert o.view.id)
  | .closed => cache.erase o.view.id
  | _ => cache

/-! ## Names after one occurrence -/

theorem boundNames?_of_effective {o : Occurrence} (h : o.Effective) :
    Session.boundNames? o.view = some o.names := by
  obtain ⟨_, region, hhead, hocaml⟩ := h
  unfold Session.boundNames? View.ocamlSelection?
  simp only [hhead, Option.filter_some, hocaml, if_true, Option.map_some]
  rfl

theorem boundNames?_eq_none {v : View}
    (h : ¬∃ region, v.document.selections.head? = some region ∧ v.isOcamlAt region.first = true) :
    Session.boundNames? v = none := by
  unfold Session.boundNames? View.ocamlSelection?
  rcases hhead : v.document.selections.head? with _ | region
  · rfl
  · have hocaml : v.isOcamlAt region.first ≠ true := fun hocaml => h ⟨region, hhead, hocaml⟩
    simp [hocaml]

theorem remember_of_effective (cache : LocalCache) {o : Occurrence} (h : o.Effective) :
    remember cache o = cache.insert o.view.id o.names := by
  unfold remember
  rcases h.1 with he | he
  · rw [he, boundNames?_of_effective h]
    rfl
  · rw [he, boundNames?_of_effective h]
    rfl

theorem remember_of_closed (cache : LocalCache) {o : Occurrence} (h : o.event = .closed) :
    remember cache o = cache.erase o.view.id := by
  unfold remember
  rw [h]

theorem remember_of_idle (cache : LocalCache) {o : Occurrence} (h : ¬o.Effective)
    (hclosed : o.event ≠ .closed) : remember cache o = cache := by
  have hnone (he : o.event = .loaded ∨ o.event = .saved) : Session.boundNames? o.view = none :=
    boundNames?_eq_none fun hsel => h ⟨he, hsel⟩
  unfold remember
  split
  · rename_i he
    rw [hnone (Or.inl he)]
    rfl
  · rename_i he
    rw [hnone (Or.inr he)]
    rfl
  · contradiction
  · rfl

/-- Whatever happens to a view, the names of the other buffers stay. -/
theorem get?_remember_of_ne (cache : LocalCache) (o : Occurrence) {b : BufferId}
    (h : b ≠ o.view.id) : (remember cache o).get? b = cache.get? b := by
  by_cases he : o.Effective
  · rw [remember_of_effective cache he, LocalCache.get?_insert, if_neg h]
  · by_cases hc : o.event = .closed
    · rw [remember_of_closed cache hc, LocalCache.get?_erase, if_neg h]
    · rw [remember_of_idle cache he hc]

/-- What is kept for a view's own buffer hangs on nothing but what was kept for it before. -/
theorem get?_remember_congr {cache other : LocalCache} (o : Occurrence) {b : BufferId}
    (h : cache.get? b = other.get? b) :
    (remember cache o).get? b = (remember other o).get? b := by
  by_cases he : o.Effective
  · simp [remember_of_effective _ he, h]
  · by_cases hc : o.event = .closed
    · simp [remember_of_closed _ hc, h]
    · rw [remember_of_idle _ he hc, remember_of_idle _ he hc, h]

theorem nodup_remember {cache : LocalCache} (h : cache.buffers.Nodup) (o : Occurrence) :
    (remember cache o).buffers.Nodup := by
  by_cases he : o.Effective
  · rw [remember_of_effective cache he]
    exact LocalCache.nodup_insert h _ _
  · by_cases hc : o.event = .closed
    · rw [remember_of_closed cache hc]
      exact LocalCache.nodup_erase h _
    · rwa [remember_of_idle cache he hc]

end Occurrence

/-! ## One event -/

/-- What calls, one after the other, make of an index tool. -/
def Indexer.after {σ : Type} (indexer : Indexer σ) (tool : σ) (calls : List Invocation) : σ :=
  calls.foldl (fun tool call => (indexer tool call).2) tool

namespace Turn

variable {σ : Type} (indexer : Indexer σ) (session : Session) (view : View) (tool : σ)

/-- The calls that are written down are the calls that reach the tool. -/
theorem ask_tool {α : Type} (lookup : Option (Lookup α)) :
    (ask indexer tool lookup).2.2 = indexer.after tool (ask indexer tool lookup).2.1 := by
  cases lookup <;> rfl

theorem take_tool (event : Event) :
    (take indexer session view tool event).tool =
      indexer.after tool (take indexer session view tool event).calls := by
  cases event with
  | completionAsked typed locations =>
    simp only [take]
    generalize session.complete? view typed locations = lookup
    exact ask_tool indexer tool lookup
  | typeShown =>
    simp only [take]
    generalize session.shownType? view = lookup
    exact ask_tool indexer tool lookup
  | typeAsked region =>
    simp only [take]
    generalize session.type? view region = lookup
    exact ask_tool indexer tool lookup
  | loaded | saved | closed | selectionMoved | cursorSet _ | statusSet _ _ | statusErased _ => rfl

/-- An event changes nothing of a session but the names. -/
theorem take_session (event : Event) :
    (take indexer session view tool event).session =
      { session with locals := Occurrence.remember session.locals ⟨view, event⟩ } := by
  have hscan : session.rescan view =
      { session with
        locals :=
          (Session.boundNames? view).elim session.locals (session.locals.insert view.id) } := by
    unfold Session.rescan
    cases Session.boundNames? view <;> rfl
  cases event with
  | loaded => exact hscan
  | saved => exact hscan
  | completionAsked typed locations =>
    simp only [take]
    rcases ask indexer tool (session.complete? view typed locations) with ⟨list, calls, tool'⟩
    rfl
  | typeShown =>
    simp only [take]
    rcases ask indexer tool (session.shownType? view) with ⟨message, calls, tool'⟩
    rfl
  | typeAsked region =>
    simp only [take]
    rcases ask indexer tool (session.type? view region) with ⟨message, calls, tool'⟩
    rfl
  | closed | selectionMoved | cursorSet _ | statusSet _ _ | statusErased _ => rfl

/-- A view keeps its buffer. -/
theorem take_view_id (event : Event) :
    (take indexer session view tool event).view.id = view.id := by
  cases event with
  | typeShown =>
    simp only [take]
    rcases ask indexer tool (session.shownType? view) with ⟨message, calls, tool'⟩
    cases message <;> rfl
  | completionAsked _ _ | typeAsked _ => simp only [take]
  | loaded | saved | closed | selectionMoved | cursorSet _ | statusSet _ _ | statusErased _ => rfl

end Turn

/-! ## One step -/

namespace Desk

variable {σ : Type} (indexer : Indexer σ) (desk : Desk σ)

@[simp]
theorem view?_put (name other : String) (view : View) :
    (desk.put name view).view? other = if other = name then some view else desk.view? other :=
  lookup_cons_filter_ne desk.views name other view

theorem step_of_absent {name : String} (event : Event) (h : desk.view? name = none) :
    desk.step indexer (.event name event) = (desk, ⟨.nothing, []⟩) := by
  unfold step
  simp only [h]

theorem step_of_present {name : String} {view : View} (event : Event)
    (h : desk.view? name = some view) :
    desk.step indexer (.event name event) =
      let turn := Turn.take indexer desk.session view desk.tool event
      ({ desk with session := turn.session, tool := turn.tool }.put name turn.view,
        ⟨turn.answer, turn.calls⟩) := by
  unfold step
  simp only [h]

/-- The event of a step with its view, if the step is an event on a view that is there. -/
def occurrence? : Step → Option Occurrence
  | .opened _ _ => none
  | .event name event => (desk.view? name).map fun view => ⟨view, event⟩

/-- A step changes nothing of the session but the names, and those as the step's event asks. -/
theorem step_session (s : Step) :
    (desk.step indexer s).1.session =
      { desk.session with
        locals := (desk.occurrence? s).elim desk.session.locals
          (Occurrence.remember desk.session.locals) } := by
  cases s with
  | opened name view => rfl
  | event name event =>
    rcases hview : desk.view? name with _ | view
    · rw [step_of_absent indexer desk event hview]
      simp [occurrence?, hview]
    · rw [step_of_present indexer desk event hview]
      simp only [occurrence?, hview, Option.map_some, Option.elim_some]
      exact Turn.take_session indexer desk.session view desk.tool event

theorem step_tool (s : Step) :
    (desk.step indexer s).1.tool = indexer.after desk.tool (desk.step indexer s).2.calls := by
  cases s with
  | opened name view => rfl
  | event name event =>
    rcases hview : desk.view? name with _ | view
    · rw [step_of_absent indexer desk event hview]
      rfl
    · rw [step_of_present indexer desk event hview]
      exact Turn.take_tool indexer desk.session view desk.tool event

/-- A run makes of the tool what its calls make of it, in their order. -/
theorem run_tool (steps : List Step) :
    (desk.run indexer steps).1.tool =
      indexer.after desk.tool ((desk.run indexer steps).2.flatMap StepResult.calls) := by
  induction steps generalizing desk with
  | nil => rfl
  | cons first rest ih =>
    simp only [run, List.flatMap_cons, ih, step_tool, Indexer.after, List.foldl_append]

end Desk

end OcamlAssist
