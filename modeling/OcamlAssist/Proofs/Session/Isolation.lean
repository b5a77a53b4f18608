-- The laws of two buffers side by side: with an index tool whose replies hang
-- on nothing but the call, what a buffer shows in a run follows from the steps
-- that touch it. Steps that touch other buffers may go or change places.
import OcamlAssist.Proofs.Session.Steps

namespace OcamlAssist

/-- An index tool whose reply is a function of the call. What the tool keeps for itself may still
change with each call. -/
def Indexer.stateless {σ : Type} (reply : Invocation → Reply) (next : σ → Invocation → σ) :
    Indexer σ :=
  fun tool call => (reply call, next tool call)

/-- The name of the view that a step is about. -/
def Step.name : Step → String
  | .opened name _ => name
  | .event name _ => name

/-- What a buffer shows after a step: what the step gave, the names that are kept for the buffer,
and the buffer's views with their status lines. -/
structure Showing where
  step : Step
  result : StepResult
  names : Option (List String)
  view? : String → Option View

namespace Desk

variable {σ : Type}

/-! ## What a buffer can tell -/

/-- The view under a name, if it is a view of the buffer. -/
def viewOf? (b : BufferId) (desk : Desk σ) (name : String) : Option View :=
  (desk.view? name).filter fun view => view.id == b

/-- Whether a step touches a buffer: it happens to a view of the buffer, opens one, or puts another
view in the place of one. -/
def touches (b : BufferId) (desk : Desk σ) : Step → Bool
  | .opened name view => view.id == b || (desk.viewOf? b name).isSome
  | .event name _ => (desk.viewOf? b name).isSome

/-- What a buffer shows in a run, after each step that touches it. -/
def account (indexer : Indexer σ) (b : BufferId) (desk : Desk σ) : List Step → List Showing
  | [] => []
  | first :: rest =>
    let (next, result) := desk.step indexer first
    if desk.touches b first then
      ⟨first, result, next.session.locals.get? b, next.viewOf? b⟩ :: account indexer b next rest
    else account indexer b next rest

/-- The steps of a run that touch a buffer. -/
def only (indexer : Indexer σ) (b : BufferId) (desk : Desk σ) : List Step → List Step
  | [] => []
  | first :: rest =>
    let (next, _) := desk.step indexer first
    if desk.touches b first then first :: only indexer b next rest else only indexer b next rest

/-- `Thinned indexer b desk steps kept`: `kept` is the run `steps` from `desk` without some steps,
none of which touches the buffer. -/
inductive Thinned (indexer : Indexer σ) (b : BufferId) : Desk σ → List Step → List Step → Prop
  | nil (desk : Desk σ) : Thinned indexer b desk [] []
  | keep {desk : Desk σ} (s : Step) {steps kept : List Step} :
      Thinned indexer b (desk.step indexer s).1 steps kept →
      Thinned indexer b desk (s :: steps) (s :: kept)
  | drop {desk : Desk σ} (s : Step) {steps kept : List Step} :
      desk.touches b s = false → Thinned indexer b (desk.step indexer s).1 steps kept →
      Thinned indexer b desk (s :: steps) kept

/-- Steps under different names that touch no buffer in common. -/
def Apart (desk : Desk σ) (x y : Step) : Prop :=
  x.name ≠ y.name ∧ ∀ b, ¬(desk.touches b x = true ∧ desk.touches b y = true)

/-- A run from `desk` in another order: neighbours that are apart have changed places, any number
of times. -/
inductive Reordered (indexer : Indexer σ) (desk : Desk σ) (steps : List Step) : List Step → Prop
  | same : Reordered indexer desk steps steps
  | swap (before : List Step) (x y : Step) (after : List Step) :
      Reordered indexer desk steps (before ++ x :: y :: after) →
      Apart (desk.run indexer before).1 x y →
      Reordered indexer desk steps (before ++ y :: x :: after)

theorem viewOf?_eq_some_iff {b : BufferId} {desk : Desk σ} {name : String} {view : View} :
    desk.viewOf? b name = some view ↔ desk.view? name = some view ∧ view.id = b := by
  unfold viewOf?
  simp

theorem viewOf?_put (b : BufferId) (desk : Desk σ) (name other : String) (view : View) :
    (desk.put name view).viewOf? b other =
      if other = name then (if view.id = b then some view else none) else desk.viewOf? b other := by
  unfold viewOf?
  rw [view?_put]
  by_cases h : other = name
  · simp [h, Option.filter_some]
  · simp [h]

/-! ## Desks that a buffer cannot tell apart -/

/-- Two desks that show the same of a buffer. -/
structure Alike (b : BufferId) (desk other : Desk σ) : Prop where
  names : desk.session.locals.get? b = other.session.locals.get? b
  folders : desk.session.fallbackFolders = other.session.fallbackFolders
  views : ∀ name, desk.viewOf? b name = other.viewOf? b name

theorem Alike.refl (b : BufferId) (desk : Desk σ) : Alike b desk desk := ⟨rfl, rfl, fun _ => rfl⟩

theorem Alike.symm {b : BufferId} {desk other : Desk σ} (h : Alike b desk other) :
    Alike b other desk := ⟨h.names.symm, h.folders.symm, fun name => (h.views name).symm⟩

theorem Alike.trans {b : BufferId} {desk other third : Desk σ} (h : Alike b desk other)
    (h' : Alike b other third) : Alike b desk third :=
  ⟨h.names.trans h'.names, h.folders.trans h'.folders,
    fun name => (h.views name).trans (h'.views name)⟩

theorem Alike.touches {b : BufferId} {desk other : Desk σ} (h : Alike b desk other) (s : Step) :
    desk.touches b s = other.touches b s := by
  cases s with
  | opened name view => simp only [Desk.touches, h.views name]
  | event name event => simp only [Desk.touches, h.views name]

end Desk

/-! ## One event -/

theorem Session.includes_congr {s other : Session} (h : s.fallbackFolders = other.fallbackFolders)
    (view : View) : s.includes view = other.includes view := by
  unfold includes
  rw [h]

/-- With a stateless tool, what an event gives and does to its view hangs on the session only
through the fallback folders and the names for the view's buffer. -/
theorem Turn.take_congr {σ : Type} (reply : Invocation → Reply) (next : σ → Invocation → σ)
    {s other : Session} (hfolders : s.fallbackFolders = other.fallbackFolders) {view : View}
    (hnames : s.locals.get? view.id = other.locals.get? view.id) (tool tool' : σ) (event : Event) :
    let turn := take (Indexer.stateless reply next) s view tool event
    let turn' := take (Indexer.stateless reply next) other view tool' event
    turn.answer = turn'.answer ∧ turn.calls = turn'.calls ∧ turn.view = turn'.view := by
  have hincludes := Session.includes_congr hfolders view
  have hask {α : Type} (lookup : Option (Lookup α)) :
      (ask (Indexer.stateless reply next) tool lookup).1 =
          (ask (Indexer.stateless reply next) tool' lookup).1 ∧
        (ask (Indexer.stateless reply next) tool lookup).2.1 =
          (ask (Indexer.stateless reply next) tool' lookup).2.1 := by
    cases lookup <;> exact ⟨rfl, rfl⟩
  cases event with
  | completionAsked typed locations =>
    have hsame : s.complete? view typed locations = other.complete? view typed locations := by
      unfold Session.complete?
      rw [hincludes, hnames]
    obtain ⟨hanswer, hcalls⟩ := hask (other.complete? view typed locations)
    simp only [take, hsame, hanswer, hcalls, and_self]
  | typeShown =>
    have hsame : s.shownType? view = other.shownType? view := by
      unfold Session.shownType? Session.type?
      rw [hincludes]
    obtain ⟨hanswer, hcalls⟩ := hask (other.shownType? view)
    simp only [take, hsame, hanswer, hcalls, and_self]
  | typeAsked region =>
    have hsame : s.type? view region = other.type? view region := by
      unfold Session.type?
      rw [hincludes]
    obtain ⟨hanswer, hcalls⟩ := hask (other.type? view region)
    simp only [take, hsame, hanswer, hcalls, and_self]
  | loaded | saved | closed | selectionMoved | cursorSet _ | statusSet _ _ | statusErased _ =>
    exact ⟨rfl, rfl, rfl⟩

/-! ## One step -/

namespace Desk

variable {σ : Type}

/-- A step that does not touch a buffer changes nothing that the buffer can tell. -/
theorem alike_step_of_untouched (indexer : Indexer σ) {b : BufferId} {desk : Desk σ} {s : Step}
    (h : desk.touches b s = false) : Alike b (desk.step indexer s).1 desk := by
  cases s with
  | opened name view =>
    simp only [touches, Bool.or_eq_false_iff, beq_eq_false_iff_ne, Option.isSome_eq_false_iff,
      Option.isNone_iff_eq_none] at h
    refine ⟨rfl, rfl, fun other => ?_⟩
    have hput := viewOf?_put b desk name other view
    rw [if_neg h.1] at hput
    refine hput.trans ?_
    split
    · rename_i hname
      rw [hname, h.2]
    · rfl
  | event name event =>
    simp only [touches, Option.isSome_eq_false_iff, Option.isNone_iff_eq_none] at h
    rcases hview : desk.view? name with _ | view
    · rw [step_of_absent indexer desk event hview]
      exact Alike.refl b desk
    · have hid : view.id ≠ b := by
        intro hid
        rw [viewOf?_eq_some_iff.mpr ⟨hview, hid⟩] at h
        cases h
      have hsession := step_session indexer desk (.event name event)
      simp only [occurrence?, hview, Option.map_some, Option.elim_some] at hsession
      refine ⟨?_, by rw [hsession], fun other => ?_⟩
      · rw [hsession]
        exact Occurrence.get?_remember_of_ne _ _ (Ne.symm hid)
      · rw [step_of_present indexer desk event hview]
        refine (viewOf?_put b _ name other _).trans ?_
        rw [Turn.take_view_id, if_neg hid]
        split
        · rename_i hname
          rw [hname, h]
        · rfl

/-- A step that touches a buffer gives the same from desks that are alike for the buffer, and
leaves them alike. -/
theorem step_of_alike (reply : Invocation → Reply) (next : σ → Invocation → σ) {b : BufferId}
    {desk other : Desk σ} {s : Step} (halike : Alike b desk other) (ht : desk.touches b s = true) :
    (desk.step (Indexer.stateless reply next) s).2 =
        (other.step (Indexer.stateless reply next) s).2 ∧
      Alike b (desk.step (Indexer.stateless reply next) s).1
        (other.step (Indexer.stateless reply next) s).1 := by
  cases s with
  | opened name view =>
    refine ⟨rfl, halike.names, halike.folders, fun n => ?_⟩
    refine (viewOf?_put b desk name n view).trans
      (Eq.trans ?_ (viewOf?_put b other name n view).symm)
    rw [halike.views n]
  | event name event =>
    obtain ⟨view, hview⟩ := Option.isSome_iff_exists.mp ht
    obtain ⟨hdesk, hid⟩ := viewOf?_eq_some_iff.mp hview
    obtain ⟨hother, -⟩ := viewOf?_eq_some_iff.mp ((halike.views name).symm.trans hview)
    subst hid
    have hsession := step_session (Indexer.stateless reply next) desk (.event name event)
    have hsession' := step_session (Indexer.stateless reply next) other (.event name event)
    simp only [occurrence?, hdesk, hother, Option.map_some, Option.elim_some] at hsession hsession'
    obtain ⟨hanswer, hcalls, hturn⟩ :=
      Turn.take_congr reply next halike.folders halike.names desk.tool other.tool event
    refine ⟨?_, ?_, ?_, fun n => ?_⟩
    · rw [step_of_present _ desk event hdesk, step_of_present _ other event hother]
      simp only [hanswer, hcalls]
    · rw [hsession, hsession']
      exact Occurrence.get?_remember_congr _ halike.names
    · rw [hsession, hsession']
      exact halike.folders
    · rw [step_of_present _ desk event hdesk, step_of_present _ other event hother]
      refine (viewOf?_put _ _ name n _).trans (Eq.trans ?_ (viewOf?_put _ _ name n _).symm)
      rw [hturn]
      split
      · rfl
      · exact halike.views n

/-! ## Runs without some steps -/

theorem account_cons (indexer : Indexer σ) (b : BufferId) (desk : Desk σ) (s : Step)
    (rest : List Step) :
    desk.account indexer b (s :: rest) =
      (if desk.touches b s then
        [⟨s, (desk.step indexer s).2, (desk.step indexer s).1.session.locals.get? b,
          (desk.step indexer s).1.viewOf? b⟩]
      else []) ++ (desk.step indexer s).1.account indexer b rest := by
  simp only [account]
  split <;> rfl

theorem account_of_thinned (reply : Invocation → Reply) (next : σ → Invocation → σ) {b : BufferId}
    {desk other : Desk σ} {steps kept : List Step}
    (h : Thinned (Indexer.stateless reply next) b desk steps kept) (halike : Alike b desk other) :
    other.account (Indexer.stateless reply next) b kept =
      desk.account (Indexer.stateless reply next) b steps := by
  induction h generalizing other with
  | nil desk => rfl
  | @keep desk s steps kept _ ih =>
    rw [account_cons, account_cons, ← halike.touches s]
    rcases ht : desk.touches b s with _ | _
    · have hdesk := alike_step_of_untouched (Indexer.stateless reply next) ht
      have hother := alike_step_of_untouched (Indexer.stateless reply next)
        ((halike.touches s).symm.trans ht)
      rw [ih ((hdesk.trans halike).trans hother.symm)]
      rfl
    · obtain ⟨hresult, hnext⟩ := step_of_alike reply next halike ht
      rw [ih hnext, hresult, hnext.names, funext hnext.views]
  | @drop desk s steps kept ht _ ih =>
    have hdesk := alike_step_of_untouched (Indexer.stateless reply next) ht
    rw [ih (hdesk.trans halike), account_cons, ht]
    rfl

theorem thinned_refl (indexer : Indexer σ) (b : BufferId) (desk : Desk σ) (steps : List Step) :
    Thinned indexer b desk steps steps := by
  induction steps generalizing desk with
  | nil => exact .nil desk
  | cons s rest ih => exact .keep s (ih _)

theorem thinned_only (indexer : Indexer σ) (b : BufferId) (desk : Desk σ) (steps : List Step) :
    Thinned indexer b desk steps (desk.only indexer b steps) := by
  induction steps generalizing desk with
  | nil => exact .nil desk
  | cons s rest ih =>
    simp only [only]
    split
    · exact .keep s (ih _)
    · rename_i ht
      exact .drop s (by simpa using ht) (ih _)

theorem map_step_account (indexer : Indexer σ) (b : BufferId) (desk : Desk σ) (steps : List Step) :
    (desk.account indexer b steps).map (·.step) = desk.only indexer b steps := by
  induction steps generalizing desk with
  | nil => rfl
  | cons s rest ih =>
    simp only [account, only]
    split
    · rw [List.map_cons, ih]
    · exact ih _

/-! ## Runs in another order -/

theorem view?_step_of_ne (indexer : Indexer σ) (desk : Desk σ) {s : Step} {other : String}
    (h : other ≠ s.name) : (desk.step indexer s).1.view? other = desk.view? other := by
  cases s with
  | opened name view => exact (view?_put desk name other view).trans (if_neg h)
  | event name event =>
    rcases hview : desk.view? name with _ | view
    · rw [step_of_absent indexer desk event hview]
    · rw [step_of_present indexer desk event hview]
      exact (view?_put _ name other _).trans (if_neg h)

theorem touches_step_of_ne (indexer : Indexer σ) (b : BufferId) (desk : Desk σ) {x y : Step}
    (h : y.name ≠ x.name) : (desk.step indexer x).1.touches b y = desk.touches b y := by
  have hview : (desk.step indexer x).1.viewOf? b y.name = desk.viewOf? b y.name := by
    unfold viewOf?
    rw [view?_step_of_ne indexer desk h]
  cases y with
  | opened name view => exact congrArg (fun found => view.id == b || found.isSome) hview
  | event name event => exact congrArg Option.isSome hview

/-- Events on views of different buffers are apart. -/
theorem apart_of_ids_ne {desk : Desk σ} {name name' : String} {view view' : View}
    (hview : desk.view? name = some view) (hview' : desk.view? name' = some view')
    (hid : view.id ≠ view'.id) (event event' : Event) :
    Apart desk (.event name event) (.event name' event') := by
  refine ⟨?_, fun b ⟨h, h'⟩ => hid ?_⟩
  · rintro (rfl : name = name')
    rw [hview] at hview'
    cases hview'
    exact hid rfl
  · obtain ⟨found, hfound⟩ := Option.isSome_iff_exists.mp h
    obtain ⟨found', hfound'⟩ := Option.isSome_iff_exists.mp h'
    obtain ⟨hname, rfl⟩ := viewOf?_eq_some_iff.mp hfound
    obtain ⟨hname', hid'⟩ := viewOf?_eq_some_iff.mp hfound'
    rw [hview] at hname
    rw [hview'] at hname'
    cases hname
    cases hname'
    exact hid'.symm

/-- Of two neighbours that are apart, one does not touch the buffer. Without it, both orders are
the same run. -/
theorem account_swap (reply : Invocation → Reply) (next : σ → Invocation → σ) (b : BufferId)
    {desk : Desk σ} {x y : Step} (h : Apart desk x y) (after : List Step) :
    desk.account (Indexer.stateless reply next) b (y :: x :: after) =
      desk.account (Indexer.stateless reply next) b (x :: y :: after) := by
  have first {s t : Step} (hs : desk.touches b s = false) :
      desk.account (Indexer.stateless reply next) b (t :: after) =
        desk.account (Indexer.stateless reply next) b (s :: t :: after) :=
    account_of_thinned reply next (.drop s hs (thinned_refl _ b _ _)) (Alike.refl b desk)
  have second {s t : Step} (hname : t.name ≠ s.name) (ht : desk.touches b t = false) :
      desk.account (Indexer.stateless reply next) b (s :: after) =
        desk.account (Indexer.stateless reply next) b (s :: t :: after) :=
    account_of_thinned reply next
      (.keep s (.drop t ((touches_step_of_ne _ b desk hname).trans ht) (thinned_refl _ b _ _)))
      (Alike.refl b desk)
  rcases hx : desk.touches b x with _ | _
  · rw [← second h.1 hx, ← first hx]
  · have hy : desk.touches b y = false := by
      rw [← Bool.not_eq_true]
      exact fun hy => h.2 b ⟨hx, hy⟩
    rw [← first hy, ← second (Ne.symm h.1) hy]

theorem account_append (indexer : Indexer σ) (b : BufferId) (desk : Desk σ)
    (before after : List Step) :
    desk.account indexer b (before ++ after) =
      desk.account indexer b before ++ (desk.run indexer before).1.account indexer b after := by
  induction before generalizing desk with
  | nil => rfl
  | cons s rest ih =>
    rw [List.cons_append, account_cons, account_cons, ih, List.append_assoc]
    rfl

theorem account_of_reordered (reply : Invocation → Reply) (next : σ → Invocation → σ)
    (b : BufferId) {desk : Desk σ} {steps other : List Step}
    (h : Reordered (Indexer.stateless reply next) desk steps other) :
    desk.account (Indexer.stateless reply next) b other =
      desk.account (Indexer.stateless reply next) b steps := by
  induction h with
  | same => rfl
  | swap before x y after _ hapart ih =>
    rw [← ih, account_append, account_append, account_swap reply next b hapart after]

/-! ## The laws -/

/-- With a stateless tool, the steps that do not touch a buffer may go from a run, all of them or
some, and steps that are apart may change places, as events on views of different buffers are. What
the buffer shows after each of its own steps stays the same: the step's result, the calls made, the
names kept and the status lines. -/
theorem buffers_do_not_interfere (reply : Invocation → Reply) (next : σ → Invocation → σ)
    (desk : Desk σ) (steps : List Step) (b : BufferId) :
    let indexer := Indexer.stateless reply next
    let kept := desk.only indexer b steps
    ((desk.account indexer b kept).map (·.step) = kept ∧
      desk.account indexer b kept = desk.account indexer b steps) ∧
    (∀ fewer, Thinned indexer b desk steps fewer →
      desk.account indexer b fewer = desk.account indexer b steps) ∧
    (∀ other, Reordered indexer desk steps other →
      desk.account indexer b other = desk.account indexer b steps) ∧
    ∀ (now : Desk σ) name view event name' view' event',
      now.view? name = some view → now.view? name' = some view' → view.id ≠ view'.id →
      Apart now (.event name event) (.event name' event') := by
  intro indexer kept
  have hkept : desk.account indexer b kept = desk.account indexer b steps :=
    account_of_thinned reply next (thinned_only indexer b desk steps) (Alike.refl b desk)
  refine ⟨⟨?_, hkept⟩, ?_, ?_, ?_⟩
  · rw [hkept]
    exact map_step_account indexer b desk steps
  · intro fewer h
    exact account_of_thinned reply next h (Alike.refl b desk)
  · intro other h
    exact account_of_reordered reply next b h
  · intro now name view event name' view' event' hview hview' hid
    exact apart_of_ids_ne hview hview' hid event event'

end Desk

end OcamlAssist
