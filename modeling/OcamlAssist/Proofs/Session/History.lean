-- The laws of the cache of names over whole runs: what a buffer's entry holds
-- follows from the loads, saves and closes of the run alone, and the local
-- entries of a completion are the entry's names.
import OcamlAssist.Proofs.Session.Steps
import Mathlib.Data.Set.Card

namespace OcamlAssist

/-! ## What a history says -/

/-- The occurrence closes a view of the buffer. -/
def Occurrence.Closes (o : Occurrence) (b : BufferId) : Prop :=
  o.view.id = b ∧ o.event = .closed

/-- The occurrence is an effective load or save of a view of the buffer. -/
def Occurrence.Scans (o : Occurrence) (b : BufferId) : Prop :=
  o.view.id = b ∧ o.Effective

/-- The occurrence is part of a history, and nothing that `stops` accepts came after it. -/
def NoneSince (stops : Occurrence → Prop) (past : List Occurrence) (o : Occurrence) : Prop :=
  ∃ before after, past = before ++ o :: after ∧ ∀ later ∈ after, ¬stops later

/-- A view of the buffer was scanned, and none was closed since. -/
def Held (b : BufferId) (past : List Occurrence) : Prop :=
  ∃ o, o.Scans b ∧ NoneSince (·.Closes b) past o

/-- The occurrence is the last scan of a view of the buffer. -/
def LastScan (b : BufferId) (past : List Occurrence) (o : Occurrence) : Prop :=
  o.Scans b ∧ NoneSince (·.Scans b) past o

theorem noneSince_nil (stops : Occurrence → Prop) (o : Occurrence) : ¬NoneSince stops [] o := by
  rintro ⟨before, after, heq, -⟩
  simp at heq

theorem noneSince_concat (stops : Occurrence → Prop) (past : List Occurrence) (x o : Occurrence) :
    NoneSince stops (past ++ [x]) o ↔ o = x ∨ NoneSince stops past o ∧ ¬stops x := by
  constructor
  · rintro ⟨before, after, heq, hafter⟩
    rcases List.eq_nil_or_concat after with rfl | ⟨rest, y, rfl⟩
    · exact Or.inl (List.append_singleton_inj.mp heq).2.symm
    · rw [List.concat_eq_append, ← List.cons_append, ← List.append_assoc] at heq
      obtain ⟨rfl, rfl⟩ := List.append_singleton_inj.mp heq
      refine Or.inr ⟨⟨before, rest, rfl, fun later h => hafter later ?_⟩, hafter x ?_⟩
      · simp [h]
      · simp
  · rintro (rfl | ⟨⟨before, after, rfl, hafter⟩, hx⟩)
    · exact ⟨past, [], rfl, by simp⟩
    · refine ⟨before, after ++ [x], by simp, ?_⟩
      intro later hlater
      rcases List.mem_append.mp hlater with h | h
      · exact hafter later h
      · rw [List.mem_singleton.mp h]
        exact hx

theorem held_concat (b : BufferId) (past : List Occurrence) (x : Occurrence) :
    Held b (past ++ [x]) ↔ x.Scans b ∨ Held b past ∧ ¬x.Closes b := by
  unfold Held
  simp only [noneSince_concat]
  constructor
  · rintro ⟨o, hs, rfl | ⟨hsince, hx⟩⟩
    · exact Or.inl hs
    · exact Or.inr ⟨⟨o, hs, hsince⟩, hx⟩
  · rintro (hs | ⟨⟨o, hs, hsince⟩, hx⟩)
    · exact ⟨x, hs, Or.inl rfl⟩
    · exact ⟨o, hs, Or.inr ⟨hsince, hx⟩⟩

theorem lastScan_concat (b : BufferId) (past : List Occurrence) (x o : Occurrence) :
    LastScan b (past ++ [x]) o ↔ x.Scans b ∧ o = x ∨ LastScan b past o ∧ ¬x.Scans b := by
  unfold LastScan
  rw [noneSince_concat]
  constructor
  · rintro ⟨hs, rfl | ⟨hsince, hx⟩⟩
    · exact Or.inl ⟨hs, rfl⟩
    · exact Or.inr ⟨⟨hs, hsince⟩, hx⟩
  · rintro (⟨hs, rfl⟩ | ⟨⟨hs, hsince⟩, hx⟩)
    · exact ⟨hs, Or.inl rfl⟩
    · exact ⟨hs, Or.inr ⟨hsince, hx⟩⟩

theorem exists_lastScan {b : BufferId} {past : List Occurrence} (h : Held b past) :
    ∃ o, LastScan b past o := by
  induction past using List.reverseRecOn with
  | nil =>
    obtain ⟨o, -, hsince⟩ := h
    exact absurd hsince (noneSince_nil _ o)
  | append_singleton past x ih =>
    by_cases hx : x.Scans b
    · exact ⟨x, (lastScan_concat b past x x).mpr (Or.inl ⟨hx, rfl⟩)⟩
    · rcases (held_concat b past x).mp h with hs | ⟨hheld, -⟩
      · exact absurd hs hx
      · obtain ⟨o, ho⟩ := ih hheld
        exact ⟨o, (lastScan_concat b past x o).mpr (Or.inr ⟨ho, hx⟩)⟩

/-! ## The cache after a history -/

/-- The names that are kept after a history. -/
def cacheAfter (past : List Occurrence) : LocalCache := past.foldl Occurrence.remember {}

theorem cacheAfter_concat (past : List Occurrence) (x : Occurrence) :
    cacheAfter (past ++ [x]) = Occurrence.remember (cacheAfter past) x := by
  simp [cacheAfter]

theorem get?_remember_of_scans (cache : LocalCache) {x : Occurrence} {b : BufferId}
    (h : x.Scans b) : (Occurrence.remember cache x).get? b = some x.names := by
  rw [Occurrence.remember_of_effective cache h.2, LocalCache.get?_insert, if_pos h.1.symm]

theorem get?_remember_of_closes (cache : LocalCache) {x : Occurrence} {b : BufferId}
    (h : x.Closes b) : (Occurrence.remember cache x).get? b = none := by
  rw [Occurrence.remember_of_closed cache h.2, LocalCache.get?_erase, if_pos h.1.symm]

theorem get?_remember_of_neither (cache : LocalCache) {x : Occurrence} {b : BufferId}
    (hs : ¬x.Scans b) (hc : ¬x.Closes b) :
    (Occurrence.remember cache x).get? b = cache.get? b := by
  by_cases hid : x.view.id = b
  · rw [Occurrence.remember_of_idle cache (fun he => hs ⟨hid, he⟩) (fun he => hc ⟨hid, he⟩)]
  · exact Occurrence.get?_remember_of_ne cache x (Ne.symm hid)

/-- A close wins over the scans before it, and a scan over the closes before it. -/
theorem isSome_cacheAfter (b : BufferId) (past : List Occurrence) :
    ((cacheAfter past).get? b).isSome = true ↔ Held b past := by
  induction past using List.reverseRecOn with
  | nil =>
    constructor
    · intro h
      simp [cacheAfter, LocalCache.get?] at h
    · rintro ⟨o, -, hsince⟩
      exact absurd hsince (noneSince_nil _ o)
  | append_singleton past x ih =>
    rw [cacheAfter_concat, held_concat]
    by_cases hs : x.Scans b
    · simp [get?_remember_of_scans _ hs, hs]
    · by_cases hc : x.Closes b
      · simp [get?_remember_of_closes _ hc, hs, hc]
      · rw [get?_remember_of_neither _ hs hc, ih]
        simp [hs, hc]

/-- What is kept is what the last scan found. -/
theorem get?_cacheAfter {b : BufferId} {past : List Occurrence} {o : Occurrence}
    (hheld : Held b past) (hlast : LastScan b past o) :
    (cacheAfter past).get? b = some o.names := by
  induction past using List.reverseRecOn with
  | nil => exact absurd hlast.2 (noneSince_nil _ o)
  | append_singleton past x ih =>
    rw [cacheAfter_concat]
    rcases (lastScan_concat b past x o).mp hlast with ⟨hs, rfl⟩ | ⟨hlast', hs⟩
    · exact get?_remember_of_scans _ hs
    · rcases (held_concat b past x).mp hheld with hs' | ⟨hheld', hc⟩
      · exact absurd hs' hs
      · rw [get?_remember_of_neither _ hs hc]
        exact ih hheld' hlast'

theorem get?_cacheAfter_eq_some_iff (b : BufferId) (past : List Occurrence)
    (names : List String) :
    (cacheAfter past).get? b = some names ↔
      Held b past ∧ ∃ o, LastScan b past o ∧ names = o.names := by
  constructor
  · intro hnames
    have hheld : Held b past := (isSome_cacheAfter b past).mp (by simp [hnames])
    obtain ⟨o, ho⟩ := exists_lastScan hheld
    rw [get?_cacheAfter hheld ho] at hnames
    exact ⟨hheld, o, ho, (Option.some.inj hnames).symm⟩
  · rintro ⟨hheld, o, ho, rfl⟩
    exact get?_cacheAfter hheld ho

theorem nodup_cacheAfter (past : List Occurrence) : (cacheAfter past).buffers.Nodup := by
  induction past using List.reverseRecOn with
  | nil => exact List.nodup_nil
  | append_singleton past x ih =>
    rw [cacheAfter_concat]
    exact Occurrence.nodup_remember ih x

/-- The cache is as large as the number of buffers that have an entry. -/
theorem size_cacheAfter (past : List Occurrence) :
    {b | Held b past}.encard = (cacheAfter past).size := by
  have hset : {b | Held b past} = ((cacheAfter past).buffers.toFinset : Set BufferId) := by
    ext b
    rw [List.coe_toFinset, Set.mem_ofPred_eq, Set.mem_ofPred_eq, LocalCache.mem_buffers,
      isSome_cacheAfter]
  rw [hset, Set.encard_coe_eq_coe_finsetCard, List.toFinset_card_of_nodup (nodup_cacheAfter past)]
  simp [LocalCache.buffers, LocalCache.size]

/-! ## The history of a run -/

namespace Desk

variable {σ : Type} (indexer : Indexer σ)

/-- What happens in a run: its events on views that are there, each with the view as it is then. -/
def occurrences (desk : Desk σ) : List Step → List Occurrence
  | [] => []
  | first :: rest =>
    (desk.occurrence? first).toList ++ occurrences (desk.step indexer first).1 rest

/-- The names that are kept after a run follow from the run's history. -/
theorem run_locals (desk : Desk σ) (steps : List Step) :
    (desk.run indexer steps).1.session.locals =
      (desk.occurrences indexer steps).foldl Occurrence.remember desk.session.locals := by
  induction steps generalizing desk with
  | nil => rfl
  | cons first rest ih =>
    have hstep := congrArg Session.locals (step_session indexer desk first)
    simp only [run, occurrences, List.foldl_append]
    rw [ih, hstep]
    cases desk.occurrence? first <;> rfl

/-- Every sequence of events on any views is the history of a run. -/
theorem every_history_is_a_run (desk : Desk σ) (past : List Occurrence) :
    ∃ steps, desk.occurrences indexer steps = past := by
  induction past generalizing desk with
  | nil => exact ⟨[], rfl⟩
  | cons o rest ih =>
    have hview : (desk.put "" o.view).view? "" = some o.view := by simp
    obtain ⟨steps, hsteps⟩ := ih ((desk.put "" o.view).step indexer (.event "" o.event)).1
    refine ⟨.opened "" o.view :: .event "" o.event :: steps, ?_⟩
    have hopened : desk.occurrences indexer (.opened "" o.view :: .event "" o.event :: steps) =
        ((desk.put "" o.view).occurrence? (.event "" o.event)).toList ++
          ((desk.put "" o.view).step indexer (.event "" o.event)).1.occurrences indexer steps := rfl
    rw [hopened, hsteps]
    simp [occurrence?]

end Desk

/-! ## The local entries of a completion -/

/-- The entries end with a local one for each name, in the order of the names, and no entry in
front of these is local. -/
def EndsWithLocals (names : List String) (items : List Item) : Prop :=
  ∃ front, items = front ++ names.map (fun name => ⟨name ++ "\tlet", name, .variable, .buffer⟩) ∧
    ∀ item ∈ front, item.source ≠ .buffer

theorem builtins_source {typed : String} {item : Item} (h : item ∈ Completion.builtins typed) :
    item.source = .builtin := by
  unfold Completion.builtins at h
  split at h
  · rw [List.mem_singleton.mp h]
  · rw [List.mem_singleton.mp h]
  · simp at h

theorem entries_source {output typed : String} {item : Item}
    (h : item ∈ Listing.entries output typed) : item.source = .indexer := by
  unfold Listing.entries at h
  obtain ⟨line, -, hitem⟩ := List.mem_filterMap.mp h
  simp only [Listing.itemOf?, Option.bind_eq_bind, Option.bind_eq_some_iff, Option.some.injEq]
    at hitem
  obtain ⟨_, -, _, -, rfl⟩ := hitem
  rfl

theorem items_of_answer (typed output : String) (names : Option (List String)) :
    EndsWithLocals (names.getD []) (Completion.items typed names (.ok output)) := by
  refine ⟨Completion.builtins typed ++ Listing.entries output typed, rfl, ?_⟩
  intro item hitem
  rcases List.mem_append.mp hitem with h | h
  · rw [builtins_source h]
    decide
  · rw [entries_source h]
    decide

theorem items_of_fault (typed : String) (fault : LookupFault) (names : Option (List String)) :
    EndsWithLocals [] (Completion.items typed names (.error fault)) := by
  refine ⟨_, (List.append_nil _).symm, ?_⟩
  intro item hitem
  rcases List.mem_append.mp hitem with h | h
  · split at h
    · rw [builtins_source h]
      decide
    · simp at h
  · rw [List.mem_singleton.mp h]
    simp [Completion.faultItem]

/-- An answered completion made one call, and its entries are those for the call's reply. -/
theorem completion_answered {σ : Type} (indexer : Indexer σ) (desk : Desk σ) {name : String}
    {view : View} {typed : String} {locations : List Nat} {list : CompletionList}
    (hview : desk.view? name = some view)
    (hlist : (desk.step indexer (.event name (.completionAsked typed locations))).2.answer =
      .completion (some list)) :
    ∃ call, (desk.step indexer (.event name (.completionAsked typed locations))).2.calls = [call] ∧
      list.items =
        Completion.items typed (desk.session.locals.get? view.id) (indexer desk.tool call).1 := by
  rw [Desk.step_of_present indexer desk _ hview] at hlist ⊢
  simp only [Turn.take] at hlist ⊢
  rcases hlookup : desk.session.complete? view typed locations with _ | lookup
  · simp [hlookup, Turn.ask] at hlist
  · simp only [hlookup, Turn.ask, Answer.completion.injEq, Option.some.injEq] at hlist ⊢
    refine ⟨lookup.invocation, rfl, ?_⟩
    unfold Session.complete? at hlookup
    obtain ⟨location, -, hlookup⟩ := Option.bind_eq_some_iff.mp hlookup
    obtain ⟨query, -, rfl⟩ := Option.map_eq_some_iff.mp hlookup
    rw [← hlist]
    rfl

/-- The local entries of a completion are the names that are kept, or none if the tool failed. -/
theorem locals_of_completion {σ : Type} (indexer : Indexer σ) (desk : Desk σ) {name : String}
    {view : View} {typed : String} {locations : List Nat} {list : CompletionList}
    (hview : desk.view? name = some view)
    (hlist : (desk.step indexer (.event name (.completionAsked typed locations))).2.answer =
      .completion (some list)) :
    ∃ call, (desk.step indexer (.event name (.completionAsked typed locations))).2.calls = [call] ∧
      match (indexer desk.tool call).1 with
      | .ok _ => EndsWithLocals ((desk.session.locals.get? view.id).getD []) list.items
      | .error _ => EndsWithLocals [] list.items := by
  obtain ⟨call, hcall, hitems⟩ := completion_answered indexer desk hview hlist
  refine ⟨call, hcall, ?_⟩
  split
  · rename_i output hreply
    rw [hitems, hreply]
    exact items_of_answer typed output _
  · rename_i fault hreply
    rw [hitems, hreply]
    exact items_of_fault typed fault _

/-! ## The laws -/

/-- After any run of a fresh session, a buffer has an entry exactly if a view of it was scanned
since the last close of one. The entry is what the last scan found, the cache has an entry for no
other buffer, and the local entries of a completion that the tool answered are the names of the
entry. A completion that the tool failed has no local entries. -/
theorem the_cache_follows_the_history {σ : Type} (indexer : Indexer σ) (tool : σ)
    (fallbackFolders : List Path) (views : List (String × View)) (steps : List Step) :
    let start : Desk σ := { session := { fallbackFolders }, tool, views }
    let past := start.occurrences indexer steps
    let desk := (start.run indexer steps).1
    (∀ b, (desk.session.locals.get? b).isSome = true ↔ Held b past) ∧
    (∀ b names, desk.session.locals.get? b = some names ↔
      Held b past ∧ ∃ o, LastScan b past o ∧ names = Locals.scan o.view.document.buffer.text) ∧
    {b | Held b past}.encard = desk.session.locals.size ∧
    ∀ name view typed locations list, desk.view? name = some view →
      let asked := desk.step indexer (.event name (.completionAsked typed locations))
      asked.2.answer = .completion (some list) →
      ∃ call, asked.2.calls = [call] ∧
        match (indexer desk.tool call).1 with
        | .ok _ => EndsWithLocals ((desk.session.locals.get? view.id).getD []) list.items
        | .error _ => EndsWithLocals [] list.items := by
  intro start past desk
  have hlocals : desk.session.locals = cacheAfter past := start.run_locals indexer steps
  refine ⟨?_, ?_, ?_, ?_⟩
  · intro b
    rw [hlocals]
    exact isSome_cacheAfter b past
  · intro b names
    rw [hlocals]
    exact get?_cacheAfter_eq_some_iff b past names
  · rw [hlocals]
    exact size_cacheAfter past
  · intro name view typed locations list hview asked hlist
    exact locals_of_completion indexer desk hview hlist

end OcamlAssist
