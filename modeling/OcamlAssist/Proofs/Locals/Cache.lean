-- What the cache of names gives back: the names that were put in last for a
-- buffer and not taken out since. A buffer stands at most once, so the size of
-- the cache is the number of buffers that have names.
import OcamlAssist.Locals.Cache
import Mathlib.Data.List.Nodup

namespace OcamlAssist

/-! ## Lists of values under keys -/

section Keys

variable {κ α : Type} [BEq κ] [LawfulBEq κ] [DecidableEq κ]

theorem lookup_filter_ne (entries : List (κ × α)) (key k : κ) :
    (entries.filter (·.1 != key)).lookup k = if k = key then none else entries.lookup k := by
  induction entries with
  | nil => simp
  | cons entry rest ih =>
    obtain ⟨own, value⟩ := entry
    by_cases hown : own = key
    · subst hown
      rw [List.filter_cons_of_neg (by simp), ih]
      split
      · rfl
      · rename_i hk
        rw [List.lookup_cons, beq_eq_false_iff_ne.mpr hk]
    · rw [List.filter_cons_of_pos (by simpa using hown), List.lookup_cons, List.lookup_cons, ih]
      by_cases hk : k = own
      · subst hk
        simp [hown]
      · rw [beq_eq_false_iff_ne.mpr hk]

theorem lookup_cons_filter_ne (entries : List (κ × α)) (key k : κ) (value : α) :
    ((key, value) :: entries.filter (·.1 != key)).lookup k =
      if k = key then some value else entries.lookup k := by
  rw [List.lookup_cons, lookup_filter_ne]
  by_cases hk : k = key
  · simp [hk]
  · rw [beq_eq_false_iff_ne.mpr hk]
    simp [hk]

end Keys

namespace LocalCache

/-! ## Names of one buffer -/

@[simp]
theorem get?_erase (cache : LocalCache) (id b : BufferId) :
    (cache.erase id).get? b = if b = id then none else cache.get? b :=
  lookup_filter_ne cache.entries id b

@[simp]
theorem get?_insert (cache : LocalCache) (id b : BufferId) (names : List String) :
    (cache.insert id names).get? b = if b = id then some names else cache.get? b :=
  lookup_cons_filter_ne cache.entries id b names

/-! ## The buffers of a cache -/

/-- The buffers that have names. -/
def buffers (cache : LocalCache) : List BufferId := cache.entries.map Prod.fst

theorem mem_buffers (cache : LocalCache) (b : BufferId) :
    b ∈ cache.buffers ↔ (cache.get? b).isSome = true := by
  unfold buffers get?
  rw [List.lookup_isSome_iff, List.mem_map]
  constructor
  · rintro ⟨entry, hmem, rfl⟩
    exact ⟨entry, hmem, by simp⟩
  · rintro ⟨entry, hmem, heq⟩
    exact ⟨entry, hmem, (by simpa using heq : b = entry.1).symm⟩

theorem nodup_erase {cache : LocalCache} (h : cache.buffers.Nodup) (id : BufferId) :
    (cache.erase id).buffers.Nodup :=
  h.sublist (List.filter_sublist.map Prod.fst)

theorem nodup_insert {cache : LocalCache} (h : cache.buffers.Nodup) (id : BufferId)
    (names : List String) : (cache.insert id names).buffers.Nodup := by
  have hnot : id ∉ (cache.erase id).buffers := by
    rw [mem_buffers, get?_erase]
    simp
  exact List.nodup_cons.mpr ⟨hnot, nodup_erase h id⟩

end LocalCache

end OcamlAssist
