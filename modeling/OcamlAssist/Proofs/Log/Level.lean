-- The law of the level that a configuration asks for: it is the one that its
-- word names, and a word that names none asks for the usual level. But nothing
-- at all asks for errors, and a number up to five for the level with that rank.
import OcamlAssist.Log.Level
import OcamlAssist.Proofs.Text.Decimal

namespace OcamlAssist.LogLevel

open OcamlAssist.Text

/-- The names that the levels have. -/
def names : List (String × LogLevel) :=
  [("trace", .trace), ("debug", .debug), ("info", .info), ("warn", .warn), ("warning", .warn),
    ("error", .error), ("off", .off), ("none", .off), ("disabled", .off)]

/-- The level that a word should ask for: the one it names, or else the usual one. -/
def documented (word : List Char) : LogLevel := (names.lookup (String.ofList word)).getD .info

/-! ## Ranks -/

theorem ofRank?_rank (level : LogLevel) : ofRank? level.rank = some level := by
  cases level <;> rfl

theorem rank_inj {level level' : LogLevel} (h : level.rank = level'.rank) : level = level' := by
  rw [← Option.some_inj, ← ofRank?_rank, h, ofRank?_rank]

theorem exists_rank {n : Nat} (hn : n ≤ 5) : ∃ level : LogLevel, level.rank = n := by
  match n, hn with
  | 0, _ => exact ⟨.off, rfl⟩
  | 1, _ => exact ⟨.error, rfl⟩
  | 2, _ => exact ⟨.warn, rfl⟩
  | 3, _ => exact ⟨.info, rfl⟩
  | 4, _ => exact ⟨.debug, rfl⟩
  | 5, _ => exact ⟨.trace, rfl⟩

theorem ofRank?_of_lt {n : Nat} (hn : 5 < n) : ofRank? n = none := by
  unfold ofRank?
  split <;> first | rfl | omega

/-- The number that a word spells, if it spells one. -/
def number? (word : List Char) : Option Nat := (readNumber word).toOption

theorem number?_eq_some_iff {word : List Char} {n : Nat} (hn : n ≤ 5) :
    number? word = some n ↔ Spells word n := by
  have hlimit : n < wordLimit := Nat.lt_of_le_of_lt hn (by decide)
  have hread : number? word = some n ↔ readNumber word = .ok n := by
    unfold number?
    cases readNumber word <;> simp [Except.toOption]
  rw [hread, readNumber_eq_ok_iff, and_iff_left hlimit]

theorem not_spells_of_number? {word : List Char} (h : number? word = none) {n : Nat} (hn : n ≤ 5) :
    ¬Spells word n := by
  intro hspells
  rw [(number?_eq_some_iff hn).mpr hspells] at h
  cases h

/-! ## Words with a name and without -/

theorem mem_names_of_lookup {name : String} {level : LogLevel}
    (h : names.lookup name = some level) : (name, level) ∈ names := by
  obtain ⟨before, after, hnames, -⟩ := List.lookup_eq_some_iff.mp h
  rw [hnames]
  exact List.mem_append_right before List.mem_cons_self

theorem ofWord_of_named {word : List Char} {level : LogLevel}
    (h : names.lookup (String.ofList word) = some level) : ofWord word = level := by
  have hall : ∀ p ∈ names, ofWord p.1.toList = p.2 := by decide +kernel
  simpa using hall _ (mem_names_of_lookup h)

/-- No name is a number. -/
theorem number?_of_named {word : List Char} {level : LogLevel}
    (h : names.lookup (String.ofList word) = some level) : word ≠ [] ∧ number? word = none := by
  have hall : ∀ p ∈ names, p.1.toList ≠ [] ∧ number? p.1.toList = none := by decide +kernel
  simpa using hall _ (mem_names_of_lookup h)

theorem ofName?_of_not_named {word : String} (h : word ∉ names.map Prod.fst) :
    ofName? word = if word = "" then some .error else none := by
  unfold ofName?
  split
  case h_1 => rfl
  case h_8 hempty _ _ _ _ _ _ => rw [if_neg hempty]
  all_goals exact absurd (by decide) h

/-- A word in lower case that has no name asks for the usual level, unless there is nothing or a
rank. -/
theorem ofWord_of_not_named {word : List Char} (hlower : word.map lowerLetter = word)
    (h : names.lookup (String.ofList word) = none) :
    ofWord word = if word = [] then .error else ((number? word).bind ofRank?).getD .info := by
  have hnames : String.ofList word ∉ names.map Prod.fst := by
    rw [List.mem_map]
    rintro ⟨p, hp, heq⟩
    simpa [heq] using List.lookup_eq_none_iff.mp h p hp
  -- The three words that are looked at first are names too.
  have hread : ofWord word = (read? word).getD .info := by
    unfold ofWord
    split
    case h_4 => rfl
    all_goals
      rename_i hword
      exact absurd (hword ▸ by decide) hnames
  rw [hread, read?, number?, hlower, ofName?_of_not_named hnames]
  by_cases hempty : word = []
  · subst hempty
    rfl
  · rw [if_neg hempty, if_neg (by simpa using hempty)]
    cases readNumber word <;> rfl

/-! ## What a word asks for -/

/-- A rank asks for its level. -/
theorem rank_ofWord {word : List Char} (hlower : word.map lowerLetter = word) {n : Nat}
    (hn : n ≤ 5) (h : Spells word n) : (ofWord word).rank = n := by
  have hnumber := (number?_eq_some_iff hn).mpr h
  cases hname : names.lookup (String.ofList word) with
  | some level =>
    rw [(number?_of_named hname).2] at hnumber
    cases hnumber
  | none =>
    have hne : word ≠ [] := by
      rintro rfl
      cases hnumber
    obtain ⟨level, rfl⟩ := exists_rank hn
    rw [ofWord_of_not_named hlower hname, if_neg hne, hnumber, Option.bind_some, ofRank?_rank,
      Option.getD_some]

/-- A word that is no rank asks for the documented level. -/
theorem ofWord_of_not_rank {word : List Char} (hlower : word.map lowerLetter = word)
    (hne : word ≠ []) (h : ∀ n ≤ 5, ¬Spells word n) : ofWord word = documented word := by
  cases hname : names.lookup (String.ofList word) with
  | some level => rw [ofWord_of_named hname, documented, hname, Option.getD_some]
  | none =>
    rw [ofWord_of_not_named hlower hname, if_neg hne, documented, hname, Option.getD_none]
    cases hnumber : number? word with
    | none => rfl
    | some n =>
      have hn : 5 < n :=
        Nat.lt_of_not_le fun hle => h n hle ((number?_eq_some_iff hle).mp hnumber)
      rw [Option.bind_some, ofRank?_of_lt hn, Option.getD_none]

/-- No word with a name is a rank, so every rank should ask for the usual level. -/
theorem documented_of_spells {word : List Char} {n : Nat} (hn : n ≤ 5) (h : Spells word n) :
    documented word = .info := by
  cases hname : names.lookup (String.ofList word) with
  | some level => exact absurd h (not_spells_of_number? (number?_of_named hname).2 hn)
  | none => rw [documented, hname, Option.getD_none]

theorem lookup_eq_off_iff {word : String} :
    names.lookup word = some .off ↔ word ∈ ["off", "none", "disabled"] := by
  constructor
  · intro h
    have hall : ∀ p ∈ names, p.2 = .off → p.1 ∈ ["off", "none", "disabled"] := by decide +kernel
    exact hall (word, .off) (mem_names_of_lookup h) rfl
  · revert word
    decide +kernel

theorem ofWord_eq_off_iff {word : List Char} (hlower : word.map lowerLetter = word) :
    ofWord word = .off ↔ String.ofList word ∈ ["off", "none", "disabled"] ∨ Spells word 0 := by
  constructor
  · intro h
    by_cases hrank : ∃ n ≤ 5, Spells word n
    · obtain ⟨n, hn, hspells⟩ := hrank
      obtain rfl : 0 = n := by rw [← rank_ofWord hlower hn hspells, h, rank]
      exact Or.inr hspells
    · have hne : word ≠ [] := by
        rintro rfl
        cases h
      rw [ofWord_of_not_rank hlower hne fun n hn hspells => hrank ⟨n, hn, hspells⟩, documented] at h
      refine Or.inl (lookup_eq_off_iff.mp ?_)
      cases hname : names.lookup (String.ofList word) with
      | some level => rw [← h, hname, Option.getD_some]
      | none =>
        rw [hname] at h
        cases h
  · rintro (h | h)
    · exact ofWord_of_named (lookup_eq_off_iff.mpr h)
    · exact rank_inj (rank_ofWord hlower (Nat.zero_le 5) h)

theorem lowerLetter_lowerLetter (c : Char) : lowerLetter (lowerLetter c) = lowerLetter c := by
  unfold lowerLetter Char.toLower
  by_cases hupper : c.val ≥ 'A'.val ∧ c.val ≤ 'Z'.val
  · have hbehind : ¬(c.val + ('a'.val - 'A'.val) ≥ 'A'.val ∧
        c.val + ('a'.val - 'A'.val) ≤ 'Z'.val) := by
      simp only [ge_iff_le, UInt32.le_iff_toNat_le, UInt32.toNat_add] at hupper ⊢
      have hfirst : 'A'.val.toNat = 65 := rfl
      have hlast : 'Z'.val.toNat = 90 := rfl
      have hstep : ('a'.val - 'A'.val).toNat = 32 := rfl
      omega
    simp only [hupper]
    exact dif_neg hbehind
  · rw [dif_neg hupper, dif_neg hupper]

theorem map_lowerLetter_wordOf (name : String) :
    (wordOf name).map lowerLetter = wordOf name := by
  rw [wordOf, List.map_map]
  exact List.map_congr_left fun c _ => lowerLetter_lowerLetter c

/-! ## The law -/

/-- A level is read from its word, so neither white space around a name nor the case of its letters
counts. The level is the documented one exactly if there is a word, and it is no rank of another
level than the usual one. Nothing at all asks for errors, and a rank for its level. So the log is
switched off by the three words for that, and by a zero. -/
theorem a_level_is_the_documented_one_unless_for_nothing_or_a_rank (name : String) :
    (∀ other, wordOf other = wordOf name → ofSetting other = ofSetting name) ∧
    (ofSetting name = documented (wordOf name) ↔
      wordOf name ≠ [] ∧ ∀ n ≤ 5, Spells (wordOf name) n → n = LogLevel.info.rank) ∧
    (wordOf name = [] → ofSetting name = .error) ∧
    (∀ n ≤ 5, Spells (wordOf name) n → (ofSetting name).rank = n) ∧
    ∀ s : LogSettings, s.level = ofSetting name →
      (s.isActive = false ↔ s.enabled = false ∨
        String.ofList (wordOf name) ∈ ["off", "none", "disabled"] ∨ Spells (wordOf name) 0) := by
  have hlower := map_lowerLetter_wordOf name
  have hnothing : wordOf name = [] → ofSetting name = .error := by
    intro hempty
    rw [ofSetting, hempty]
    rfl
  refine ⟨fun other h => by rw [ofSetting, h, ofSetting], ?_, hnothing,
    fun n hn => rank_ofWord hlower hn, fun s hs => ?_⟩
  · constructor
    · intro h
      refine ⟨fun hempty => ?_, fun n hn hspells => ?_⟩
      · rw [hnothing hempty, hempty] at h
        cases h
      · rw [documented_of_spells hn hspells] at h
        rw [← rank_ofWord hlower hn hspells, ← h, ofSetting]
    · rintro ⟨hne, hrank⟩
      by_cases h : ∃ n ≤ 5, Spells (wordOf name) n
      · obtain ⟨n, hn, hspells⟩ := h
        rw [documented_of_spells hn hspells]
        exact rank_inj ((rank_ofWord hlower hn hspells).trans (hrank n hn hspells))
      · exact ofWord_of_not_rank hlower hne fun n hn hspells => h ⟨n, hn, hspells⟩
  · rw [← ofWord_eq_off_iff hlower, ← ofSetting, ← hs]
    cases henabled : s.enabled <;> simp [LogSettings.isActive, henabled]

/-- A zero switches the log off, and nothing at all leaves the errors only. Neither is a name. -/
theorem a_zero_switches_the_log_off :
    ofSetting "0" = .off ∧ documented (wordOf "0") = .info ∧
      ({ level := ofSetting "0" } : LogSettings).isActive = false ∧
      ofSetting " " = .error ∧ documented (wordOf " ") = .info := by
  decide +kernel

end OcamlAssist.LogLevel
