-- The laws of the token in front of the cursor: a search for the token pattern
-- from left to right, in which the first way to match counts, finds the longest
-- token at the end of the text. Separators in front of the token change nothing.
import OcamlAssist.Query.Token
import OcamlAssist.Proofs.Chars.Class
import OcamlAssist.Proofs.Text.Split

namespace OcamlAssist

open OcamlAssist.Chars OcamlAssist.Text

/-! ## Patterns -/

/-- A pattern of text. -/
inductive Pattern where
  /-- One character of a class. -/
  | one (p : Char → Bool)
  /-- Characters of a class, as many as there are before fewer. -/
  | many (p : Char → Bool)
  /-- One pattern or another, the first before the second. -/
  | either (a b : Pattern)
  /-- One pattern and then another. -/
  | next (a b : Pattern)
  /-- A pattern whose text is asked for. -/
  | group (a : Pattern)
  /-- The end of the text. -/
  | stop

/-- One way to match: what is left of the text, and the text of the group. -/
structure Way where
  rest : List Char
  group : Option (List Char)
  deriving DecidableEq, Repr

namespace Pattern

/-- What is left of a text behind a run of characters of a class, the longest run first. -/
def runs (p : Char → Bool) : List Char → List (List Char)
  | [] => [[]]
  | c :: rest => if p c then runs p rest ++ [c :: rest] else [c :: rest]

/-- The ways in which a pattern matches at the front of a text, the preferred ones first. -/
def ways : Pattern → List Char → List Way
  | one _, [] => []
  | one p, c :: rest => if p c then [⟨rest, none⟩] else []
  | many p, text => (runs p text).map fun rest => ⟨rest, none⟩
  | either a b, text => ways a text ++ ways b text
  | next a b, text =>
    (ways a text).flatMap fun way => (ways b way.rest).map fun way' =>
      ⟨way'.rest, way'.group.or way.group⟩
  | group a, text =>
    (ways a text).map fun way =>
      ⟨way.rest, some (text.take (text.length - way.rest.length))⟩
  | stop, text => if text.isEmpty then [⟨[], none⟩] else []

/-- The text of the group in the first match, which is the preferred one of those that begin
furthest to the left. -/
def search? (pattern : Pattern) : List Char → Option (List Char)
  | [] => (pattern.ways []).head?.bind Way.group
  | c :: rest =>
    match pattern.ways (c :: rest) with
    | way :: _ => way.group
    | [] => search? pattern rest

/-- Whether a pattern can match a whole text. -/
def accepts (pattern : Pattern) (text : List Char) : Bool :=
  (pattern.ways text).any fun way => way.rest.isEmpty

/-- A pattern as the group at the end of the text. -/
def atEnd (a : Pattern) : Pattern := next (group a) stop

/-- A group at the end can match in one way only: it is all of the text. -/
theorem ways_atEnd_head? (a : Pattern) (text : List Char) :
    ((atEnd a).ways text).head? = if a.accepts text then some ⟨[], some text⟩ else none := by
  rw [atEnd, ways, ways, List.flatMap_map, accepts]
  induction a.ways text with
  | nil => rfl
  | cons way others ih =>
    rw [List.flatMap_cons, List.any_cons]
    cases hrest : way.rest with
    | nil => simp [ways]
    | cons c rest => simpa [ways, hrest] using ih

theorem search?_cons (pattern : Pattern) (c : Char) (rest : List Char) :
    search? pattern (c :: rest) =
      (pattern.ways (c :: rest)).head?.elim (search? pattern rest) Way.group := by
  rw [search?]
  cases pattern.ways (c :: rest) with
  | nil => rfl
  | cons way others => rfl

theorem search?_of_head? {pattern : Pattern} {text : List Char} {way : Way}
    (h : (pattern.ways text).head? = some way) : search? pattern text = way.group := by
  cases text with
  | nil =>
    rw [search?, h]
    rfl
  | cons c rest =>
    rw [search?_cons, h]
    rfl

/-- The match furthest to the left is the longest, because every match ends at the end. -/
theorem search?_atEnd (a : Pattern) (text : List Char) :
    search? (atEnd a) text = longestSuffix? a.accepts text := by
  induction text with
  | nil =>
    rw [search?, ways_atEnd_head?, longestSuffix?]
    split <;> rfl
  | cons c rest ih =>
    rw [search?_cons, ways_atEnd_head?, longestSuffix?]
    split
    · rfl
    · exact ih

/-! ## A run in front of a pattern -/

theorem ways_many_next (p : Char → Bool) (b : Pattern) (text : List Char) :
    (next (many p) b).ways text = (runs p text).flatMap b.ways := by
  rw [ways, ways, List.flatMap_map]
  simp

/-- If nothing that begins with a character of the run is accepted, the whole run is passed over
before the pattern matches. -/
theorem ways_many_next_atEnd_head? {p : Char → Bool} {a : Pattern}
    (h : ∀ c rest, p c = true → a.accepts (c :: rest) = false) (text : List Char) :
    ((next (many p) (atEnd a)).ways text).head? =
      if a.accepts (text.dropWhile p) then some ⟨[], some (text.dropWhile p)⟩ else none := by
  rw [ways_many_next]
  induction text with
  | nil =>
    rw [runs, List.flatMap_singleton, ways_atEnd_head?]
    rfl
  | cons c rest ih =>
    by_cases hc : p c = true
    · have hnone : (atEnd a).ways (c :: rest) = [] := by
        rw [← List.head?_eq_none_iff, ways_atEnd_head?, h c rest hc]
        rfl
      rw [runs, if_pos hc, List.flatMap_append, List.flatMap_singleton, hnone, List.append_nil, ih,
        List.dropWhile_cons_of_pos hc]
    · rw [runs, if_neg hc, List.flatMap_singleton, ways_atEnd_head?, List.dropWhile_cons_of_neg hc]

/-- A run in front does not change what is found. -/
theorem search?_many_next_atEnd {p : Char → Bool} {a : Pattern}
    (h : ∀ c rest, p c = true → a.accepts (c :: rest) = false) (text : List Char) :
    search? (next (many p) (atEnd a)) text = longestSuffix? a.accepts text := by
  induction text with
  | nil =>
    rw [search?, ways_many_next_atEnd_head? h, List.dropWhile_nil, longestSuffix?]
    split <;> rfl
  | cons c rest ih =>
    rw [search?_cons, ways_many_next_atEnd_head? h, longestSuffix?]
    by_cases hc : p c = true
    · -- The next place passes over the rest of the same run, so it finds the same.
      rw [h c rest hc, List.dropWhile_cons_of_pos hc, ← ih]
      have hnext := ways_many_next_atEnd_head? h rest
      split
      · rename_i haccepts
        rw [if_pos haccepts] at hnext
        rw [search?_of_head? hnext]
        rfl
      · rfl
    · rw [List.dropWhile_cons_of_neg hc]
      split
      · rfl
      · exact ih

/-! ## What a pattern accepts -/

theorem any_runs (p : Char → Bool) (text : List Char) :
    (runs p text).any List.isEmpty = text.all p := by
  induction text with
  | nil => rfl
  | cons c rest ih =>
    by_cases hc : p c = true
    · rw [runs, if_pos hc, List.any_append, ih]
      simp [hc]
    · rw [runs, if_neg hc]
      simp [hc]

@[simp] theorem accepts_many (p : Char → Bool) (text : List Char) :
    (many p).accepts text = text.all p := by
  rw [accepts, ways, List.any_map, ← any_runs]
  rfl

@[simp] theorem accepts_either (a b : Pattern) (text : List Char) :
    (either a b).accepts text = (a.accepts text || b.accepts text) := by
  rw [accepts, ways, List.any_append, accepts, accepts]

@[simp] theorem accepts_one_next_nil (p : Char → Bool) (b : Pattern) :
    (next (one p) b).accepts [] = false := rfl

@[simp] theorem accepts_one_next_cons (p : Char → Bool) (b : Pattern) (c : Char)
    (rest : List Char) : (next (one p) b).accepts (c :: rest) = (p c && b.accepts rest) := by
  rw [accepts, ways, ways]
  by_cases hc : p c = true
  · rw [if_pos hc, List.flatMap_singleton, List.any_map, hc, accepts]
    rfl
  · rw [if_neg hc]
    simp [hc]

end Pattern

/-! ## Tokens -/

namespace Token

/-- What may stand between a token and the text in front of it. -/
def isSeparator (c : Char) : Bool := c == ',' || isBlank c

/-- The pattern of a token. The underscore is named although it is an identifier character. -/
def pattern : Pattern :=
  .either
    (.next (.one isCapital)
      (.many fun c => isIdent c || c == '_' || c == '.' || c == '#' || isTick c))
    (.next (.one fun c => isIdent c || c == '_' || c == '#' || isTick c)
      (.many fun c => isIdent c || c == '_' || c == '#' || isTick c))

/-- A token: a capital of the basic Latin alphabet with identifier characters, dots, hashes and
quote marks after it, or one or more identifier characters, hashes and quote marks. -/
def IsToken (text : List Char) : Prop :=
  (∃ c rest, text = c :: rest ∧ 'A' ≤ c ∧ c ≤ 'Z' ∧
      ∀ x ∈ rest, isIdent x = true ∨ x = '.' ∨ x = '#' ∨ x = '\'') ∨
    (text ≠ [] ∧ ∀ x ∈ text, isIdent x = true ∨ x = '#' ∨ x = '\'')

theorem isNameChar_iff {c : Char} :
    isNameChar c = true ↔ isIdent c = true ∨ c = '#' ∨ c = '\'' := by
  simp [isNameChar, isTick, or_assoc, or_comm]

theorem isPathChar_iff {c : Char} :
    isPathChar c = true ↔ isIdent c = true ∨ c = '.' ∨ c = '#' ∨ c = '\'' := by
  rw [isPathChar, Bool.or_eq_true, isNameChar_iff, beq_iff_eq]
  tauto

theorem isToken_iff {text : List Char} : isToken text = true ↔ IsToken text := by
  rw [isToken, Bool.or_eq_true, IsToken]
  apply or_congr
  · cases text with
    | nil => simp [isPath]
    | cons c rest => simp [isPath, isCapital, isPathChar_iff, and_assoc]
  · simp [isName, isNameChar_iff]

theorem accepts_pattern : pattern.accepts = isToken := by
  have hunderscore (c : Char) : (isIdent c || c == '_') = isIdent c := by
    by_cases hc : c = '_'
    · rw [hc, isIdent_underscore]
      rfl
    · rw [beq_false_of_ne hc, Bool.or_false]
  have hname : (fun c => isIdent c || c == '_' || c == '#' || isTick c) = isNameChar := by
    funext c
    rw [hunderscore, isNameChar, Bool.or_right_comm]
  have hpath : (fun c => isIdent c || c == '_' || c == '.' || c == '#' || isTick c) =
      isPathChar := by
    funext c
    rw [hunderscore, isPathChar, isNameChar]
    ac_rfl
  funext text
  rw [pattern, hname, hpath, Pattern.accepts_either, isToken]
  cases text with
  | nil => simp [isPath, isName]
  | cons c rest => simp [isPath, isName]

theorem isPathChar_of_isToken {text : List Char} (h : isToken text = true) :
    ∀ c ∈ text, isPathChar c = true := by
  rw [isToken, Bool.or_eq_true] at h
  rcases h with hpath | hname
  · cases text with
    | nil => simp
    | cons c rest =>
      rw [isPath, Bool.and_eq_true, List.all_eq_true] at hpath
      intro x hx
      rcases List.mem_cons.mp hx with rfl | hx
      · exact isPathChar_iff.mpr (Or.inl (isIdent_of_isCapital hpath.1))
      · exact hpath.2 x hx
  · rw [isName, Bool.and_eq_true, List.all_eq_true] at hname
    intro x hx
    rw [isPathChar, hname.2 x hx]
    rfl

theorem isBlank_eq_false_of_isPathChar {c : Char} (h : isPathChar c = true) :
    isBlank c = false := by
  rcases isPathChar_iff.mp h with hident | rfl | rfl | rfl
  · by_contra hblank
    rw [isIdent_eq_false_of_isBlank (Bool.not_eq_false _ ▸ hblank)] at hident
    exact Bool.noConfusion hident
  · decide +kernel
  · decide +kernel
  · decide +kernel

theorem isToken_eq_false_of_isSeparator (c : Char) (rest : List Char) (h : isSeparator c = true) :
    isToken (c :: rest) = false := by
  by_contra htoken
  have hpath := isPathChar_of_isToken (Bool.not_eq_false _ ▸ htoken) c List.mem_cons_self
  rw [isSeparator, Bool.or_eq_true, beq_iff_eq, isBlank_eq_false_of_isPathChar hpath] at h
  rcases h with rfl | h
  · revert hpath
    decide +kernel
  · exact Bool.noConfusion h

/-- It is enough to look among the path characters at the end. -/
theorem atEnd?_eq (text : List Char) : atEnd? text = longestSuffix? isToken text := by
  have hrun : (text.reverse.takeWhile isPathChar).reverse <:+ text := by
    rw [← List.reverse_prefix, List.reverse_reverse]
    exact List.takeWhile_prefix isPathChar
  refine longestSuffix?_congr fun s hs => ⟨fun hsuffix => hsuffix.trans hrun, ?_⟩
  rintro ⟨before, rfl⟩
  have hall : ∀ c ∈ s.reverse, isPathChar c = true := fun c hc =>
    isPathChar_of_isToken hs c (List.mem_reverse.mp hc)
  rw [List.reverse_append, List.takeWhile_append_of_pos hall, List.reverse_append,
    List.reverse_reverse]
  exact List.suffix_append _ s

theorem atEnd?_eq_some_iff {text found : List Char} :
    atEnd? text = some found ↔
      found <:+ text ∧ IsToken found ∧ ∀ s, s <:+ text → IsToken s → s <:+ found := by
  simp only [atEnd?_eq, longestSuffix?_eq_some_iff, IsLongestSuffix, isToken_iff]

theorem isSome_atEnd?_iff {text : List Char} :
    (atEnd? text).isSome = true ↔ ∃ s, s <:+ text ∧ IsToken s := by
  rw [Option.isSome_iff_ne_none, atEnd?_eq, Ne, longestSuffix?_eq_none_iff]
  simp [← isToken_iff]

theorem IsToken.ne_nil {text : List Char} (h : IsToken text) : text ≠ [] := by
  rcases h with ⟨c, rest, rfl, -⟩ | ⟨hne, -⟩
  · exact List.cons_ne_nil c rest
  · exact hne

/-- The search for the token pattern, with any separators in front of it or without, finds the
token at the end. -/
theorem search?_pattern (text : List Char) :
    Pattern.search? (.next (.many isSeparator) (.atEnd pattern)) text = atEnd? text ∧
      Pattern.search? (.atEnd pattern) text = atEnd? text := by
  have hseparator : ∀ c rest, isSeparator c = true → pattern.accepts (c :: rest) = false := by
    rw [accepts_pattern]
    exact isToken_eq_false_of_isSeparator
  rw [Pattern.search?_many_next_atEnd hseparator, Pattern.search?_atEnd, accepts_pattern,
    atEnd?_eq]
  exact ⟨rfl, rfl⟩

end Token

end OcamlAssist
