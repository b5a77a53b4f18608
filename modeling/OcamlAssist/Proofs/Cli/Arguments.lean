-- The law of the command line: it is accepted exactly if it is put together
-- from options with their values and from other words, in any order, and it can
-- be put together in one way only. What it says is the other words in order and
-- the last value of each option.
import OcamlAssist.Cli.Arguments

namespace OcamlAssist.Cli

/-! ## Segments -/

/-- What a command line is put together from. The value of an option may be any word. -/
inductive Segment where
  | json
  | config (path : Path)
  | typed (value : String)
  | word (text : String) (plain : ¬['-', '-'] <+: text.toList)

/-- The kinds of segments: the three options, and a word of no option. -/
inductive SegmentKind where
  | json
  | config
  | typed
  | word
  deriving DecidableEq

namespace Segment

def kind : Segment → SegmentKind
  | json => .json
  | config _ => .config
  | typed _ => .typed
  | word _ _ => .word

/-- The words that a segment is written with. -/
def words : Segment → List String
  | json => ["--json"]
  | config path => ["--config", path]
  | typed value => ["--prefix", value]
  | word text _ => [text]

def config? : Segment → Option Path
  | config path => some path
  | _ => none

def typed? : Segment → Option String
  | typed value => some value
  | _ => none

def word? : Segment → Option String
  | word text _ => some text
  | _ => none

/-- Puts a segment in front of what a command line says. -/
def addTo : Segment → Arguments → Arguments
  | json, a => { a with json := true }
  | config path, a => a.withConfig path
  | typed value, a => a.withTyped value
  | word text _, a => { a with positional := text :: a.positional }

end Segment

/-- The words of segments, one after the other. -/
def written (segments : List Segment) : List String := segments.flatMap Segment.words

/-- What segments say: the other words in order, the last value of each option with one, and
whether the option without one is there. -/
def said (segments : List Segment) : Arguments where
  positional := segments.filterMap Segment.word?
  config := (segments.filterMap Segment.config?).getLast?
  typed := (segments.filterMap Segment.typed?).getLast?
  json := segments.any (·.kind = .json)

/-- The words that a command line breaks off with: an option that is not known, or one at the end
whose value is missing. -/
def ArgumentFault.StopsAt : ArgumentFault → List String → Prop
  | .unknownOption word, rest =>
    rest.head? = some word ∧ ['-', '-'] <+: word.toList ∧ word ∉ ["--json", "--config", "--prefix"]
  | .configNeedsPath, rest => rest = ["--config"]
  | .typedNeedsValue, rest => rest = ["--prefix"]

/-! ## Reading segments -/

namespace Arguments

theorem isOption_iff {word : String} : isOption word = true ↔ ['-', '-'] <+: word.toList :=
  List.isPrefixOf_iff_prefix

theorem isOption_eq_false_iff {word : String} :
    isOption word = false ↔ ¬['-', '-'] <+: word.toList := by
  rw [← isOption_iff, Bool.not_eq_true]

/-- A word that is none of the options is looked at by itself. -/
theorem read_cons {word : String} (h : word ∉ ["--json", "--config", "--prefix"])
    (rest : List String) :
    read (word :: rest) = if isOption word then .error (.unknownOption word)
      else (read rest).map fun a => { a with positional := word :: a.positional } := by
  simp only [List.mem_cons, List.not_mem_nil, or_false, not_or] at h
  obtain ⟨hjson, hconfig, htyped⟩ := h
  rw [read]
  · exact hjson
  · exact fun hword _ => hconfig hword
  · exact fun _ _ hword _ => hconfig hword
  · exact fun hword _ => htyped hword
  · exact fun _ _ hword _ => htyped hword

theorem not_mem_options {word : String} (h : ¬['-', '-'] <+: word.toList) :
    word ∉ ["--json", "--config", "--prefix"] := by
  intro hmem
  simp only [List.mem_cons, List.not_mem_nil, or_false] at hmem
  rcases hmem with rfl | rfl | rfl <;> exact h (by decide)

theorem read_words_append (s : Segment) (rest : List String) :
    read (s.words ++ rest) = (read rest).map s.addTo := by
  cases s with
  | json => rfl
  | config path => rfl
  | typed value => rfl
  | word text plain =>
    rw [Segment.words, List.singleton_append, read_cons (not_mem_options plain),
      isOption_eq_false_iff.mpr plain]
    rfl

theorem read_written_append (segments : List Segment) (rest : List String) :
    read (written segments ++ rest) =
      (read rest).map fun a => segments.foldr Segment.addTo a := by
  induction segments with
  | nil =>
    show read rest = (read rest).map id
    cases read rest <;> rfl
  | cons s segments ih =>
    rw [written, List.flatMap_cons, ← written, List.append_assoc, read_words_append, ih]
    cases read rest <;> rfl

theorem foldr_addTo (segments : List Segment) : segments.foldr Segment.addTo {} = said segments := by
  induction segments with
  | nil => rfl
  | cons s segments ih =>
    rw [List.foldr_cons, ih]
    cases s <;> simp [said, Segment.addTo, withConfig, withTyped, Segment.word?, Segment.config?,
      Segment.typed?, Segment.kind, List.filterMap_cons, List.getLast?_cons]

theorem read_written (segments : List Segment) :
    read (written segments) = .ok (said segments) := by
  rw [← List.append_nil (written segments), read_written_append, ← foldr_addTo]
  rfl

theorem read_of_stopsAt {fault : ArgumentFault} {rest : List String} (h : fault.StopsAt rest) :
    read rest = .error fault := by
  cases fault with
  | unknownOption word =>
    obtain ⟨hhead, hoption, hunknown⟩ := h
    obtain ⟨more, rfl⟩ := List.head?_eq_some_iff.mp hhead
    rw [read_cons hunknown, if_pos (isOption_iff.mpr hoption)]
  | configNeedsPath =>
    obtain rfl : rest = ["--config"] := h
    rfl
  | typedNeedsValue =>
    obtain rfl : rest = ["--prefix"] := h
    rfl

theorem read_broken_off {fault : ArgumentFault} {rest : List String} (h : fault.StopsAt rest)
    (segments : List Segment) : read (written segments ++ rest) = .error fault := by
  rw [read_written_append, read_of_stopsAt h]
  rfl

/-- Every command line begins with segments, up to its end or to where it breaks off. -/
theorem exists_segments (words : List String) :
    ∃ segments rest, words = written segments ++ rest ∧
      (rest = [] ∨ ∃ fault : ArgumentFault, fault.StopsAt rest) := by
  -- Along the reader's own steps: an option takes the next word with it, whatever that looks like.
  fun_induction read words with
  | case1 => exact ⟨[], [], rfl, Or.inl rfl⟩
  | case2 rest ih =>
    obtain ⟨segments, tail, rfl, hend⟩ := ih
    exact ⟨.json :: segments, tail, rfl, hend⟩
  | case3 => exact ⟨[], _, rfl, Or.inr ⟨.configNeedsPath, rfl⟩⟩
  | case4 path rest ih =>
    obtain ⟨segments, tail, rfl, hend⟩ := ih
    exact ⟨.config path :: segments, tail, rfl, hend⟩
  | case5 => exact ⟨[], _, rfl, Or.inr ⟨.typedNeedsValue, rfl⟩⟩
  | case6 value rest ih =>
    obtain ⟨segments, tail, rfl, hend⟩ := ih
    exact ⟨.typed value :: segments, tail, rfl, hend⟩
  | case7 word rest hjson hconfig hconfig' htyped htyped' hoption =>
    have hunknown : word ∉ ["--json", "--config", "--prefix"] := by
      intro hmem
      simp only [List.mem_cons, List.not_mem_nil, or_false] at hmem
      cases rest <;> simp_all
    exact ⟨[], word :: rest, rfl, Or.inr ⟨.unknownOption word, rfl, isOption_iff.mp hoption,
      hunknown⟩⟩
  | case8 word rest hjson hconfig hconfig' htyped htyped' hoption ih =>
    obtain ⟨segments, tail, rfl, hend⟩ := ih
    have plain := isOption_eq_false_iff.mp (Bool.not_eq_true _ ▸ hoption)
    exact ⟨.word word plain :: segments, tail, rfl, hend⟩

theorem words_append_inj {s s' : Segment} {rest rest' : List String}
    (h : s.words ++ rest = s'.words ++ rest') : s = s' ∧ rest = rest' := by
  cases s with
  | word text plain =>
    have hother := not_mem_options plain
    cases s' <;> simp_all [Segment.words]
  | _ =>
    cases s' with
    | word text plain =>
      have hother := not_mem_options plain
      simp_all [Segment.words]
    | _ => simp_all [Segment.words]

theorem written_inj {segments segments' : List Segment} (h : written segments = written segments') :
    segments = segments' := by
  induction segments generalizing segments' with
  | nil =>
    cases segments' with
    | nil => rfl
    | cons s rest => cases s <;> cases h
  | cons s rest ih =>
    cases segments' with
    | nil => cases s <;> cases h
    | cons s' rest' =>
      obtain ⟨rfl, hrest⟩ := words_append_inj h
      rw [ih hrest]

/-! ## The order of segments -/

/-- Two command lines have the same segments of each kind, in the same order. The segments of one
kind may stand anywhere among those of another. -/
def SameByKind (segments segments' : List Segment) : Prop :=
  ∀ kind, segments.filter (·.kind = kind) = segments'.filter (·.kind = kind)

theorem filterMap_of_kind {α : Type} {f : Segment → Option α} {kind : SegmentKind}
    (h : ∀ s, s.kind ≠ kind → f s = none) (segments : List Segment) :
    segments.filterMap f = (segments.filter (·.kind = kind)).filterMap f := by
  rw [List.filterMap_filter]
  congr 1
  funext s
  by_cases hkind : s.kind = kind
  · simp [hkind]
  · simp [hkind, h s hkind]

theorem said_eq_of_sameByKind {segments segments' : List Segment}
    (h : SameByKind segments segments') : said segments = said segments' := by
  have hword : ∀ s : Segment, s.kind ≠ .word → s.word? = none := by
    rintro (_ | _ | _ | _) hs <;> simp_all [Segment.kind, Segment.word?]
  have hconfig : ∀ s : Segment, s.kind ≠ .config → s.config? = none := by
    rintro (_ | _ | _ | _) hs <;> simp_all [Segment.kind, Segment.config?]
  have htyped : ∀ s : Segment, s.kind ≠ .typed → s.typed? = none := by
    rintro (_ | _ | _ | _) hs <;> simp_all [Segment.kind, Segment.typed?]
  have hjson : ∀ l : List Segment, l.any (·.kind = .json) =
      (l.filter (·.kind = .json)).any (·.kind = .json) := by
    intro l
    simp [List.any_filter]
  simp only [said]
  rw [filterMap_of_kind hword segments, filterMap_of_kind hword segments', h .word,
    filterMap_of_kind hconfig segments, filterMap_of_kind hconfig segments', h .config,
    filterMap_of_kind htyped segments, filterMap_of_kind htyped segments', h .typed,
    hjson segments, hjson segments', h .json]

/-! ## The law -/

/-- A command line is accepted exactly if it is put together from segments, and then it says what
they say. There is one way only to put it together. Every other one breaks off at an option that is
not known or that misses its value. Segments of different kinds may change places. -/
theorem a_command_line_is_read_in_segments (words : List String) :
    (∀ a, read words = .ok a ↔ ∃ segments, written segments = words ∧ a = said segments) ∧
    (∀ segments segments', written segments = words → written segments' = words →
      segments = segments') ∧
    (∀ fault, read words = .error fault ↔
      ∃ segments rest, words = written segments ++ rest ∧ fault.StopsAt rest) ∧
    ∀ segments segments', written segments = words → SameByKind segments segments' →
      read (written segments') = read words := by
  refine ⟨fun a => ⟨fun h => ?_, ?_⟩, fun segments segments' h h' => written_inj (h.trans h'.symm),
    fun fault => ⟨fun h => ?_, ?_⟩, ?_⟩
  · obtain ⟨segments, rest, rfl, rfl | ⟨fault, hstops⟩⟩ := exists_segments words
    · rw [List.append_nil] at h ⊢
      rw [read_written, Except.ok.injEq] at h
      exact ⟨segments, rfl, h.symm⟩
    · rw [read_broken_off hstops] at h
      cases h
  · rintro ⟨segments, rfl, rfl⟩
    exact read_written segments
  · obtain ⟨segments, rest, rfl, rfl | ⟨fault', hstops⟩⟩ := exists_segments words
    · rw [List.append_nil, read_written] at h
      cases h
    · rw [read_broken_off hstops, Except.error.injEq] at h
      exact ⟨segments, rest, rfl, h ▸ hstops⟩
  · rintro ⟨segments, rest, rfl, hstops⟩
    exact read_broken_off hstops segments
  · rintro segments segments' rfl hsame
    rw [read_written, read_written, said_eq_of_sameByKind hsame]

-- A word that looks like an option is the value of the option in front of it.
example : read ["complete", "--prefix", "--json", "a.ml"] =
    .ok { positional := ["complete", "a.ml"], typed := some "--json" } := by
  rfl

end Arguments

end OcamlAssist.Cli
