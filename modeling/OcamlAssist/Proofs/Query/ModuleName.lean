-- The law of the module that a path names: its last piece decides, unless a
-- folder in front of it has `.ml` behind an identifier character. Then the
-- first such place of the path decides, and the last piece has no say.
import OcamlAssist.Query.ModuleName
import OcamlAssist.Proofs.Text.Split

namespace OcamlAssist.ModuleName

open OcamlAssist.Chars OcamlAssist.Text

/-! ## Where modules show -/

/-- A module shows in a text: `.ml` stands right behind an identifier character. -/
def Shows (text : List Char) : Prop := ∃ c, isIdent c = true ∧ [c, '.', 'm', 'l'] <:+: text

/-- The module that shows first in a text: all identifier characters in front of the first `.ml`
that has one in front. -/
structure ShowsFirst (stem text : List Char) : Prop where
  ne_nil : stem ≠ []
  ident : ∀ c ∈ stem, isIdent c = true
  between : ∃ before after, text = before ++ (stem ++ '.' :: 'm' :: 'l' :: after) ∧
    (∀ c ∈ before.getLast?, isIdent c = false) ∧ ¬Shows (before ++ stem)

/-- What the last piece of a path tells on its own: a source file has its module, and a piece
without `.ml` has none. -/
inductive Tells : (last : List Char) → (own : Option (List Char)) → Prop
  | source {base extension : List Char} (hne : base ≠ []) (hbase : ∀ c ∈ base, isIdent c = true)
      (hextension : extension ∈ ["ml".toList, "mli".toList, "mll".toList, "mly".toList]) :
      Tells (base ++ '.' :: extension) (some base)
  | other {last : List Char} (h : ¬['.', 'm', 'l'] <:+: last) : Tells last none

/-! ## One place of a text -/

theorem isIdent_dot : isIdent '.' = false := by decide +kernel

theorem isIdent_slash : isIdent '/' = false := by decide +kernel

theorem stemAt?_eq_some_iff {text stem : List Char} :
    stemAt? text = some stem ↔ stem ≠ [] ∧ (∀ c ∈ stem, isIdent c = true) ∧
      ∃ rest, text = stem ++ '.' :: 'm' :: 'l' :: rest ∧ '\n' ∉ rest := by
  constructor
  · intro h
    unfold stemAt? at h
    split at h
    · rename_i rest hafter
      rw [Option.ite_none_left_eq_some, Option.some.injEq] at h
      obtain ⟨hcond, rfl⟩ := h
      simp only [Bool.or_eq_true, List.isEmpty_iff, List.contains_eq_mem, decide_eq_true_eq,
        not_or] at hcond
      refine ⟨hcond.1, List.all_eq_true.mp List.all_takeWhile, rest, ?_, hcond.2⟩
      have hdrop := after?_eq_some_iff.mp hafter
      exact (List.takeWhile_append_dropWhile.symm.trans (congrArg _ hdrop))
    · cases h
  · rintro ⟨hne, hstem, rest, rfl, hrest⟩
    have htake : (stem ++ '.' :: 'm' :: 'l' :: rest).takeWhile isIdent = stem := by
      rw [List.takeWhile_append_of_pos hstem, List.takeWhile_cons_of_neg (by simp [isIdent_dot]),
        List.append_nil]
    have hdrop : (stem ++ '.' :: 'm' :: 'l' :: rest).dropWhile isIdent =
        ['.', 'm', 'l'] ++ rest := by
      rw [List.dropWhile_append_of_pos hstem, List.dropWhile_cons_of_neg (by simp [isIdent_dot])]
      rfl
    simp only [stemAt?, htake, hdrop, after?_append]
    simp [hne, hrest]

/-- A module that shows at a place shows in the text that begins there. -/
theorem shows_of_stemAt? {text stem : List Char} (h : stemAt? text = some stem) : Shows text := by
  obtain ⟨hne, hstem, rest, rfl, -⟩ := stemAt?_eq_some_iff.mp h
  obtain ⟨front, c, rfl⟩ := (List.eq_nil_or_concat' stem).resolve_left hne
  exact ⟨c, hstem c (by simp), front, rest, by simp⟩

/-- A text goes on behind a slash without a part in what shows in front of it, but for a line
feed. -/
theorem stemAt?_append_slash (front last : List Char) :
    stemAt? (front ++ '/' :: last) = if '\n' ∈ last then none else stemAt? front := by
  have hiff (stem : List Char) : stemAt? (front ++ '/' :: last) = some stem ↔
      '\n' ∉ last ∧ stemAt? front = some stem := by
    simp only [stemAt?_eq_some_iff]
    constructor
    · rintro ⟨hne, hstem, rest, htext, hrest⟩
      have hslash : '/' ∉ stem ++ ['.', 'm', 'l'] := by
        have hnot : '/' ∉ stem := fun hmem =>
          Bool.noConfusion (isIdent_slash.symm.trans (hstem _ hmem))
        simp [hnot]
      have hbegins : stem ++ ['.', 'm', 'l'] <+: front ++ '/' :: last := ⟨rest, by simp [htext]⟩
      obtain ⟨rest', rfl⟩ := (prefix_append_separator_iff hslash front last).mp hbegins
      obtain rfl : rest' ++ '/' :: last = rest := by simpa using htext
      simp only [List.mem_append, List.mem_cons, not_or] at hrest
      exact ⟨hrest.2.2, hne, hstem, rest', by simp, hrest.1⟩
    · rintro ⟨hlast, hne, hstem, rest, rfl, hrest⟩
      exact ⟨hne, hstem, rest ++ '/' :: last, by simp, by simp [hrest, hlast]⟩
  ext stem
  rw [hiff, Option.ite_none_left_eq_some]

/-! ## The first place of a text -/

theorem stem?_cons (c : Char) (rest : List Char) :
    stem? (c :: rest) = (stemAt? (c :: rest)).or (stem? rest) := rfl

theorem stem?_eq_none_iff {text : List Char} :
    stem? text = none ↔ ∀ s, s <:+ text → stemAt? s = none := by
  induction text with
  | nil =>
    simp only [stem?, true_iff, List.suffix_nil, forall_eq]
    rfl
  | cons c rest ih =>
    rw [stem?_cons, Option.or_eq_none_iff, ih]
    simp only [List.suffix_cons_iff, forall_eq_or_imp]

/-- The first place that names a module has none in front of it. -/
theorem exists_of_stem? {text stem : List Char} (h : stem? text = some stem) :
    ∃ before s, text = before ++ s ∧ stemAt? s = some stem ∧
      ∀ w, w ≠ [] → w <:+ before → stemAt? (w ++ s) = none := by
  induction text with
  | nil => cases h
  | cons c rest ih =>
    rw [stem?_cons, Option.or_eq_some_iff] at h
    rcases h with hhere | ⟨hnone, hrest⟩
    · refine ⟨[], c :: rest, rfl, hhere, fun w hne hw => ?_⟩
      exact absurd (List.suffix_nil.mp hw) hne
    · obtain ⟨before, s, rfl, hs, hfront⟩ := ih hrest
      refine ⟨c :: before, s, rfl, hs, fun w hne hw => ?_⟩
      rcases List.suffix_cons_iff.mp hw with rfl | hw
      · exact hnone
      · exact hfront w hne hw

theorem shows_of_isInfix {part text : List Char} (h : Shows part) (hin : part <:+: text) :
    Shows text := by
  obtain ⟨c, hc, hpart⟩ := h
  exact ⟨c, hc, hpart.trans hin⟩

theorem not_shows_of_no_mark {text : List Char} (h : ¬['.', 'm', 'l'] <:+: text) :
    ¬Shows text := by
  rintro ⟨c, -, hin⟩
  exact h ((List.suffix_cons c ['.', 'm', 'l']).isInfix.trans hin)

theorem stem?_of_not_shows {text : List Char} (h : ¬Shows text) : stem? text = none := by
  rw [stem?_eq_none_iff]
  intro s hs
  rw [Option.eq_none_iff_forall_ne_some]
  exact fun stem hstem => h (shows_of_isInfix (shows_of_stemAt? hstem) hs.isInfix)

/-- On one line an identifier character with `.ml` behind it names a module. -/
theorem stemAt?_of_isIdent {c : Char} (hc : isIdent c = true) {rest : List Char}
    (hrest : '\n' ∉ rest) : stemAt? ([c, '.', 'm', 'l'] ++ rest) = some [c] :=
  stemAt?_eq_some_iff.mpr ⟨by simp, by simpa using hc, rest, rfl, hrest⟩

/-- On one line the first place that names a module is where a module shows first. -/
theorem exists_showsFirst {text : List Char} (hline : '\n' ∉ text) (h : Shows text) :
    ∃ stem, stem? text = some stem ∧ ShowsFirst stem text := by
  have hsome : stem? text ≠ none := by
    obtain ⟨c, hc, before, rest, rfl⟩ := h
    rw [Ne, stem?_eq_none_iff]
    intro hnone
    have hrest : '\n' ∉ rest := fun hmem => hline (by simp [hmem])
    have hplace := hnone ([c, '.', 'm', 'l'] ++ rest) ⟨before, by simp⟩
    exact absurd ((stemAt?_of_isIdent hc hrest).symm.trans hplace) (by simp)
  obtain ⟨stem, hstem⟩ := Option.ne_none_iff_exists'.mp hsome
  obtain ⟨before, s, rfl, hs, hfront⟩ := exists_of_stem? hstem
  obtain ⟨hne, hident, after, rfl, hafter⟩ := stemAt?_eq_some_iff.mp hs
  refine ⟨stem, hstem, hne, hident, before, after, rfl, fun c hc => ?_, ?_⟩
  · -- An identifier character in front would belong to the module.
    by_contra hc'
    rw [Bool.not_eq_false] at hc'
    obtain ⟨start, rfl⟩ := List.getLast?_eq_some_iff.mp hc
    have hlonger : stemAt? ([c] ++ (stem ++ '.' :: 'm' :: 'l' :: after)) = some (c :: stem) := by
      refine stemAt?_eq_some_iff.mpr ⟨by simp, ?_, after, rfl, hafter⟩
      exact List.forall_mem_cons.mpr ⟨hc', hident⟩
    rw [hfront [c] (by simp) (List.suffix_append start [c])] at hlonger
    cases hlonger
  · rintro ⟨c, hc, front, rest, htext⟩
    have hsuffix : [c, '.', 'm', 'l'] ++ rest <:+ before ++ stem :=
      ⟨front, by rw [← htext, List.append_assoc]⟩
    rcases suffix_append_cases hsuffix with hin | ⟨w, hw, hsame, hbefore⟩
    · -- The module holds no dot.
      have hdot := hident '.' (hin.subset (by simp))
      exact Bool.noConfusion (isIdent_dot.symm.trans hdot)
    · have hplace : w ++ (stem ++ '.' :: 'm' :: 'l' :: after) =
          [c, '.', 'm', 'l'] ++ (rest ++ '.' :: 'm' :: 'l' :: after) := by
        rw [← List.append_assoc w, ← hsame]
        simp
      have hnone := hfront w hw hbefore
      rw [hplace, stemAt?_of_isIdent hc] at hnone
      · cases hnone
      · have hrest : '\n' ∉ rest := by
          intro hmem
          have hmem' : '\n' ∈ before ++ stem := hsuffix.subset (by simp [hmem])
          rcases List.mem_append.mp hmem' with hmem' | hmem'
          · exact hline (by simp [hmem'])
          · exact hline (by simp [hmem'])
        simp [hrest, hafter]

/-! ## Paths -/

theorem stem?_append_slash (folder last : List Char) :
    stem? (folder ++ '/' :: last) =
      if '\n' ∈ last then stem? last else (stem? folder).or (stem? last) := by
  induction folder with
  | nil =>
    have hslash := stemAt?_append_slash [] last
    rw [List.nil_append] at hslash
    rw [List.nil_append, stem?_cons, hslash]
    split
    · rfl
    · rfl
  | cons c folder ih =>
    have hslash := stemAt?_append_slash (c :: folder) last
    rw [List.cons_append] at hslash
    rw [List.cons_append, stem?_cons, stem?_cons, hslash, ih]
    split
    · rfl
    · exact Option.or_assoc.symm

theorem stem?_of_tells {last : List Char} {own : Option (List Char)} (h : Tells last own) :
    stem? last = own := by
  cases h with
  | @source base extension hne hbase hextension =>
    obtain ⟨more, rfl, hmore⟩ : ∃ more, extension = 'm' :: 'l' :: more ∧ '\n' ∉ more := by
      simp only [List.mem_cons, List.not_mem_nil, or_false] at hextension
      rcases hextension with rfl | rfl | rfl | rfl
      · exact ⟨[], rfl, by decide⟩
      · exact ⟨['i'], rfl, by decide⟩
      · exact ⟨['l'], rfl, by decide⟩
      · exact ⟨['y'], rfl, by decide⟩
    obtain ⟨c, base, rfl⟩ := List.exists_cons_of_ne_nil hne
    have hplace := stemAt?_eq_some_iff.mpr ⟨hne, hbase, more, rfl, hmore⟩
    rw [List.cons_append] at hplace ⊢
    rw [stem?_cons, hplace]
    rfl
  | other h => exact stem?_of_not_shows (not_shows_of_no_mark h)

/-! ## The law -/

/-- A path names the module that its last piece tells, if in the folder in front of it no `.ml`
stands behind an identifier character. Otherwise the module that shows first in the folder is
named, whatever the last piece tells, as long as the path is on one line. -/
theorem the_last_piece_names_the_module_unless_a_folder_does (folder last : String)
    {own : Option (List Char)} (hfolder : '\n' ∉ folder.toList) (hown : Tells last.toList own) :
    (¬Shows folder.toList ∨ '\n' ∈ last.toList →
      ofFile? (folder ++ "/" ++ last) = own.map fun stem => String.ofList (capitalize stem)) ∧
    (Shows folder.toList → '\n' ∉ last.toList →
      ∃ stem, ShowsFirst stem folder.toList ∧
        ofFile? (folder ++ "/" ++ last) = some (String.ofList (capitalize stem))) := by
  have htext : (folder ++ "/" ++ last).toList = folder.toList ++ '/' :: last.toList := by simp
  unfold ofFile?
  rw [htext, stem?_append_slash, stem?_of_tells hown]
  constructor
  · intro h
    split
    · rfl
    · rename_i hlast
      rw [stem?_of_not_shows (h.resolve_right hlast), Option.none_or]
  · intro hshows hlast
    obtain ⟨stem, hstem, hfirst⟩ := exists_showsFirst hfolder hshows
    refine ⟨stem, hfirst, ?_⟩
    rw [if_neg hlast, hstem]
    rfl

theorem a_parser_in_a_plain_folder_and_behind_a_source :
    Tells "parser.mly".toList (some "parser".toList) ∧
      ('\n' ∉ "/home/me/my.proj/src".toList ∧ ¬Shows "/home/me/my.proj/src".toList) ∧
      ofFile? ("/home/me/my.proj/src" ++ "/" ++ "parser.mly") = some "Parser" ∧
      ('\n' ∉ "/home/me/app.ml.d".toList ∧ Shows "/home/me/app.ml.d".toList ∧
        '\n' ∉ "parser.mly".toList) ∧
      ∃ stem, ShowsFirst stem "/home/me/app.ml.d".toList ∧
        ofFile? ("/home/me/app.ml.d" ++ "/" ++ "parser.mly") =
          some (String.ofList (capitalize stem)) := by
  have hown : Tells "parser.mly".toList (some "parser".toList) := by
    have hbase : ∀ c ∈ "parser".toList, isIdent c = true := List.all_eq_true.mp (by decide +kernel)
    have htext : "parser.mly".toList = "parser".toList ++ '.' :: "mly".toList := by decide
    exact htext ▸ .source (by decide) hbase (by simp)
  have hplain : ¬Shows "/home/me/my.proj/src".toList := not_shows_of_no_mark (by decide)
  have hshows : Shows "/home/me/app.ml.d".toList := ⟨'p', by decide +kernel, by decide⟩
  have hline : '\n' ∉ "parser.mly".toList := by decide
  obtain ⟨hnamed, -⟩ := the_last_piece_names_the_module_unless_a_folder_does
    "/home/me/my.proj/src" "parser.mly" (by decide) hown
  obtain ⟨-, htaken⟩ := the_last_piece_names_the_module_unless_a_folder_does
    "/home/me/app.ml.d" "parser.mly" (by decide) hown
  refine ⟨hown, ⟨by decide, hplain⟩, ?_, ⟨by decide, hshows, hline⟩, htaken hshows hline⟩
  rw [hnamed (Or.inl hplain)]
  decide +kernel

/-- The file has no say about a source of its own, nor about having none. -/
theorem a_folder_named_like_a_source_names_the_module :
    ofFile? "dir.ml/x.ml" = some "Dir" ∧ ofFile? "dir.ml/sub/foo" = some "Dir" := by
  decide +kernel

end OcamlAssist.ModuleName
