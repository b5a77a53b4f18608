-- The law of what a candidate puts into the text: the modules in front of its
-- name fall away if none of them holds what is typed. The first module that
-- holds it is cut at the place where it does, and stays with all that follows.
import OcamlAssist.Proofs.Completion.Listing

namespace OcamlAssist.Listing

open OcamlAssist.Text

/-! ## Lines with a qualified name -/

/-- A line of the listing: a name with the modules that it is in, what is displayed, and the kind
with the type. -/
structure QualifiedLine where
  modules : List (List Char)
  name : List Char
  display : List Char
  rest : List Char
  modules_no_dot : ∀ m ∈ modules, '.' ∉ m
  qualified_no_space : ' ' ∉ join ['.'] (modules ++ [name])
  qualified_one_line : '\n' ∉ join ['.'] (modules ++ [name])
  display_no_space : ' ' ∉ display
  display_one_line : '\n' ∉ display
  rest_one_line : '\n' ∉ rest

namespace QualifiedLine

/-- The name with its modules in front, and dots in between. -/
def qualified (l : QualifiedLine) : List Char := join ['.'] (l.modules ++ [l.name])

/-- The line as the index tool writes it. -/
def text (l : QualifiedLine) : String :=
  String.ofList (l.qualified ++ ' ' :: (l.display ++ ' ' :: l.rest))

/-- The line is listed as one entry, with what is left of the qualified name. -/
theorem entries_text (l : QualifiedLine) (typed : String) :
    ∃ item, entries l.text typed = [item] ∧
      item.insertText = String.ofList (insertion typed.toList l.qualified) := by
  have hline : '\n' ∉ l.qualified ++ ' ' :: (l.display ++ ' ' :: l.rest) := by
    simp [qualified, l.qualified_one_line, l.display_one_line, l.rest_one_line]
  have hpieces : piecesAt '\n' (unwrap false l.text.toList) = [l.text.toList] := by
    have hunwrap := unwrap_append hline []
    rw [List.append_nil, unwrap, List.append_nil] at hunwrap
    rw [text, String.toList_ofList, hunwrap]
    refine pieces_of_no_separator fun c hc => ?_
    rw [beq_eq_false_iff_ne]
    rintro rfl
    exact hline hc
  have hqualified : ' ' ∉ l.qualified := l.qualified_no_space
  have hitem : itemOf? typed.toList l.text.toList = some
      { label := String.ofList (l.display ++ '\t' :: annotation l.rest)
        insertText := String.ofList (insertion typed.toList l.qualified)
        kind := ItemKind.ofWord (String.ofList ((words l.rest).headD []))
        source := .indexer } := by
    simp [itemOf?, text, cutAt_append hqualified, cutAt_append l.display_no_space]
  exact ⟨_, by rw [entries, hpieces, List.filterMap_cons_some hitem, List.filterMap_nil], rfl⟩

end QualifiedLine

/-! ## Where a qualified name is cut -/

section

variable {typed : List Char} (hne : typed ≠ []) (hdot : '.' ∉ typed)

include hne hdot

theorem fromFirst?_join_passed {passed rest : List (List Char)} (hrest : rest ≠ [])
    (hpassed : ∀ m ∈ passed, ¬typed <:+: m) :
    fromFirst? typed (join ['.'] (passed ++ rest)) = fromFirst? typed (join ['.'] rest) := by
  induction passed with
  | nil => rfl
  | cons m passed ih =>
    have hnone : fromFirst? typed m = none :=
      fromFirst?_eq_none_iff.mpr (hpassed m List.mem_cons_self)
    have happend : passed ++ rest ≠ [] := List.append_ne_nil_of_right_ne_nil passed hrest
    rw [List.cons_append, join_cons_of_ne_nil ['.'] m happend, List.singleton_append,
      fromFirst?_append_separator hne hdot, hnone,
      ih fun x hx => hpassed x (List.mem_cons_of_mem m hx)]
    rfl

theorem insertion_of_passed {modules : List (List Char)} {name : List Char}
    (hname : typed <+: name) (hpassed : ∀ m ∈ modules, ¬typed <:+: m) :
    insertion typed (join ['.'] (modules ++ [name])) = name := by
  have hfirst : fromFirst? typed (join ['.'] [name]) = some name :=
    fromFirst?_eq_some_iff.mpr ⟨List.suffix_rfl, hname, fun s hs _ => hs⟩
  have hjoin := fromFirst?_join_passed hne hdot (List.cons_ne_nil name []) hpassed
  rw [insertion, hjoin, hfirst]
  rfl

/-- The first module that holds what is typed is cut there, and all that follows is left. -/
theorem insertion_of_held {passed behind : List (List Char)} {m tail name : List Char}
    (hpassed : ∀ m ∈ passed, ¬typed <:+: m) (hm : IsFromFirst typed m tail) :
    insertion typed (join ['.'] ((passed ++ m :: behind) ++ [name])) =
      tail ++ '.' :: join ['.'] (behind ++ [name]) := by
  have hfirst : fromFirst? typed m = some tail := fromFirst?_eq_some_iff.mpr hm
  have hjoin := fromFirst?_join_passed hne hdot (List.cons_ne_nil m (behind ++ [name])) hpassed
  have hbehind : behind ++ [name] ≠ [] := by simp
  rw [List.append_assoc, List.cons_append, insertion, hjoin, join_cons_of_ne_nil ['.'] m hbehind,
    List.singleton_append, fromFirst?_append_separator hne hdot, hfirst]
  rfl

end

theorem exists_first_held {typed : List Char} {modules : List (List Char)}
    (h : ¬∀ m ∈ modules, ¬typed <:+: m) :
    ∃ passed m behind tail, modules = passed ++ m :: behind ∧ (∀ f ∈ passed, ¬typed <:+: f) ∧
      IsFromFirst typed m tail := by
  have hholds : ∀ m, (fromFirst? typed m).isSome = false ↔ ¬typed <:+: m := by
    intro m
    rw [Option.isSome_eq_false_iff, Option.isNone_iff_eq_none, fromFirst?_eq_none_iff]
  simp only [← hholds] at h ⊢
  obtain ⟨passed, m, behind, rfl, hpassed, hm⟩ := exists_first h
  obtain ⟨tail, htail⟩ := Option.isSome_iff_exists.mp hm
  exact ⟨passed, m, behind, tail, rfl, hpassed, fromFirst?_eq_some_iff.mp htail⟩

/-! ## The law -/

/-- Of a qualified name whose last part begins with what is typed, that part alone is put into the
text exactly if no module in front of it holds what is typed. Otherwise the first module that
holds it is cut there, and the modules behind it are put in as well. -/
theorem modules_fall_away_unless_one_holds_what_is_typed (l : QualifiedLine) (typed : String)
    (hne : typed ≠ "") (hdot : '.' ∉ typed.toList) (hname : typed.toList <+: l.name) :
    ∃ item, entries l.text typed = [item] ∧
      (item.insertText = String.ofList l.name ↔ ∀ m ∈ l.modules, ¬typed.toList <:+: m) ∧
      ∀ passed m behind tail, l.modules = passed ++ m :: behind →
        (∀ f ∈ passed, ¬typed.toList <:+: f) → IsFromFirst typed.toList m tail →
          item.insertText = String.ofList (tail ++ '.' :: join ['.'] (behind ++ [l.name])) := by
  obtain ⟨item, hentries, hinsert⟩ := l.entries_text typed
  have hne' : typed.toList ≠ [] := fun h => hne (String.toList_eq_nil_iff.mp h)
  have hheld : ∀ passed m behind tail, l.modules = passed ++ m :: behind →
      (∀ f ∈ passed, ¬typed.toList <:+: f) → IsFromFirst typed.toList m tail →
        item.insertText = String.ofList (tail ++ '.' :: join ['.'] (behind ++ [l.name])) := by
    intro passed m behind tail hmodules hpassed htail
    rw [hinsert, QualifiedLine.qualified, hmodules, insertion_of_held hne' hdot hpassed htail]
  refine ⟨item, hentries, ⟨fun hwhole => ?_, fun hpassed => ?_⟩, hheld⟩
  · by_contra hnot
    obtain ⟨passed, m, behind, tail, hmodules, hpassed, htail⟩ := exists_first_held hnot
    -- What is left has the name at its end, and a dot more than that at least.
    have hcut := hheld passed m behind tail hmodules hpassed htail
    rw [hwhole, String.ofList_inj] at hcut
    have hlength := congrArg List.length hcut
    have hend := (suffix_join ['.'] behind l.name).length_le
    rw [List.length_append, List.length_cons] at hlength
    omega
  · rw [hinsert, QualifiedLine.qualified, insertion_of_passed hne' hdot hname hpassed]

theorem stdlib_and_list_fall_away :
    ∃ l : QualifiedLine, l.text = "Stdlib.List.map map value ('a -> 'b) -> 'a list -> 'b list" ∧
      ("ma" ≠ "" ∧ '.' ∉ "ma".toList ∧ "ma".toList <+: l.name) ∧
      ∃ item, entries l.text "ma" = [item] ∧ item.insertText = "map" := by
  let line : QualifiedLine :=
    ⟨["Stdlib".toList, "List".toList], "map".toList, "map".toList,
      "value ('a -> 'b) -> 'a list -> 'b list".toList, by decide, by decide, by decide, by decide,
      by decide, by decide⟩
  have hname : "ma".toList <+: line.name := by decide
  obtain ⟨item, hentries, hname_left, -⟩ :=
    modules_fall_away_unless_one_holds_what_is_typed line "ma" (by decide) (by decide) hname
  have hpassed : ∀ m ∈ line.modules, ¬"ma".toList <:+: m := by decide
  refine ⟨line, by decide, ⟨by decide, by decide, hname⟩, item, hentries, ?_⟩
  rw [hname_left.mpr hpassed]
  decide

/-- What is typed is looked for in the modules too: one of them is cut in its middle, and one that
begins with it stays. -/
theorem a_module_that_holds_what_is_typed_is_not_dropped :
    (entries "List.iter iter value ('a -> unit) -> 'a list -> unit" "i").map (·.insertText) =
        ["ist.iter"] ∧
      (entries "Stdlib.StdLabels StdLabels module sig end" "Std").map (·.insertText) =
        ["Stdlib.StdLabels"] := by
  decide +kernel

end OcamlAssist.Listing
