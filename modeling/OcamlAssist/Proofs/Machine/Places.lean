-- The laws of where paths lead: a path is walked piece by piece, a file is one
-- piece behind its directory, and all that a walk does to the place where it
-- starts is to go some levels up and then down along some names.
import OcamlAssist.Machine.Files
import OcamlAssist.Proofs.Text.Split
import Mathlib.Data.List.DropRight

namespace OcamlAssist

open OcamlAssist.Text

/-! ## Walks -/

/-- Where pieces lead, one after the other. -/
def Place.walk (start : Place) (pieces : List (List Char)) : Place := pieces.foldl Place.after start

theorem Place.along_eq_walk (here : Place) (path : Path) :
    here.along path =
      Place.walk (if Path.isAbsolute path.toList then [] else here)
        (piecesAt '/' path.toList) := rfl

theorem Place.after_idle {place : Place} {piece : List Char} (h : Path.isIdle piece = true) :
    place.after piece = place := if_pos h

theorem Place.walk_cons (place : Place) (piece : List Char) (rest : List (List Char)) :
    place.walk (piece :: rest) = (place.after piece).walk rest := rfl

theorem Place.walk_append (place : Place) (front back : List (List Char)) :
    place.walk (front ++ back) = (place.walk front).walk back := List.foldl_append

theorem Place.walk_idle {place : Place} {pieces : List (List Char)}
    (h : ∀ piece ∈ pieces, Path.isIdle piece = true) : place.walk pieces = place := by
  induction pieces with
  | nil => rfl
  | cons piece rest ih =>
    rw [Place.walk_cons, Place.after_idle (h piece List.mem_cons_self)]
    exact ih fun p hp => h p (List.mem_cons_of_mem piece hp)

/-! ## Walks through the files -/

/-- A piece is followed from a folder only, and only if it is not too long for a name. -/
theorem follow_cons_eq_ok_iff {tree : FileTree} {start place : Place} {piece : List Char}
    {rest : List (List Char)} :
    tree.follow start (piece :: rest) = .ok place ↔
      tree.isFolder start = true ∧
      (Path.isIdle piece = true ∨ (piece == ['.', '.']) = true ∨
        (encode piece).length ≤ FileTree.longestName) ∧
      tree.follow (start.after piece) rest = .ok place := by
  rw [FileTree.follow]
  unfold Place.after FileTree.isFolder
  split <;> rename_i hnode <;> simp only [hnode]
  · simp
  · simp [FileNode.isFolder]
  · simp [FileNode.isFolder]
  · by_cases hidle : Path.isIdle piece = true
    · simp [hidle, FileNode.isFolder]
    · by_cases hup : (piece == ['.', '.']) = true
      · simp [hidle, hup, FileNode.isFolder]
      · by_cases hlong : FileTree.longestName < (encode piece).length
        · simp [hidle, hup, hlong, Nat.not_le.mpr hlong]
        · simp [hidle, hup, hlong, Nat.le_of_not_lt hlong, FileNode.isFolder]

/-- A walk through the files leads where the pieces lead. -/
theorem walk_of_follow {tree : FileTree} {start place : Place} {pieces : List (List Char)}
    (h : tree.follow start pieces = .ok place) : place = start.walk pieces := by
  induction pieces generalizing start with
  | nil =>
    cases h
    rfl
  | cons piece rest ih => exact ih (follow_cons_eq_ok_iff.mp h).2.2

theorem resolve_eq_ok_iff {tree : FileTree} {here place : Place} {path : Path} :
    tree.resolve here path = .ok place ↔
      ('\x00' ∉ path.toList ∧ path.toList ≠ [] ∧ FileTree.isTooLong path = false) ∧
      tree.follow (if Path.isAbsolute path.toList then [] else here)
        (piecesAt '/' path.toList) = .ok place := by
  simp only [FileTree.resolve]
  split
  · simp_all
  · split
    · simp_all
    · split <;> simp_all

theorem along_of_resolve {tree : FileTree} {here place : Place} {path : Path}
    (h : tree.resolve here path = .ok place) : place = here.along path :=
  walk_of_follow (resolve_eq_ok_iff.mp h).2

theorem findFolder_eq_ok_iff {tree : FileTree} {here place : Place} {path : Path} :
    tree.findFolder here path = .ok place ↔
      tree.resolve here path = .ok place ∧ tree.isFolder place = true := by
  simp only [FileTree.findFolder, bind, Except.bind]
  rcases tree.resolve here path with fault | found
  · simp
  · by_cases hfound : found = place
    · subst hfound
      simp only [FileTree.isFolder, true_and]
      rcases tree.node? found with _ | _ | _ | _ <;> simp [FileNode.isFolder]
    · have hne : Except.ok (ε := FileFault) found ≠ .ok place := by simpa using hfound
      simp only [hne, false_and, iff_false]
      split
      · exact hne
      · nofun
      · nofun

/-- The folder that a path leads to among the files stands where its pieces lead without them. -/
theorem along_of_findFolder {tree : FileTree} {here place : Place} {path : Path}
    (h : tree.findFolder here path = .ok place) : place = here.along path :=
  along_of_resolve (findFolder_eq_ok_iff.mp h).1

/-! ## Directories -/

namespace Path

theorem walk_dropIdleEnd (place : Place) (found : List (List Char)) :
    place.walk (dropIdleEnd found) = place.walk found := by
  have hidle : ∀ piece ∈ found.rtakeWhile isIdle, isIdle piece = true :=
    fun piece hpiece => List.mem_rtakeWhile_imp hpiece
  calc place.walk (dropIdleEnd found)
    _ = (place.walk (found.rdropWhile isIdle)).walk (found.rtakeWhile isIdle) :=
      (Place.walk_idle hidle).symm
    _ = place.walk found := by rw [← Place.walk_append, List.rdropWhile_append_rtakeWhile]

/-- What may stand before the pieces of a path, in front of which text. -/
inductive Opens : (front rest : List Char) → Prop
  | root {rest : List Char} : Opens ['/'] rest
  | here {rest : List Char} (stops : ∀ c ∈ rest.head?, c = '/') : Opens ['.'] rest
  | bare {rest : List Char} (inside : ∀ c ∈ rest.head?, c ≠ '/') : Opens [] rest

theorem opens_opening (path : List Char) :
    ∃ rest, path = opening path ++ rest ∧ Opens (opening path) rest := by
  unfold opening
  by_cases habsolute : isAbsolute path = true
  · obtain ⟨rest, rfl⟩ := List.head?_eq_some_iff.mp (beq_iff_eq.mp habsolute)
    exact ⟨rest, rfl, .root⟩
  · by_cases hhere : startsHere path = true
    · unfold startsHere at hhere
      split at hhere
      · exact ⟨[], rfl, .here (by simp)⟩
      · rename_i rest
        exact ⟨'/' :: rest, rfl, .here (by simp)⟩
      · cases hhere
    · refine ⟨path, by simp [habsolute, hhere], ?_⟩
      simp only [habsolute, hhere, Bool.or_self, Bool.false_eq_true, if_false]
      refine .bare fun c hc hslash => habsolute ?_
      rw [isAbsolute, hc, hslash, beq_self_eq_true]

namespace Opens

variable {front rest : List Char}

/-- The text in front stays as it is before the first pieces of the rest. -/
theorem of_prefix {start : List Char} (h : Opens front rest) (hstart : start <+: rest) :
    Opens front start := by
  have hhead : ∀ c ∈ start.head?, c ∈ rest.head? := by
    obtain ⟨more, rfl⟩ := hstart
    intro c hc
    rw [List.head?_append, hc]
    rfl
  cases h with
  | root => exact .root
  | here hstops => exact .here fun c hc => hstops c (hhead c hc)
  | bare hinside => exact .bare fun c hc => hinside c (hhead c hc)

theorem isAbsolute_eq (h : Opens front rest) : isAbsolute (front ++ rest) = isAbsolute front := by
  cases h with
  | root => rfl
  | here => rfl
  | bare hinside =>
    rw [List.nil_append, isAbsolute, isAbsolute, List.head?_nil]
    rcases hhead : rest.head? with _ | c
    · rfl
    · have hc := hinside c hhead
      simpa using hc

/-- Only the pieces of the rest lead anywhere. -/
theorem walk_eq (h : Opens front rest) (place : Place) :
    place.walk (piecesAt '/' (front ++ rest)) = place.walk (piecesAt '/' rest) := by
  cases h with
  | root => rfl
  | bare => rfl
  | here hstops =>
    cases rest with
    | nil => rfl
    | cons c rest =>
      rw [hstops c rfl]
      rfl

end Opens

theorem walk_piecesAt_join {found : List (List Char)} (h : ∀ piece ∈ found, '/' ∉ piece)
    (place : Place) : place.walk (piecesAt '/' (join ['/'] found)) = place.walk found := by
  rcases found with _ | ⟨piece, rest⟩
  · rfl
  · rw [piecesAt_join (List.cons_ne_nil piece rest) h]

/-- A directory is made of the pieces of the path before the last that says something. -/
theorem pieces_of_parent? {file dir : Path} (h : parent? file = some dir)
    (hdir : dir.isEmpty = false) :
    ∃ front rest found last, Opens front rest ∧ file.toList = front ++ rest ∧
      dropIdleEnd (piecesAt '/' rest) = found ++ [last] ∧
      dir.toList = front ++ join ['/'] (dropIdleEnd found) := by
  unfold parent? at h
  split at h
  · split at h
    · cases h
      cases hdir
    · cases h
  · rename_i last before htidy
    obtain ⟨rest, hfile, hopens⟩ := opens_opening file.toList
    have hrest : file.toList.drop (opening file.toList).length = rest := by
      conv_lhs => arg 2; rw [hfile]
      exact List.drop_left
    rw [tidyPieces, hrest] at htidy
    rw [Option.some.injEq] at h
    refine ⟨opening file.toList, rest, before.reverse, last, hopens, hfile, ?_, ?_⟩
    · exact (List.reverse_eq_iff.mp htidy).trans List.reverse_cons
    · rw [← h, String.toList_ofList]

/-- A path is one piece behind its directory, wherever it starts. -/
theorem along_of_parent? {file dir : Path} (h : parent? file = some dir)
    (hdir : dir.isEmpty = false) :
    isAbsolute dir.toList = isAbsolute file.toList ∧
      ∃ last, ∀ here : Place, here.along file = (here.along dir).after last := by
  obtain ⟨front, rest, found, last, hopens, hfile, hpieces, hchars⟩ := pieces_of_parent? h hdir
  -- What is joined are pieces of the path, so it comes apart again, and it starts as the path does.
  have hfound : dropIdleEnd found <+: piecesAt '/' rest := calc
    dropIdleEnd found <+: found := List.rdropWhile_prefix _ _
    _ <+: found ++ [last] := List.prefix_append _ _
    _ <+: piecesAt '/' rest := hpieces ▸ List.rdropWhile_prefix _ _
  have hslash : ∀ piece ∈ dropIdleEnd found, '/' ∉ piece := by
    intro piece hpiece hmem
    have hsame := not_separator_of_mem_pieces (hfound.mem hpiece) hmem
    cases hsame
  have hjoin : join ['/'] (dropIdleEnd found) <+: rest := by
    have hprefix := join_prefix_join ['/'] hfound
    rwa [join_piecesAt] at hprefix
  have hdirOpens := hopens.of_prefix hjoin
  have habsolute : isAbsolute dir.toList = isAbsolute file.toList := by
    rw [hchars, hfile, hdirOpens.isAbsolute_eq, hopens.isAbsolute_eq]
  refine ⟨habsolute, last, fun here => ?_⟩
  rw [Place.along_eq_walk, Place.along_eq_walk, habsolute, hchars, hdirOpens.walk_eq,
    walk_piecesAt_join hslash, walk_dropIdleEnd]
  generalize (if isAbsolute file.toList then [] else here) = start
  rw [hfile, hopens.walk_eq, ← walk_dropIdleEnd, hpieces, Place.walk_append]
  rfl

end Path

/-! ## Routes -/

/-- A way through folders: so many levels up, then down along some names. -/
structure Route where
  up : Nat := 0
  down : List String := []

namespace Route

/-- Where a route leads. There is nothing above the root. -/
def lead (route : Route) (place : Place) : Place :=
  place.take (place.length - route.up) ++ route.down

/-- The route with one piece more. -/
def after (route : Route) (piece : List Char) : Route :=
  if Path.isIdle piece then route
  else if piece == ['.', '.'] then
    if route.down.isEmpty then { route with up := route.up + 1 }
    else { route with down := route.down.dropLast }
  else { route with down := route.down ++ [String.ofList piece] }

/-- The route of a path, its root aside. -/
def ofPath (path : Path) : Route := (piecesAt '/' path.toList).foldl after {}

theorem lead_after (route : Route) (place : Place) (piece : List Char) :
    (route.after piece).lead place = (route.lead place).after piece := by
  obtain ⟨up, down⟩ := route
  unfold after Place.after
  by_cases hidle : Path.isIdle piece = true
  · rw [if_pos hidle, if_pos hidle]
  · rw [if_neg hidle, if_neg hidle]
    by_cases hup : (piece == ['.', '.']) = true
    · rw [if_pos hup, if_pos hup]
      -- A level up takes back the last name, or else goes further out.
      cases down with
      | nil =>
        simp only [lead, List.isEmpty_nil, if_true, List.append_nil]
        rw [List.dropLast_eq_take, List.length_take, List.take_take]
        congr 1
        omega
      | cons name names =>
        simp only [lead, List.isEmpty_cons, Bool.false_eq_true, if_false]
        exact (List.dropLast_append_of_ne_nil (List.cons_ne_nil name names)).symm
    · rw [if_neg hup, if_neg hup]
      exact (List.append_assoc _ _ _).symm

theorem lead_foldl (route : Route) (place : Place) (pieces : List (List Char)) :
    (pieces.foldl after route).lead place = (route.lead place).walk pieces := by
  induction pieces generalizing route with
  | nil => rfl
  | cons piece rest ih => rw [List.foldl_cons, ih, lead_after, Place.walk_cons]

theorem along_eq_lead {path : Path} (h : Path.isAbsolute path.toList = false) (here : Place) :
    here.along path = (ofPath path).lead here := by
  have hempty : ({} : Route).lead here = here := by simp [lead]
  rw [Place.along_eq_walk, h, ofPath, lead_foldl, hempty]
  rfl

/-- Whether a route leads from its end to its end again, when it was taken from a place: it goes as
many levels down as up, or it never gets out of the root. -/
def LeadsBack (route : Route) (place : Place) : Prop :=
  route.down.length = route.up ∨ place.length ≤ route.up ∧ route.down.length ≤ route.up

instance (route : Route) (place : Place) : Decidable (route.LeadsBack place) :=
  inferInstanceAs (Decidable (_ ∨ _ ∧ _))

/-- A route that is taken twice leads to where it leads once exactly if it leads back. -/
theorem lead_lead_iff (route : Route) (place : Place) :
    route.lead (route.lead place) = route.lead place ↔ route.LeadsBack place := by
  have hlength : (route.lead place).length = place.length - route.up + route.down.length := by
    rw [lead, List.length_append, List.length_take, Nat.min_eq_left (Nat.sub_le _ _)]
  have hcancel : route.lead (route.lead place) = route.lead place ↔
      (route.lead place).take ((route.lead place).length - route.up) =
        place.take (place.length - route.up) := List.append_left_inj route.down
  rw [hcancel, LeadsBack]
  constructor
  · -- Places that are equal are equally long, and that alone settles the levels.
    intro h
    have hlengths := congrArg List.length h
    rw [List.length_take, List.length_take, hlength] at hlengths
    omega
  · rintro (hlevel | ⟨hroot, hdown⟩)
    · have hkept : (route.lead place).length - route.up = place.length - route.up := by omega
      rw [hkept, lead]
      exact List.take_left' (by rw [List.length_take]; omega)
    · have hnone : (route.lead place).length - route.up = 0 := by omega
      rw [hnone, Nat.sub_eq_zero_of_le hroot, List.take_zero, List.take_zero]

end Route

/-- A path that is taken twice leads to where it leads once exactly if it starts at the root or its
route leads back. -/
theorem along_along_iff (here : Place) (path : Path) :
    (here.along path).along path = here.along path ↔
      Path.isAbsolute path.toList = true ∨ (Route.ofPath path).LeadsBack here := by
  by_cases habsolute : Path.isAbsolute path.toList = true
  · simp only [habsolute, true_or, iff_true]
    rw [Place.along_eq_walk, Place.along_eq_walk, if_pos habsolute, if_pos habsolute]
  · rw [Bool.not_eq_true] at habsolute
    rw [Route.along_eq_lead habsolute, Route.along_eq_lead habsolute, Route.lead_lead_iff]
    simp [habsolute]

-- A folder beside this one looks the same from within, and a folder below does not.
example :
    (Route.ofPath "../src").LeadsBack ["w", "lib"] ∧ ¬ (Route.ofPath "./src").LeadsBack ["w"] ∧
      Place.along ["w", "src"] "../src" = ["w", "src"] ∧
      Place.along ["w", "src"] "./src" = ["w", "src", "src"] := by
  decide +kernel

end OcamlAssist
