-- The laws of sweeping the log files: what goes is every log file that is known
-- to be too old and can be removed, everything else stays, and a second sweep at
-- the same time finds nothing to do. A name is tried on the files as the names
-- before it left them, and no removal changes what is found under another name.
import OcamlAssist.Log.Files
import OcamlAssist.Proofs.Machine.Files

namespace OcamlAssist

/-! ## Extensions -/

namespace Path

theorem extensionOf_of_not_mem {name : List Char} (h : '.' ∉ name) : extensionOf name = none := by
  have hall : name.reverse.takeWhile (· != '.') = name.reverse :=
    List.takeWhile_eq_self_iff.mpr fun c hc =>
      bne_iff_ne.mpr fun heq => h (heq ▸ List.mem_reverse.mp hc)
  rw [extensionOf, hall]
  exact if_neg (by omega)

theorem extensionOf_append {stem ending : List Char} (h : '.' ∉ ending) :
    extensionOf (stem ++ '.' :: ending) = if stem = [] then none else some ending := by
  have hbefore : ∀ c ∈ ending.reverse, (c != '.') = true := fun c hc =>
    bne_iff_ne.mpr fun heq => h (heq ▸ List.mem_reverse.mp hc)
  have hending : (stem ++ '.' :: ending).reverse.takeWhile (· != '.') = ending.reverse := by
    rw [List.reverse_append, List.reverse_cons, List.append_assoc,
      List.takeWhile_append_of_pos hbefore]
    simp
  rw [extensionOf, hending]
  cases stem <;> simp

/-- An extension follows the last dot, and something stands before that dot. -/
theorem extensionOf_eq_some_iff {name ending : List Char} :
    extensionOf name = some ending ↔
      '.' ∉ ending ∧ ∃ stem, stem ≠ [] ∧ name = stem ++ '.' :: ending := by
  constructor
  · intro h
    by_cases hmem : '.' ∈ name.reverse
    · obtain ⟨after, before, heq, hafter⟩ := List.eq_append_cons_of_mem hmem
      have hname : name = before.reverse ++ '.' :: after.reverse := by
        simpa using congrArg List.reverse heq
      have hdot : '.' ∉ after.reverse := mt List.mem_reverse.mp hafter
      rw [hname, extensionOf_append hdot] at h
      split at h
      · cases h
      · rename_i hstem
        cases h
        exact ⟨hdot, before.reverse, hstem, hname⟩
    · rw [extensionOf_of_not_mem (mt List.mem_reverse.mpr hmem)] at h
      cases h
  · rintro ⟨hdot, stem, hstem, rfl⟩
    rw [extensionOf_append hdot, if_neg hstem]

end Path

namespace LogFiles

/-! ## Stale log files -/

/-- What stands under a name of a folder is a log file that is too old: the name ends as that of a
log does, with something in front, its own path can be followed, its time is told, and it can be
removed the way a file is. -/
structure IsStaleLog (m : Machine) (folder : Path) (place : Place) (maxAge : Nat) (name : String)
    (node : FileNode) : Prop where
  stands : m.files.node? (place ++ [name]) = some node
  named : ∃ stem, stem ≠ [] ∧ name.toList = stem ++ ".log".toList
  reached : FileTree.isTooLong (Path.append folder name) = false
  timed : (m.permission (place ++ [name])).timed = true
  old : node.modified + maxAge < m.now
  notFolder : node.isFolder = false
  removable : (m.permission (place ++ [name])).removable = true

/-- Whether a sweep removes what stands under a name. -/
def goes (m : Machine) (folder : Path) (place : Place) (maxAge : Nat) (name : String) : Bool :=
  !FileTree.isTooLong (Path.append folder name) && isLogName name &&
    isStale m maxAge (place ++ [name]) && (m.removeFile (place ++ [name])).isOk

theorem isLogName_iff {name : String} :
    isLogName name = true ↔ ∃ stem, stem ≠ [] ∧ name.toList = stem ++ ".log".toList := by
  rw [isLogName, beq_iff_eq, Path.extensionOf_eq_some_iff]
  exact and_iff_right (by decide)

variable {m : Machine} {folder : Path} {place : Place} {maxAge : Nat} {name : String}

theorem isStale_iff :
    isStale m maxAge place = true ↔
      (m.permission place).timed = true ∧
        ∃ node, m.files.node? place = some node ∧ node.modified + maxAge < m.now := by
  unfold isStale
  split
  · rename_i modified htime
    obtain ⟨htimed, node, hnode, rfl⟩ := Machine.modified?_eq_some_iff.mp htime
    simp [htimed, hnode, Nat.add_comm]
  · rename_i htime
    simp only [Bool.false_eq_true, false_iff]
    rintro ⟨htimed, node, hnode, -⟩
    rw [Machine.modified?_eq_some_iff.mpr ⟨htimed, node, hnode, rfl⟩] at htime
    cases htime

theorem isOk_removeFile_iff :
    (m.removeFile place).isOk = true ↔
      (∃ node, m.files.node? place = some node ∧ node.isFolder = false) ∧
        (m.permission place).removable = true := by
  rcases hremoved : m.removeFile place with fault | files
  · simp only [Except.isOk, Except.toBool, Bool.false_eq_true, false_iff]
    rintro ⟨hnode, hremovable⟩
    rw [Machine.removeFile_eq_ok_iff.mpr ⟨hnode, hremovable, rfl⟩] at hremoved
    cases hremoved
  · obtain ⟨hnode, hremovable, -⟩ := Machine.removeFile_eq_ok_iff.mp hremoved
    simp only [Except.isOk, Except.toBool, true_iff]
    exact ⟨hnode, hremovable⟩

theorem goes_iff :
    goes m folder place maxAge name = true ↔
      ∃ node, IsStaleLog m folder place maxAge name node := by
  simp only [goes, Bool.and_eq_true, Bool.not_eq_true', isLogName_iff, isStale_iff,
    isOk_removeFile_iff]
  constructor
  · rintro ⟨⟨⟨hreached, hnamed⟩, htimed, node, hnode, hold⟩, ⟨node', hnode', hfile⟩, hremovable⟩
    obtain rfl : node = node' := Option.some.inj (hnode.symm.trans hnode')
    exact ⟨node, hnode, hnamed, hreached, htimed, hold, hfile, hremovable⟩
  · rintro ⟨node, h⟩
    exact ⟨⟨⟨h.reached, h.named⟩, h.timed, node, h.stands, h.old⟩, ⟨node, h.stands, h.notFolder⟩,
      h.removable⟩

/-- Only what stands under a name decides whether it goes. -/
theorem goes_congr {files files' : FileTree}
    (h : files.node? (place ++ [name]) = files'.node? (place ++ [name])) :
    goes { m with files } folder place maxAge name =
      goes { m with files := files' } folder place maxAge name := by
  rw [Bool.eq_iff_iff, goes_iff, goes_iff]
  constructor
  · rintro ⟨node, hstale⟩
    exact ⟨node, { hstale with stands := h.symm.trans hstale.stands }⟩
  · rintro ⟨node, hstale⟩
    exact ⟨node, { hstale with stands := h.trans hstale.stands }⟩

/-! ## Trying names -/

/-- To try a name is to remove what stands there and to count it, if it goes. -/
theorem sweepName_eq (m : Machine) (folder : Path) (place : Place) (maxAge : Nat)
    (count : Nat) (files : FileTree) (name : String) :
    sweepName m folder place maxAge (count, files) name =
      if goes { m with files } folder place maxAge name then
        (count + 1, files.erase (place ++ [name]))
      else (count, files) := by
  unfold sweepName goes
  dsimp only
  split
  · rename_i hlong
    simp [hlong]
  · rename_i hshort
    split
    · rename_i hold
      rcases hremoved : Machine.removeFile { m with files } (place ++ [name]) with fault | left
      · simp [Except.isOk, Except.toBool]
      · obtain ⟨-, -, rfl⟩ := Machine.removeFile_eq_ok_iff.mp hremoved
        simp [hshort, hold, Except.isOk, Except.toBool]
    · rename_i hfresh
      rw [Bool.not_eq_true, Bool.and_eq_false_iff] at hfresh
      rcases hfresh with hname | hyoung
      · simp [hname]
      · simp [hyoung]

/-- To try names one after the other is to remove and count those that went from the start. -/
theorem foldl_sweepName (m : Machine) (folder : Path) (place : Place) (maxAge : Nat)
    {names : List String} (hnames : names.Nodup) (count : Nat) (files : FileTree) :
    names.foldl (sweepName m folder place maxAge) (count, files) =
      (count + (names.filter (goes { m with files } folder place maxAge)).length,
        files.without place (names.filter (goes { m with files } folder place maxAge))) := by
  induction names generalizing count files with
  | nil => rfl
  | cons name rest ih =>
    obtain ⟨hname, hrest⟩ := List.nodup_cons.mp hnames
    -- A removal leaves the names that are still to be tried as they are.
    have hlater : rest.filter (goes { m with files := files.erase (place ++ [name]) } folder place
        maxAge) = rest.filter (goes { m with files } folder place maxAge) := by
      refine List.filter_congr fun later hlater => goes_congr ?_
      have hne : place ++ [later] ≠ place ++ [name] := by
        simpa using fun heq : later = name => hname (heq ▸ hlater)
      rw [FileTree.node?_erase (by simp), if_neg hne]
    rw [List.foldl_cons, sweepName_eq]
    by_cases hgoes : goes { m with files } folder place maxAge name = true
    · rw [if_pos hgoes, ih hrest, hlater, List.filter_cons_of_pos hgoes, List.length_cons,
        Nat.add_right_comm, Nat.add_assoc]
      rfl
    · rw [if_neg hgoes, ih hrest, List.filter_cons_of_neg hgoes]

/-! ## Sweeping a folder -/

/-- The names of what a sweep removes from a folder. -/
def staleNames (m : Machine) (folder : Path) (place : Place) (maxAge : Nat) : List String :=
  ((m.files.within place).map Prod.fst).filter (goes m folder place maxAge)

/-- The files without the log files of a folder that are too old. -/
def sweptFiles (m : Machine) (folder : Path) (place : Place) (maxAge : Nat) : FileTree :=
  m.files.without place (staleNames m folder place maxAge)

theorem sweep_of_findFolder (h : m.files.Unique) (maxAge : Nat)
    (hlisted : (m.permission place).listed = true)
    (hplace : m.files.findFolder m.workingDir folder = .ok place) :
    sweep m folder maxAge =
      .ok ((staleNames m folder place maxAge).length, sweptFiles m folder place maxAge) := by
  have hnames : ((m.files.within place).map Prod.fst).Nodup := FileTree.nodup_names_within h place
  simp only [sweep, hplace, hlisted, if_true, foldl_sweepName m folder place maxAge hnames,
    Nat.zero_add]
  rfl

theorem sweep_of_missing (maxAge : Nat)
    (h : m.files.findFolder m.workingDir folder = .error .missing) :
    sweep m folder maxAge = .ok (0, m.files) := by
  simp only [sweep, h]

theorem sweep_of_fault (maxAge : Nat) {fault : FileFault} (hfault : fault ≠ .missing)
    (h : m.files.findFolder m.workingDir folder = .error fault) :
    sweep m folder maxAge = .error fault := by
  simp only [sweep, h]

theorem sweep_of_unlisted (maxAge : Nat) (hlisted : (m.permission place).listed = false)
    (hplace : m.files.findFolder m.workingDir folder = .ok place) :
    sweep m folder maxAge = .error .notAllowed := by
  simp [sweep, hplace, hlisted]

theorem unique_sweep {removed : Nat} {files : FileTree} (h : m.files.Unique)
    (hswept : sweep m folder maxAge = .ok (removed, files)) : files.Unique := by
  cases hfound : m.files.findFolder m.workingDir folder with
  | ok place =>
    cases hlisted : (m.permission place).listed with
    | true =>
      rw [sweep_of_findFolder h maxAge hlisted hfound] at hswept
      cases hswept
      exact FileTree.unique_without h place _
    | false =>
      rw [sweep_of_unlisted maxAge hlisted hfound] at hswept
      cases hswept
  | error fault =>
    by_cases hmissing : fault = .missing
    · rw [sweep_of_missing maxAge (hmissing ▸ hfound)] at hswept
      cases hswept
      exact h
    · rw [sweep_of_fault maxAge hmissing hfound] at hswept
      cases hswept

/-- The start of a log makes folders, sweeps and writes as far as it comes, and wherever it stops a
place still stands at most once. -/
theorem unique_start (settings : LogSettings) (h : m.files.Unique) :
    (start m settings).files.Unique := by
  unfold start
  split
  · have hmade := FileTree.unique_makeFolders m.workingDir m.now
      (LogFiles.folder m :: Path.ancestors (LogFiles.folder m)) h
    dsimp only
    split
    · exact hmade
    · split
      · exact hmade
      · rename_i removed swept hswept
        have hkept : swept.Unique := unique_sweep (m := { m with files := _ }) hmade hswept
        split
        · exact hkept
        · rename_i written hwritten
          exact FileTree.unique_writeFile hkept hwritten
  · exact h

end LogFiles

end OcamlAssist
