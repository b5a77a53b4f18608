-- The laws of a call's command line: whatever stands in the fields of a call,
-- its words say which call it is, as soon as it is known how many of them go
-- right before the query.
import OcamlAssist.Indexer.Invocation
import OcamlAssist.Proofs.Text.Split

namespace OcamlAssist

open OcamlAssist.Text

/-! ## Reading a command line -/

/-- What a word of the command line asks for. -/
def Subcommand.ofWord? : String → Option Subcommand
  | "type" => some .type
  | "complete" => some .complete
  | _ => none

namespace Invocation

/-- What the first word holds behind a mark, and the words after it. If the first word does not
begin with the mark, all words are left. -/
def readMarked (mark : String) : List String → Option String × List String
  | [] => (none, [])
  | word :: rest =>
    match after? mark.toList word.toList with
    | some value => (some (String.ofList value), rest)
    | none => (none, word :: rest)

/-- The values of a flag at the front, and the words after them. The word behind the flag is its
value, whatever it looks like. -/
def readFlags (flag : String) : List String → List String × List String
  | first :: value :: rest =>
    if first = flag then
      let (values, rest) := readFlags flag rest
      (value :: values, rest)
    else ([], first :: value :: rest)
  | words => ([], words)

/-- The call that the words of a command line say. The last word is the query, and `extra` words
stand right before it. -/
def ofArgs? (extra : Nat) (words : List String) : Option Invocation := do
  let front := words.take (words.length - (extra + 1))
  let back := words.drop (words.length - (extra + 1))
  let command ← front.head?.bind Subcommand.ofWord?
  let (context, front) := readMarked "--context=" front.tail
  let (includes, front) := readFlags "-I" front
  let (buildDir, front) := readMarked "--build=" front
  let (moduleNames, _) := readFlags "-F" front
  let query ← back.getLast?
  some
    { command
      includes
      moduleName := moduleNames.head?
      query
      context
      extraArgs := back.dropLast
      buildDir }

/-! ## Groups of words -/

/-- A word with a mark is read back in front of words that the mark cannot be taken for. -/
theorem readMarked_append (mark : String) (value : Option String) {rest : List String}
    (h : ∀ word, rest.head? = some word → after? mark.toList word.toList = none) :
    readMarked mark ((value.map fun text => mark ++ text).toList ++ rest) = (value, rest) := by
  cases value with
  | some text => simp [readMarked, after?_append]
  | none =>
    cases rest with
    | nil => rfl
    | cons word rest => simp [readMarked, h word rfl]

/-- A flag's values are read back in front of words that do not begin with the flag. -/
theorem readFlags_append (flag : String) (values rest : List String)
    (h : rest.head? ≠ some flag) :
    readFlags flag (values.flatMap (fun value => [flag, value]) ++ rest) = (values, rest) := by
  induction values with
  | nil =>
    match rest with
    | [] => rfl
    | [word] => rfl
    | first :: value :: rest =>
      have hfirst : first ≠ flag := fun heq => h (congrArg some heq)
      simp [readFlags, hfirst]
  | cons value values ih => simp [readFlags, ih]

/-! ## The words of a call -/

theorem ofWord?_word (command : Subcommand) :
    Subcommand.ofWord? command.word = some command := by
  cases command <;> rfl

/-- The words of the build directory, and of the module behind it. -/
def buildWords (i : Invocation) : List String :=
  (i.buildDir.map fun dir => "--build=" ++ dir).toList ++
    i.moduleName.toList.flatMap fun name => ["-F", name]

/-- The words of the includes, and of all groups behind them. -/
def includeWords (i : Invocation) : List String :=
  i.includes.flatMap (fun dir => ["-I", dir]) ++ i.buildWords

/-- The words in front of the extra ones: those whose number is not known before they are read. -/
def frontWords (i : Invocation) : List String :=
  i.command.word :: ((i.context.map fun place => "--context=" ++ place).toList ++ i.includeWords)

theorem args_eq (i : Invocation) : i.args = i.frontWords ++ (i.extraArgs ++ [i.query]) := by
  cases hmodule : i.moduleName <;>
    simp [args, frontWords, includeWords, buildWords, hmodule]

theorem readMarked_buildWords (i : Invocation) :
    readMarked "--build=" i.buildWords =
      (i.buildDir, i.moduleName.toList.flatMap fun name => ["-F", name]) := by
  refine readMarked_append "--build=" i.buildDir fun word hword => ?_
  cases hmodule : i.moduleName with
  | none => simp [hmodule] at hword
  | some name =>
    obtain rfl : "-F" = word := by simpa [hmodule] using hword
    rfl

theorem readFlags_includeWords (i : Invocation) :
    readFlags "-I" i.includeWords = (i.includes, i.buildWords) := by
  refine readFlags_append "-I" i.includes i.buildWords ?_
  cases hbuild : i.buildDir with
  | none => cases hmodule : i.moduleName <;> simp [buildWords, hbuild, hmodule]
  | some dir =>
    have hmark : "--build=" ++ dir ≠ "-I" := by
      intro heq
      simpa using congrArg String.toList heq
    simpa [buildWords, hbuild] using hmark

theorem readMarked_includeWords (i : Invocation) : readMarked "--context="
      ((i.context.map fun place => "--context=" ++ place).toList ++ i.includeWords) =
    (i.context, i.includeWords) := by
  refine readMarked_append "--context=" i.context fun word hword => ?_
  -- The next word is that of the first group that is not empty.
  cases hincludes : i.includes with
  | cons dir dirs =>
    obtain rfl : "-I" = word := by simpa [includeWords, hincludes] using hword
    rfl
  | nil =>
    cases hbuild : i.buildDir with
    | some dir =>
      obtain rfl : "--build=" ++ dir = word := by
        simpa [includeWords, buildWords, hincludes, hbuild] using hword
      simp [after?]
    | none =>
      cases hmodule : i.moduleName with
      | some name =>
        obtain rfl : "-F" = word := by
          simpa [includeWords, buildWords, hincludes, hbuild, hmodule] using hword
        rfl
      | none => simp [includeWords, buildWords, hincludes, hbuild, hmodule] at hword

/-- A call is read back from its words. -/
theorem ofArgs?_args (i : Invocation) : ofArgs? i.extraArgs.length i.args = some i := by
  have hlength : i.args.length - (i.extraArgs.length + 1) = i.frontWords.length := by
    simp [args_eq]
  have hmodule : readFlags "-F" (i.moduleName.toList.flatMap fun name => ["-F", name]) =
      (i.moduleName.toList, []) := by
    simpa using readFlags_append "-F" i.moduleName.toList [] (by simp)
  unfold ofArgs?
  rw [hlength, args_eq, List.take_left, List.drop_left]
  simp [frontWords, ofWord?_word, readMarked_includeWords, readFlags_includeWords,
    readMarked_buildWords, hmodule]

/-! ## The law -/

/-- Calls with the same number of extra words have the same words only if they are the same call, in
every field: a field that looks like an option is never taken for one, and a field that is there
and empty is never taken for one that is not there. -/
theorem the_words_say_which_call_it_is (i j : Invocation)
    (hextra : i.extraArgs.length = j.extraArgs.length) : i.args = j.args ↔ i = j := by
  constructor
  · intro hargs
    have hread := ofArgs?_args i
    rw [hargs, hextra, ofArgs?_args j, Option.some.injEq] at hread
    exact hread.symm
  · rintro rfl
    rfl

theorem the_words_tell_an_include_from_a_module :
    let i : Invocation := { command := .type, includes := ["--build=", "-F"], query := "-F" }
    let j : Invocation :=
      { command := .type, includes := ["--build="], moduleName := some "-F", query := "-F" }
    i.extraArgs.length = j.extraArgs.length ∧ i.args ≠ j.args := by
  intro i j
  refine ⟨rfl, fun hargs => ?_⟩
  have hsame : i = j := (the_words_say_which_call_it_is i j rfl).mp hargs
  exact absurd hsame (by decide)

-- Without the number of extra words, a module in front of the query reads like two of them.
example :
    let i : Invocation := { command := .type, moduleName := some "M", query := "x" }
    let j : Invocation := { command := .type, extraArgs := ["-F", "M"], query := "x" }
    i.args = j.args ∧ i ≠ j := by
  decide

end Invocation

end OcamlAssist
