-- Readers: a reader takes something off the front of a text and leaves the
-- rest, or refuses and leaves everything. Alternatives try one reader after
-- the other on the same text.
namespace OcamlAssist.Text

/-- Takes something off the front of a text, or refuses. -/
abbrev Reader (α : Type) := StateT (List Char) Option α

namespace Reader

variable {α β : Type}

def whole (reader : Reader α) (text : List Char) : Option α :=
  match reader text with
  | some (found, []) => some found
  | _ => none

/-! ## Characters -/

def next? : Reader (Option Char) := do return (← get).head?

def one (accepts : Char → Bool) : Reader Char := do
  match ← get with
  | c :: rest => if accepts c then set rest; return c else failure
  | [] => failure

/-- The longest run of characters that a test accepts, which may be empty. -/
def run (accepts : Char → Bool) : Reader (List Char) := do
  let text ← get
  set (text.dropWhile accepts)
  return text.takeWhile accepts

def someRun (accepts : Char → Bool) : Reader (List Char) := do
  let found ← run accepts
  if found.isEmpty then failure else return found

def exactly (accepts : Char → Bool) : Nat → Reader (List Char)
  | 0 => return []
  | count + 1 => do
    let c ← one accepts
    return c :: (← exactly accepts count)

def word : List Char → Reader Unit
  | [] => return ()
  | c :: rest => do
    let _ ← one (· == c)
    word rest

def atEnd : Reader Unit := do if (← get).isEmpty then return () else failure

/-! ## Combinations -/

def optional (reader : Reader α) : Reader (Option α) := (some <$> reader) <|> return none

/-- What a reader takes again and again until it refuses or takes nothing off. -/
def repeatedFrom (reader : Reader α) (text : List Char) : List α × List Char :=
  match reader text with
  | none => ([], text)
  | some (found, rest) =>
    if _ : rest.length < text.length then
      let (others, rest) := repeatedFrom reader rest
      (found :: others, rest)
    else ([found], rest)
  termination_by text.length

def repeated (reader : Reader α) : Reader (List α) := fun text => some (repeatedFrom reader text)

/-- What a reader takes, at least once, with something else between neighbours. -/
def separated (reader : Reader α) (separator : Reader β) : Reader (List α) := do
  let first ← reader
  let others ← repeated (do let _ ← separator; reader)
  return first :: others

def captured (reader : Reader α) : Reader (α × List Char) := do
  let before ← get
  let found ← reader
  return (found, before.take (before.length - (← get).length))

end Reader

end OcamlAssist.Text
