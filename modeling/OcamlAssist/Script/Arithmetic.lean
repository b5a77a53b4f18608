-- Arithmetic in words of 64 bits. An expression is worked out as it is read, so
-- that the first fault counts; what a condition rules out is read quietly, and
-- has no effect and no faults of its own.
import OcamlAssist.Script.Bytes

namespace OcamlAssist.Script

open OcamlAssist.Text

namespace Arithmetic

/-! ## Signs -/

inductive Sign where
  | finish
  | number (value : Int)
  | name (text : ByteText)
  | sign (text : String)
  | unknown
  deriving DecidableEq

def signs : List String :=
  ["<<=", ">>=", "==", "!=", "<=", ">=", "<<", ">>", "||", "&&", "*=", "/=", "%=", "+=", "-=",
    "&=", "|=", "^=", "=", "<", ">", "|", "&", "!", "(", ")", "*", "/", "%", "+", "-", "~", "^",
    "?", ":"]

def signAt (text : ByteText) : Sign × ByteText :=
  let text := text.dropWhile fun c => isGap c || c == '\n'
  match text with
  | [] => (.finish, [])
  | c :: _ =>
    if c.isDigit then
      let number := numberAt true text
      (.number number.value, number.rest)
    else if startsName c then (.name (nameAt text), text.drop (nameAt text).length)
    else
      match signs.find? fun sign => sign.toList.isPrefixOf text with
      | some sign => (.sign sign, text.drop sign.length)
      | none => (.unknown, text)

/-! ## Operations -/

/-- How strongly the operation of a sign binds. -/
def rank? : Sign → Option (Nat × String)
  | .sign text =>
    match text with
    | "|" => some (1, text)
    | "^" => some (2, text)
    | "&" => some (3, text)
    | "==" => some (4, text)
    | "!=" => some (4, text)
    | "<" => some (5, text)
    | "<=" => some (5, text)
    | ">" => some (5, text)
    | ">=" => some (5, text)
    | "<<" => some (6, text)
    | ">>" => some (6, text)
    | "+" => some (7, text)
    | "-" => some (7, text)
    | "*" => some (8, text)
    | "/" => some (8, text)
    | "%" => some (8, text)
    | _ => none
  | _ => none

def assigning? : Sign → Option String
  | .sign text =>
    match text with
    | "=" => some ""
    | "*=" => some "*"
    | "/=" => some "/"
    | "%=" => some "%"
    | "+=" => some "+"
    | "-=" => some "-"
    | "<<=" => some "<<"
    | ">>=" => some ">>"
    | "&=" => some "&"
    | "|=" => some "|"
    | "^=" => some "^"
    | _ => none
  | _ => none

def truth (t : Bool) : Int := if t then 1 else 0

def bits (n : Int) : BitVec 64 := BitVec.ofInt 64 n

/-- What an operation makes of two numbers. Dividing by zero gives nothing. -/
def operate (operation : String) (a b : Int) : Option Int :=
  let places := (b % 64).toNat
  match operation with
  | "|" => some (bits a ||| bits b).toInt
  | "^" => some (bits a ^^^ bits b).toInt
  | "&" => some (bits a &&& bits b).toInt
  | "==" => some (truth (a == b))
  | "!=" => some (truth (a != b))
  | "<" => some (truth (a < b))
  | "<=" => some (truth (a ≤ b))
  | ">" => some (truth (b < a))
  | ">=" => some (truth (b ≤ a))
  | "<<" => some (bits a <<< places).toInt
  | ">>" => some ((bits a).sshiftRight places).toInt
  | "+" => some (inWord (a + b))
  | "-" => some (inWord (a - b))
  | "*" => some (inWord (a * b))
  | "/" => if b = 0 then none else some (inWord (a.tdiv b))
  | "%" => if b = 0 then none else some (a.tmod b)
  | _ => some b

/-! ## Calculations -/

inductive Fault where
  | bad (cause : String)
  | badNumber (text : ByteText)
  | readOnly (name : ByteText)

structure Calculation where
  sign : Sign
  rest : ByteText
  lookup : ByteText → ByteText
  isReadOnly : ByteText → Bool
  /-- What was assigned, the latest first. -/
  assigned : List (ByteText × Int) := []

abbrev Step := StateT Calculation (Except Fault)

def advance : Step Unit := modify fun s =>
  let (sign, rest) := signAt s.rest
  { s with sign, rest }

def need (text : String) : Step Unit := do
  if (← get).sign = .sign text then advance else throw (.bad ("expecting '" ++ text ++ "'"))

def valueOf (name : ByteText) : Step Int := do
  let s ← get
  match s.assigned.lookup name with
  | some value => return value
  | none =>
    match wholeNumber? true (s.lookup name) with
    | some value => return value
    | none => throw (.badNumber (s.lookup name))

def operated (operation : String) (a b : Int) : Step Int :=
  match operate operation a b with
  | some value => return value
  | none => throw (.bad "division by zero")

def assign (name : ByteText) (value : Int) : Step Int := do
  let s ← get
  if s.isReadOnly name then throw (.readOnly name)
  set { s with assigned := (name, value) :: s.assigned }
  return value

mutual

def assignment : (depth : Nat) → (quiet : Bool) → Step Int
  | 0, _ => throw (.bad "expression recursion level exceeded")
  | depth + 1, quiet => do
    let s ← get
    match s.sign, assigning? (signAt s.rest).1 with
    | .name name, some operation => do
      advance
      advance
      let value ← assignment depth quiet
      if quiet then return value
      else if operation.isEmpty then assign name value
      else assign name (← operated operation (← valueOf name) value)
    | _, _ => conditional depth quiet

def conditional : (depth : Nat) → (quiet : Bool) → Step Int
  | 0, _ => throw (.bad "expression recursion level exceeded")
  | depth + 1, quiet => do
    let a ← disjunction depth quiet
    if (← get).sign = .sign "?" then
      advance
      let b ← assignment depth (quiet || a == 0)
      need ":"
      let c ← conditional depth (quiet || a != 0)
      return if a == 0 then c else b
    else return a

def disjunction : (depth : Nat) → (quiet : Bool) → Step Int
  | 0, _ => throw (.bad "expression recursion level exceeded")
  | depth + 1, quiet => do
    let a ← conjunction depth quiet
    if (← get).sign = .sign "||" then
      advance
      let b ← disjunction depth (quiet || a != 0)
      return truth (a != 0 || b != 0)
    else return a

def conjunction : (depth : Nat) → (quiet : Bool) → Step Int
  | 0, _ => throw (.bad "expression recursion level exceeded")
  | depth + 1, quiet => do
    let a ← operand depth quiet
    let a ← operations depth quiet 0 a
    if (← get).sign = .sign "&&" then
      advance
      let b ← conjunction depth (quiet || a == 0)
      return truth (a != 0 && b != 0)
    else return a

/-- Carries on from a value with the operations that bind more strongly than a rank. -/
def operations : (depth : Nat) → (quiet : Bool) → (rank : Nat) → Int → Step Int
  | 0, _, _, _ => throw (.bad "expression recursion level exceeded")
  | depth + 1, quiet, rank, a => do
    match rank? (← get).sign with
    | none => return a
    | some (found, operation) =>
      if found ≤ rank then return a
      else
        advance
        let b ← operand depth quiet
        let b ← operations depth quiet found b
        let a ← if quiet then pure b else operated operation a b
        operations depth quiet rank a

def operand : (depth : Nat) → (quiet : Bool) → Step Int
  | 0, _ => throw (.bad "expression recursion level exceeded")
  | depth + 1, quiet => do
    match (← get).sign with
    | .number value => do
      advance
      return value
    | .name name => do
      advance
      if quiet then return 0 else valueOf name
    | .sign "(" => do
      advance
      let value ← assignment depth quiet
      need ")"
      return value
    | .sign "+" => do
      advance
      operand depth quiet
    | .sign "-" => do
      advance
      return inWord (-(← operand depth quiet))
    | .sign "!" => do
      advance
      return truth ((← operand depth quiet) == 0)
    | .sign "~" => do
      advance
      return -(← operand depth quiet) - 1
    | _ => throw (.bad "expecting primary")

end

/-- The value of an expression, and what it assigned, the latest first. -/
def evaluate (lookup : ByteText → ByteText) (isReadOnly : ByteText → Bool) (text : ByteText) :
    Except Fault (Int × List (ByteText × Int)) := do
  let (sign, rest) := signAt text
  let (value, after) ← assignment (8 * text.length + 8) false { sign, rest, lookup, isReadOnly }
  if after.sign = .finish then return (value, after.assigned)
  else throw (.bad "expecting EOF")

end Arithmetic

end OcamlAssist.Script
