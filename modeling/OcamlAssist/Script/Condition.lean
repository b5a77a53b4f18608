-- Conditions: what the test command makes of its words. A word may be an
-- operator or an operand, and what it is depends on the words behind it.
import OcamlAssist.Script.Bytes

namespace OcamlAssist.Script

open OcamlAssist.Text

namespace Condition

/-! ## Operators -/

inductive Role where
  | finish
  | operand
  | unary (letter : Char)
  | binary (text : String)
  | and
  | or
  | not
  | opening
  | closing
  deriving DecidableEq

def operator? (word : ByteText) : Option Role :=
  let text := String.ofList word
  if ["=", "!=", "<", ">", "-eq", "-ne", "-gt", "-ge", "-lt", "-le", "-nt", "-ot", "-ef"].contains
      text then some (.binary text)
  else
    match word with
    | ['('] => some .opening
    | [')'] => some .closing
    | ['!'] => some .not
    | ['-', 'a'] => some .and
    | ['-', 'o'] => some .or
    | ['-', letter] =>
      if "bcdefghkLnOGprsStuwxz".toList.contains letter then some (.unary letter) else none
    | _ => none

def isBinary : Option Role → Bool
  | some (.binary _) => true
  | _ => false

/-- The role of the first of some words. A question about one word is an operand if nothing stands
behind it, or something that is compared with it. -/
def roleAt : List ByteText → Role
  | [] => .finish
  | word :: rest =>
    match operator? word, rest with
    | none, _ => .operand
    | some .opening, [] => .operand
    | some (.unary _), [] => .operand
    | some (.unary letter), [_] => .unary letter
    | some (.unary letter), second :: _ =>
      if isBinary (operator? second) then .operand else .unary letter
    | some role, _ => role

/-! ## Answers -/

/-- Answers to the questions that are not about the words themselves. -/
structure Answers where
  about : (letter : Char) → ByteText → Bool
  between : (operator : String) → ByteText → ByteText → Bool

/-- A step through the words of a condition. It may end with a complaint. -/
abbrev Step := StateT (List ByteText) (Except ByteText)

def numberOf (word : ByteText) : Step Int :=
  match wholeNumber? false word with
  | some number => return number
  | none => throw (ofString "Illegal number: " ++ word)

def precedes : (a b : ByteText) → Bool
  | _, [] => false
  | [], _ :: _ => true
  | x :: a, y :: b => if x == y then precedes a b else x < y

def compare (answers : Answers) (operator : String) (a b : ByteText) : Step Bool := do
  let numbers (holds : Int → Int → Bool) : Step Bool := do
    let x ← numberOf a
    return holds x (← numberOf b)
  match operator with
  | "=" => return a == b
  | "!=" => return a != b
  | "<" => return precedes a b
  | ">" => return precedes b a
  | "-eq" => numbers (· == ·)
  | "-ne" => numbers (· != ·)
  | "-gt" => numbers (· > ·)
  | "-ge" => numbers (· ≥ ·)
  | "-lt" => numbers (· < ·)
  | "-le" => numbers (· ≤ ·)
  | _ => return answers.between operator a b

def ask (answers : Answers) (letter : Char) (word : ByteText) : Step Bool := do
  match letter with
  | 'n' => return !word.isEmpty
  | 'z' => return word.isEmpty
  | 't' => do
    let _ ← numberOf word
    return false
  | letter => return answers.about letter word

def advance (count : Nat) : Step Unit := modify (List.drop count)

def question (answers : Answers) (disjunction : Role → Step Bool) (role : Role) : Step Bool := do
  match role with
  | .finish => return false
  | .opening => do
    advance 1
    let inner := roleAt (← get)
    if inner = .closing then return false
    else
      let found ← disjunction inner
      advance 1
      if roleAt (← get) = .closing then return found
      else throw "closing paren expected".toList
  | .unary letter => do
    advance 1
    match ← get with
    | [] => throw (['-', letter] ++ ofString ": argument expected")
    | word :: _ => ask answers letter word
  | _ => do
    match ← get with
    | [] => return false
    | a :: rest =>
      match roleAt rest, rest with
      | .binary operator, _ :: b :: _ => do
        advance 2
        compare answers operator a b
      | .binary operator, _ => throw (ofString (operator ++ ": argument expected"))
      | _, _ => return !a.isEmpty

mutual

def disjunction (answers : Answers) : (depth : Nat) → Role → Step Bool
  | 0, _ => throw []
  | depth + 1, role => do
    let first ← conjunction answers depth role
    if roleAt ((← get).drop 1) = .or then
      advance 2
      let second ← disjunction answers depth (roleAt (← get))
      return first || second
    else return first

def conjunction (answers : Answers) : (depth : Nat) → Role → Step Bool
  | 0, _ => throw []
  | depth + 1, role => do
    let first ← negation answers depth role
    if roleAt ((← get).drop 1) = .and then
      advance 2
      let second ← conjunction answers depth (roleAt (← get))
      return first && second
    else return first

def negation (answers : Answers) : (depth : Nat) → Role → Step Bool
  | 0, _ => throw []
  | depth + 1, role => do
    if role = .not then
      let inner := roleAt ((← get).drop 1)
      if inner ≠ .finish then advance 1
      return !(← negation answers depth inner)
    else question answers (disjunction answers depth) role

end

/-- Whether a condition holds that starts with a role. Nothing but one word may be left of it. -/
def holdsFrom (answers : Answers) (role : Role) (words : List ByteText) : Except ByteText Bool := do
  let (found, rest) ← disjunction answers (4 * words.length + 8) role words
  match rest with
  | word :: _ :: _ =>
    throw (if word.isEmpty then ofString "unexpected operator"
      else word ++ ofString ": unexpected operator")
  | _ => return found

/-- Whether a condition of few words holds, which has to be read in one way only: an operator
between two words is one, and a sign in front of so few words turns them round. -/
def holds (answers : Answers) : List ByteText → Except ByteText Bool
  | [] => return false
  | first :: rest =>
    let words := first :: rest
    if words.length == 3 && isBinary (operator? (rest.headD [])) then holdsFrom answers .operand words
    else if words.length == 3 || words.length == 4 then
      if first == ['('] && words.getLast? == some [')'] then
        let inner := rest.dropLast
        holdsFrom answers (roleAt inner) inner
      else if first == ['!'] then do return !(← holds answers rest)
      else holdsFrom answers (roleAt words) words
    else holdsFrom answers (roleAt words) words

end Condition

end OcamlAssist.Script
