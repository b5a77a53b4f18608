-- Numbers with a point. A number is kept as a whole number of 53 bits times a
-- power of two, and every text that is read or written is rounded exactly, a
-- half to the even neighbour.
import OcamlAssist.Script.Bytes

namespace OcamlAssist.Script

open OcamlAssist.Text

inductive Fraction where
  /-- A mantissa times a power of two. -/
  | finite (negative : Bool) (mantissa : Nat) (exponent : Int)
  | infinite (negative : Bool)
  | notNumber (negative : Bool)
  deriving DecidableEq, Repr

namespace Fraction

/-! ## Rounding -/

/-- A quotient rounded to the nearest whole number, a half to the even one. -/
def quotient (n d : Nat) : Nat :=
  let q := n / d
  let twice := 2 * (n % d)
  if d < twice || (twice == d && q % 2 == 1) then q + 1 else q

def scaled (base n d : Nat) (power : Int) : Nat × Nat :=
  if 0 ≤ power then (n * Nat.pow base power.toNat, d) else (n, d * Nat.pow base (-power).toNat)

/-- A ratio rounded to a fraction, and whether it is in the range of fractions. -/
def ofRatio (negative : Bool) (n d : Nat) : Fraction × Bool :=
  if n = 0 then (.finite negative 0 0, true)
  else
    let guess : Int := (Nat.log2 n : Int) - Nat.log2 d - 53
    let whole (exponent : Int) : Nat :=
      let (n, d) := scaled 2 n d (-exponent)
      n / d
    let exponent := if whole guess < 9007199254740992 then guess else guess + 1
    let exponent := max exponent (-1074)
    let (n, d) := scaled 2 n d (-exponent)
    let mantissa := quotient n d
    if mantissa = 0 then (.finite negative 0 0, false)
    else if 1024 < (Nat.log2 mantissa : Int) + exponent + 1 then (.infinite negative, false)
    else
      (.finite negative mantissa exponent,
        4503599627370496 ≤ mantissa || (n % d == 0))

/-! ## Reading -/

def exponentAt (letter : Char) (text : ByteText) : Int × ByteText :=
  match text with
  | c :: rest =>
    if c.toLower != letter then (0, text)
    else
      let (negative, digits) := match rest with
        | '-' :: digits => (true, digits)
        | '+' :: digits => (false, digits)
        | digits => (false, digits)
      let found := digits.takeWhile Char.isDigit
      if found.isEmpty then (0, text)
      else
        let size : Int := min (decimal found) 100000
        (if negative then -size else size, digits.dropWhile Char.isDigit)
  | [] => (0, text)

def pointedDigits (accepts : Char → Bool) (text : ByteText) : ByteText × ByteText × ByteText :=
  let before := text.takeWhile accepts
  match text.dropWhile accepts with
  | '.' :: rest =>
    let after := rest.takeWhile accepts
    if before.isEmpty && after.isEmpty then ([], [], text)
    else (before, after, rest.dropWhile accepts)
  | rest => (before, [], rest)

def finiteAt (negative : Bool) (text : ByteText) : Option (Fraction × Bool × ByteText) :=
  let isHex (c : Char) : Bool := c.isDigit || ('a' ≤ c.toLower && c.toLower ≤ 'f')
  let hexadecimal : Option (ByteText × ByteText × ByteText) :=
    match text with
    | '0' :: x :: rest =>
      let (before, after, rest) := pointedDigits isHex rest
      if x.toLower == 'x' && !(before.isEmpty && after.isEmpty) then some (before, after, rest)
      else none
    | _ => none
  match hexadecimal with
  | some (before, after, rest) =>
    let (power, rest) := exponentAt 'p' rest
    let (n, d) := scaled 2 (numberOf 16 (before ++ after)) 1 (power - 4 * after.length)
    let (found, fits) := ofRatio negative n d
    some (found, fits, rest)
  | none =>
    let (before, after, rest) := pointedDigits Char.isDigit text
    if before.isEmpty && after.isEmpty then none
    else
      let (power, rest) := exponentAt 'e' rest
      let digits := decimal (before ++ after)
      let power := power - after.length
      let size : Int := (before ++ after).length
      if digits = 0 then some (.finite negative 0 0, true, rest)
      else if 400 < power + size then some (.infinite negative, false, rest)
      else if power + size < -400 then some (.finite negative 0 0, false, rest)
      else
        let (n, d) := scaled 10 digits 1 power
        let (found, fits) := ofRatio negative n d
        some (found, fits, rest)

def readAt (text : ByteText) : Option (Fraction × Bool × ByteText) :=
  let start := text.dropWhile isWhite
  let (negative, start) := match start with
    | '-' :: rest => (true, rest)
    | '+' :: rest => (false, rest)
    | _ => (false, start)
  let named (name : String) (found : Fraction) : Option (Fraction × Bool × ByteText) :=
    if (start.take name.length).map Char.toLower == name.toList then
      some (found, true, start.drop name.length)
    else none
  (finiteAt negative start).or <| (named "infinity" (.infinite negative)).or <|
    (named "inf" (.infinite negative)).or (named "nan" (.notNumber negative))

/-! ## Writing -/

def digits (count n : Nat) : List Char :=
  let found := (toString n).toList
  List.replicate (count - found.length) '0' ++ found

def fixedPlaces (n d places : Nat) (keepsPoint : Bool) : List Char :=
  let all := digits (places + 1) (quotient (n * Nat.pow 10 places) d)
  let whole := all.take (all.length - places)
  let behind := all.drop (all.length - places)
  if behind.isEmpty && !keepsPoint then whole else whole ++ '.' :: behind

/-- The power of ten of the first digit of a ratio, and the number that its digits spell, one in
front of the point and so many places behind it. -/
def leading (n d places : Nat) : Int × Nat :=
  if n = 0 then (0, 0)
  else
    let guess : Int := ((toString n).length : Int) - (toString d).length
    let isBelow (power : Int) : Bool :=
      let (n, d) := scaled 10 n d (-power)
      n < d
    let power := if isBelow guess then guess - 1 else guess
    let (n, d) := scaled 10 n d (places - power)
    let found := quotient n d
    if Nat.pow 10 (places + 1) ≤ found then (power + 1, found / 10) else (power, found)

/-- A ratio with one digit in front of the point, so many places behind it, and an exponent. -/
def scientific (n d places : Nat) (keepsPoint : Bool) (letter : Char) : List Char :=
  let (power, found) := leading n d places
  let all := digits (places + 1) found
  let behind := all.drop 1
  let sign := if power < 0 then '-' else '+'
  all.take 1 ++ (if behind.isEmpty && !keepsPoint then [] else '.' :: behind) ++
    letter :: sign :: digits 2 power.natAbs

def withoutZeros (text : List Char) : List Char :=
  if text.contains '.' then
    let kept := (text.reverse.dropWhile (· == '0'))
    (if kept.head? == some '.' then kept.tail else kept).reverse
  else text

/-- A ratio with so many digits that count, in the shorter of both ways to write it. -/
def shorter (n d count : Nat) (keepsZeros : Bool) (letter : Char) : List Char :=
  let count := max count 1
  let (power, _) := leading n d (count - 1)
  let kept (text : List Char) : List Char := if keepsZeros then text else withoutZeros text
  if -4 ≤ power && power < count then
    kept (fixedPlaces n d ((count : Int) - 1 - power).toNat keepsZeros)
  else
    let text := scientific n d (count - 1) keepsZeros letter
    kept (text.takeWhile (· != letter)) ++ text.dropWhile (· != letter)

def written (kind : Char) (precision : Option Nat) (alternative : Bool) : Fraction → List Char
  | .infinite _ => if kind.isUpper then "INF".toList else "inf".toList
  | .notNumber _ => if kind.isUpper then "NAN".toList else "nan".toList
  | .finite _ mantissa exponent =>
    let (n, d) := scaled 2 mantissa 1 exponent
    let places := precision.getD 6
    match kind.toLower with
    | 'f' => fixedPlaces n d places alternative
    | 'e' => scientific n d places alternative kind
    | _ => shorter n d places alternative (if kind.isUpper then 'E' else 'e')

def isNegative : Fraction → Bool
  | .infinite negative => negative
  | .notNumber negative => negative
  | .finite negative _ _ => negative

def isFinite : Fraction → Bool
  | .finite _ _ _ => true
  | _ => false

end Fraction

end OcamlAssist.Script
