import TableAsm.Text.Numeral

namespace TableAsm

structure Decimal where
  negative : Bool
  digits : Nat
  exponent : Int
  deriving DecidableEq, Repr

structure Magnitude where
  significand : Nat
  exponent : Int
  deriving DecidableEq, Repr

def roundedQuotient (num den : Nat) : Nat :=
  let quotient := num / den
  let twice := 2 * (num % den)
  if den < twice ∨ (den = twice ∧ quotient % 2 = 1) then quotient + 1 else quotient

def Magnitude.floor (m : Magnitude) : Nat :=
  match m.exponent with
  | .ofNat e => m.significand * Nat.pow 2 e
  | .negSucc e => m.significand / Nat.pow 2 (e + 1)

namespace Decimal

def leastExponent : Int := -1074

def scaled (num den : Nat) : (shift : Int) → Nat × Nat
  | .ofNat s => (num, den * Nat.pow 2 s)
  | .negSucc s => (num * Nat.pow 2 (s + 1), den)

def nearest? (num den : Nat) : Option Magnitude :=
  let guess : Int := (Nat.log2 num : Int) - Nat.log2 den - 52
  let (n, d) := scaled num den guess
  let shift := max leastExponent (if n / d < 0x10000000000000 then guess - 1 else guess)
  let (n, d) := scaled num den shift
  let m : Magnitude := ⟨roundedQuotient n d, shift⟩
  if Nat.pow 2 1024 ≤ m.floor then none else some m

def magnitude? (d : Decimal) : Option Magnitude :=
  let top := (Text.decimal d.digits).length + d.exponent
  if d.digits = 0 ∨ top < -330 then some ⟨0, 0⟩
  else if 310 < top then none
  else
    match d.exponent with
    | .ofNat e => nearest? (d.digits * Nat.pow 10 e) 1
    | .negSucc e => nearest? d.digits (Nat.pow 10 (e + 1))

end Decimal

namespace Text

def splitSign : Text → Bool × Text
  | 0x2d :: rest => (true, rest)
  | 0x2b :: rest => (false, rest)
  | t => (false, t)

def digitsValue (t : Text) : Nat := t.foldl (fun n b => n * 10 + (b.toNat - 0x30)) 0

def exponent? : Text → Option Int
  | [] => some 0
  | mark :: rest =>
    let (negative, digits) := splitSign rest
    if (mark = 0x65 ∨ mark = 0x45) ∧ digits ≠ [] ∧ digits.all isDigit then
      some (if negative then -(digitsValue digits : Int) else digitsValue digits)
    else none

def splitFraction : Text → Text × Text
  | 0x2e :: rest => (rest.takeWhile isDigit, rest.dropWhile isDigit)
  | t => ([], t)

/-- Reads a decimal fraction: a sign, digits with a point in, before or after them, and an
exponent. -/
def decimal? (t : Text) : Option Decimal :=
  let (negative, unsigned) := splitSign t
  let whole := unsigned.takeWhile isDigit
  let (fraction, rest) := splitFraction (unsigned.dropWhile isDigit)
  if whole.isEmpty ∧ fraction.isEmpty then none
  else
    (exponent? rest).map fun exponent =>
      { negative, digits := digitsValue (whole ++ fraction)
        exponent := exponent - fraction.length }

/-- Does every underscore stand between two digits? The first argument says whether a digit stands
in front. -/
def marksSeparateDigits : Bool → Text → Bool
  | _, [] => true
  | afterDigit, b :: rest =>
    if b = 0x5f then afterDigit && (rest.head?.map isDigit).getD false && marksSeparateDigits false rest
    else marksSeparateDigits (isDigit b) rest

def withoutMarks (t : Text) : Text := t.filter (· != 0x5f)

/-- Reads an integer as it stands in a program: a sign, then decimal digits, or a base mark and
digits of that base, or a zero and octal digits. -/
def integer? (t : Text) : Option Int :=
  let (negative, unsigned) := splitSign t
  let read := fun (base : Nat) (digits : Text) =>
    match readNatural base max64 digits with
    | .ok n => some (if negative then -(n : Int) else n)
    | .error _ => none
  match unsigned with
  | 0x30 :: mark :: digits =>
    if mark = 0x78 ∨ mark = 0x58 then read 16 digits
    else if mark = 0x6f ∨ mark = 0x4f then read 8 digits
    else if mark = 0x62 ∨ mark = 0x42 then read 2 digits
    else read 8 (mark :: digits)
  | digits => read 10 digits

end Text

end TableAsm
