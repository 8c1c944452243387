import TableAsm.Text.Basic

namespace TableAsm.Text

def digitByte (d : Nat) : UInt8 :=
  if d < 10 then UInt8.ofNat (0x30 + d) else UInt8.ofNat (0x57 + d)

/-- The lowest `width` digits of `n`, most significant first. -/
def fixedDigits (base : Nat) : (width n : Nat) → Text
  | 0, _ => []
  | width + 1, n => fixedDigits base width (n / base) ++ [digitByte (n % base)]

def decimal (n : Nat) : Text := Nat.repr n

def signedDecimal : Int → Text
  | .ofNat n => decimal n
  | .negSucc n => "-" ++ decimal (n + 1)

def hex (n : Nat) : Text := (Nat.toDigits 16 n).flatMap ofChar

def hexPadded (width n : Nat) : Text :=
  List.replicate (width - (hex n).length) 0x30 ++ hex n

def hexCapital (width n : Nat) : Text :=
  (hexPadded width n).map fun b => if 0x61 ≤ b ∧ b ≤ 0x66 then b - 0x20 else b

def literal32 (v : UInt32) : Text := "0x" ++ fixedDigits 16 8 v.toNat

def digitValue? (b : UInt8) : Option Nat :=
  if 0x30 ≤ b ∧ b ≤ 0x39 then some (b.toNat - 0x30)
  else if 0x61 ≤ b ∧ b ≤ 0x7a then some (b.toNat - 0x57)
  else if 0x41 ≤ b ∧ b ≤ 0x5a then some (b.toNat - 0x37)
  else none

inductive NumeralProblem where
  | malformed
  | outOfRange
  deriving DecidableEq, Repr

def readDigits (base max : Nat) : (n : Nat) → Text → Except NumeralProblem Nat
  | n, [] => .ok n
  | n, b :: rest =>
    match digitValue? b with
    | none => .error .malformed
    | some d =>
      if base ≤ d then .error .malformed
      else if max < n * base + d then .error .outOfRange
      else readDigits base max (n * base + d) rest

def readNatural (base max : Nat) (t : Text) : Except NumeralProblem Nat :=
  if t.isEmpty then .error .malformed else readDigits base max 0 t

def max32 : Nat := 0xffffffff

def max64 : Nat := 0xffffffffffffffff

def fitsSigned (n : Int) : Bool := -0x8000000000000000 ≤ n && n < 0x8000000000000000

def isDigit (b : UInt8) : Bool := 0x30 ≤ b && b ≤ 0x39

end TableAsm.Text
