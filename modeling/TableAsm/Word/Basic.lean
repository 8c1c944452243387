import TableAsm.Text.Numeral

namespace TableAsm

abbrev Word := BitVec 64

def wordSize : Nat := 8

/-- The lowest `count` bytes of a number, least significant first. -/
def littleEndian : (count value : Nat) → Text
  | 0, _ => []
  | count + 1, value => UInt8.ofNat (value % 256) :: littleEndian count (value / 256)

/-- The number that bytes stand for, least significant first. -/
def littleEndianValue : Text → Nat
  | [] => 0
  | b :: rest => b.toNat + 256 * littleEndianValue rest

namespace Word

/-- The word moved up by a number of bits. What leaves the word is lost, so 64 bits lose it all and
no greater distance need be walked. -/
def raised (w : Word) (distance : Nat) : Word := w <<< min distance 64

def lowered (w : Word) (distance : Nat) : Word := w >>> min distance 64

theorem raised_eq_shiftLeft (w : Word) (distance : Nat) : raised w distance = w <<< distance := by
  rcases Nat.le_total distance 64 with h | h
  · rw [raised, Nat.min_eq_left h]
  · rw [raised, Nat.min_eq_right h, BitVec.shiftLeft_eq_zero h, BitVec.shiftLeft_eq_zero (Nat.le_refl 64)]

theorem lowered_eq_ushiftRight (w : Word) (distance : Nat) : lowered w distance = w >>> distance := by
  rcases Nat.le_total distance 64 with h | h
  · rw [lowered, Nat.min_eq_left h]
  · rw [lowered, Nat.min_eq_right h, BitVec.ushiftRight_eq_zero h,
      BitVec.ushiftRight_eq_zero (Nat.le_refl 64)]

def digits (w : Word) : Text := Text.fixedDigits 16 16 w.toNat

def text (w : Word) : Text := "0x" ++ digits w

def bytes (w : Word) : Text := littleEndian wordSize w.toNat

def ofBytes (t : Text) : Word := BitVec.ofNat 64 (littleEndianValue (t.take wordSize))

end Word

end TableAsm
