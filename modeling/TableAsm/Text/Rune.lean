import TableAsm.Text.Basic

namespace TableAsm

structure Rune where
  code : Nat
  bytes : Text
  deriving DecidableEq, Repr

namespace Rune

def replacementCode : Nat := 0xfffd

def ofCode (n : Nat) : Rune :=
  if Nat.isValidChar n then ⟨n, Text.ofChar (Char.ofNat n)⟩ else ⟨replacementCode, [0xef, 0xbf, 0xbd]⟩

def isStray (r : Rune) : Bool := r.code == replacementCode && r.bytes.length == 1

/-- How a sequence that starts with a byte goes on: the number of further bytes and the range of
the first of them. -/
def continuation? (b : UInt8) : Option (Nat × UInt8 × UInt8) :=
  if 0xc2 ≤ b ∧ b ≤ 0xdf then some (1, 0x80, 0xbf)
  else if b = 0xe0 then some (2, 0xa0, 0xbf)
  else if b = 0xed then some (2, 0x80, 0x9f)
  else if 0xe1 ≤ b ∧ b ≤ 0xef then some (2, 0x80, 0xbf)
  else if b = 0xf0 then some (3, 0x90, 0xbf)
  else if 0xf1 ≤ b ∧ b ≤ 0xf3 then some (3, 0x80, 0xbf)
  else if b = 0xf4 then some (3, 0x80, 0x8f)
  else none

def isContinuation (b : UInt8) : Bool := 0x80 ≤ b && b ≤ 0xbf

/-- The number of bytes of `rest` that belong to the sequence started by `b`; none when the
sequence is not valid. -/
def extraBytes (b : UInt8) (rest : Text) : Nat :=
  match continuation? b, rest with
  | some (n, low, high), c :: more =>
    let tail := more.take (n - 1)
    if low ≤ c && c ≤ high && tail.length == n - 1 && tail.all isContinuation then n else 0
  | _, _ => 0

def sequenceCode (b : UInt8) (tail : Text) : Nat :=
  let lead :=
    match tail.length with
    | 0 => if b < 0x80 then b.toNat else replacementCode
    | 1 => b.toNat % 0x20
    | 2 => b.toNat % 0x10
    | _ => b.toNat % 0x08
  tail.foldl (fun code c => code * 0x40 + c.toNat % 0x40) lead

def read (b : UInt8) (rest : Text) : Rune :=
  let tail := rest.take (extraBytes b rest)
  ⟨sequenceCode b tail, b :: tail⟩

end Rune

namespace Text

/-- Reads runes in front of which `acc` was read (last first); `skip` bytes still belong to the
rune read last. -/
def runesOnto (acc : List Rune) : (skip : Nat) → Text → List Rune
  | _, [] => acc.reverse
  | 0, b :: rest => runesOnto (Rune.read b rest :: acc) (Rune.extraBytes b rest) rest
  | skip + 1, _ :: rest => runesOnto acc skip rest

def runes (t : Text) : List Rune := runesOnto [] 0 t

def ofRunes (rs : List Rune) : Text := rs.flatMap Rune.bytes

def isValid (t : Text) : Bool := t.runes.all fun r => !r.isStray

def repaired (t : Text) : Text :=
  t.runes.flatMap fun r => (Rune.ofCode r.code).bytes

end Text

end TableAsm
