import TableAsm.Text.Basic

namespace TableAsm.Text

def sixBitByte (v : Nat) : UInt8 :=
  if v < 26 then UInt8.ofNat (0x41 + v)
  else if v < 52 then UInt8.ofNat (0x47 + v)
  else if v < 62 then UInt8.ofNat (v - 4)
  else if v = 62 then 0x2b
  else 0x2f

def sixBitValue? (b : UInt8) : Option Nat :=
  if 0x41 ≤ b ∧ b ≤ 0x5a then some (b.toNat - 0x41)
  else if 0x61 ≤ b ∧ b ≤ 0x7a then some (b.toNat - 0x47)
  else if 0x30 ≤ b ∧ b ≤ 0x39 then some (b.toNat + 4)
  else if b = 0x2b then some 62
  else if b = 0x2f then some 63
  else none

def padding : UInt8 := 0x3d

def base64 : Text → Text
  | a :: b :: c :: rest =>
    let n := a.toNat * 0x10000 + b.toNat * 0x100 + c.toNat
    sixBitByte (n / 0x40000) :: sixBitByte (n / 0x1000 % 0x40) :: sixBitByte (n / 0x40 % 0x40) ::
      sixBitByte (n % 0x40) :: base64 rest
  | [a, b] =>
    let n := a.toNat * 0x10000 + b.toNat * 0x100
    [sixBitByte (n / 0x40000), sixBitByte (n / 0x1000 % 0x40), sixBitByte (n / 0x40 % 0x40), padding]
  | [a] =>
    let n := a.toNat * 0x10000
    [sixBitByte (n / 0x40000), sixBitByte (n / 0x1000 % 0x40), padding, padding]
  | [] => []

def ofGroups64? : Text → Option Text
  | [] => some []
  | a :: b :: c :: d :: rest => do
    let a ← sixBitValue? a
    let b ← sixBitValue? b
    let first := UInt8.ofNat (a * 4 + b / 0x10)
    if c = padding then
      if d = padding ∧ rest = [] then return [first] else none
    else
      let c ← sixBitValue? c
      let second := UInt8.ofNat (b % 0x10 * 0x10 + c / 4)
      if d = padding then
        if rest = [] then return [first, second] else none
      else
        let d ← sixBitValue? d
        return first :: second :: UInt8.ofNat (c % 4 * 0x40 + d) :: (← ofGroups64? rest)
  | _ => none

def ofBase64? (t : Text) : Option Text :=
  ofGroups64? (t.filter fun b => b != newline && b != carriageReturn)

end TableAsm.Text
