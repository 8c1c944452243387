import TableAsm.Text.Numeral

namespace TableAsm

def daysIn (year month : Nat) : Nat :=
  if month = 2 then
    (if year % 4 = 0 ∧ (year % 100 ≠ 0 ∨ year % 400 = 0) then 29 else 28)
  else if month = 4 ∨ month = 6 ∨ month = 9 ∨ month = 11 then 30
  else 31

/-- How the parts of a date or time are written: always in two digits, or in one or two. -/
inductive PartWidth where
  | two
  | oneOrTwo
  deriving DecidableEq, Repr

namespace Text

def part? (width : PartWidth) : Text → Option (Nat × Text)
  | [] => none
  | [a] => if isDigit a ∧ width = .oneOrTwo then some (a.toNat - 0x30, []) else none
  | a :: b :: rest =>
    if !isDigit a then none
    else if isDigit b then some ((a.toNat - 0x30) * 10 + (b.toNat - 0x30), rest)
    else if width = .oneOrTwo then some (a.toNat - 0x30, b :: rest)
    else none

def date? (width : PartWidth) (t : Text) : Option Text := do
  let year := t.take 4
  guard (year.length = 4 && year.all isDigit)
  let year := year.foldl (fun n b => n * 10 + (b.toNat - 0x30)) 0
  let (month, rest) ← part? width (← after? "-" (t.drop 4))
  let (day, rest) ← part? width (← after? "-" rest)
  guard (1 ≤ month && month ≤ 12 && 1 ≤ day && day ≤ daysIn year month)
  return rest

def afterFraction : Text → Text
  | mark :: digit :: rest =>
    if (mark = 0x2e ∨ mark = 0x2c) ∧ isDigit digit then rest.dropWhile isDigit
    else mark :: digit :: rest
  | t => t

def clock? (width : PartWidth) (t : Text) : Option Text := do
  let (hour, rest) ← part? width t
  let (minute, rest) ← part? width (← after? ":" rest)
  let (second, rest) ← part? width (← after? ":" rest)
  guard (hour < 24 && minute < 60 && second < 60)
  return afterFraction rest

def zone? : Text → Option Text
  | 0x5a :: rest => some rest
  | sign :: rest => do
    guard (sign = 0x2b || sign = 0x2d)
    let (hours, rest) ← part? .two rest
    let (minutes, rest) ← part? .two (← after? ":" rest)
    guard (hours ≤ 24 && minutes ≤ 60)
    return rest
  | [] => none

end Text

end TableAsm
