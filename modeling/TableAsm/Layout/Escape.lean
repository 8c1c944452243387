import TableAsm.Text.Decimal
import TableAsm.Text.Width

/-!
Terminal escape sequences inside text. They take no columns. A control sequence runs from the escape
character and `[` to `m`, a command from the escape character and `]` to a backslash; the command
that sets a link runs to the bell or to the escape character and a backslash. A sequence that is
never finished hides the rest of the text.
-/
namespace TableAsm

namespace Escape

inductive Kind where
  | unknown
  | control
  | command
  deriving DecidableEq, Repr

def start : Nat := 0x1b
def bell : Nat := 0x07
def backslash : Nat := 0x5c
def controlEnd : Nat := 0x6d

def reset : Text := "\x1b[0m"

/-- The codes that a link sequence starts with, last first. -/
def linkStart : List Nat := [0x3b, 0x38, 0x5d, start]

structure Sequence where
  kind : Kind := .unknown
  isLink : Bool := false
  /-- The codes read so far, last first. -/
  codes : List Nat := [start]

namespace Sequence

def nextKind (s : Sequence) (code : Nat) : Kind :=
  match s.kind with
  | .unknown => if code = 0x5b then .control else if code = 0x5d then .command else .unknown
  | kind => kind

def push (s : Sequence) (code : Nat) : Sequence :=
  { kind := s.nextKind code, isLink := s.isLink || code :: s.codes == linkStart,
    codes := code :: s.codes }

def isFinished (s : Sequence) : Bool :=
  match s.isLink, s.kind, s.codes with
  | true, _, last :: before :: _ => last == bell || (last == backslash && before == start)
  | false, .control, last :: _ => last == controlEnd
  | false, .command, last :: _ => last == backslash
  | _, _, _ => false

end Sequence

inductive Step where
  | shown
  | hidden (s : Sequence)
  | finished (s : Sequence)

def step : Option Sequence → Nat → Step
  | none, code => if code = start then .hidden {} else .shown
  | some s, code =>
    let s := s.push code
    if s.isFinished then .finished s else .hidden s

def Step.rest : Step → Option Sequence
  | .hidden s => some s
  | _ => none

/-- A text measured line by line: the columns of the widest finished line and of the current one, and
the sequence being read. A newline inside a sequence ends no line. -/
structure Measure where
  widest : Nat := 0
  current : Nat := 0
  within : Option Sequence := none

def Measure.add (m : Measure) (r : Rune) : Measure :=
  match step m.within r.code with
  | .shown =>
    if r.code = Text.newline.toNat then { m with widest := max m.widest m.current, current := 0 }
    else { m with current := m.current + r.width }
  | other => { m with within := other.rest }

abbrev Attributes := List Int

def Attributes.insert (code : Int) : Attributes → Attributes
  | [] => [code]
  | first :: rest =>
    if code < first then code :: first :: rest
    else if code = first then first :: rest
    else first :: insert code rest

/-- The attributes after a code: zero takes back all, some codes take back others, every other code
is an attribute. -/
def Attributes.apply (attributes : Attributes) (code : Int) : Attributes :=
  let without := fun (taken : List Int) => attributes.filter fun a => !taken.contains a
  if code = 0 then []
  else if code = 22 then without [1, 2]
  else if code = 23 then without [3]
  else if code = 24 then without [4]
  else if code = 25 then without [5, 6]
  else if code = 27 then without [7]
  else if code = 29 then without [9]
  else attributes.insert code

def Attributes.sequence (attributes : Attributes) : Text :=
  if attributes.isEmpty then []
  else "\x1b[" ++ Text.joined ";" (attributes.map Text.signedDecimal) ++ "m"

def withoutFirst (part : Text) : Text → Text
  | [] => []
  | b :: rest =>
    match Text.after? part (b :: rest) with
    | some remaining => remaining
    | none => b :: withoutFirst part rest

def code? (t : Text) : Option Int :=
  let (negative, digits) := Text.splitSign t
  match Text.readNatural 10 Text.max64 digits with
  | .ok n =>
    let value : Int := if negative then -(n : Int) else n
    if Text.fitsSigned value then some value else none
  | .error _ => none

def Sequence.attributes (s : Sequence) : List Int :=
  let text : Text := s.codes.reverse.flatMap fun code => (Rune.ofCode code).bytes
  let bare :=
    if s.kind = .command then withoutFirst "\\" (withoutFirst "\x1b]" text)
    else withoutFirst "m" (withoutFirst "\x1b[" text)
  (bare.splitAt 0x3b).filterMap code?

def Attributes.after (attributes : Attributes) (word : Text) : Attributes :=
  (word.runes.foldl
    (fun (within, attributes) r =>
      let next := step within r.code
      match next with
      | .finished s => (none, s.attributes.foldl Attributes.apply attributes)
      | _ => (next.rest, attributes))
    ((none : Option Sequence), attributes)).2

end Escape

namespace Text

def widestLine (t : Text) : Nat :=
  let m := t.runes.foldl Escape.Measure.add {}
  max m.widest m.current

def shownWidth (t : Text) : Nat :=
  (t.runes.foldl
    (fun (within, columns) r =>
      match Escape.step within r.code with
      | .shown => (none, columns + r.width)
      | other => (other.rest, columns))
    ((none : Option Escape.Sequence), 0)).2

end Text

end TableAsm
