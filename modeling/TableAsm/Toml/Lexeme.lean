import TableAsm.Text.Character
import TableAsm.Text.Decimal
import TableAsm.Text.Moment
import TableAsm.Text.Rune
import TableAsm.Toml.Written

namespace TableAsm.Toml

def isLineEnd (c : Char) : Bool := c == lineFeed || c.toNat == 0x0d

/-- Are control characters only those that may stand in a document? A carriage return stands in
front of a line feed. -/
def controlsAdmitted : List Nat → Bool
  | [] => true
  | n :: rest =>
    let admitted :=
      if n = 0x0d then rest.head? == some 0x0a
      else n == 0x09 || n == 0x0a || (0x20 ≤ n && n != 0x7f)
    admitted && controlsAdmitted rest

def withoutOrderMark (t : Text) : Text :=
  (Text.after? [0xff, 0xfe] t <|> Text.after? [0xfe, 0xff] t <|> Text.after? [0xef, 0xbb, 0xbf] t).getD t

def characters? (t : Text) : Option (List Char) :=
  let runes := (withoutOrderMark t).runes
  if runes.any Rune.isStray ∨ !controlsAdmitted (runes.map Rune.code) then none
  else some (runes.map fun r => Char.ofNat r.code)

def dropBlanks (cs : List Char) : List Char := cs.dropWhile isBlank

def dropComment (cs : List Char) : List Char :=
  if cs.head? = some '#' then cs.dropWhile (!isLineEnd ·) else cs

def dropLines (inComment : Bool) : List Char → List Char
  | [] => []
  | c :: rest =>
    if isLineEnd c then dropLines false rest
    else if inComment then dropLines true rest
    else if isBlank c then dropLines false rest
    else if c = '#' then dropLines true rest
    else c :: rest

/-- The characters of the next line, after what may follow a value on its own; none when more than
that follows. -/
def lineEnd? (cs : List Char) : Option (List Char) :=
  match dropComment (dropBlanks cs) with
  | [] => some []
  | c :: rest => if isLineEnd c then some rest else none

def hexValue? (c : Char) : Option Nat :=
  if c.isDigit then some (c.toNat - 0x30)
  else if 'a' ≤ c ∧ c ≤ 'f' then some (c.toNat - 0x57)
  else if 'A' ≤ c ∧ c ≤ 'F' then some (c.toNat - 0x37)
  else none

def codeChar? (digits : List Char) : Option Char := do
  let code ← digits.foldlM (fun n c => (hexValue? c).map (n * 16 + ·)) 0
  if Nat.isValidChar code then some (Char.ofNat code) else none

def escaped? (c : Char) : Option Char :=
  if c = quotationMark ∨ c = backslash then some c
  else
    match c with
    | 'b' => some (Char.ofNat 0x08)
    | 't' => some tab
    | 'n' => some lineFeed
    | 'f' => some (Char.ofNat 0x0c)
    | 'r' => some (Char.ofNat 0x0d)
    | _ => none

def codeLength (c : Char) : Nat := if c = 'u' then 4 else if c = 'U' then 8 else 0

inductive StringState where
  | text
  /-- In the white space after a backslash at the end of a line. -/
  | trimming
  | escape
  /-- In a code of which some digits are left; those read stand last first. -/
  | code (left : Nat) (digits : List Char)
  deriving DecidableEq, Repr

def lineBreaksHere (cs : List Char) : Bool :=
  (cs.takeWhile fun c => isBlank c || isLineEnd c).contains lineFeed

def basicFrom (value : List Char) : StringState → List Char → Option (List Char × List Char)
  | _, [] => none
  | .escape, c :: rest =>
    match escaped? c, codeLength c with
    | some e, _ => basicFrom (e :: value) .text rest
    | none, 0 => none
    | none, n => basicFrom value (.code n []) rest
  | .code left digits, c :: rest =>
    if 1 < left then basicFrom value (.code (left - 1) (c :: digits)) rest
    else
      match codeChar? (c :: digits).reverse with
      | some e => basicFrom (e :: value) .text rest
      | none => none
  | _, c :: rest =>
    if isLineEnd c then none
    else if c = quotationMark then some (value.reverse, rest)
    else if c = backslash then basicFrom value .escape rest
    else basicFrom (c :: value) .text rest

/-- Does the delimiter of a string of several lines stand here, and how many delimiters more? Up to
two of the marks in front of the last three belong to the string. -/
inductive Closing where
  | closes
  | belongs
  | excess
  deriving DecidableEq, Repr

/-- What a delimiter at the front means; `raw` is the string so far as it was written, last
first. -/
def closing (mark : Char) (raw rest : List Char) : Closing :=
  if rest.take 2 ≠ [mark, mark] then .belongs
  else if rest[2]? ≠ some mark then .closes
  else if raw.take 2 = [mark, mark] ∧ !(mark = quotationMark ∧ raw[2]? = some backslash) then .excess
  else .belongs

/-- Reads on in a string of several lines; `raw` is the string so far as it was written, last
first. -/
def multilineFrom (raw value : List Char) : StringState → List Char → Option (List Char × List Char)
  | _, [] => none
  | .escape, c :: rest =>
    if lineBreaksHere (c :: rest) then multilineFrom (c :: raw) value .trimming rest
    else
      match escaped? c, codeLength c with
      | some e, _ => multilineFrom (c :: raw) (e :: value) .text rest
      | none, 0 => none
      | none, n => multilineFrom (c :: raw) value (.code n []) rest
  | .code left digits, c :: rest =>
    if 1 < left then multilineFrom (c :: raw) value (.code (left - 1) (c :: digits)) rest
    else
      match codeChar? (c :: digits).reverse with
      | some e => multilineFrom (c :: raw) (e :: value) .text rest
      | none => none
  | state, c :: rest =>
    if state = .trimming ∧ (isBlank c ∨ isLineEnd c) then
      multilineFrom (c :: raw) value .trimming rest
    else if c = backslash then multilineFrom (c :: raw) value .escape rest
    else if c = quotationMark then
      match closing quotationMark raw rest with
      | .closes => some (value.reverse, rest.drop 2)
      | .belongs => multilineFrom (c :: raw) (c :: value) .text rest
      | .excess => none
    else multilineFrom (c :: raw) (c :: value) .text rest

def literalFrom (value : List Char) : List Char → Option (List Char × List Char)
  | [] => none
  | c :: rest =>
    if isLineEnd c then none
    else if c = apostrophe then some (value.reverse, rest)
    else literalFrom (c :: value) rest

def multilineLiteralFrom (value : List Char) : List Char → Option (List Char × List Char)
  | [] => none
  | c :: rest =>
    if c = apostrophe then
      match closing apostrophe value rest with
      | .closes => some (value.reverse, rest.drop 2)
      | .belongs => multilineLiteralFrom (c :: value) rest
      | .excess => none
    else multilineLiteralFrom (c :: value) rest

def withoutFirstEnd : List Char → List Char
  | '\x0d' :: '\x0a' :: rest => rest
  | '\x0a' :: rest => rest
  | cs => cs

def string? (cs : List Char) : Option (List Char × List Char) :=
  match cs with
  | a :: rest =>
    let triple := rest.take 2 = [a, a]
    if a = quotationMark then
      if triple then multilineFrom [] [] .text (withoutFirstEnd (rest.drop 2)) else basicFrom [] .text rest
    else if a = apostrophe then
      if triple then multilineLiteralFrom [] (withoutFirstEnd (rest.drop 2)) else literalFrom [] rest
    else none
  | [] => none

abbrev Key := List Text

def isBareChar (c : Char) : Bool := c.isAlphanum || c == '_' || c == '-'

def keyPart? (cs : List Char) : Option (Text × List Char) :=
  match cs with
  | [] => none
  | c :: rest =>
    if c = quotationMark then (basicFrom [] .text rest).map fun (s, rest) => (Text.ofChars s, rest)
    else if c = apostrophe then (literalFrom [] rest).map fun (s, rest) => (Text.ofChars s, rest)
    else
      let name := cs.takeWhile isBareChar
      if name.isEmpty then none else some (Text.ofChars name, cs.dropWhile isBareChar)

/-- Reads a key, up to the character after it that is neither blank nor a dot. The number bounds
the parts. -/
def key? : Nat → List Char → Option (Key × List Char)
  | 0, _ => none
  | fuel + 1, cs => do
    let (part, rest) ← keyPart? (dropBlanks cs)
    match dropBlanks rest with
    | '.' :: more => do
      let (key, rest) ← key? fuel more
      return (part :: key, rest)
    | rest => some ([part], rest)

def keyText (key : Key) : Text :=
  Text.joined "." (key.map fun part =>
    if !part.isEmpty ∧ part.runes.all fun r => r.code < 0x80 && isBareChar (Char.ofNat r.code) then part
    else basicString part)

inductive Numeral where
  | integer (token : List Char)
  | float (token : List Char)
  | moment (token : List Char)
  deriving DecidableEq, Repr

def floatTail (front cs : List Char) : Numeral × List Char :=
  let part := fun (c : Char) => c.isDigit || "_.-+eE".toList.contains c
  (.float (front ++ cs.takeWhile part), cs.dropWhile part)

def decimalTail (front cs : List Char) : Numeral × List Char :=
  let part := fun (c : Char) => c.isDigit || c == '_'
  let front := front ++ cs.takeWhile part
  let rest := cs.dropWhile part
  match rest with
  | c :: _ => if c = '.' ∨ c = 'e' ∨ c = 'E' then floatTail front rest else (.integer front, rest)
  | [] => (.integer front, [])

def numberOrDate (cs : List Char) : Numeral × List Char :=
  let front := cs.takeWhile Char.isDigit
  let rest := cs.dropWhile Char.isDigit
  match rest with
  | [] => (.integer front, [])
  | c :: _ =>
    if c = '-' ∨ c = ':' then
      let part := fun (c : Char) => c.isDigit || "-:Tt .Zz+".toList.contains c
      let token := front ++ rest.takeWhile part
      (.moment (token.reverse.dropWhile (· == ' ')).reverse, rest.dropWhile part)
    else if c = '_' then decimalTail front rest
    else if c = '.' ∨ c = 'e' ∨ c = 'E' then floatTail front rest
    else (.integer front, rest)

def basedNumber? (mark : Char) (isPlace : Char → Bool) (cs : List Char) :
    Option (Numeral × List Char) :=
  if (cs.head?.map isPlace).getD false then
    let part := fun c => isPlace c || c == '_'
    some (.integer ('0' :: mark :: cs.takeWhile part), cs.dropWhile part)
  else none

def numeral? (cs : List Char) : Option (Numeral × List Char) :=
  match cs with
  | '0' :: 'b' :: rest => basedNumber? 'b' (fun c => c == '0' || c == '1') rest
  | '0' :: 'o' :: rest => basedNumber? 'o' (fun c => '0' ≤ c && c ≤ '7') rest
  | '0' :: 'x' :: rest => basedNumber? 'x' (fun c => (hexValue? c).isSome) rest
  | '0' :: c :: rest =>
    if c.isDigit then some (numberOrDate cs)
    else if c = '_' ∨ c = '.' ∨ c = 'e' ∨ c = 'E' then some (decimalTail ['0'] (c :: rest))
    else some (.integer ['0'], c :: rest)
  | c :: rest =>
    if c.isDigit then some (numberOrDate cs)
    else if c = '+' ∨ c = '-' then
      match rest with
      | '0' :: 'b' :: _ | '0' :: 'o' :: _ | '0' :: 'x' :: _ => none
      | d :: more => if d.isDigit then some (decimalTail [c, d] more) else none
      | [] => none
    else none
  | [] => none

def marksPlaced (token : Text) : Bool :=
  let digit := fun b => (Text.digitValue? b).any (· < 16)
  let (fine, last) := token.foldl
    (fun (fine, last) b => (fine && (b != 0x5f || last), digit b)) (true, false)
  fine && last

def hasLeadingZero (token : Text) : Bool :=
  match token with
  | 0x30 :: mark :: _ => !(mark == 0x62 || mark == 0x6f || mark == 0x78)
  | sign :: 0x30 :: _ :: _ => sign == 0x2b || sign == 0x2d
  | _ => false

def integer? (token : Text) : Option Int := do
  guard (marksPlaced token && !hasLeadingZero token)
  let n ← Text.integer? (Text.withoutMarks token)
  if Text.fitsSigned n then some n else none

def floatParts (token : Text) : List Text :=
  ((token.map fun b => if b = 0x65 ∨ b = 0x45 then 0x2e else b).splitBy fun a b =>
    (a == 0x2e) == (b == 0x2e)).filter fun part => part.head? != some 0x2e

def pointsPlaced : Text → Bool
  | [] => true
  | b :: rest => (b != 0x2e || (rest.head?.map Text.isDigit).getD false) && pointsPlaced rest

def isFloat (token : Text) : Bool :=
  let parts := floatParts token
  parts.all marksPlaced && !(parts.head?.map hasLeadingZero).getD false && pointsPlaced token &&
    ((Text.decimal? (Text.withoutMarks token)).bind Decimal.magnitude?).isSome

def isMoment (token : Text) : Bool :=
  let token := token.map fun b =>
    if b = 0x7a then 0x5a else if b = 0x74 ∨ b = 0x20 then 0x54 else b
  match Text.date? .two token with
  | none => Text.clock? .two token == some []
  | some [] => true
  | some rest =>
    match (Text.after? "T" rest).bind (Text.clock? .two) with
    | none => false
    | some [] => true
    | some zone => Text.zone? zone == some []

end TableAsm.Toml
