import TableAsm.Text.Rune
import TableAsm.Yaml.Glyph

namespace TableAsm.Yaml

def isAdmitted (n : Nat) : Bool :=
  n == 0x09 || n == 0x0a || n == 0x0d || (0x20 ≤ n && n ≤ 0x7e) || n == 0x85 ||
    (0xa0 ≤ n && n ≤ 0xd7ff) || (0xe000 ≤ n && n ≤ 0xfffd) || (0x10000 ≤ n && n ≤ 0x10ffff)

structure Coded where
  code : Nat
  size : Nat
  deriving DecidableEq, Repr

/-- The code points of a document up to the first that cannot be decoded or is not admitted, and
the size of that one, if there is one. -/
structure Decoded where
  codes : List Coded
  refused : Option Nat := none
  deriving Repr

def Decoded.cons (code size : Nat) (d : Decoded) : Decoded :=
  if isAdmitted code then { d with codes := ⟨code, size⟩ :: d.codes }
  else { codes := [], refused := some size }

def sequenceSize (b : UInt8) : Nat :=
  if b < 0xc0 then 1 else if b < 0xe0 then 2 else if b < 0xf0 then 3 else if b < 0xf8 then 4 else 1

def decodeRunes (rs : List Rune) : Decoded :=
  rs.foldr
    (fun r decoded =>
      if r.isStray then { codes := [], refused := some (sequenceSize (r.bytes.headD 0)) }
      else decoded.cons r.code r.bytes.length)
    { codes := [] }

def decodeUnits (lowFirst : Bool) : Text → Decoded
  | a :: b :: rest =>
    let unit := fun (a b : UInt8) =>
      if lowFirst then b.toNat * 0x100 + a.toNat else a.toNat * 0x100 + b.toNat
    let first := unit a b
    if first < 0xd800 ∨ 0xe000 ≤ first then (decodeUnits lowFirst rest).cons first 2
    else if 0xdc00 ≤ first then { codes := [], refused := some 2 }
    else
      match rest with
      | c :: d :: rest =>
        let second := unit c d
        if 0xdc00 ≤ second ∧ second < 0xe000 then
          (decodeUnits lowFirst rest).cons (0x10000 + (first - 0xd800) * 0x400 + (second - 0xdc00)) 4
        else { codes := [], refused := some 4 }
      | _ => { codes := [], refused := some 4 }
  | [_] => { codes := [], refused := some 2 }
  | [] => { codes := [] }

def decode : Text → Nat × Decoded
  | 0xff :: 0xfe :: rest => (2, decodeUnits true rest)
  | 0xfe :: 0xff :: rest => (2, decodeUnits false rest)
  | 0xef :: 0xbb :: 0xbf :: rest => (3, decodeRunes (Text.runes rest))
  | t => (0, decodeRunes (Text.runes t))

def pieceSize : Nat := 512

/-- The numbers of code points at the ends of the pieces, of which the current one started early
enough to reach to `limit`. A code point that a piece cuts starts the next piece. The refused code
point, if there is one, spoils the piece that holds all of it. -/
def pieceEnds (total : Nat) (refused : Option Nat) :
    (limit offset count : Nat) → List Coded → List Nat
  | limit, offset, count, c :: rest =>
    if offset + c.size ≤ limit then
      pieceEnds total refused limit (offset + c.size) (count + 1) rest
    else
      count :: pieceEnds total refused (offset + pieceSize) (offset + c.size) (count + 1) rest
  | limit, offset, count, [] =>
    match refused with
    | some size => if offset + size ≤ min limit total then [] else [count]
    | none => [count]

structure Source where
  glyphs : List Glyph
  pieces : List Nat
  sound : Bool

def Source.ofText (t : Text) : Source :=
  let (markSize, decoded) := decode t
  let pieces := pieceEnds t.length decoded.refused pieceSize markSize 0 decoded.codes
  let readable := decoded.codes.take (pieces.getLastD 0)
  { glyphs := placed (readable.map Coded.code), pieces, sound := decoded.refused.isNone }

end TableAsm.Yaml
