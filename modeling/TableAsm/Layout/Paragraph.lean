import TableAsm.Layout.Escape
import TableAsm.Text.Blank

namespace TableAsm

structure Paragraph where
  pieces : List Text := []
  used : Nat := 0

namespace Paragraph

def put (p : Paragraph) (piece : Text) (columns : Nat) : Paragraph :=
  { pieces := piece :: p.pieces, used := p.used + columns }

def newLine (p : Paragraph) (style : Text) : Paragraph :=
  let ending : Text := if style.isEmpty then "\n" else Escape.reset ++ "\n" ++ style
  { pieces := ending :: p.pieces, used := 0 }

/-- Sets a word rune by rune with a new line at every edge that is met exactly. `sequence` holds the
control sequence last seen, last rune first, and `inside` says whether it is still open. Stray bytes
become the replacement character. -/
def breakWord (limit : Nat) (p : Paragraph) (sequence : Text) (inside : Bool) :
    List Rune → Paragraph
  | [] => p
  | r :: rest =>
    let starts := r.code == Escape.start
    let within := inside || starts
    let bytes := (Rune.ofCode r.code).bytes
    let seen :=
      if within then bytes.reverse ++ (if starts then [] else sequence) else sequence
    let p := if p.used == limit && !within then p.newLine seen.reverse else p
    let p := p.put bytes (if within then 0 else r.width)
    let closed := within && r.code == Escape.controlEnd
    let kept := if closed && seen.reverse == Escape.reset then [] else seen
    breakWord limit p kept (within && !closed) rest

def addWords (limit : Nat) (p : Paragraph) (attributes : Escape.Attributes) (style : Text) :
    List Text → Paragraph × Text
  | [] => (p, style)
  | word :: rest =>
    let attributes := attributes.after word
    let style := if attributes.isEmpty then style else attributes.sequence
    let p := if 0 < p.used then p.put " " 1 else p
    let width := word.shownWidth
    let p :=
      if p.used + width ≤ limit then p.put word width
      else p.breakWord limit style.reverse false word.runes
    let p := if p.used == limit && !rest.isEmpty then p.newLine style else p
    addWords limit p attributes style rest

/-- The words of a line set in a box. Attributes that were seen in force are taken back at the end. -/
def set (limit : Nat) (line : Text) : Text :=
  let (p, style) := ({} : Paragraph).addWords limit [] [] line.blankSeparated
  let text := p.pieces.reverse.flatten
  if style.isEmpty || Escape.reset.isSuffixOf text then text else text ++ Escape.reset

end Paragraph

/-- A text in a box with room for `limit` columns. Tabs become four spaces. A text that fits stays
as it is; otherwise every line is set anew. -/
def Text.inBox (limit : Nat) (t : Text) : Text :=
  let spaced : Text := t.flatMap fun b => if b = 0x09 then [0x20, 0x20, 0x20, 0x20] else [b]
  if spaced.shownWidth ≤ limit then spaced
  else Text.joined "\n" ((spaced.splitAt Text.newline).map (Paragraph.set limit))

end TableAsm
