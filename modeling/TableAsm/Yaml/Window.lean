import TableAsm.Yaml.Encoding

/-!
The part of a document that has been loaded. The reader asks for the next few glyphs before it looks
at them; when they are not loaded, the glyphs already read are given up and further pieces are
loaded. Past the end of the document there are only end marks, one for each time they are asked for.
-/
namespace TableAsm.Yaml

structure Window where
  pieces : List Nat
  sound : Bool
  loaded : Nat := 0
  marked : Bool := false
  deriving DecidableEq, Repr

namespace Window

def ofSource (s : Source) : Window := { pieces := s.pieces, sound := s.sound }

def ask (count : Nat) (gs : List Glyph) (w : Window) : Option Window :=
  let needed := (gs.head?.map Glyph.index).getD 0 + count
  if needed ≤ w.loaded then some w
  else
    let marked := charAt gs 0 == byteOrderMark
    match w.pieces.dropWhile fun stop => stop < needed with
    | stop :: pieces => some { w with pieces, loaded := stop, marked }
    | [] =>
      if w.sound then
        some { w with pieces := [], loaded := w.pieces.getLastD w.loaded + 1, marked }
      else none

/-- Asks glyph by glyph up to and including the one with an index, for as many as `count` says at
each. -/
def walk (count : Char → Nat) (stop : Nat) (w : Window) : List Glyph → Option Window
  | [] => some w
  | g :: rest => do
    let w ← w.ask (count g.char) (g :: rest)
    if stop ≤ g.index then some w else walk count stop w rest

def walkLines (w : Window) (gs rest : List Glyph) : Option Window :=
  w.walk (fun c => if isBreak c then 2 else 1) ((rest.head?.map Glyph.index).getD 0) gs

end Window

end TableAsm.Yaml
