import TableAsm.Yaml.Scalar
import TableAsm.Yaml.Window

namespace TableAsm.Yaml.Window

/-- The window after a plain scalar that reaches from a place to another. `gap` says whether white
space stands in front. -/
def walkPlainFrom (inFlow : Bool) (margin stop : Nat) (gap : Bool) (w : Window) :
    List Glyph → Option Window
  | [] => some w
  | g :: rest => do
    let white := isBlank g.char || isBreak g.char
    let w ← w.ask (if gap then (if isBreak g.char then 2 else 1) else 2) (g :: rest)
    let w ← if gap ∧ !white ∧ (inFlow ∨ margin ≤ g.column) then w.ask 4 (g :: rest) else some w
    if stop ≤ g.index then some w else walkPlainFrom inFlow margin stop white w rest

def walkPlain (inFlow : Bool) (margin : Nat) (w : Window) (gs rest : List Glyph) : Option Window :=
  w.walkPlainFrom inFlow margin ((rest.head?.map Glyph.index).getD 0) false gs

/-- The window after a quoted scalar up to its closing mark at an index. `skip` glyphs belong to an
escape, and `gap` says whether white space stands in front. -/
def walkQuotedFrom (double : Bool) (stop : Nat) (w : Window) :
    (skip : Nat) → (gap : Bool) → List Glyph → Option Window
  | _, _, [] => some w
  | skip + 1, gap, _ :: rest => walkQuotedFrom double stop w skip gap rest
  | 0, gap, g :: rest => do
    let white := isBlank g.char || isBreak g.char
    let w ← w.ask (if gap then (if isBreak g.char then 2 else 1) else 2) (g :: rest)
    let w ← if gap ∧ !white then w.ask 4 (g :: rest) else some w
    if stop ≤ g.index then some w
    else if double ∧ g.char = backslash then
      if isBreak (charAt rest 0) then do
        let w ← w.ask 3 (g :: rest)
        walkQuotedFrom double stop w 1 true rest
      else
        match codeLength? (charAt rest 0) with
        | some digits => do
          let w ← w.ask digits (rest.drop 1)
          walkQuotedFrom double stop w (digits + 1) false rest
        | none => walkQuotedFrom double stop w 1 false rest
    else if !double ∧ g.char = apostrophe then walkQuotedFrom double stop w 1 false rest
    else walkQuotedFrom double stop w 0 white rest

def walkQuoted (double : Bool) (w : Window) (gs rest : List Glyph) : Option Window := do
  let stop := (rest.head?.map Glyph.index).getD 0 - 1
  let w ← w.ask 4 gs
  w.walkQuotedFrom double stop 0 false gs

def walkTag (w : Window) (gs rest : List Glyph) : Option Window :=
  w.walk (fun c => if c == '%' then 3 else if isBreak c then 2 else 1)
    ((rest.head?.map Glyph.index).getD 0) gs

end TableAsm.Yaml.Window
