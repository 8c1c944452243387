import TableAsm.Fault.Kind
import TableAsm.Definition.DocumentFormat

/-!
Faults and failures. A fault is a positioned, kinded error. A failure is a chain that starts at the
outermost message and ends at a root. A fault's text is followed by that of its cause, as the cause
now is; the text of a context was fixed when the context was given.
-/
namespace TableAsm

/-- A kinded error. Line 0 and a negative offset mean that the position is not set. -/
structure Fault where
  kind : Kind
  line : Int := 0
  offset : Int := -1
  token : Text := []
  message : Text := []
  deriving DecidableEq, Repr

namespace Fault

def position (f : Fault) : Text :=
  if 0 < f.line then "line " ++ Text.signedDecimal f.line ++ ": "
  else if 0 ≤ f.offset then "offset 0x" ++ Text.hex f.offset.toNat ++ ": "
  else []

def text (f : Fault) : Text :=
  let detail : Text := if f.message.isEmpty then [] else ": " ++ f.message
  f.position ++ f.kind.name ++ detail

def atLine (line : Int) (f : Fault) : Fault := if f.line = 0 then { f with line } else f

def atOffset (offset : Int) (f : Fault) : Fault := if f.offset < 0 then { f with offset } else f

end Fault

/-- One link of a failure: a fault, or an account of what was being done. An account includes the
text that its cause had at the time. -/
inductive Link where
  | fault (f : Fault)
  | context (account : Text)
  deriving DecidableEq, Repr

inductive Root where
  | silent
  | message (words : Text)
  | kind (k : Kind)
  | problems (faults : List Fault)
  | refused (format : DocumentFormat)
  deriving DecidableEq, Repr

/-- An error with everything that led to it, outermost link first. -/
structure Failure where
  links : List Link := []
  root : Root := .silent
  deriving DecidableEq, Repr

def Link.fault? : Link → Option Fault
  | fault f => some f
  | context _ => none

def problemText (faults : List Fault) : Text :=
  let count : Text :=
    if faults.length = 1 then "1 error occurred:"
    else Text.decimal faults.length ++ " errors occurred:"
  let lines : Text := faults.flatMap fun f => ("\n\t* " : Text) ++ f.text
  count ++ lines ++ "\n\n"

def Root.text? : Root → Option Text
  | silent => none
  | message words => some words
  | kind k => some k.name
  | problems faults => some (problemText faults)
  | refused format => some (format.name ++ ": document refused")

namespace Failure

def ofFault (f : Fault) : Failure := { links := [.fault f] }

instance : Coe Fault Failure := ⟨ofFault⟩

def ofMessage (words : Text) : Failure := { root := .message words }

def ofKind (k : Kind) : Failure := { root := .kind k }

def chainText (root : Root) : List Link → Text
  | [] => root.text?.getD []
  | .context account :: _ => account
  | .fault f :: rest =>
    let cause : Text := if rest.isEmpty ∧ root = .silent then [] else ": " ++ chainText root rest
    f.text ++ cause

def text (e : Failure) : Text := chainText e.root e.links

def within (link : Link) (e : Failure) : Failure := { e with links := link :: e.links }

def inContext (words : Text) (e : Failure) : Failure :=
  e.within (.context (words ++ ": " ++ e.text))

def because (f : Fault) (cause : Failure) : Failure := cause.within (.fault f)

def fault? (e : Failure) : Option Fault := e.links.findSome? Link.fault?

def kind? (e : Failure) : Option Kind := e.fault?.map Fault.kind

def mentions (e : Failure) (k : Kind) : Bool :=
  (e.links.filterMap Link.fault?).any (·.kind == k) || e.root == .kind k

def mapLinks (change : Fault → Fault) : List Link → List Link
  | [] => []
  | .fault f :: rest => .fault (change f) :: rest
  | .context account :: rest => .context account :: mapLinks change rest

def mapFault (change : Fault → Fault) (e : Failure) : Failure :=
  { e with links := mapLinks change e.links }

/-- Attaches a source line to the outermost fault; a failure without one becomes a malformed
line. -/
def atLine (line : Int) (e : Failure) : Failure :=
  if e.fault?.isSome then e.mapFault (Fault.atLine line)
  else because { kind := .malformedLine, line } e

/-- Attaches a stream offset to the outermost fault; a failure without one becomes an unknown
encoding. -/
def atOffset (offset : Int) (e : Failure) : Failure :=
  if e.fault?.isSome then e.mapFault (Fault.atOffset offset)
  else because { kind := .unknownEncoding, offset } e

def recausedLinks (cause : List Link) : List Link → List Link
  | [] => []
  | .fault f :: _ => .fault f :: cause
  | .context account :: rest => .context account :: recausedLinks cause rest

def withCause (e cause : Failure) : Failure :=
  if e.fault?.isSome then { links := recausedLinks cause.links e.links, root := cause.root } else e

end Failure

end TableAsm
