import TableAsm.Assembly.Event
import TableAsm.Stream.Input
import TableAsm.Stream.Sink

namespace TableAsm

def frames : Text → List Word × Text
  | a :: b :: c :: d :: e :: f :: g :: h :: rest =>
    let (words, left) := frames rest
    (Word.ofBytes [a, b, c, d, e, f, g, h] :: words, left)
  | left => ([], left)

def truncatedWord (count : Nat) : Failure :=
  Failure.ofFault
    { kind := .truncatedStream
      message := Text.decimal count ++ " trailing bytes do not form a " ++ Text.decimal wordSize ++
        "-byte word" }

def atWord (action : String) (offset : Nat) (failure : Failure) : Failure :=
  failure.inContext (action ++ " word at offset 0x" ++ Text.hex offset)

/-- What comes of reading a word when no complete one is left. -/
inductive WordEnd where
  | finished
  | cut (count : Nat)
  | unread (message : Text)
  deriving DecidableEq, Repr

/-- Reads behind the last complete word. An error that counts as the end is looked for first, also
when bytes are left. -/
def wordEnd (left : Text) : Option ReadError → WordEnd
  | none => if left.isEmpty then .finished else .cut left.length
  | some cause =>
    if cause.isEnd then .finished
    else if cause.isUnexpectedEnd then .cut left.length
    else .unread cause.message

def streamEnd (offset : Nat) (left : Text) (failure? : Option ReadError) : Option Failure :=
  match wordEnd left failure? with
  | .finished => none
  | .cut count => some ((truncatedWord count).atOffset offset)
  | .unread message => some (atWord "reading" offset (.ofMessage message))

namespace Table

variable {σ : Type}

/-- Decodes words from an offset on and writes their lines. After the words come the bytes `left`,
and then the read error, if there is one. -/
def disassembleFrom (t : Table) (write : σ → Text → σ × Option Failure) (left : Text)
    (failure? : Option ReadError) (offset : Nat) (out : σ) : List Word → Run σ
  | [] => { out, failure := streamEnd offset left failure? }
  | word :: rest =>
    match t.decodeWord word with
    | .error failure => { out, failure := some (failure.atOffset offset) }
    | .ok decoded =>
      match write out decoded.text with
      | (out, some failure) => { out, failure := some (atWord "writing" offset failure) }
      | (out, none) =>
        (disassembleFrom t write left failure? (offset + wordSize) out rest).after
          (.decoded { decoded with offset })

def disassemble (t : Table) (input : ByteInput) (write : σ → Text → σ × Option Failure) (out : σ) :
    Run σ :=
  let (words, left) := frames input.bytes
  t.disassembleFrom write left input.failure? 0 out words

end Table

end TableAsm
