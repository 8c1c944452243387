import TableAsm.Assembly.Assemble
import TableAsm.Disassembly.Disassemble
import TableAsm.Verify.Issue

namespace TableAsm

namespace Table

def canonicalOperands (t : Table) (symbols : SymbolTable) : List Text → Except Failure (List Text)
  | [] => .ok []
  | token :: rest =>
    match classify token symbols t.registers.index? with
    | .error failure => .error failure
    | .ok operand =>
      let shown : Except Failure (List Text) :=
        match operand.kind with
        | .register => (t.registers.name operand.value.toUInt8).map fun name => [name]
        | .immediate => .ok [Text.literal32 operand.value]
        | _ => .ok []
      match shown with
      | .error failure => .error failure
      | .ok shown =>
        match canonicalOperands t symbols rest with
        | .error failure => .error failure
        | .ok rest => .ok (shown ++ rest)

def canonicalText (t : Table) (instruction : Instruction) (symbols : SymbolTable) :
    Except Failure Text :=
  match t.canonicalOperands symbols instruction.operands.toList with
  | .error failure => .error failure
  | .ok operands => .ok (Text.joined " " (instruction.mnemonic :: operands))

def roundTripIssue? (t : Table) (symbols : SymbolTable) (instruction : Instruction) : Option Issue :=
  match t.encodeInstruction instruction symbols with
  | .error failure => some (.ofFailure .roundTrip failure)
  | .ok word =>
    match t.canonicalText instruction symbols with
    | .error failure => some (.ofFailure .roundTrip (failure.atLine instruction.line))
    | .ok wanted =>
      match t.decodeWord word with
      | .error failure => some (.ofFailure .roundTrip (failure.atLine instruction.line))
      | .ok decoded =>
        if decoded.text = wanted then none
        else
          some
            { stage := .roundTrip
              line := instruction.line
              token := instruction.mnemonic
              message := instruction.source.quoted ++ " disassembles as " ++ decoded.text.quoted ++
                ", expected " ++ wanted.quoted
              details := some [("fields", .fields decoded.fields), ("word", .text word.text)] }

def roundTripIssues (t : Table) (p : Program) : List Issue :=
  p.instructions.filterMap (t.roundTripIssue? p.symbols)

def checkRoundTrip (t : Table) (input : LineInput) : Except Failure (Program × List Issue) :=
  match (scan input).result with
  | .error failure => .error failure
  | .ok p => .ok (p, t.roundTripIssues p)

def wordIssue? (t : Table) (offset : Nat) (word : Word) : Option Issue :=
  match t.decodeWord word with
  | .error failure =>
    some
      { Issue.ofFailure .word failure with
        offset
        details := some [("fields", .fields (.decode word)), ("word", .text word.text)] }
  | .ok decoded =>
    let canonical := decoded.fields.canonical.encode
    if canonical = word then none
    else
      some
        { stage := .word
          offset
          token := decoded.format.mnemonic
          message := decoded.text ++ " carries data outside the fields " ++
            decoded.format.fields.text
          details := some
            [("canonical", .text canonical.text), ("stray", .text (Word.text (word ^^^ canonical))),
             ("word", .text word.text)] }

def wordIssuesFrom (t : Table) (offset : Nat) : List Word → List Issue
  | [] => []
  | word :: rest => (t.wordIssue? offset word).toList ++ wordIssuesFrom t (offset + wordSize) rest

def trailingIssue (offset count : Nat) : Issue :=
  { stage := .word
    kind := some .truncatedStream
    offset
    message := Text.decimal count ++ " trailing bytes" }

def checkWords (t : Table) (input : ByteInput) : List Issue × Option Failure :=
  let (words, left) := frames input.bytes
  let offset := words.length * wordSize
  let issues := t.wordIssuesFrom 0 words
  match wordEnd left input.failure? with
  | .finished => (issues, none)
  | .cut count => (issues ++ [trailingIssue offset count], none)
  | .unread message => (issues, some (atWord "reading" offset (.ofMessage message)))

end Table

end TableAsm
