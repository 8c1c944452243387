import TableAsm.Assembly.Event
import TableAsm.Stream.Input

namespace TableAsm

/-- What a source says: its instructions, its labels, and the addresses of the labels. -/
structure Program where
  instructions : List Instruction := []
  labels : List Label := []
  symbols : SymbolTable := []
  deriving DecidableEq, Repr

def Program.size (p : Program) : Nat := p.instructions.length * wordSize

structure Scan where
  events : List Event := []
  result : Except Failure Program

def Scan.stopped (failure : Failure) : Scan := { result := .error failure }

def Scan.withLabel (label : Label) (s : Scan) : Scan where
  events := .labelDefined label :: s.events
  result := s.result.map fun p => { p with labels := label :: p.labels }

def Scan.withInstruction (instruction : Instruction) (s : Scan) : Scan where
  events := .parsed instruction :: s.events
  result := s.result.map fun p => { p with instructions := instruction :: p.instructions }

def addressSpaceExhausted : Failure :=
  Failure.ofFault
    { kind := .malformedLine, message := "program does not fit in a 32-bit address space" }

def scanEnd (count : Nat) (symbols : SymbolTable) : Option Text → Scan
  | none => { result := .ok { symbols } }
  | some words =>
    .stopped ((Failure.ofMessage words).inContext
      ("reading source after line " ++ Text.decimal count))

def scanFrom (failure? : Option Text) (count : Nat) (address : UInt32) (symbols : SymbolTable) :
    List Text → Scan
  | [] => scanEnd count symbols failure?
  | raw :: rest =>
    let line : Int := count + 1
    match parseLine raw with
    | .error failure => .stopped (failure.atLine line)
    | .ok none => scanFrom failure? (count + 1) address symbols rest
    | .ok (some (.label name)) =>
      let label : Label := { name, address, line }
      match symbols.define label with
      | .error fault => .stopped (Failure.atLine line fault)
      | .ok symbols => (scanFrom failure? (count + 1) address symbols rest).withLabel label
    | .ok (some (.instruction mnemonic operands)) =>
      if Text.max32 + 1 < address.toNat + wordSize then .stopped (addressSpaceExhausted.atLine line)
      else
        match Instruction.surplus? operands with
        | some fault => .stopped (Failure.atLine line fault)
        | none =>
          let instruction : Instruction :=
            { source := stripComment raw, line, address, mnemonic
              operands := .ofList operands }
          (scanFrom failure? (count + 1) (address + 8) symbols rest).withInstruction instruction

def scan (input : LineInput) : Scan := scanFrom input.failure? 0 0 [] input.lines

end TableAsm
