import TableAsm.Assembly.Bind
import TableAsm.Assembly.Scan
import TableAsm.Stream.Sink

namespace TableAsm

namespace Table

variable {σ : Type}

def emit (t : Table) (symbols : SymbolTable) (write : σ → Text → σ × Option Failure) (out : σ) :
    List Instruction → Run σ
  | [] => { out }
  | instruction :: rest =>
    match t.encodeInstruction instruction symbols with
    | .error failure => { out, failure := some failure }
    | .ok word =>
      match write out word.bytes with
      | (out, some failure) =>
        { out
          failure := some (failure.inContext
            ("writing word for line " ++ Text.signedDecimal instruction.line)) }
      | (out, none) => (emit t symbols write out rest).after (.encoded instruction word)

def emitProgram (t : Table) (p : Program) (write : σ → Text → σ × Option Failure) (out : σ) : Run σ :=
  t.emit p.symbols write out p.instructions

def assemble (t : Table) (input : LineInput) (write : σ → Text → σ × Option Failure) (out : σ) :
    Run σ :=
  let s := scan input
  match s.result with
  | .error failure => { out, events := s.events, failure := some failure }
  | .ok p =>
    let r := t.emitProgram p write out
    { r with events := s.events ++ r.events }

end Table

end TableAsm
