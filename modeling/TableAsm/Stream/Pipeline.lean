import TableAsm.Assembly.Assemble
import TableAsm.Disassembly.Disassemble

namespace TableAsm

def Run.flushed (r : Run Buffered) : Run Buffered :=
  let out := r.out.flush
  { r with out, failure := r.failure <|> out.failure }

namespace Table

def assembleBuffered (t : Table) (input : ByteInput) (sink : Sink) : Run Buffered :=
  (t.assemble (.ofBytes bufferedLineLimit input) Buffered.write { sink }).flushed

def disassembleBuffered (t : Table) (input : ByteInput) (sink : Sink) : Run Buffered :=
  (t.disassemble input Buffered.writeLine { sink }).flushed

end Table

end TableAsm
