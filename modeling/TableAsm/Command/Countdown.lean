import TableAsm.Assembly.Listing
import TableAsm.Command.Outcome
import TableAsm.Isa.Mu
import TableAsm.Stream.Pipeline

namespace TableAsm.Command

def countdownLines : List Text :=
  ["; Count R0 down from 5, printing each value.",
   "        SET R0 0x05",
   "        SET R1 1",
   "@loop",
   "        OUT R0",
   "        SUB R0 R0 R1",
   "        CMPI R0 0",
   "        JNE @loop",
   "        OUTI 0xFF",
   "        HALT"]

def countdownSource : Text := countdownLines.flatMap fun line => line ++ [Text.newline]

/-- Assembles the sample program and prints its listing, its size and its words as instructions. -/
def countdown (d : Directory) : Outcome :=
  let assembled := Mu.table.assembleBuffered { bytes := countdownSource } {}
  let bytes := assembled.out.sink.bytes
  match assembled.failure with
  | some failure => { status := failed, output := failure.text ++ "\n", directory := d }
  | none =>
    let listing : Text := (({} : Listing).record assembled.events).text
    let head : Text := listing ++ "\n" ++ Text.decimal bytes.length ++ " bytes\n"
    let disassembled := Mu.table.disassembleBuffered { bytes } {}
    match disassembled.failure with
    | some failure => { status := failed, output := head ++ failure.text ++ "\n", directory := d }
    | none => { output := head ++ disassembled.out.sink.bytes, directory := d }

end TableAsm.Command
