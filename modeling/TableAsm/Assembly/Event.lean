import TableAsm.Disassembly.Render
import TableAsm.Source.Instruction

namespace TableAsm

inductive Event where
  | labelDefined (label : Label)
  | parsed (instruction : Instruction)
  | encoded (instruction : Instruction) (word : Word)
  | decoded (word : Decoded)
  deriving DecidableEq, Repr

namespace Event

def name : Event → Text
  | labelDefined _ => "Label Defined"
  | parsed _ => "Inst Parsed"
  | encoded .. => "Inst Encoded"
  | decoded _ => "Inst Decoded"

def item : Event → Text
  | labelDefined label => label.text
  | parsed instruction => instruction.text
  | encoded instruction word =>
    Text.literal32 instruction.address ++ " " ++ word.text ++ " " ++ instruction.text
  | decoded word => word.summary

end Event

/-- A run that writes: the state of its output, its events, and the failure that stopped it. -/
structure Run (σ : Type) where
  out : σ
  events : List Event := []
  failure : Option Failure := none

def Run.after {σ : Type} (event : Event) (r : Run σ) : Run σ := { r with events := event :: r.events }

end TableAsm
