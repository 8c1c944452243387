import TableAsm.Isa.Draft
import TableAsm.Source.Instruction
import TableAsm.Word.Fields

namespace TableAsm

def Slot.operandKind (slot : Slot) : OperandKind :=
  if slot.isRegister then .register else .immediate

def operandMismatch (format : Format) (position : Nat) (slot : Text) (wanted : OperandKind)
    (token detail : Text) : Failure :=
  Failure.ofFault
    { kind := .operandKindMismatch
      token
      message := format.mnemonic ++ " operand " ++ Text.decimal (position + 1) ++ " (slot " ++ slot ++
        "): expected " ++ wanted.name ++ ", " ++ detail }

def bindFrom (format : Format) (symbols : SymbolTable) (register? : Text → Option UInt8) :
    (position : Nat) → (slots : List Slot) → (tokens : List Text) → Fields → Except Failure Fields
  | _, _, [], f => .ok f
  | position, [], token :: tokens, f =>
    if token.isEmpty then bindFrom format symbols register? (position + 1) [] tokens f
    else .error (operandMismatch format position "none" .empty token "unexpected extra operand")
  | position, slot :: slots, token :: tokens, f =>
    if token.isEmpty then
      .error (operandMismatch format position slot.name slot.operandKind token "missing operand")
    else
      match classify token symbols register? with
      | .error failure => .error failure
      | .ok operand =>
        if operand.kind = slot.operandKind then
          bindFrom format symbols register? (position + 1) slots tokens (f.set slot operand.value)
        else
          .error (operandMismatch format position slot.name slot.operandKind token
            ("got " ++ operand.kind.name))

def bind (instruction : Instruction) (format : Format) (symbols : SymbolTable)
    (register? : Text → Option UInt8) : Except Failure Fields :=
  match format.fields.layout? with
  | none => .error (missingLayout format)
  | some slots =>
    bindFrom format symbols register? 0 slots instruction.operands.toList
      { mask := format.fields, group := format.group, opcode := format.opcode }

def Table.encodeInstruction (t : Table) (instruction : Instruction) (symbols : SymbolTable) :
    Except Failure Word :=
  match t.ofMnemonic instruction.mnemonic with
  | .error failure => .error (failure.atLine instruction.line)
  | .ok format =>
    match bind instruction format symbols t.registers.index? with
    | .error failure => .error (failure.atLine instruction.line)
    | .ok fields => .ok fields.encode

end TableAsm
