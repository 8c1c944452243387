import TableAsm.Source.Operand
import TableAsm.Source.Statement

namespace TableAsm

/-- The operand tokens of an instruction by position; an absent operand is empty. -/
structure Operands where
  first : Text := []
  second : Text := []
  third : Text := []
  deriving DecidableEq, Repr

namespace Operands

def capacity : Nat := 3

def toList (o : Operands) : List Text := [o.first, o.second, o.third]

def ofList (tokens : List Text) : Operands :=
  ⟨tokens.getD 0 [], tokens.getD 1 [], tokens.getD 2 []⟩

def present (o : Operands) : List Text := o.toList.filter fun token => !token.isEmpty

end Operands

structure Instruction where
  source : Text := []
  line : Int := 0
  address : UInt32 := 0
  mnemonic : Text := []
  operands : Operands := {}
  deriving DecidableEq, Repr

namespace Instruction

def text (i : Instruction) : Text := Text.joined " " (i.mnemonic :: i.operands.present)

def surplusOperand (token : Text) : Fault :=
  { kind := .operandKindMismatch
    token
    message := "operand " ++ Text.decimal (Operands.capacity + 1) ++ ": expected " ++
      OperandKind.empty.name ++ ", got " ++ token.quoted ++ "; at most " ++
      Text.decimal Operands.capacity ++ " operands are allowed" }

def surplus? (operands : List Text) : Option Fault :=
  operands[Operands.capacity]?.map surplusOperand

end Instruction

end TableAsm
