import TableAsm.Isa.Draft

namespace TableAsm.Mu

private def rdImm : FieldMask := FieldMask.rd.union .imm
private def rdRs1 : FieldMask := FieldMask.rd.union .rs1
private def rdRs1Rs2 : FieldMask := rdRs1.union .rs2
private def rdRs1Imm : FieldMask := rdRs1.union .imm
private def rs1Rs2 : FieldMask := FieldMask.rs1.union .rs2
private def rs1Imm : FieldMask := FieldMask.rs1.union .imm

private def inGroup (group : UInt8) (formats : List (String × FieldMask × UInt8)) : List Format :=
  formats.map fun (mnemonic, fields, opcode) => ⟨mnemonic, fields, group, opcode⟩

private def move : List Format := inGroup 0 [("SET", rdImm, 1), ("MOV", rdRs1, 2)]

private def memory : List Format :=
  inGroup 1 [("LD", rdRs1Imm, 1), ("LDA", rdImm, 2), ("ST", rs1Rs2, 3), ("STA", rs1Imm, 4)]

private def registerArithmetic : List Format :=
  inGroup 5
    [("ADD", rdRs1Rs2, 1), ("SUB", rdRs1Rs2, 2), ("MUL", rdRs1Rs2, 3), ("DIV", rdRs1Rs2, 4),
     ("AND", rdRs1Rs2, 5), ("OR", rdRs1Rs2, 6), ("XOR", rdRs1Rs2, 7), ("SHL", rdRs1Rs2, 8),
     ("SHR", rdRs1Rs2, 9), ("NOT", rdRs1, 10), ("NEG", rdRs1, 11)]

private def immediateArithmetic : List Format :=
  inGroup 6
    [("ADDI", rdRs1Imm, 1), ("SUBI", rdRs1Imm, 2), ("MULI", rdRs1Imm, 3), ("ANDI", rdRs1Imm, 5),
     ("ORI", rdRs1Imm, 6), ("XORI", rdRs1Imm, 7), ("SHLI", rdRs1Imm, 8), ("SHRI", rdRs1Imm, 9)]

private def compare : List Format := inGroup 8 [("CMP", rs1Rs2, 1), ("CMPI", rs1Imm, 2)]

private def branch : List Format :=
  inGroup 10
    [("J", .imm, 1), ("JEQ", .imm, 2), ("JNE", .imm, 3), ("JLT", .imm, 4), ("JGE", .imm, 5),
     ("JR", .rs1, 6), ("CALL", .imm, 7), ("RET", .empty, 8)]

private def stack : List Format := inGroup 12 [("PUSH", .rs1, 1), ("OUT", .rs1, 2), ("OUTI", .imm, 3)]

private def system : List Format := inGroup 31 [("NOP", .empty, 0), ("HALT", .empty, 1)]

def formats : List Format :=
  move ++ memory ++ registerArithmetic ++ immediateArithmetic ++ compare ++ branch ++ stack ++ system

def registerNames : List Text := (List.range maxRegisters).map fun i => "R" ++ Text.decimal i

def draft : Draft := { name := "mu", formats, registers := registerNames }

def table : Table := { name := "mu", formats, registers := ⟨registerNames⟩ }

end TableAsm.Mu
