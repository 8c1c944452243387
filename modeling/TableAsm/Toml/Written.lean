import TableAsm.Definition.Document
import TableAsm.Text.Numeral

namespace TableAsm.Toml

def stringByte (b : UInt8) : Text :=
  if b = 0x22 then "\\\""
  else if b = 0x5c then "\\\\"
  else if b = 0x08 then "\\b"
  else if b = 0x09 then "\\t"
  else if b = 0x0a then "\\n"
  else if b = 0x0c then "\\f"
  else if b = 0x0d then "\\r"
  else if b < 0x20 ∨ b = 0x7f then "\\u00" ++ Text.hexPadded 2 b.toNat
  else [b]

def basicString (t : Text) : Text := "\"" ++ t.flatMap stringByte ++ "\""

def entryText (e : FormatEntry) : Text :=
  "\n[[formats]]\n" ++ ("  mnemonic = " ++ basicString e.mnemonic) ++
    ("\n  fields = " ++ basicString e.fields) ++ ("\n  group = " ++ Text.decimal e.group.toNat) ++
    ("\n  opcode = " ++ Text.decimal e.opcode.toNat) ++ "\n"

def written (d : Document) : Text :=
  let registers : Text :=
    if d.registers.isEmpty then []
    else "registers = [" ++ Text.joined ", " (d.registers.map basicString) ++ "]\n"
  "name = " ++ basicString d.name ++ "\n" ++ registers ++ d.formats.flatMap entryText

end TableAsm.Toml
