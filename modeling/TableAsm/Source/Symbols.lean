import TableAsm.Fault.Basic

namespace TableAsm

structure Label where
  /-- The name with its sigil. -/
  name : Text
  address : UInt32
  line : Int
  deriving DecidableEq, Repr

def Label.text (l : Label) : Text := l.name ++ "=" ++ Text.literal32 l.address

abbrev SymbolTable := List (Text × UInt32)

namespace SymbolTable

def address? (s : SymbolTable) (name : Text) : Option UInt32 := s.lookup name

def define (s : SymbolTable) (l : Label) : Except Fault SymbolTable :=
  match s.address? l.name with
  | some earlier =>
    .error
      { kind := .duplicateSymbol
        token := l.name
        message := "label " ++ l.name ++ " already defined at address " ++ Text.literal32 earlier }
  | none => .ok ((l.name, l.address) :: s)

end SymbolTable

end TableAsm
