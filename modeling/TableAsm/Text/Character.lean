import TableAsm.Text.Basic

namespace TableAsm

def lineFeed : Char := Char.ofNat 0x0a
def tab : Char := Char.ofNat 0x09
def apostrophe : Char := Char.ofNat 0x27
def quotationMark : Char := Char.ofNat 0x22
def backslash : Char := Char.ofNat 0x5c

def isBlank (c : Char) : Bool := c == ' ' || c == tab

def Text.ofChars (cs : List Char) : Text := cs.flatMap Text.ofChar

end TableAsm
