import TableAsm.Directory.Basic

namespace TableAsm.Command

structure Outcome where
  status : Nat := 0
  output : Text := []
  messages : Text := []
  directory : Directory

def failed : Nat := 1

def misused : Nat := 2

end TableAsm.Command
