import TableAsm.Definition.Reading
import TableAsm.Directory.Basic

namespace TableAsm.Directory

def document (d : Directory) (path : Text) : Except Failure Document :=
  match DocumentFormat.ofPath path with
  | .error failure => .error failure
  | .ok format =>
    match d.content path with
    | .error failure => .error (failure.inContext "reading ISA definition")
    | .ok bytes =>
      match Document.ofText format bytes with
      | .error failure => .error (failure.inContext ("loading " ++ path))
      | .ok document => .ok document

def table (d : Directory) (path : Text) : Except Failure Table :=
  match d.document path with
  | .error failure => .error failure
  | .ok document =>
    match document.build with
    | .error failure => .error (failure.inContext ("loading " ++ path))
    | .ok table => .ok table

end TableAsm.Directory
