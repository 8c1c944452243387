import TableAsm.Toml.Definition
import TableAsm.Toml.Written
import TableAsm.Yaml.Definition
import TableAsm.Yaml.Written

namespace TableAsm

def extension (path : Text) : Text :=
  let element : Text := (path.splitAt 0x2f).getLast?.getD []
  if element.contains 0x2e then
    0x2e :: (element.reverse.takeWhile (· != 0x2e)).reverse
  else []

namespace DocumentFormat

def ofPath (path : Text) : Except Failure DocumentFormat :=
  let found : Text := (extension path).lowerAscii
  if found = ".yaml" ∨ found = ".yml" then .ok .yaml
  else if found = ".toml" then .ok .toml
  else
    .error (.ofMessage
      ("cannot tell the format of " ++ path ++ "; use a .yaml, .yml or .toml extension"))

def unknown (name : Text) : Failure := .ofMessage ("unknown definition format " ++ name.quoted)

def ofName (name : Text) : Except Failure DocumentFormat :=
  match [yaml, toml].find? fun f => f.name == name with
  | some format => .ok format
  | none => .error (unknown name)

def ofUserName (name : Text) : Except Failure DocumentFormat :=
  let found : Text := name.lowerAscii
  if found = "yaml" ∨ found = "yml" then .ok .yaml
  else if found = "toml" then .ok .toml
  else .error (unknown name)

end DocumentFormat

structure Codec where
  encode : Document → Text
  decode : Text → Except Failure Document

def DocumentFormat.codec : DocumentFormat → Codec
  | .yaml => { encode := Yaml.written, decode := Yaml.definition }
  | .toml => { encode := Toml.written, decode := Toml.definition }

def Document.ofText (format : DocumentFormat) (t : Text) : Except Failure Document := format.codec.decode t

namespace Table

def decoded (codec : Codec) (t : Text) : Except Failure Table :=
  match codec.decode t with
  | .ok document => document.build
  | .error failure => .error failure

def encoded (codec : Codec) (t : Table) : Text := codec.encode (Document.ofTable t)

def ofText (format : DocumentFormat) : Text → Except Failure Table := decoded format.codec

def written (format : DocumentFormat) : Table → Text := encoded format.codec

end Table

end TableAsm
