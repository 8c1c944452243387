import TableAsm.Text.Basic

namespace TableAsm

inductive DocumentFormat where
  | yaml
  | toml
  deriving DecidableEq, Repr

def DocumentFormat.name : DocumentFormat → Text
  | .yaml => "yaml"
  | .toml => "toml"

end TableAsm
