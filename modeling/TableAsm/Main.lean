import TableAsm.Command.Assembler

namespace TableAsm.Command

def stringOf (t : Text) : String := (String.fromUTF8? t.repaired.toByteArray).getD ""

def folderErrorCode : UInt32 := 21

def lookUp (path : Text) : IO (Option Entry) := do
  try
    let bytes ← IO.FS.readBinFile (stringOf path)
    return some (.file bytes.data.toList)
  catch
    | .inappropriateType _ code _ => return if code = folderErrorCode then some .folder else none
    | _ => return none

def waysTo (path : Text) : List (List Text) :=
  let names := path.splitAt Directory.slash
  (List.range names.length).map fun i => names.take (i + 1)

def addPath (d : Directory) (path : Text) : IO Directory :=
  (waysTo path).foldlM
    (fun d names => do
      let (start, rest) := Directory.start names
      let place := rest.foldl Directory.step start
      match ← lookUp (Directory.pathText names) with
      | some (.file content) => return d.put place content
      | some .folder => return { d with folders := place :: d.folders }
      | none => return d)
    d

end TableAsm.Command

open TableAsm TableAsm.Command

def main (arguments : List String) : IO UInt32 := do
  let words := arguments.map Text.ofString
  let invocation := (Invocation.ofWords words).toOption
  let paths := (invocation.map Invocation.paths).getD []
  let directory ← paths.foldlM addPath {}
  let standard ←
    if (invocation.map Invocation.readsStandard).getD false then (← IO.getStdin).readBinToEnd
    else pure ByteArray.empty
  let outcome := assembler directory standard.data.toList words
  for (place, content) in directory.changesFrom outcome.directory do
    IO.FS.writeBinFile (stringOf (Directory.pathText place)) content.toByteArray
  (← IO.getStdout).write outcome.output.toByteArray
  (← IO.getStderr).write outcome.messages.toByteArray
  return UInt32.ofNat outcome.status
