import TableAsm.Definition.Document
import TableAsm.Text.Capital
import TableAsm.Toml.Content

namespace TableAsm.Toml

def documentFields : List String := ["name", "registers", "formats"]

def entryFields : List String := ["mnemonic", "fields", "group", "opcode"]

def field? (fields : List String) (key : Text) : Option String :=
  fields.find? fun name => Text.sameName name key

def Item.text? : Item → Option Text
  | .text t => some t
  | _ => none

def Item.byte? : Item → Option UInt8
  | .integer n => if 0 ≤ n ∧ n < 256 then some (UInt8.ofNat n.toNat) else none
  | _ => none

def Item.elements? : Item → Option (List Item)
  | .array items => some items
  | .tables latest earlier => some ((latest :: earlier).reverse.map .table)
  | _ => none

def setEntryField (e : FormatEntry) (key : Text) (value : Item) : Option FormatEntry :=
  match field? entryFields key with
  | some "mnemonic" => value.text?.map fun mnemonic => { e with mnemonic }
  | some "fields" => value.text?.map fun fields => { e with fields }
  | some "group" => value.byte?.map fun group => { e with group }
  | some "opcode" => value.byte?.map fun opcode => { e with opcode }
  | _ => some e

def Item.entry? (e : FormatEntry) : Item → Option FormatEntry
  | .table entries => entries.foldlM (fun e (key, value) => setEntryField e key value) e
  | _ => none

def readEntries (old : List FormatEntry) (items : List Item) : Option (List FormatEntry) :=
  let base := if old.length < items.length then items.map fun _ => {} else old
  (base.zip items).mapM fun (e, item) => item.entry? e

def setDocumentField (d : Document) (key : Text) (value : Item) : Option Document :=
  match field? documentFields key with
  | some "name" => value.text?.map fun name => { d with name }
  | some "registers" => do
    let items ← value.elements?
    let registers ← items.mapM Item.text?
    return { d with registers }
  | some "formats" => do
    let items ← value.elements?
    let formats ← readEntries d.formats items
    return { d with formats }
  | _ => some d

def Item.entryKeys : Item → List Text
  | .table entries => (entries.map Prod.fst).filter fun key => (field? entryFields key).isSome
  | _ => []

def usedKeys (root : Table) : List Key :=
  root.flatMap fun (key, value) =>
    match field? documentFields key with
    | none => []
    | some "formats" =>
      let inner := (value.elements?.getD []).flatMap Item.entryKeys
      [key] :: inner.eraseDups.map fun name => [key, name]
    | some _ => [[key]]

def definition (t : Text) : Except Failure Document :=
  let document := do
    let content ← content? t
    let document ← content.root.foldlM (fun d (key, value) => setDocumentField d key value) {}
    return (content, document)
  match document with
  | none => .error { root := .refused .toml }
  | some (content, document) =>
    let used := usedKeys content.root
    match content.keys.reverse.find? fun key => !used.contains key with
    | some key => .error (.ofMessage ("unknown key " ++ keyText key))
    | none => .ok document

end TableAsm.Toml
