import TableAsm.Definition.Document
import TableAsm.Text.Quoted
import TableAsm.Yaml.Node

namespace TableAsm.Yaml

inductive Target where
  | text
  | byte
  | texts
  | entry
  | entries
  | document
  deriving DecidableEq, Repr

def Target.name : Target → Text
  | text => "string"
  | byte => "uint8"
  | texts => "[]string"
  | entry => "config.FormatDef"
  | entries => "[]config.FormatDef"
  | document => "config.ISAFile"

/-- A problem of a document that is YAML. Lines count from zero. -/
inductive Problem where
  /-- A value that its target does not take; collections have no text. -/
  | mismatch (line : Nat) (tag : Text) (value : Text) (target : Target)
  | unknownField (line : Nat) (field : Text) (target : Target)
  | repeatedField (line : Nat) (field : Text) (target : Target)
  | repeatedKey (line : Nat) (key : Text) (first : Nat)
  deriving DecidableEq, Repr

def shortened (value : Text) : Text :=
  if 10 < value.length then value.take 7 ++ "..." else value

def Problem.text : Problem → Text
  | mismatch line tag value target =>
    let shown : Text :=
      if tag = seqTag ∨ tag = mapTag then value else " \x60" ++ shortened value ++ "\x60"
    "line " ++ Text.decimal (line + 1) ++ ": cannot unmarshal " ++ tag ++ shown ++ " into " ++
      target.name
  | unknownField line field target =>
    "line " ++ Text.decimal (line + 1) ++ ": field " ++ field ++ " not found in type " ++ target.name
  | repeatedField line field target =>
    "line " ++ Text.decimal (line + 1) ++ ": field " ++ field ++ " already set in type " ++ target.name
  | repeatedKey line key first =>
    "line " ++ Text.decimal (line + 1) ++ ": mapping key " ++ key.quoted ++ " already defined at line " ++
      Text.decimal (first + 1)

structure Ledger where
  /-- The problems met, last first. -/
  problems : List Problem := []
  reads : Nat := 1
  aliasReads : Nat := 0
  followed : List Nat := []

namespace Ledger

def count (k : Ledger) : Ledger :=
  { k with reads := k.reads + 1
           aliasReads := if k.followed.isEmpty then k.aliasReads else k.aliasReads + 1 }

/-- Do aliases make up too much of a document? In documents of up to 400000 nodes they may be 99 of
100 nodes, from 4000000 nodes on 10 of 100, and between these in proportion. -/
def isExcessive (k : Ledger) : Bool :=
  let least := 400000
  let most := 4000000
  let span := most - least
  let allowed := 99 * span - 89 * (min (max k.reads least) most - least)
  100 < k.aliasReads && 1000 < k.reads && k.reads * allowed < k.aliasReads * (100 * span)

end Ledger

abbrev Check := StateT Ledger Option

def note (p : Problem) : Check Unit := modify fun k => { k with problems := p :: k.problems }

def enter : Check Unit := do
  modify Ledger.count
  if (← get).isExcessive then failure

/-- Reads a node, and in place of an alias the node it stands for, which may not contain the alias. -/
def Anchors.reading {α : Type} (a : Anchors) (n : Node) (read : Node → Check α) : Check α := do
  enter
  match n with
  | .reference _ target number _ =>
    match a.node? target, (← get).followed with
    | some node, followed => do
      if followed.contains number then failure
      modify fun k => { k with followed := number :: followed }
      enter
      let result ← read node
      modify fun k => { k with followed }
      return result
    | none, _ => failure
  | n => read n

def sameKey : Node → Node → Bool
  | .scalar _ a _, .scalar _ b _ => a == b
  | .reference a _ _ _, .reference b _ _ _ => a == b
  | .sequence _ _ _, .sequence _ _ _ => true
  | .mapping _ _ _, .mapping _ _ _ => true
  | _, _ => false

def keyText : Node → Text
  | .scalar _ value _ => value
  | .reference name _ _ _ => name
  | _ => []

def repeatedKeys : List (Node × Node) → List Problem
  | [] => []
  | (key, _) :: rest =>
    (rest.filter fun other => sameKey key other.1).map
      (fun other => .repeatedKey other.1.line (keyText other.1) key.line) ++ repeatedKeys rest

def isMerge : Node → Bool
  | .scalar tag value _ => value == Text.ofString "<<" && tag == mergeTag
  | _ => false

def mergeSources? (entries : List (Node × Node)) : Option (List Node) :=
  (entries.filter fun entry => isMerge entry.1).getLast?.map fun entry =>
    match entry.2 with
    | .sequence _ items _ => items
    | n => [n]

def checkKeys (entries : List (Node × Node)) : Check Bool := do
  let problems := repeatedKeys entries
  modify fun k => { k with problems := problems.reverse ++ k.problems }
  return problems.isEmpty

def mismatch (target : Target) : Node → Check Unit
  | .scalar tag value line => note (.mismatch line tag value target)
  | .sequence tag _ line => note (.mismatch line tag [] target)
  | .mapping tag entries line => do
    if ← checkKeys entries then note (.mismatch line tag [] target)
  | .reference _ _ _ _ => pure ()

def meaningOf (tag value : Text) : Check Meaning :=
  match tagged? tag value with
  | some m => pure m
  | none => failure

def readText (a : Anchors) (n : Node) : Check (Option Text) := a.reading n fun n => do
  match n with
  | .scalar tag value _ =>
    match ← meaningOf tag value with
    | .null => return none
    | .text t => return some t
    | _ => return some value
  | n => do
    mismatch .text n
    return none

end TableAsm.Yaml
