import TableAsm.Text.Quoted

namespace TableAsm.Command

/-- A flag. A switch takes a truth value, which can be left out. -/
structure Flag where
  name : String
  letter : Option Char := none
  isSwitch : Bool := false
  deriving DecidableEq, Repr

/-- The flags a command knows, and further names for some of them. -/
structure FlagSet where
  flags : List Flag
  otherNames : List (String × String) := []
  deriving Repr

inductive UsageProblem where
  | malformedFlag (written : Text)
  | unknownFlag (name : Text)
  | unknownLetter (letter : UInt8) (written : Text)
  | valueMissing (written : Text)
  | letterValueMissing (letter : UInt8)
  | invalidSwitch (flag : Flag) (value : Text)
  | unknownCommand (argument : Text) (command : Text)
  | tooFewArguments (least count : Nat)
  deriving DecidableEq, Repr

def Flag.title (f : Flag) : Text :=
  match f.letter with
  | some letter => "-" ++ Text.ofChar letter ++ ", --" ++ f.name
  | none => "--" ++ f.name

def quotedByte (b : UInt8) : Text := (Rune.ofCode b.toNat).quoted

def UsageProblem.text : UsageProblem → Text
  | malformedFlag written => "bad flag syntax: " ++ written
  | unknownFlag name => "unknown flag: --" ++ name
  | unknownLetter letter written =>
    "unknown shorthand flag: " ++ quotedByte letter ++ " in -" ++ written
  | valueMissing written => "flag needs an argument: " ++ written
  | letterValueMissing letter =>
    "flag needs an argument: " ++ quotedByte letter ++ " in -" ++ [letter]
  | invalidSwitch flag value =>
    "invalid argument " ++ value.quoted ++ " for " ++ flag.title.quoted ++
      " flag: strconv.ParseBool: parsing " ++ value.quoted ++ ": invalid syntax"
  | unknownCommand argument command =>
    "unknown command " ++ argument.quoted ++ " for " ++ command.quoted
  | tooFewArguments least count =>
    "requires at least " ++ Text.decimal least ++ " arg(s), only received " ++ Text.decimal count

def truth? (t : Text) : Option Bool :=
  if [Text.ofString "1", "t", "T", "TRUE", "true", "True"].contains t then some true
  else if [Text.ofString "0", "f", "F", "FALSE", "false", "False"].contains t then some false
  else none

def dash : UInt8 := 0x2d
def equalsSign : UInt8 := 0x3d

namespace FlagSet

def properName (s : FlagSet) (name : Text) : Text :=
  match s.otherNames.find? fun (other, _) => Text.ofString other == name with
  | some (_, proper) => proper
  | none => name

def named? (s : FlagSet) (name : Text) : Option Flag :=
  s.flags.find? fun f => Text.ofString f.name == s.properName name

def lettered? (s : FlagSet) (letter : UInt8) : Option Flag :=
  s.flags.find? fun f => f.letter.any fun c => c.toNat == letter.toNat

end FlagSet

abbrev Setting := Flag × Text

/-- What one word of a command line says: settings, and possibly a flag whose value is the next
word. -/
structure FlagWord where
  settings : List Setting := []
  waiting : Option Flag := none
  deriving DecidableEq, Repr

def Flag.set (f : Flag) (value : Text) : Except UsageProblem Setting :=
  if f.isSwitch && (truth? value).isNone then .error (.invalidSwitch f value) else .ok (f, value)

def Flag.on : Text := "true"

namespace FlagSet

def longWord (s : FlagSet) (body : Text) : Except UsageProblem FlagWord := do
  let name : Text := body.takeWhile (· != equalsSign)
  if name.isEmpty ∨ body.head? = some dash then throw (.malformedFlag ("--" ++ body))
  match s.named? name with
  | none => throw (.unknownFlag name)
  | some flag =>
    match body.dropWhile (· != equalsSign) with
    | _ :: value => return { settings := [← flag.set value] }
    | [] =>
      if flag.isSwitch then return { settings := [(flag, Flag.on)] }
      else return { waiting := some flag }

def testMark : Text := "test."

def letterWord (s : FlagSet) : Text → Except UsageProblem FlagWord
  | [] => .ok {}
  | letter :: rest => do
    if testMark.isPrefixOf (letter :: rest) then return {}
    match s.lettered? letter with
    | none => throw (.unknownLetter letter (letter :: rest))
    | some flag =>
      if rest.head? = some equalsSign ∧ 1 < rest.length then
        return { settings := [← flag.set rest.tail] }
      else if flag.isSwitch then
        let more ← s.letterWord rest
        return { more with settings := (flag, Flag.on) :: more.settings }
      else if rest.isEmpty then return { waiting := some flag }
      else return { settings := [(flag, rest)] }

end FlagSet

structure CommandLine where
  settings : List Setting := []
  arguments : List Text := []
  deriving Repr

namespace CommandLine

def value? (c : CommandLine) (name : String) : Option Text :=
  (c.settings.reverse.find? fun (flag, _) => flag.name == name).map Prod.snd

def isOn (c : CommandLine) (name : String) : Bool :=
  ((c.value? name).bind truth?).getD false

def isFlagWord (word : Text) : Bool := word.head? == some dash && 1 < word.length

def flagWord (s : FlagSet) : Text → Except UsageProblem FlagWord
  | _ :: second :: body => if second = dash then s.longWord body else s.letterWord (second :: body)
  | _ => .ok {}

def missing (word : Text) (flag : Flag) : UsageProblem :=
  if word.take 2 = [dash, dash] then .valueMissing word
  else
    match flag.letter with
    | some letter => .letterValueMissing (UInt8.ofNat letter.toNat)
    | none => .valueMissing word

def ofWords (s : FlagSet) (c : CommandLine) : List Text → Except UsageProblem CommandLine
  | [] => .ok c
  | word :: rest =>
    if word = [dash, dash] then .ok { c with arguments := c.arguments ++ rest }
    else if !isFlagWord word then ofWords s { c with arguments := c.arguments ++ [word] } rest
    else
      match flagWord s word with
      | .error problem => .error problem
      | .ok { settings, waiting := none } => ofWords s { c with settings := c.settings ++ settings } rest
      | .ok { settings, waiting := some flag } =>
        match rest with
        | [] => .error (missing word flag)
        | value :: more => ofWords s { c with settings := c.settings ++ settings ++ [(flag, value)] } more

end CommandLine

/-- Is the next word taken for the value of this one when a sub-command is looked for? It is unless
the word says its value or is known to need none. -/
def FlagSet.takesNext (s : FlagSet) (word : Text) : Bool :=
  let isSwitch := fun (flag : Option Flag) => (flag.map Flag.isSwitch).getD false
  !word.contains equalsSign &&
    ((word.take 2 == [dash, dash] && !isSwitch (s.named? (word.drop 2))) ||
      (word.head? == some dash && word.length == 2 && !isSwitch ((word.drop 1).head?.bind s.lettered?)))

/-- The first word that is neither a flag nor the value of one, and the words without it. A flag
that takes the last word but has no further word behind it ends the search. -/
def FlagSet.commandName? (s : FlagSet) : List Text → Option (Text × List Text)
  | [] => none
  | word :: rest =>
    if word = [dash, dash] then none
    else if s.takesNext word then
      match rest with
      | value :: next :: more =>
        (s.commandName? (next :: more)).map fun (name, others) => (name, word :: value :: others)
      | _ => none
    else if word.isEmpty ∨ word.head? = some dash then
      (s.commandName? rest).map fun (name, others) => (name, word :: others)
    else some (word, rest)

end TableAsm.Command
