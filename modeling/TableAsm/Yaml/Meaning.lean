import TableAsm.Text.Decimal
import TableAsm.Text.Moment
import TableAsm.Text.Base64

namespace TableAsm.Yaml

inductive Meaning where
  | null
  | truth (holds : Bool)
  | integer (n : Int)
  | infinite (negative : Bool)
  | notANumber
  | fraction (negative : Bool) (size : Magnitude)
  | moment (written : Text)
  | text (t : Text)
  deriving DecidableEq, Repr

def nullTag : Text := "!!null"
def boolTag : Text := "!!bool"
def intTag : Text := "!!int"
def floatTag : Text := "!!float"
def timestampTag : Text := "!!timestamp"
def strTag : Text := "!!str"
def binaryTag : Text := "!!binary"
def mergeTag : Text := "!!merge"
def seqTag : Text := "!!seq"
def mapTag : Text := "!!map"

def Meaning.tag : Meaning → Text
  | null => nullTag
  | truth _ => boolTag
  | integer _ => intTag
  | infinite _ => floatTag
  | notANumber => floatTag
  | fraction _ _ => floatTag
  | moment _ => timestampTag
  | text _ => strTag

/-- Are two meanings the same? What is not a number is not even the same as itself, and zero has no
sign. -/
def Meaning.isSame : Meaning → Meaning → Bool
  | notANumber, _ => false
  | fraction negative size, fraction negative' size' =>
    size == size' && (negative == negative' || size.significand == 0)
  | m, m' => m == m'

def isOneOf (words : List String) (t : Text) : Bool := (words.map Text.ofString).contains t

def wordMeaning? (t : Text) : Option Meaning :=
  if isOneOf ["true", "True", "TRUE"] t then some (.truth true)
  else if isOneOf ["false", "False", "FALSE"] t then some (.truth false)
  else if isOneOf ["", "~", "null", "Null", "NULL"] t then some .null
  else if isOneOf [".nan", ".NaN", ".NAN"] t then some .notANumber
  else if isOneOf [".inf", ".Inf", ".INF", "+.inf", "+.Inf", "+.INF"] t then some (.infinite false)
  else if isOneOf ["-.inf", "-.Inf", "-.INF"] t then some (.infinite true)
  else none

def isMoment (t : Text) : Bool :=
  (t.takeWhile Text.isDigit).length == 4 &&
    match Text.date? .oneOrTwo t with
    | none => false
    | some [] => true
    | some (mark :: rest) =>
      if mark = 0x54 ∨ mark = 0x74 then
        ((Text.clock? .oneOrTwo rest).bind Text.zone?) == some []
      else if mark = Text.space then
        Text.clock? .oneOrTwo (rest.dropWhile (· == Text.space)) == some []
      else false

def fraction? (t : Text) : Option Meaning :=
  (Text.decimal? t).bind fun d => d.magnitude?.map (.fraction d.negative)

def markedInteger? (base : Nat) (t : Text) : Option Int :=
  let (negative, digits) := Text.splitSign t
  match Text.readNatural base Text.max64 digits with
  | .error _ => none
  | .ok n =>
    let value : Int := if negative then -n else n
    if Text.fitsSigned value ∨ digits = t then some value else none

def integer? (t : Text) : Option Int :=
  match Text.integer? t with
  | some n => if Text.fitsSigned n ∨ (Text.splitSign t).2 = t then some n else none
  | none => none

def oddInteger? (t : Text) : Option Int :=
  match Text.after? "0b" t, Text.after? "-0b" t, Text.after? "0o" t, Text.after? "-0o" t with
  | some digits, _, _, _ => markedInteger? 2 digits
  | _, some digits, _, _ => markedInteger? 2 ("-" ++ digits)
  | _, _, some digits, _ => markedInteger? 8 digits
  | _, _, _, some digits => markedInteger? 8 ("-" ++ digits)
  | _, _, _, _ => none

def number? (t : Text) : Option Meaning :=
  let plain := Text.withoutMarks t
  ((integer? plain).map .integer <|> fraction? plain) <|> (oddInteger? plain).map .integer

/-- The meaning of a scalar of which nothing is known but its text; moments only where asked for. -/
def meaning (moments : Bool) (t : Text) : Meaning :=
  let first := t.headD 0
  let word := if (t.isEmpty || "yYnNtTfFoO~.+-0123456789".toUTF8.data.contains first) then wordMeaning? t
    else none
  let number :=
    if first = 0x2e then
      (if Text.marksSeparateDigits false t then fraction? (Text.withoutMarks t) else none)
    else if Text.isDigit first ∨ first = 0x2b ∨ first = 0x2d then
      (if moments ∧ isMoment t then some (.moment t) else number? t)
    else none
  (word <|> number).getD (.text t)

def plainTag (t : Text) : Text := (meaning true t).tag

/-- The meaning of a scalar with a tag; none when it cannot have that tag. An unknown tag makes no
demand. -/
def tagged? (tag value : Text) : Option Meaning :=
  if tag = strTag then some (.text value)
  else if tag = binaryTag then (Text.ofBase64? value).map .text
  else if !List.contains [boolTag, intTag, floatTag, nullTag, timestampTag] tag then some (.text value)
  else
    let found := meaning (tag == timestampTag) value
    if found.tag = tag then some found
    else
      match found with
      | .integer n =>
        if tag = floatTag ∧ Text.fitsSigned n then fraction? (Text.signedDecimal n) else none
      | _ => none

end TableAsm.Yaml
