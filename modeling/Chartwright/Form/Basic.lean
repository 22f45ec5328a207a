import Chartwright.Form.Fault

/-!
Reading values of simple types, lists and records from documents. Reading is lenient: whole numbers
are integers, numerals in texts are numbers, and a few words are truth values. A record is read from
an object whose members go by the name of the attribute in camel case or in snake case; if both are
there the camel case counts, and other members are ignored.
-/

namespace Chartwright.Form
open Text

structure Attribute where
  camel : String
  snake : String
  deriving DecidableEq, Repr

def word (name : String) : Attribute := ⟨name, name⟩

inductive Naming where
  | camel
  | snake
  deriving DecidableEq, Repr

def Attribute.name (attr : Attribute) : Naming → String
  | .camel => attr.camel
  | .snake => attr.snake

/-- Types whose values go by fixed names, listed in the order in which messages name them. -/
class Named (α : Type) where
  all : List α
  name : α → String

def Named.names (α : Type) [Named α] : List String := (Named.all (α := α)).map Named.name

def Named.ofName? {α : Type} [Named α] (name : String) : Option α :=
  Named.all.find? fun value => Named.name value == name

/-! Readers of simple values. -/

def any (document : Json) : Checked Json := .valid document

def text : Json → Checked String
  | .text value => .valid value
  | found => .fault .notText found

def withoutZeros (numeral : List Char) : List Char :=
  match numeral.dropWhile (· != '.') with
  | '.' :: zeros =>
    if !zeros.isEmpty && zeros.all (· == '0') then numeral.takeWhile (· != '.') else numeral
  | _ => numeral

/-- What follows leading zeros and underscores among them. A minus sign or a digit ends them; so
does a point, which keeps the last of them in front of it. -/
def afterZeros? (last : Char) : List Char → Option (List Char)
  | [] => some [last]
  | c :: rest =>
    if c = '0' ∨ c = '_' then afterZeros? c rest
    else if c = '.' then some (last :: c :: rest)
    else if c = '-' ∨ isAsciiDigit c then some (c :: rest)
    else none

def withoutLeadingZeros? : List Char → Option (List Char)
  | '0' :: rest => afterZeros? '0' rest
  | c :: rest => if c = '-' ∨ isAsciiDigit c then some (c :: rest) else none
  | [] => none

/-- Takes out underscores, if none stands at an end or beside another one. -/
def withoutUnderscores (numeral : List Char) : List Char :=
  if numeral.head? = some '_' || numeral.getLast? = some '_' || occursIn ['_', '_'] numeral then
    numeral
  else numeral.filter (· != '_')

/-- A numeral in its plain form: without blanks and a plus sign, without leading zeros, zeros after
a point, and underscores between other characters. -/
def plainNumeral? (text : List Char) : Option (List Char) := do
  let numeral := trimmedOf isSpace text
  let numeral ←
    match numeral with
    | '+' :: '-' :: _ => none
    | '+' :: rest => some rest
    | _ => some numeral
  let numeral ← withoutLeadingZeros? numeral
  return withoutUnderscores (withoutZeros numeral)

def plainInteger? (numeral : List Char) : Option Int :=
  let digits := if numeral.head? = some '-' then numeral.drop 1 else numeral
  if digits.head? = some '0' && 1 < digits.length || numeral.head? = some '+' then none
  else (Numeral.integerOf numeral).toOption

def isOverlong (numeral : List Char) : Bool :=
  let digits := if numeral.head? = some '-' then numeral.drop 1 else numeral
  digits.head? != some '0' && Numeral.digitLimit < (digits.takeWhile isAsciiDigit).length

def integerOfText (value : String) : Except FaultCause Int :=
  if isOverlong value.toList then .error .integerSize
  else
    match (plainNumeral? value.toList).bind plainInteger? with
    | some n => .ok n
    | none => .error .integerText

def numberOfText? (value : String) : Option Binary64 :=
  match Numeral.decimal? (trimmedOf isSpace value.toList) with
  | some x => some x
  | none => Numeral.decimal? (withoutUnderscores value.toList)

/-- The integer that a number stands for, if it is whole and fits into 64 bits. -/
def word64? (value : Binary64) : Option Int := value.toInt?.filter fun n => n.natAbs < Nat.pow 2 63

def integer : Json → Checked Int
  | .int value => .valid value
  | .bool value => .valid (if value then 1 else 0)
  | .float value =>
    if !value.isFinite then .fault .integerInfinite (.float value)
    else if value.toInt?.isNone then .fault .integerFraction (.float value)
    else
      match word64? value with
      | some n => .valid n
      | none => .fault .integerSize (.float value)
  | .text value =>
    match integerOfText value with
    | .ok n => .valid n
    | .error cause => .fault cause (.text value)
  | found => .fault .notInteger found

def number : Json → Checked Binary64
  | .float value => .valid value
  | .bool value => .valid (.ofInt (if value then 1 else 0))
  | .int value =>
    match Binary64.ofInt? value with
    | some x => .valid x
    | none => .fault .notNumber (.int value)
  | .text value =>
    match numberOfText? value with
    | some x => .valid x
    | none => .fault .numberText (.text value)
  | found => .fault .notNumber found

def trueWords : List String := ["1", "on", "t", "true", "y", "yes"]

def falseWords : List String := ["0", "off", "f", "false", "n", "no"]

def truth : Json → Checked Bool
  | .bool value => .valid value
  | .text value =>
    let lowered := String.ofList (value.toList.map Char.toLower)
    if trueWords.contains lowered then .valid true
    else if falseWords.contains lowered then .valid false
    else .fault .truthText (.text value)
  | .int value =>
    if value = 1 then .valid true
    else if value = 0 then .valid false
    else if -Int.pow 2 63 ≤ value ∧ value < Int.pow 2 63 then .fault .truthText (.int value)
    else .fault .notTruth (.int value)
  | .float value =>
    match word64? value with
    | none => .fault .notTruth (.float value)
    | some n =>
      if n = 1 then .valid true
      else if n = 0 then .valid false
      else .fault .truthText (.float value)
  | found => .fault .notTruth found

def named (α : Type) [Named α] (document : Json) : Checked α :=
  match document.asText?.bind Named.ofName? with
  | some value => .valid value
  | none => .fault (.notNamed (Named.names α)) document

def literal (α : Type) [Named α] (document : Json) : Checked α :=
  match document.asText?.bind Named.ofName? with
  | some value => .valid value
  | none => .fault (.notLiteral (Named.names α)) document

def optional {α : Type} (read : Json → Checked α) : Json → Checked (Option α)
  | .null => .valid none
  | document => (read document).map some

def itemsFrom {α : Type} (read : Json → Checked α) (index : Nat) : List Json → Checked (List α)
  | [] => .valid []
  | item :: rest =>
    List.cons <$> (read item).under (.index index) <*> itemsFrom read (index + 1) rest

def list {α : Type} (read : Json → Checked α) : Json → Checked (List α)
  | .list items => itemsFrom read 0 items
  | found => .fault .notList found

def valuesOf {α : Type} (read : Json → Checked α) : Members → Checked (List (String × α))
  | [] => .valid []
  | (name, value) :: rest =>
    (fun value rest => (name, value) :: rest) <$> (read value).under (.name name) <*>
      valuesOf read rest

def members {α : Type} (read : Json → Checked α) : Json → Checked (List (String × α))
  | .object entries => valuesOf read entries
  | found => .fault .notMembers found

/-- A number between zero and one. Nothing is known of what is no number, so it is refused. -/
def fraction (document : Json) : Checked Binary64 :=
  (number document).andThen fun value =>
    if !value.atMost (.exact 1) then .fault (.aboveMaximum 1) document
    else if !Binary64.atMost (.exact 0) value then .fault (.belowMinimum 0) document
    else .valid value

def positive (document : Json) : Checked Nat :=
  (integer document).andThen fun value =>
    if 0 < value then .valid value.toNat else .fault (.notGreater 0) document

/-! Records. -/

def Attribute.find? (attr : Attribute) (record : Members) : Option (String × Json) :=
  match record.lookup attr.camel with
  | some value => some (attr.camel, value)
  | none => (record.lookup attr.snake).map fun value => (attr.snake, value)

def required {α : Type} (record : Members) (attr : Attribute) (read : Json → Checked α) :
    Checked α :=
  match attr.find? record with
  | some (spelling, value) => (read value).under (.name spelling)
  | none =>
    .faulty [{ path := [.name attr.camel], cause := .missing, found := .object record }]

def withDefault {α : Type} (record : Members) (attr : Attribute) (default : α)
    (read : Json → Checked α) : Checked α :=
  match attr.find? record with
  | some (spelling, value) => (read value).under (.name spelling)
  | none => .valid default

def optionally {α : Type} (record : Members) (attr : Attribute) (read : Json → Checked α) :
    Checked (Option α) :=
  withDefault record attr none (optional read)

def ifCarried {α : Type} (record : Members) (attr : Attribute) (read : Json → Checked α) :
    Checked (Option (Option α)) :=
  match attr.find? record with
  | some (spelling, value) => ((optional read value).under (.name spelling)).map some
  | none => .valid none

def record {α : Type} (name : String) (read : Members → Checked α) : Json → Checked α
  | .object entries => read entries
  | found => .fault (.notRecord name) found

def tagged {α : Type} (attr : String) (readers : List (String × (Members → Checked α))) :
    Json → Checked α
  | .object entries =>
    match entries.lookup attr with
    | none => .fault (.noTag attr) (.object entries)
    | some tag =>
      match tag.asText?.bind fun name => (readers.lookup name).map fun read => (name, read) with
      | some (name, read) => (read entries).under (.name name)
      | none =>
        .fault (.unknownTag attr tag.display (readers.map (·.1))) (.object entries)
  | found => .fault .notTagged found

/-- An attribute that may only be the name of the record, or be left out. -/
def ownTag (entries : Members) (attr name : String) : Checked Unit :=
  withDefault entries (word attr) () fun document =>
    if document.asText? = some name then .valid () else .fault (.notLiteral [name]) document

def abiding {α : Type} (rule : α → Option String) (entries : Members) (value : Checked α) :
    Checked α :=
  value.andThen fun value =>
    match rule value with
    | some message => .fault (.rule message) (.object entries)
    | none => .valid value

def faultsUnder {α : Type} (label : String) (outcome : Checked α) : List Fault :=
  match outcome.under (.name label) with
  | .valid _ => []
  | .faulty faults => faults

/-! Writing. -/

def filled? (value : Option String) : Option String := value.filter fun value => !value.isEmpty

def orNull {α : Type} (write : α → Json) : Option α → Json
  | some value => write value
  | none => .null

def writeName {α : Type} [Named α] (value : α) : Json := .text (Named.name value)

/-- How a record is written: the spelling of its attributes, and whether those without a value are
written as null or left out. -/
structure Style where
  naming : Naming
  nulls : Bool
  deriving DecidableEq, Repr

def Style.full : Style := ⟨.camel, true⟩

def Style.present : Style := ⟨.camel, false⟩

def writtenMembers (style : Style) (entries : List (Attribute × Json)) : Members :=
  let named := entries.map fun (attr, value) => (attr.name style.naming, value)
  if style.nulls then named else named.filter fun (_, value) => !value.isNull

def written (style : Style) (entries : List (Attribute × Json)) : Json :=
  .object (writtenMembers style entries)

end Chartwright.Form
