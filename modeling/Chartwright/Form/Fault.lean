import Chartwright.Json.Printer

/-!
Faults of a document that is read as a typed value: where in the document, what is wrong there, and
the value found. Reading goes on after a fault, so a document is told all its faults at once, in the
order of its attributes.
-/

namespace Chartwright

/-- One step into a document, or the label of an alternative that was tried. -/
inductive PathStep where
  | name (name : String)
  | index (index : Nat)
  deriving DecidableEq, Repr

inductive FaultCause where
  | missing
  | notText
  | notInteger
  | notNumber
  | notTruth
  | integerText
  | integerSize
  | integerFraction
  | integerInfinite
  | numberText
  | truthText
  | notList
  | notMembers
  | notRecord (name : String)
  | notTagged
  | notNamed (options : List String)
  | notLiteral (options : List String)
  | aboveMaximum (limit : Nat)
  | belowMinimum (limit : Nat)
  | notGreater (limit : Nat)
  | noTag (attr : String)
  | unknownTag (attr : String) (tag : String) (known : List String)
  | rule (message : String)
  deriving DecidableEq, Repr

structure Fault where
  path : List PathStep
  cause : FaultCause
  found : Json

namespace FaultCause

def kind : FaultCause → String
  | .missing => "missing"
  | .notText => "string_type"
  | .notInteger => "int_type"
  | .notNumber => "float_type"
  | .notTruth => "bool_type"
  | .integerText => "int_parsing"
  | .integerSize => "int_parsing_size"
  | .integerFraction => "int_from_float"
  | .integerInfinite => "finite_number"
  | .numberText => "float_parsing"
  | .truthText => "bool_parsing"
  | .notList => "list_type"
  | .notMembers => "dict_type"
  | .notRecord _ => "model_type"
  | .notTagged => "model_attributes_type"
  | .notNamed _ => "enum"
  | .notLiteral _ => "literal_error"
  | .aboveMaximum _ => "less_than_equal"
  | .belowMinimum _ => "greater_than_equal"
  | .notGreater _ => "greater_than"
  | .noTag _ => "union_tag_not_found"
  | .unknownTag .. => "union_tag_invalid"
  | .rule _ => "value_error"

def quotedName (name : String) : String := "'" ++ name ++ "'"

def choices : List String → String
  | [] => ""
  | [only] => quotedName only
  | [first, last] => quotedName first ++ " or " ++ quotedName last
  | first :: rest => quotedName first ++ ", " ++ choices rest

def message : FaultCause → String
  | .missing => "Field required"
  | .notText => "Input should be a valid string"
  | .notInteger => "Input should be a valid integer"
  | .notNumber => "Input should be a valid number"
  | .notTruth => "Input should be a valid boolean"
  | .integerText => "Input should be a valid integer, unable to parse string as an integer"
  | .integerSize => "Unable to parse input string as an integer, exceeded maximum size"
  | .integerFraction => "Input should be a valid integer, got a number with a fractional part"
  | .integerInfinite => "Input should be a finite number"
  | .numberText => "Input should be a valid number, unable to parse string as a number"
  | .truthText => "Input should be a valid boolean, unable to interpret input"
  | .notList => "Input should be a valid list"
  | .notMembers => "Input should be a valid dictionary"
  | .notRecord name => s!"Input should be a valid dictionary or instance of {name}"
  | .notTagged => "Input should be a valid dictionary or object to extract fields from"
  | .notNamed options | .notLiteral options => s!"Input should be {choices options}"
  | .aboveMaximum limit => s!"Input should be less than or equal to {limit}"
  | .belowMinimum limit => s!"Input should be greater than or equal to {limit}"
  | .notGreater limit => s!"Input should be greater than {limit}"
  | .noTag attr => s!"Unable to extract tag using discriminator '{attr}'"
  | .unknownTag attr tag known =>
    s!"Input tag '{tag}' found using '{attr}' does not match any of the expected tags: " ++
      ", ".intercalate (known.map quotedName)
  | .rule message => "Value error, " ++ message

/-- The particulars of a fault that a client may want apart from the message. -/
def particulars : FaultCause → Members
  | .notNamed options | .notLiteral options => [("expected", .text (choices options))]
  | .aboveMaximum limit => [("le", .float (.ofInt limit))]
  | .belowMinimum limit => [("ge", .float (.ofInt limit))]
  | .notGreater limit => [("gt", .int limit)]
  | .noTag attr => [("discriminator", .text (quotedName attr))]
  | .unknownTag attr tag known =>
    [("discriminator", .text (quotedName attr)), ("tag", .text tag),
      ("expected_tags", .text (", ".intercalate (known.map quotedName)))]
  | .rule message => [("error", .text message)]
  | _ => []

end FaultCause

def PathStep.toJson : PathStep → Json
  | .name step => .text step
  | .index place => .int place

/-- A step as it is written between points; a name with points in it stands between backticks. -/
def PathStep.text : PathStep → String
  | .name step => if step.contains '.' then "`" ++ step ++ "`" else step
  | .index place => toString place

/-- The outcome of reading: a value, or everything that is wrong. -/
inductive Checked (α : Type) where
  | valid (value : α)
  | faulty (faults : List Fault)

namespace Checked

def map {α β : Type} (f : α → β) : Checked α → Checked β
  | .valid value => .valid (f value)
  | .faulty faults => .faulty faults

def apply {α β : Type} : Checked (α → β) → (Unit → Checked α) → Checked β
  | .valid f, x => (x ()).map f
  | .faulty faults, x =>
    match x () with
    | .valid _ => .faulty faults
    | .faulty more => .faulty (faults ++ more)

instance : Applicative Checked where
  pure := .valid
  seq := apply

def andThen {α β : Type} : Checked α → (α → Checked β) → Checked β
  | .valid value, next => next value
  | .faulty faults, _ => .faulty faults

def toOption {α : Type} : Checked α → Option α
  | .valid value => some value
  | .faulty _ => none

def fault {α : Type} (cause : FaultCause) (found : Json) : Checked α :=
  .faulty [{ path := [], cause, found }]

def under {α : Type} (step : PathStep) : Checked α → Checked α
  | .valid value => .valid value
  | .faulty faults => .faulty (faults.map fun fault => { fault with path := step :: fault.path })

end Checked
end Chartwright
