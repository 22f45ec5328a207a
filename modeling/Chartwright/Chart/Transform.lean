import Chartwright.Chart.Vocabulary

/-!
Transforms: what is done to the rows of the data before they are drawn.
-/

namespace Chartwright
open Form

/-- One aggregate of a group: the operation, the field it is taken of and the name of the result
are kept in three lists, as a description gives them. -/
structure Aggregation where
  groupby : Option (List String) := none
  ops : List Aggregate
  fields : List String
  names : List String
  deriving DecidableEq, Repr

inductive Transform where
  | filter (expr : String)
  | topN (n : Nat) (byField : String) (direction : Direction)
  | calculate (expr : String) (name : String)
  | aggregate (aggregation : Aggregation)
  deriving DecidableEq, Repr

namespace Transform

/-- A rank is counted from one, and every aggregate has an operation, a field and a name. -/
def Valid : Transform → Prop
  | .topN n _ _ => 0 < n
  | .aggregate a => a.ops.length = a.fields.length ∧ a.fields.length = a.names.length
  | _ => True

def isTopN : Transform → Bool
  | .topN .. => true
  | _ => false

def byFieldAttr : Attribute := ⟨"byField", "by_field"⟩
def asAttr : Attribute := ⟨"as", "as_"⟩

def objection? (a : Aggregation) : Option String :=
  if a.ops.length = a.fields.length ∧ a.fields.length = a.names.length then none
  else some "aggregate ops, fields and as must have the same length"

def readFilter (entries : Members) : Checked Transform :=
  Transform.filter <$> required entries (word "expr") Form.text

def readTopN (entries : Members) : Checked Transform :=
  Transform.topN <$> required entries (word "n") positive <*>
    required entries byFieldAttr Form.text <*>
    withDefault entries (word "order") .descending (named Direction)

def readCalculate (entries : Members) : Checked Transform :=
  Transform.calculate <$> required entries (word "calculate") Form.text <*>
    required entries asAttr Form.text

def readAggregate (entries : Members) : Checked Aggregation :=
  abiding objection? entries <|
    Aggregation.mk <$> optionally entries (word "groupby") (list Form.text) <*>
      required entries (word "ops") (list (named Aggregate)) <*>
      required entries (word "fields") (list Form.text) <*>
      required entries asAttr (list Form.text)

def readers : List (String × (Members → Checked Transform)) :=
  [("filter", readFilter), ("topN", readTopN), ("calculate", readCalculate),
   ("aggregate", fun entries => (readAggregate entries).map .aggregate)]

def read : Json → Checked Transform := tagged "kind" readers

def texts (items : List String) : Json := .list (items.map .text)

def write (style : Style) : Transform → Json
  | .filter expr => written style [(word "kind", .text "filter"), (word "expr", .text expr)]
  | .topN n byField direction =>
    written style
      [(word "kind", .text "topN"), (word "n", .int n), (byFieldAttr, .text byField),
       (word "order", writeName direction)]
  | .calculate expr name =>
    written style
      [(word "kind", .text "calculate"), (word "calculate", .text expr), (asAttr, .text name)]
  | .aggregate a =>
    written style
      [(word "kind", .text "aggregate"), (word "groupby", orNull texts a.groupby),
       (word "ops", .list (a.ops.map writeName)), (word "fields", texts a.fields),
       (asAttr, texts a.names)]

end Transform
end Chartwright
