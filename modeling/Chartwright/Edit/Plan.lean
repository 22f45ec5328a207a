import Chartwright.Chart.State

/-!
Edit operations: the single steps in which a chart is changed. A command is planned as a list of
operations, whether by the built-in phrases or by a language model.
A plan is such a list with the confidence of the planner.
-/

namespace Chartwright
open Form

inductive OperationKind where
  | setMark
  | setEncoding
  | removeEncoding
  | setSeriesColors
  | setColorScheme
  | setTopN
  | setSort
  | addFilter
  | setAggregate
  | setTitle
  | setSize
  | directEdit
  deriving DecidableEq, Repr, Inhabited

instance : Named OperationKind where
  all :=
    [.setMark, .setEncoding, .removeEncoding, .setSeriesColors, .setColorScheme, .setTopN, .setSort,
     .addFilter, .setAggregate, .setTitle, .setSize, .directEdit]
  name
    | .setMark => "set_mark"
    | .setEncoding => "set_encoding"
    | .removeEncoding => "remove_encoding"
    | .setSeriesColors => "set_series_colors"
    | .setColorScheme => "set_color_scheme"
    | .setTopN => "set_top_n"
    | .setSort => "set_sort"
    | .addFilter => "add_filter"
    | .setAggregate => "set_aggregate"
    | .setTitle => "set_title"
    | .setSize => "set_size"
    | .directEdit => "direct_spec_edit"

/-- The name of the record that an operation of a kind is read from. -/
def OperationKind.recordName : OperationKind → String
  | .setMark => "SetMark"
  | .setEncoding => "SetEncoding"
  | .removeEncoding => "RemoveEncoding"
  | .setSeriesColors => "SetSeriesColors"
  | .setColorScheme => "SetColorScheme"
  | .setTopN => "SetTopN"
  | .setSort => "SetSort"
  | .addFilter => "AddFilter"
  | .setAggregate => "SetAggregate"
  | .setTitle => "SetTitle"
  | .setSize => "SetSize"
  | .directEdit => "DirectSpecEdit"

/-- The channels along which marks are placed. -/
inductive Position where
  | x
  | y
  deriving DecidableEq, Repr, Inhabited

instance : Named Position where
  all := [.x, .y]
  name
    | .x => "x"
    | .y => "y"

def Position.channel : Position → Channel
  | .x => .x
  | .y => .y

inductive Operation where
  | setMark (kind : MarkKind) (options : Option MarkOptions)
  | setEncoding (channel : Channel) (field : String) (kind : Option FieldKind)
      (settings : Option Members)
  | removeEncoding (channel : Channel)
  | setSeriesColors (colors : List (String × String))
  | setColorScheme (scheme : String)
  | setTopN (n : Nat) (byField : Option String) (direction : Direction)
  | setSort (target : String) (byField : Option String) (direction : Direction)
  | addFilter (expr : String)
  | setAggregate (position : Position) (aggregate : Aggregate)
  | setTitle (title : String)
  | setSize (width height : Option Dimension)
  | directEdit (description : String)

namespace Operation

def kind : Operation → OperationKind
  | .setMark .. => .setMark
  | .setEncoding .. => .setEncoding
  | .removeEncoding .. => .removeEncoding
  | .setSeriesColors .. => .setSeriesColors
  | .setColorScheme .. => .setColorScheme
  | .setTopN .. => .setTopN
  | .setSort .. => .setSort
  | .addFilter .. => .addFilter
  | .setAggregate .. => .setAggregate
  | .setTitle .. => .setTitle
  | .setSize .. => .setSize
  | .directEdit .. => .directEdit

/-- Ranks are counted from one. -/
def Valid : Operation → Prop
  | .setTopN n _ _ => 0 < n
  | _ => True

def targetAttr : Attribute := ⟨"channelOrField", "channel_or_field"⟩

/-- What is recorded when a whole specification was replaced. -/
def directEditText : String := "Modified spec directly with AI"

def readMembers (entries : Members) : OperationKind → Checked Operation
  | .setMark =>
    Operation.setMark <$> required entries (word "mark") (named MarkKind) <*>
      optionally entries (word "options") MarkOptions.read
  | .setEncoding =>
    Operation.setEncoding <$> required entries (word "channel") (literal Channel) <*>
      required entries (word "field") Form.text <*>
      optionally entries (word "type") (named FieldKind) <*>
      optionally entries (word "config") (members any)
  | .removeEncoding =>
    Operation.removeEncoding <$> required entries (word "channel") (literal Channel)
  | .setSeriesColors =>
    Operation.setSeriesColors <$> required entries (word "colors") (members Form.text)
  | .setColorScheme =>
    Operation.setColorScheme <$> required entries (word "scheme") Form.text
  | .setTopN =>
    Operation.setTopN <$> required entries (word "n") positive <*>
      optionally entries Transform.byFieldAttr Form.text <*>
      withDefault entries (word "order") .descending (named Direction)
  | .setSort =>
    Operation.setSort <$> required entries targetAttr Form.text <*>
      optionally entries (word "by") Form.text <*>
      withDefault entries (word "order") .ascending (named Direction)
  | .addFilter => Operation.addFilter <$> required entries (word "expr") Form.text
  | .setAggregate =>
    Operation.setAggregate <$> required entries (word "channel") (literal Position) <*>
      required entries (word "aggregate") (named Aggregate)
  | .setTitle => Operation.setTitle <$> required entries (word "title") Form.text
  | .setSize =>
    Operation.setSize <$> optionally entries (word "width") Dimension.read <*>
      optionally entries (word "height") Dimension.read
  | .directEdit =>
    Operation.directEdit <$>
      withDefault entries (word "description") directEditText Form.text

def readers : List (String × (Members → Checked Operation)) :=
  (Named.all (α := OperationKind)).map fun kind =>
    (Named.name kind, fun entries => readMembers entries kind)

def read : Json → Checked Operation := tagged "op" readers

def writeColors (colors : List (String × String)) : Json :=
  .object (colors.map fun (name, color) => (name, .text color))

/-- The attributes of an operation apart from its kind. -/
def entries (style : Style) : Operation → List (Attribute × Json)
  | .setMark kind options =>
    [(word "mark", writeName kind), (word "options", orNull (MarkOptions.write style) options)]
  | .setEncoding channel field kind settings =>
    [(word "channel", writeName channel), (word "field", .text field),
     (word "type", orNull writeName kind), (word "config", orNull .object settings)]
  | .removeEncoding channel => [(word "channel", writeName channel)]
  | .setSeriesColors colors => [(word "colors", writeColors colors)]
  | .setColorScheme scheme => [(word "scheme", .text scheme)]
  | .setTopN n byField direction =>
    [(word "n", .int n), (Transform.byFieldAttr, orNull .text byField),
     (word "order", writeName direction)]
  | .setSort target byField direction =>
    [(targetAttr, .text target), (word "by", orNull .text byField),
     (word "order", writeName direction)]
  | .addFilter expr => [(word "expr", .text expr)]
  | .setAggregate position aggregate =>
    [(word "channel", writeName position), (word "aggregate", writeName aggregate)]
  | .setTitle title => [(word "title", .text title)]
  | .setSize width height =>
    [(word "width", orNull Dimension.write width), (word "height", orNull Dimension.write height)]
  | .directEdit description => [(word "description", .text description)]

def write (style : Style) (operation : Operation) : Json :=
  written style ((word "op", writeName operation.kind) :: operation.entries style)

end Operation

/-! Plans. -/

/-- The confidence of a plan of which nothing else is known: six tenths. -/
def usualConfidence : Binary64 := .ofRatio false 6 10

structure Plan where
  intent : String
  confidence : Binary64 := usualConfidence
  operations : List Operation := []

namespace Plan

def intentAttr : Attribute := ⟨"intentText", "intent_text"⟩

def read : Json → Checked Plan :=
  record "ChartEditPlan" fun entries =>
    Plan.mk <$> required entries intentAttr Form.text <*>
      withDefault entries (word "confidence") usualConfidence fraction <*>
      withDefault entries (word "operations") [] (list Operation.read)

def write (style : Style) (plan : Plan) : Json :=
  written style
    [(intentAttr, .text plan.intent), (word "confidence", .float plan.confidence),
     (word "operations", .list (plan.operations.map (Operation.write style)))]

end Plan

end Chartwright
