import Chartwright.Chart.State
import Chartwright.Table.Field

/-!
Compilation of a builder state and the fields of the data to a chart specification. The members of
the specification have a fixed order, so equal inputs give the same text.
-/

namespace Chartwright
namespace Spec
open Form

def schemaUrl : String := "https://vega.github.io/schema/vega-lite/v5.json"

def datasetName : String := "table"

def rankField : String := "__rank__"

def autoTooltipFields : Nat := 6

def channels : List Channel := [.x, .y, .color, .size]

def memberOf {α : Type} (name : String) (write : α → Json) : Option α → Members
  | some value => [(name, write value)]
  | none => []

/-! Channels. -/

def isShown (encoding : Encoding) : Bool :=
  (filled? encoding.field).isSome || encoding.aggregate = some .count

/-- The kind of the values along a channel: the chosen one, else that of the field. -/
def shownKind (fields : List DataField) (encoding : Encoding) : FieldKind :=
  (encoding.kind <|> kindOf? fields (encoding.field.getD "")).getD
    (if encoding.aggregate = some .count then .quantitative else .nominal)

def channelMembers (fields : List DataField) (encoding : Encoding) : Members :=
  memberOf "field" .text (filled? encoding.field) ++
    [("type", writeName (shownKind fields encoding))] ++
    memberOf "aggregate" writeName encoding.aggregate ++
    memberOf "bin" (Binning.write .present) encoding.binning ++
    memberOf "timeUnit" writeName encoding.timeUnit ++
    memberOf "sort" (Sorting.write .present) encoding.sorting ++
    memberOf "scale" (Scale.write .present) encoding.scale ++
    memberOf "axis" (Axis.write .present) encoding.axis ++
    memberOf "legend" (Legend.write .present) encoding.legend

def shown? (state : BuilderState) (channel : Channel) : Option Encoding :=
  (state.encodings.at? channel).filter isShown

/-- The axis along which marks are stacked: the first quantitative one of `y` and `x`. -/
def stackedChannel? (state : BuilderState) (fields : List DataField) : Option Channel :=
  [.y, .x].find? fun channel =>
    (shown? state channel).any fun encoding => shownKind fields encoding = .quantitative

def writeStacking : Stacking → Json
  | .unstacked => .null
  | stacking => writeName stacking

def stackingAt? (state : BuilderState) (fields : List DataField) (channel : Channel) :
    Option Stacking :=
  if state.mark.kind.isStackable ∧ stackedChannel? state fields = some channel then
    state.mark.stacked
  else none

def channelEntry (state : BuilderState) (fields : List DataField) (channel : Channel) : Members :=
  memberOf (Named.name channel)
    (fun encoding => .object (channelMembers fields encoding ++
      memberOf "stack" writeStacking (stackingAt? state fields channel)))
    (shown? state channel)

/-! Tooltips. -/

def tooltipEntry (encoding : Encoding) : Json :=
  .object (memberOf "field" .text encoding.field ++ memberOf "type" writeName encoding.kind ++
    memberOf "aggregate" writeName encoding.aggregate ++
    memberOf "format" .text (filled? (encoding.axis.bind (·.format))))

def tooltipItems (fields : List DataField) : Tooltip → List Json
  | .auto =>
    (fields.take autoTooltipFields).map fun field =>
      .object [("field", .text field.name), ("type", writeName field.kind)]
  | .chosen entries => entries.map tooltipEntry

def encodingMembers (state : BuilderState) (fields : List DataField) : Members :=
  channels.flatMap (channelEntry state fields) ++
    memberOf "tooltip" (fun tooltip => .list (tooltipItems fields tooltip)) state.encodings.tooltip

/-! Transforms. -/

def aggregateItem (op : Aggregate) (field name : String) : Json :=
  .object [("op", writeName op), ("field", .text field), ("as", .text name)]

def aggregateItems : List Aggregate → List String → List String → List Json
  | op :: ops, field :: fields, name :: names =>
    aggregateItem op field name :: aggregateItems ops fields names
  | _, _, _ => []

/-- The test that keeps the rows of the first `n` ranks. It is written in full, however many digits
the rank has; `Numeral.digitLimit` is a limit on reading alone. -/
def rankTest (n : Nat) : String := "datum." ++ rankField ++ " <= " ++ toString n

/-- There is no transform for the first `n` rows; they are ranked and then filtered. -/
def transformSteps : Transform → List Json
  | .filter expr => [.object [("filter", .text expr)]]
  | .topN n byField direction =>
    [.object
      [("window", .list [.object [("op", .text "rank"), ("as", .text rankField)]]),
       ("sort", .list [.object [("field", .text byField), ("order", writeName direction)]])],
     .object [("filter", .text (rankTest n))]]
  | .calculate expr name => [.object [("calculate", .text expr), ("as", .text name)]]
  | .aggregate a =>
    [.object (("aggregate", .list (aggregateItems a.ops a.fields a.names)) ::
      memberOf "groupby" Transform.texts (a.groupby.filter fun names => !names.isEmpty))]

/-! Mark, size and the whole. -/

def markMembers (mark : MarkConfig) : Members :=
  [("type", writeName mark.kind), ("tooltip", .bool true)] ++
    memberOf "point" .bool mark.point ++
    memberOf "opacity" .float mark.opacity ++
    memberOf "size" .float mark.size ++
    memberOf "strokeWidth" .float mark.strokeWidth ++
    memberOf "interpolate" writeName (mark.interpolate.filter fun _ => mark.kind.hasOverlay)

def pixels? : Option (Setting Dimension) → Option Json
  | some (.checked (.whole pixels)) => some (.int pixels)
  | some (.checked (.real pixels)) => some (.float pixels)
  | some (.unchecked (.bool value)) => some (.bool value)
  | some (.unchecked document) => if document.isNumber then some document else none
  | some (.checked .container) | none => none

def fills : Option (Setting Dimension) → Bool
  | some (.checked .container) => true
  | _ => false

def legible? (setting : Option (Setting String)) : Option Json :=
  (setting.map (Setting.write .text)).filter fun document => !document.isVacant

def fitting : Json := .object [("type", .text "fit"), ("contains", .text "padding")]

def viewMembers (state : BuilderState) : Members :=
  memberOf "continuousWidth" .int (if fills state.width then none else some 400) ++
    memberOf "continuousHeight" .int (if fills state.height then none else some 300)

def configuration (state : BuilderState) : Json :=
  .object
    [("view", .object (viewMembers state)),
     ("axis", .object [("labelFontSize", .int 11), ("titleFontSize", .int 12)])]

def compile (state : BuilderState) (fields : List DataField) : Members :=
  let steps := state.transforms.flatMap transformSteps
  [("$schema", .text schemaUrl)] ++
    memberOf "width" id (pixels? state.width) ++
    memberOf "height" id (pixels? state.height) ++
    memberOf "autosize" id
      (if fills state.width || fills state.height then some fitting else none) ++
    [("data", .object [("name", .text datasetName)]),
     ("mark", .object (markMembers state.mark)),
     ("encoding", .object (encodingMembers state fields))] ++
    memberOf "transform" .list (if steps.isEmpty then none else some steps) ++
    [("config", configuration state)] ++
    memberOf "title" id (legible? state.title) ++
    memberOf "description" id (legible? state.description) ++
    memberOf "background" id (legible? state.background) ++
    memberOf "padding" (Setting.write (Padding.write .present)) state.padding

end Spec
end Chartwright
