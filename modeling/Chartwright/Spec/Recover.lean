import Chartwright.Json.Printer
import Chartwright.Spec.Compile

/-!
Recovery of a builder state from a chart specification. What the builder cannot express is left out:
every part is read on its own, so that one fault does not cost the others. The ranking that stands
for the first rows is skipped and not recovered.
-/

namespace Chartwright
namespace Spec
open Form

/-! Mark. -/

def stackingOf? (description : Json) : Option Stacking :=
  description.asObject?.bind fun entries =>
    match entries.lookup "stack" with
    | some .null | some (.bool false) => some .unstacked
    | some (.bool true) => some .zero
    | some (.text "zero") => some .zero
    | some (.text "normalize") => some .normalize
    | _ => none

def stackingIn? (encoding : Members) : Option Stacking :=
  stackingOf? (encoding.getD "y") <|> stackingOf? (encoding.getD "x")

def markKind? (kind : Json) : Option MarkKind := kind.asText?.bind Named.ofName?

def numberEntry (entries : Members) (attr : Attribute) : Members :=
  match entries.getD attr.camel with
  | .int value => [(attr.snake, .int value)]
  | .float value => [(attr.snake, .float value)]
  | _ => []

def flagEntry (entries : Members) (name : String) : Members :=
  match entries.getD name with
  | .bool value => [(name, .bool value)]
  | _ => []

def markEntries (kind : Json) (entries encoding : Members) : Members :=
  let target := markKind? kind
  [("type", kind)] ++ numberEntry entries (word "opacity") ++ numberEntry entries (word "size") ++
    numberEntry entries strokeWidthAttr ++
    (if target.any (·.hasOverlay) then flagEntry entries "point" else []) ++
    memberOf "stacked" writeName
      (if target.any (·.isStackable) then stackingIn? encoding else none)

def interpolateEntry (kind : Json) (entries : Members) : Members :=
  let value := entries.getD "interpolate"
  if (markKind? kind).any (·.hasOverlay) && !value.isVacant then [("interpolate", value)] else []

def readMark (kind : Json) (entries encoding : Members) : Option MarkConfig :=
  let plain := markEntries kind entries encoding
  (MarkConfig.readMembers (plain ++ interpolateEntry kind entries)).toOption <|>
    (MarkConfig.readMembers plain).toOption

def markDescription? : Json → Option (Json × Members)
  | .text kind => if kind.isEmpty then none else some (.text kind, [])
  | .object entries =>
    let kind := Members.getD entries "type"
    if kind.isVacant then none else some (kind, entries)
  | _ => none

def isCompound : Json → Bool
  | .list _ | .object _ => true
  | _ => false

/-! Channels. -/

def channelKeys : List String :=
  ["field", "type", "aggregate", "bin", "timeUnit", "sort", "scale", "axis", "legend"]

def isFalse : Json → Bool
  | .bool false => true
  | _ => false

/-- The members of a channel's description that are considered: those of the builder that have a
value. Binning that is off counts as none. -/
def considered (description : Members) : Members :=
  channelKeys.filterMap fun name =>
    let value := description.getD name
    if value.isNull || (name == "bin" && isFalse value) then none else some (name, value)

def keepReadable (kept : Members) : Members → Members
  | [] => kept
  | entry :: rest =>
    match Encoding.readMembers (kept ++ [entry]) with
    | .valid _ => keepReadable (kept ++ [entry]) rest
    | .faulty _ => keepReadable kept rest

/-- The encoding that a channel's description expresses. Members that cannot be read are dropped;
if none is left there is no encoding. -/
def recoverChannel (description : Members) : Option Encoding :=
  let entries := considered description
  match Encoding.readMembers entries with
  | .valid encoding => some encoding
  | .faulty _ =>
    let kept := keepReadable [] entries
    if kept.isEmpty then none else (Encoding.readMembers kept).toOption

def recoverAt (encoding : Members) (channel : Channel) : Option Encoding :=
  (encoding.getD (Named.name channel)).asObject?.bind recoverChannel

/-! Tooltips. -/

def tooltipDescription (entries : Members) : Members :=
  match entries.getD "format" with
  | .text format =>
    let axis := (entries.getD "axis").asObject?.getD []
    entries.set "axis" (.object (axis.set "format" (.text format)))
  | _ => entries

def recoverTooltipItem : Json → Option Encoding
  | .text field => recoverChannel [("field", .text field)]
  | .object entries => recoverChannel (tooltipDescription entries)
  | _ => none

def recoverTooltip : Json → Option Tooltip
  | .null => none
  | .object entries => some (.chosen (recoverTooltipItem (.object entries)).toList)
  | .list items => some (.chosen (items.filterMap recoverTooltipItem))
  | _ => some .auto

def recoverEncodings (encoding : Members) : Encodings :=
  { x := recoverAt encoding .x
    y := recoverAt encoding .y
    color := recoverAt encoding .color
    size := recoverAt encoding .size
    tooltip := recoverTooltip (encoding.getD "tooltip") }

/-! Transforms. -/

def mentionsRank (expr : String) : Bool :=
  Text.occursIn ("datum." ++ rankField).toList expr.toList

def isRankFilter (step : Members) : Bool := (step.getD "filter").asText?.any mentionsRank

def column (name : String) (items : List Json) : Json :=
  .list ((items.filterMap Json.asObject?).map fun entries => entries.getD name)

def recoverStep (step : Members) : Option Transform :=
  match step.getD "filter", step.getD "calculate", step.getD "aggregate" with
  | .text expr, _, _ => some (.filter expr)
  | _, .text expr, _ =>
    (Transform.readCalculate [("calculate", .text expr), ("as", step.getD "as")]).toOption
  | _, _, .list items =>
    (Transform.readAggregate
      [("groupby", step.getD "groupby"), ("ops", column "op" items),
       ("fields", column "field" items), ("as", column "as" items)]).toOption.map .aggregate
  | _, _, _ => none

/-- The transforms among steps, where `afterWindow` says that a window came just before. A window is
skipped, and so is a filter by rank that follows it. -/
def recoverSteps (afterWindow : Bool) : List Json → List Transform
  | [] => []
  | .object step :: rest =>
    if afterWindow && isRankFilter step then recoverSteps false rest
    else if Members.has step "window" then recoverSteps true rest
    else (recoverStep step).toList ++ recoverSteps false rest
  | _ :: rest => recoverSteps afterWindow rest

/-! Size, texts and the whole. -/

/-- A dimension, if it is one that the builder knows; that of the container if none is given. -/
def recoverDimension : Json → Option Dimension
  | .int pixels => some (.whole pixels)
  | .float pixels => some (.real pixels)
  | .null | .text "container" => some .container
  | _ => none

def recoverTitle (title : Json) : Option String :=
  filled? <|
    match title with
    | .text title => some title
    | .object entries =>
      match Members.getD entries "text" with
      | .text title => some title
      | .list lines => some (" ".intercalate (lines.map Json.display))
      | _ => none
    | _ => none

/-- The padding of a specification; a fault if it is a number beyond all floating-point ones. -/
def recoverPadding : Json → Checked (Option Padding)
  | .int space => (Padding.read (.int space)).map some
  | .float space => .valid (some (.even space))
  | .object sides => .valid ((Padding.readSides (.object sides)).toOption.map .separate)
  | _ => .valid none

/-- The attributes of a specification's members; none at all if its type of mark is no single value
or its padding is beyond measure. -/
def recoverMembers? (spec : Members) : Option PartialState := do
  let encoding := (spec.getD "encoding").asObject?.getD []
  let description := markDescription? (spec.getD "mark")
  if description.any fun (kind, _) => isCompound kind then none
  let padding ← (recoverPadding (spec.getD "padding")).toOption
  return {
    mark := (description.bind fun (kind, entries) => readMark kind entries encoding).map some
    encodings := some (some (recoverEncodings encoding))
    transforms := some (some (recoverSteps false ((spec.getD "transform").asList?.getD [])))
    width := (recoverDimension (spec.getD "width")).map some
    height := (recoverDimension (spec.getD "height")).map some
    title := some (recoverTitle (spec.getD "title"))
    description := some (spec.getD "description").asText?
    background := some (spec.getD "background").asText?
    padding := padding.map some }

def recover (spec : Json) : PartialState := (spec.asObject?.bind recoverMembers?).getD {}

end Spec
end Chartwright
