import Chartwright.Chart.Vocabulary

/-!
Encodings: how a field of the data is mapped to a visual channel, with its scale, axis and legend.
Each type comes with its reader and its writer; reading what was written gives the value back.
-/

namespace Chartwright
open Form

/-- The order of the values along a channel: of the values themselves, or by another field. -/
inductive Sorting where
  | plain (direction : Direction)
  | byField (field : String) (direction : Direction)
  deriving DecidableEq, Repr

/-- Whether values are put into bins, and into how many at most. -/
inductive Binning where
  | flag (on : Bool)
  | limited (maximum : Option Int)
  deriving DecidableEq, Repr

/-- A value that a scale maps to: a name, such as that of a color, or a number. -/
inductive RangeItem where
  | text (value : String)
  | number (value : Binary64)
  deriving DecidableEq, Repr

structure Scale where
  domain : Option (List Json) := none
  range : Option (List RangeItem) := none
  scheme : Option String := none
  reverse : Option Bool := none
  zero : Option Bool := none

structure Axis where
  title : Option String := none
  format : Option String := none
  grid : Option Bool := none
  labelAngle : Option Binary64 := none
  labelFontSize : Option Binary64 := none
  titleFontSize : Option Binary64 := none
  deriving DecidableEq, Repr

structure Legend where
  title : Option String := none
  orient : Option LegendSide := none
  labelFontSize : Option Binary64 := none
  titleFontSize : Option Binary64 := none
  deriving DecidableEq, Repr

structure Encoding where
  field : Option String := none
  kind : Option FieldKind := none
  aggregate : Option Aggregate := none
  sorting : Option Sorting := none
  binning : Option Binning := none
  timeUnit : Option TimeUnit := none
  scale : Option Scale := none
  axis : Option Axis := none
  legend : Option Legend := none

/-- What is shown for the mark under the pointer: the first fields of the data, or chosen ones. -/
inductive Tooltip where
  | auto
  | chosen (entries : List Encoding)

structure Encodings where
  x : Option Encoding := none
  y : Option Encoding := none
  color : Option Encoding := none
  size : Option Encoding := none
  tooltip : Option Tooltip := some .auto

namespace Encodings

def at? (encodings : Encodings) : Channel → Option Encoding
  | .x => encodings.x
  | .y => encodings.y
  | .color => encodings.color
  | .size => encodings.size

def put (encodings : Encodings) (encoding : Option Encoding) : Channel → Encodings
  | .x => { encodings with x := encoding }
  | .y => { encodings with y := encoding }
  | .color => { encodings with color := encoding }
  | .size => { encodings with size := encoding }

end Encodings

/-! Attributes of more than one word. -/

def labelAngleAttr : Attribute := ⟨"labelAngle", "label_angle"⟩
def labelFontSizeAttr : Attribute := ⟨"labelFontSize", "label_font_size"⟩
def titleFontSizeAttr : Attribute := ⟨"titleFontSize", "title_font_size"⟩
def timeUnitAttr : Attribute := ⟨"timeUnit", "time_unit"⟩

/-! Sorting. -/

/-- A field and a direction, ascending if none is given. -/
def SortField.read : Json → Checked (String × Direction) :=
  record "SortField" fun entries =>
    Prod.mk <$> required entries (word "field") Form.text <*>
      withDefault entries (word "order") .ascending (named Direction)

def SortField.write (style : Style) (field : String) (direction : Direction) : Json :=
  written style [(word "field", .text field), (word "order", writeName direction)]

/-- The label of the plain direction among the ways to sort. -/
def directionLabel : String :=
  "function-after[operator.attrgetter('value')(), str-enum[SortOrder]]"

def Sorting.read (document : Json) : Checked Sorting :=
  match named Direction document with
  | .valid direction => .valid (.plain direction)
  | .faulty faults =>
    match SortField.read document with
    | .valid (field, direction) => .valid (.byField field direction)
    | .faulty more =>
      .faulty (faultsUnder (α := Direction) directionLabel (.faulty faults) ++
        faultsUnder (α := String × Direction) "SortField" (.faulty more))

def Sorting.write (style : Style) : Sorting → Json
  | .plain direction => writeName direction
  | .byField field direction => SortField.write style field direction

/-! Binning. -/

def BinParams.read : Json → Checked (Option Int) :=
  record "BinParams" fun entries => optionally entries (word "maxbins") integer

def BinParams.write (style : Style) (maximum : Option Int) : Json :=
  written style [(word "maxbins", orNull .int maximum)]

def Binning.read (document : Json) : Checked Binning :=
  match truth document with
  | .valid on => .valid (.flag on)
  | .faulty faults =>
    match BinParams.read document with
    | .valid maximum => .valid (.limited maximum)
    | .faulty more =>
      .faulty (faultsUnder (α := Bool) "bool" (.faulty faults) ++
        faultsUnder (α := Option Int) "BinParams" (.faulty more))

def Binning.write (style : Style) : Binning → Json
  | .flag on => .bool on
  | .limited maximum => BinParams.write style maximum

/-! Scales, axes and legends. -/

def RangeItem.read (document : Json) : Checked RangeItem :=
  match document with
  | .text value => .valid (.text value)
  | document =>
    match Form.number document with
    | .valid value => .valid (.number value)
    | .faulty faults =>
      .faulty (faultsUnder "str" (Form.text document) ++
        faultsUnder (α := Binary64) "float" (.faulty faults))

def RangeItem.write : RangeItem → Json
  | .text value => .text value
  | .number value => .float value

def Scale.read : Json → Checked Scale :=
  record "ScaleConfig" fun entries =>
    Scale.mk <$> optionally entries (word "domain") (list any) <*>
      optionally entries (word "range") (list RangeItem.read) <*>
      optionally entries (word "scheme") Form.text <*>
      optionally entries (word "reverse") truth <*>
      optionally entries (word "zero") truth

def Scale.write (style : Style) (scale : Scale) : Json :=
  written style
    [(word "domain", orNull .list scale.domain),
     (word "range", orNull (fun items => .list (items.map RangeItem.write)) scale.range),
     (word "scheme", orNull .text scale.scheme),
     (word "reverse", orNull .bool scale.reverse),
     (word "zero", orNull .bool scale.zero)]

def Axis.read : Json → Checked Axis :=
  record "AxisConfig" fun entries =>
    Axis.mk <$> optionally entries (word "title") Form.text <*>
      optionally entries (word "format") Form.text <*>
      optionally entries (word "grid") truth <*>
      optionally entries labelAngleAttr number <*>
      optionally entries labelFontSizeAttr number <*>
      optionally entries titleFontSizeAttr number

def Axis.write (style : Style) (axis : Axis) : Json :=
  written style
    [(word "title", orNull .text axis.title),
     (word "format", orNull .text axis.format),
     (word "grid", orNull .bool axis.grid),
     (labelAngleAttr, orNull .float axis.labelAngle),
     (labelFontSizeAttr, orNull .float axis.labelFontSize),
     (titleFontSizeAttr, orNull .float axis.titleFontSize)]

def Legend.read : Json → Checked Legend :=
  record "LegendConfig" fun entries =>
    Legend.mk <$> optionally entries (word "title") Form.text <*>
      optionally entries (word "orient") (literal LegendSide) <*>
      optionally entries labelFontSizeAttr number <*>
      optionally entries titleFontSizeAttr number

def Legend.write (style : Style) (legend : Legend) : Json :=
  written style
    [(word "title", orNull .text legend.title),
     (word "orient", orNull writeName legend.orient),
     (labelFontSizeAttr, orNull .float legend.labelFontSize),
     (titleFontSizeAttr, orNull .float legend.titleFontSize)]

/-! Encodings. -/

def Encoding.readMembers (entries : Members) : Checked Encoding :=
  Encoding.mk <$> optionally entries (word "field") Form.text <*>
    optionally entries (word "type") (named FieldKind) <*>
    optionally entries (word "aggregate") (named Aggregate) <*>
    optionally entries (word "sort") Sorting.read <*>
    optionally entries (word "bin") Binning.read <*>
    optionally entries timeUnitAttr (named TimeUnit) <*>
    optionally entries (word "scale") Scale.read <*>
    optionally entries (word "axis") Axis.read <*>
    optionally entries (word "legend") Legend.read

def Encoding.read : Json → Checked Encoding := record "EncodingConfig" Encoding.readMembers

def Encoding.toMembers (style : Style) (encoding : Encoding) : Members :=
  writtenMembers style
    [(word "field", orNull .text encoding.field),
     (word "type", orNull writeName encoding.kind),
     (word "aggregate", orNull writeName encoding.aggregate),
     (word "sort", orNull (Sorting.write style) encoding.sorting),
     (word "bin", orNull (Binning.write style) encoding.binning),
     (timeUnitAttr, orNull writeName encoding.timeUnit),
     (word "scale", orNull (Scale.write style) encoding.scale),
     (word "axis", orNull (Axis.write style) encoding.axis),
     (word "legend", orNull (Legend.write style) encoding.legend)]

def Encoding.write (style : Style) (encoding : Encoding) : Json :=
  .object (encoding.toMembers style)

/-- The one word a tooltip may be. -/
inductive AutoWord where
  | auto
  deriving DecidableEq, Repr

instance : Named AutoWord where
  all := [.auto]
  name
    | .auto => "auto"

def Tooltip.read (document : Json) : Checked Tooltip :=
  match literal AutoWord document with
  | .valid .auto => .valid .auto
  | .faulty faults =>
    match list Encoding.read document with
    | .valid entries => .valid (.chosen entries)
    | .faulty more =>
      .faulty (faultsUnder (α := AutoWord) "literal['auto']" (.faulty faults) ++
        faultsUnder (α := List Encoding) "list[EncodingConfig]" (.faulty more))

def Tooltip.write (style : Style) : Tooltip → Json
  | .auto => .text "auto"
  | .chosen entries => .list (entries.map (Encoding.write style))

def Encodings.readMembers (entries : Members) : Checked Encodings :=
  Encodings.mk <$> optionally entries (word "x") Encoding.read <*>
    optionally entries (word "y") Encoding.read <*>
    optionally entries (word "color") Encoding.read <*>
    optionally entries (word "size") Encoding.read <*>
    withDefault entries (word "tooltip") (some .auto) (optional Tooltip.read)

def Encodings.read : Json → Checked Encodings := record "ChartEncodings" Encodings.readMembers

def Encodings.write (style : Style) (encodings : Encodings) : Json :=
  written style
    [(word "x", orNull (Encoding.write style) encodings.x),
     (word "y", orNull (Encoding.write style) encodings.y),
     (word "color", orNull (Encoding.write style) encodings.color),
     (word "size", orNull (Encoding.write style) encodings.size),
     (word "tooltip", orNull (Tooltip.write style) encodings.tooltip)]

end Chartwright
