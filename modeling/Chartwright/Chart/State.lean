import Chartwright.Chart.Encoding
import Chartwright.Chart.Mark
import Chartwright.Chart.Transform

/-!
Builder states: everything the visual controls of a chart show. A partial state carries some of the
attributes; laying it over a state replaces just these.
-/

namespace Chartwright
open Form

inductive Dimension where
  | whole (pixels : Int)
  | real (pixels : Binary64)
  | container
  deriving DecidableEq, Repr

structure Sides where
  top : Option Binary64 := none
  bottom : Option Binary64 := none
  left : Option Binary64 := none
  right : Option Binary64 := none
  deriving DecidableEq, Repr

inductive Padding where
  | even (space : Binary64)
  | separate (sides : Sides)
  deriving DecidableEq, Repr

/-- The value of an attribute: one that was checked, or a document that was put in its place as it
is. -/
inductive Setting (α : Type) where
  | checked (value : α)
  | unchecked (document : Json)

structure BuilderState where
  mark : MarkConfig := {}
  encodings : Encodings := {}
  transforms : List Transform := []
  width : Option (Setting Dimension) := some (.checked .container)
  height : Option (Setting Dimension) := some (.checked (.whole 360))
  title : Option (Setting String) := none
  description : Option (Setting String) := none
  background : Option (Setting String) := none
  padding : Option (Setting Padding) := none

/-- Some attributes of a builder state. The outer option tells whether the attribute is carried,
the inner one whether it has a value. -/
structure PartialState where
  mark : Option (Option MarkConfig) := none
  encodings : Option (Option Encodings) := none
  transforms : Option (Option (List Transform)) := none
  width : Option (Option Dimension) := none
  height : Option (Option Dimension) := none
  title : Option (Option String) := none
  description : Option (Option String) := none
  background : Option (Option String) := none
  padding : Option (Option Padding) := none

namespace Setting
variable {α : Type}

def write (write : α → Json) : Setting α → Json
  | .checked value => write value
  | .unchecked document => document

def settle (read : Json → Checked α) : Setting α → Checked (Setting α)
  | .checked value => .valid (.checked value)
  | .unchecked document => (read document).map .checked

/-- A document in the place of an attribute; nothing if it is null. -/
def put (exact : Json → Option α) : Json → Option (Setting α)
  | .null => none
  | document =>
    match exact document with
    | some value => some (.checked value)
    | none => some (.unchecked document)

def IsChecked : Setting α → Prop
  | .checked _ => True
  | .unchecked _ => False

end Setting

namespace Dimension

inductive ContainerWord where
  | container
  deriving DecidableEq, Repr

instance : Named ContainerWord where
  all := [.container]
  name
    | .container => "container"

def read (document : Json) : Checked Dimension :=
  match document with
  | .float pixels => .valid (.real pixels)
  | document =>
    match literal ContainerWord document with
    | .valid .container => .valid .container
    | .faulty last =>
      match integer document with
      | .valid pixels => .valid (.whole pixels)
      | .faulty first =>
        match number document with
        | .valid pixels => .valid (.real pixels)
        | .faulty second =>
          .faulty (faultsUnder (α := Int) "int" (.faulty first) ++
            faultsUnder (α := Binary64) "float" (.faulty second) ++
            faultsUnder (α := ContainerWord) "literal['container']" (.faulty last))

def write : Dimension → Json
  | .whole pixels => .int pixels
  | .real pixels => .float pixels
  | .container => .text "container"

def ofWritten? : Json → Option Dimension
  | .int pixels => some (.whole pixels)
  | .float pixels => some (.real pixels)
  | .text word => if word = "container" then some .container else none
  | _ => none

end Dimension

namespace Padding

def readSides : Json → Checked Sides :=
  record "Padding" fun entries =>
    Sides.mk <$> optionally entries (word "top") number <*>
      optionally entries (word "bottom") number <*>
      optionally entries (word "left") number <*>
      optionally entries (word "right") number

def writeSides (style : Style) (sides : Sides) : Json :=
  written style
    [(word "top", orNull .float sides.top), (word "bottom", orNull .float sides.bottom),
     (word "left", orNull .float sides.left), (word "right", orNull .float sides.right)]

def read (document : Json) : Checked Padding :=
  match number document with
  | .valid space => .valid (.even space)
  | .faulty faults =>
    match readSides document with
    | .valid sides => .valid (.separate sides)
    | .faulty more =>
      .faulty (faultsUnder (α := Binary64) "float" (.faulty faults) ++
        faultsUnder (α := Sides) "Padding" (.faulty more))

def write (style : Style) : Padding → Json
  | .even space => .float space
  | .separate sides => writeSides style sides

/-- The even padding that is written as a document. An object is never taken for one side by side,
since that has its own way to be written. -/
def ofWritten? : Json → Option Padding
  | .float space => some (.even space)
  | _ => none

end Padding

namespace BuilderState

def IsChecked (state : BuilderState) : Prop :=
  (∀ setting ∈ state.width, setting.IsChecked) ∧ (∀ setting ∈ state.height, setting.IsChecked) ∧
    (∀ setting ∈ state.title, setting.IsChecked) ∧
    (∀ setting ∈ state.description, setting.IsChecked) ∧
    (∀ setting ∈ state.background, setting.IsChecked) ∧
    ∀ setting ∈ state.padding, setting.IsChecked

def Valid (state : BuilderState) : Prop :=
  state.mark.Valid ∧ (∀ transform ∈ state.transforms, transform.Valid) ∧ state.IsChecked

def setting {α : Type} (read : Json → Checked α) (document : Json) : Checked (Setting α) :=
  (read document).map .checked

def readMembers (entries : Members) : Checked BuilderState :=
  BuilderState.mk <$> withDefault entries (word "mark") {} MarkConfig.read <*>
    withDefault entries (word "encodings") {} Encodings.read <*>
    withDefault entries (word "transforms") [] (list Transform.read) <*>
    withDefault entries (word "width") (some (.checked .container))
      (optional (setting Dimension.read)) <*>
    withDefault entries (word "height") (some (.checked (.whole 360)))
      (optional (setting Dimension.read)) <*>
    optionally entries (word "title") (setting Form.text) <*>
    optionally entries (word "description") (setting Form.text) <*>
    optionally entries (word "background") (setting Form.text) <*>
    optionally entries (word "padding") (setting Padding.read)

def read : Json → Checked BuilderState := record "BuilderState" readMembers

def transformsJson (style : Style) (transforms : List Transform) : Json :=
  .list (transforms.map (Transform.write style))

def titleJson (state : BuilderState) : Json := orNull (Setting.write .text) state.title

def toMembers (style : Style) (state : BuilderState) : Members :=
  writtenMembers style
    [(word "mark", state.mark.write style),
     (word "encodings", state.encodings.write style),
     (word "transforms", transformsJson style state.transforms),
     (word "width", orNull (Setting.write Dimension.write) state.width),
     (word "height", orNull (Setting.write Dimension.write) state.height),
     (word "title", state.titleJson),
     (word "description", orNull (Setting.write .text) state.description),
     (word "background", orNull (Setting.write .text) state.background),
     (word "padding", orNull (Setting.write (Padding.write style)) state.padding)]

def write (style : Style) (state : BuilderState) : Json := .object (state.toMembers style)

def hasSides (state : BuilderState) : Bool :=
  match state.padding with
  | some (.checked (.separate _)) => true
  | _ => false

/-- Equality of states: numbers compare by value, and a document put in the place of sides is not
taken for them. -/
def same (a b : BuilderState) : Bool :=
  (a.write .full).same (b.write .full) && a.hasSides == b.hasSides

end BuilderState

namespace PartialState

def readMembers (entries : Members) : Checked PartialState :=
  PartialState.mk <$> ifCarried entries (word "mark") MarkConfig.read <*>
    ifCarried entries (word "encodings") Encodings.read <*>
    ifCarried entries (word "transforms") (list Transform.read) <*>
    ifCarried entries (word "width") Dimension.read <*>
    ifCarried entries (word "height") Dimension.read <*>
    ifCarried entries (word "title") Form.text <*>
    ifCarried entries (word "description") Form.text <*>
    ifCarried entries (word "background") Form.text <*>
    ifCarried entries (word "padding") Padding.read

def read : Json → Checked PartialState := record "PartialBuilderState" readMembers

def carriedEntry {α : Type} (name : String) (write : α → Json) :
    Option (Option α) → Members
  | some value => [(name, orNull write value)]
  | none => []

def toMembers (style : Style) (part : PartialState) : Members :=
  carriedEntry "mark" (MarkConfig.write style) part.mark ++
    carriedEntry "encodings" (Encodings.write style) part.encodings ++
    carriedEntry "transforms" (BuilderState.transformsJson style) part.transforms ++
    carriedEntry "width" Dimension.write part.width ++
    carriedEntry "height" Dimension.write part.height ++
    carriedEntry "title" .text part.title ++
    carriedEntry "description" .text part.description ++
    carriedEntry "background" .text part.background ++
    carriedEntry "padding" (Padding.write style) part.padding

def write (style : Style) (part : PartialState) : Json :=
  written style
    [(word "mark", orNull (MarkConfig.write style) part.mark.join),
     (word "encodings", orNull (Encodings.write style) part.encodings.join),
     (word "transforms", orNull (BuilderState.transformsJson style) part.transforms.join),
     (word "width", orNull Dimension.write part.width.join),
     (word "height", orNull Dimension.write part.height.join),
     (word "title", orNull .text part.title.join),
     (word "description", orNull .text part.description.join),
     (word "background", orNull .text part.background.join),
     (word "padding", orNull (Padding.write style) part.padding.join)]

end PartialState

def PartialState.over {α : Type} (name : String) (cause : FaultCause) (own : α) :
    Option (Option α) → Checked α
  | none => .valid own
  | some (some value) => .valid value
  | some none => (Checked.fault cause .null).under (.name name)

/-- An attribute of a merged state that may be without a value. Its own value is checked now, if it
was not before. -/
def PartialState.overSetting {α : Type} (name : String) (read : Json → Checked α)
    (own : Option (Setting α)) : Option (Option α) → Checked (Option (Setting α))
  | some value => .valid (value.map .checked)
  | none =>
    match own with
    | none => .valid none
    | some setting => ((setting.settle read).map some).under (.name name)

namespace BuilderState

/-- The state with the carried attributes of `part` in place of its own. Mark, encodings and
transforms cannot be carried without a value. -/
def merge (state : BuilderState) (part : PartialState) : Checked BuilderState :=
  BuilderState.mk <$>
    PartialState.over "mark" (.notRecord "MarkConfig") state.mark part.mark <*>
    PartialState.over "encodings" (.notRecord "ChartEncodings") state.encodings part.encodings <*>
    PartialState.over "transforms" .notList state.transforms part.transforms <*>
    PartialState.overSetting "width" Dimension.read state.width part.width <*>
    PartialState.overSetting "height" Dimension.read state.height part.height <*>
    PartialState.overSetting "title" Form.text state.title part.title <*>
    PartialState.overSetting "description" Form.text state.description part.description <*>
    PartialState.overSetting "background" Form.text state.background part.background <*>
    PartialState.overSetting "padding" Padding.read state.padding part.padding

/-- The state with documents in place of attributes as they are. Only mark, encodings and
transforms, which have parts, are read. -/
def put (state : BuilderState) (entries : Members) : Checked BuilderState :=
  let own {α : Type} (name : String) (exact : Json → Option α) (old : Option (Setting α)) :=
    ((entries.lookup name).map (Setting.put exact)).getD old
  (fun mark encodings transforms =>
    { mark, encodings, transforms
      width := own "width" Dimension.ofWritten? state.width
      height := own "height" Dimension.ofWritten? state.height
      title := own "title" Json.asText? state.title
      description := own "description" Json.asText? state.description
      background := own "background" Json.asText? state.background
      padding := own "padding" Padding.ofWritten? state.padding }) <$>
    withDefault entries (word "mark") state.mark MarkConfig.read <*>
    withDefault entries (word "encodings") state.encodings Encodings.read <*>
    withDefault entries (word "transforms") state.transforms (list Transform.read)

end BuilderState
end Chartwright
