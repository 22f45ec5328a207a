import Chartwright.Edit.Plan
import Chartwright.Table.Field

/-!
Application of edit operations to a builder state, strictly in order. An operation that does not fit
the state, or that would make it invalid, is skipped.
-/

namespace Chartwright
open Form

def firstKindOf? (fields : List DataField) (name : String) : Option FieldKind :=
  (fields.find? fun field => field.name = name).map (·.kind)

namespace BuilderState

def withChannel (state : BuilderState) (channel : Channel) (encoding : Option Encoding) :
    BuilderState :=
  { state with encodings := state.encodings.put encoding channel }

def hasField (encoding : Encoding) : Bool := (filled? encoding.field).isSome

/-- The field that colors are given to when none is chosen: the first nominal one, else the
first. -/
def colorField? (fields : List DataField) : Option DataField :=
  (fields.find? fun field => field.kind = .nominal) <|> fields.head?

def coloring? (state : BuilderState) (fields : List DataField) : Option Encoding :=
  (state.encodings.color.filter hasField) <|>
    (colorField? fields).map fun field => { field := some field.name, kind := some field.kind }

def rescale (state : BuilderState) (fields : List DataField) (change : Scale → Scale) :
    BuilderState :=
  match state.coloring? fields with
  | none => state
  | some color =>
    state.withChannel .color (some { color with scale := some (change (color.scale.getD {})) })

def axisField? (state : BuilderState) (channel : Channel) : Option String :=
  filled? ((state.encodings.at? channel).bind (·.field))

/-- Keeps the first `n` rows by a field: the given one, else that of `y` or of `x`. An earlier rank
gives way even if there is no such field. -/
def rank (state : BuilderState) (n : Nat) (byField : Option String) (direction : Direction) :
    BuilderState :=
  let others := state.transforms.filter fun transform => !transform.isTopN
  match filled? byField <|> state.axisField? .y <|> state.axisField? .x with
  | none => { state with transforms := others }
  | some field => { state with transforms := others ++ [.topN n field direction] }

def withSorting (state : BuilderState) (channel : Channel) (sorting : Sorting) : BuilderState :=
  state.withChannel channel
    (some { (state.encodings.at? channel).getD {} with sorting := some sorting })

def sort (state : BuilderState) (target : String) (byField : Option String)
    (direction : Direction) : BuilderState :=
  match Named.ofName? (α := Position) target with
  | some position =>
    state.withSorting position.channel <|
      match filled? byField with
      | some field => .byField field direction
      | none => .plain direction
  | none => state.withSorting .y (.byField target direction)

def encodingEntries (current : Option Encoding) (field : String) (kind : Option FieldKind)
    (settings : Members) : Members :=
  let present := (current.map (Encoding.toMembers { naming := .snake, nulls := false })).getD []
  let chosen := (present.set "field" (.text field)).set "type" (orNull writeName kind)
  settings.foldl (fun entries (name, value) => entries.set name value) chosen

def encode (state : BuilderState) (fields : List DataField) (channel : Channel) (field : String)
    (kind : Option FieldKind) (settings : Option Members) : Checked BuilderState :=
  let entries := encodingEntries (state.encodings.at? channel) field
    (kind <|> firstKindOf? fields field) (settings.getD [])
  (Encoding.readMembers entries).map fun encoding => state.withChannel channel (some encoding)

def aggregate (state : BuilderState) (channel : Channel) (op : Aggregate) : BuilderState :=
  match state.encodings.at? channel with
  | none => state
  | some encoding => state.withChannel channel (some { encoding with aggregate := some op })

end BuilderState

namespace Operation

def seriesScale (colors : List (String × String)) (scale : Scale) : Scale :=
  { scale with
    domain := some (colors.map fun (name, _) => .text name)
    range := some (colors.map fun (_, color) => .text color) }

def apply (fields : List DataField) (state : BuilderState) : Operation → Checked BuilderState
  | .setMark kind options =>
    (state.mark.retarget kind (options.getD {})).map fun mark => { state with mark }
  | .setEncoding channel field kind settings => state.encode fields channel field kind settings
  | .removeEncoding channel => .valid (state.withChannel channel none)
  | .setSeriesColors colors => .valid (state.rescale fields (seriesScale colors))
  | .setColorScheme scheme =>
    .valid (state.rescale fields fun scale => { scale with scheme := some scheme })
  | .setTopN n byField direction => .valid (state.rank n byField direction)
  | .setSort target byField direction => .valid (state.sort target byField direction)
  | .addFilter expr => .valid { state with transforms := state.transforms ++ [.filter expr] }
  | .setAggregate position op => .valid (state.aggregate position.channel op)
  | .setTitle title => .valid { state with title := some (.checked title) }
  | .setSize width height =>
    .valid
      { state with
        width := width.map .checked <|> state.width
        height := height.map .checked <|> state.height }
  | .directEdit _ => .valid state

def step (fields : List DataField) (state : BuilderState) (operation : Operation) : BuilderState :=
  (operation.apply fields state).toOption.getD state

def applyAll (fields : List DataField) (state : BuilderState) (operations : List Operation) :
    BuilderState :=
  operations.foldl (step fields) state

/-- The state that a plan leads to. It is applied to a deep copy, so there is none if the stack has
no room for that. -/
def applyPlan (fits : BuilderState → Bool) (fields : List DataField) (state : BuilderState)
    (operations : List Operation) : Option BuilderState :=
  if fits state then some (applyAll fields state operations) else none

end Operation
end Chartwright
