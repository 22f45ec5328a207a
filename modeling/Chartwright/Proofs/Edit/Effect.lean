import Chartwright.Proofs.Edit.Reference
import Chartwright.Proofs.Edit.Skipping

/-!
What the operations come down to. Six kinds of them read and write the encoding of one channel and
nothing else, so each of these is a channel with a function on the encodings there. A ranking is a
function on the transforms, once it is known which field it ranks by. Doing an operation once more,
or beside others, is a matter of these functions alone.
-/

namespace Chartwright
open Form

def Encoding.rescale (change : Scale → Scale) (encoding : Encoding) : Encoding :=
  { encoding with scale := some (change (encoding.scale.getD {})) }

/-- The mark with a kind and options, or as it is if these do not suit it. -/
def MarkConfig.retargeted (kind : MarkKind) (options : MarkOptions) (mark : MarkConfig) :
    MarkConfig :=
  (mark.retarget kind options).toOption.getD mark

namespace BuilderState

def adjust (channel : Channel) (change : Option Encoding → Option Encoding)
    (state : BuilderState) : BuilderState :=
  state.withChannel channel (change (state.encodings.at? channel))

theorem with_channel_same (state : BuilderState) (channel : Channel) :
    state.withChannel channel (state.encodings.at? channel) = state := by
  cases channel <;> rfl

theorem with_channel_twice (state : BuilderState) (channel : Channel)
    (first second : Option Encoding) :
    (state.withChannel channel first).withChannel channel second =
      state.withChannel channel second := by
  cases channel <;> rfl

theorem adjust_at (state : BuilderState) (channel : Channel)
    (change : Option Encoding → Option Encoding) :
    (state.adjust channel change).encodings.at? channel =
      change (state.encodings.at? channel) := by
  rw [adjust, with_channel_at, if_pos rfl]

theorem adjust_again {channel : Channel} {change : Option Encoding → Option Encoding}
    (settles : ∀ current, change (change current) = change current) (state : BuilderState) :
    (state.adjust channel change).adjust channel change = state.adjust channel change := by
  rw [adjust, adjust_at, settles, adjust, with_channel_twice]

def rankField? (state : BuilderState) (byField : Option String) : Option String :=
  filled? byField <|> state.axisField? .y <|> state.axisField? .x

/-- The transforms with a rank by a field, if there is one, in place of those before. -/
def reranked (n : Nat) (direction : Direction) (field : Option String)
    (transforms : List Transform) : List Transform :=
  (transforms.filter fun transform => !transform.isTopN) ++
    (field.map fun field => .topN n field direction).toList

theorem rank_reranks (state : BuilderState) (n : Nat) (byField : Option String)
    (direction : Direction) :
    state.rank n byField direction =
      { state with
        transforms := reranked n direction (state.rankField? byField) state.transforms } := by
  unfold rank rankField? reranked
  cases filled? byField <|> state.axisField? .y <|> state.axisField? .x with
  | none => simp
  | some field => rfl

/-! What the operations make of the encoding of their channel. -/

/-- The encoding with a field and further settings put over it, or as it is if the whole is
refused. -/
def encoded (fields : List DataField) (field : String) (kind : Option FieldKind)
    (settings : Option Members) (current : Option Encoding) : Option Encoding :=
  (Encoding.readMembers (encodingEntries current field (kind <|> firstKindOf? fields field)
    (settings.getD []))).toOption <|> current

def ofField (field : DataField) : Encoding :=
  { field := some field.name, kind := some field.kind }

/-- The encoding that gets colors: the one there is if it has a field, else one for a field of the
data. -/
def colored? (fields : List DataField) (current : Option Encoding) : Option Encoding :=
  current.filter hasField <|> (colorField? fields).map ofField

def rescaled (fields : List DataField) (change : Scale → Scale) (current : Option Encoding) :
    Option Encoding :=
  (colored? fields current).map (Encoding.rescale change) <|> current

theorem colored_own (fields : List DataField) {encoding : Encoding}
    (own : hasField encoding = true) : colored? fields (some encoding) = some encoding := by
  simp [colored?, Option.filter, own]

theorem colored_else (fields : List DataField) {current : Option Encoding}
    (fieldless : current.filter hasField = none) :
    colored? fields current = (colorField? fields).map ofField := by
  rw [colored?, fieldless]
  rfl

theorem rescaled_colored {fields : List DataField} {current : Option Encoding} {color : Encoding}
    (chosen : colored? fields current = some color) (change : Scale → Scale) :
    rescaled fields change current = some (color.rescale change) := by
  rw [rescaled, chosen]
  rfl

theorem rescaled_uncolored {fields : List DataField} {current : Option Encoding}
    (unchosen : colored? fields current = none) (change : Scale → Scale) :
    rescaled fields change current = current := by
  rw [rescaled, unchosen]
  rfl

def sortOf (target : String) (byField : Option String) (direction : Direction) :
    Channel × Sorting :=
  match Named.ofName? (α := Position) target with
  | some position =>
    (position.channel,
      match filled? byField with
      | some field => .byField field direction
      | none => .plain direction)
  | none => (.y, .byField target direction)

def sorted (sorting : Sorting) (current : Option Encoding) : Option Encoding :=
  some { current.getD {} with sorting := some sorting }

def aggregated (op : Aggregate) (current : Option Encoding) : Option Encoding :=
  current.map fun encoding => { encoding with aggregate := some op }

end BuilderState

namespace Operation
open BuilderState

/-- The channel of an operation that works on one, and what becomes of the encoding there. -/
def drawing? (fields : List DataField) :
    Operation → Option (Channel × (Option Encoding → Option Encoding))
  | .setEncoding channel field kind settings => some (channel, encoded fields field kind settings)
  | .removeEncoding channel => some (channel, fun _ => none)
  | .setSeriesColors colors => some (.color, rescaled fields (seriesScale colors))
  | .setColorScheme scheme =>
    some (.color, rescaled fields fun scale => { scale with scheme := some scheme })
  | .setSort target byField direction =>
    some ((sortOf target byField direction).1, sorted (sortOf target byField direction).2)
  | .setAggregate position op => some (position.channel, aggregated op)
  | _ => none

variable {fields : List DataField} {operation : Operation} {channel : Channel}
  {change : Option Encoding → Option Encoding}

theorem encode_step (state : BuilderState) (channel : Channel) (field : String)
    (kind : Option FieldKind) (settings : Option Members) :
    step fields state (.setEncoding channel field kind settings) =
      state.adjust channel (encoded fields field kind settings) := by
  have result : apply fields state (.setEncoding channel field kind settings) =
      (Encoding.readMembers (encodingEntries (state.encodings.at? channel) field
        (kind <|> firstKindOf? fields field) (settings.getD []))).map
          fun encoding => state.withChannel channel (some encoding) := rfl
  unfold adjust encoded
  cases made : Encoding.readMembers (encodingEntries (state.encodings.at? channel) field
      (kind <|> firstKindOf? fields field) (settings.getD [])) with
  | valid encoding =>
      rw [made] at result
      rw [step_valid result]
      rfl
  | faulty faults =>
      rw [made] at result
      rw [step_refused result]
      exact (with_channel_same state channel).symm

theorem rescale_adjusts (state : BuilderState) (change : Scale → Scale) :
    state.rescale fields change = state.adjust .color (rescaled fields change) := by
  have same : state.coloring? fields = colored? fields (state.encodings.at? .color) := rfl
  unfold rescale adjust
  rw [same]
  cases chosen : colored? fields (state.encodings.at? .color) with
  | none =>
      rw [rescaled_uncolored chosen]
      exact (with_channel_same state .color).symm
  | some color =>
      rw [rescaled_colored chosen]
      rfl

theorem sort_adjusts (state : BuilderState) (target : String) (byField : Option String)
    (direction : Direction) :
    state.sort target byField direction =
      state.adjust (sortOf target byField direction).1
        (sorted (sortOf target byField direction).2) := by
  unfold sort sortOf
  cases Named.ofName? (α := Position) target <;> rfl

theorem aggregate_adjusts (state : BuilderState) (channel : Channel) (op : Aggregate) :
    state.aggregate channel op = state.adjust channel (aggregated op) := by
  unfold aggregate adjust aggregated
  cases present : state.encodings.at? channel with
  | none =>
      have kept := with_channel_same state channel
      rw [present] at kept
      simpa using kept.symm
  | some encoding => rfl

theorem step_drawing (draws : operation.drawing? fields = some (channel, change))
    (state : BuilderState) : operation.step fields state = state.adjust channel change := by
  cases operation with
  | setEncoding channel field kind settings =>
      cases draws
      exact encode_step state channel field kind settings
  | removeEncoding channel =>
      cases draws
      exact step_valid rfl
  | setSeriesColors colors =>
      cases draws
      exact (step_valid rfl).trans (rescale_adjusts state _)
  | setColorScheme scheme =>
      cases draws
      exact (step_valid rfl).trans (rescale_adjusts state _)
  | setSort target byField direction =>
      cases draws
      exact (step_valid rfl).trans (sort_adjusts state target byField direction)
  | setAggregate position op =>
      cases draws
      exact (step_valid rfl).trans (aggregate_adjusts state position.channel op)
  | setMark | setTopN | addFilter | setTitle | setSize | directEdit => cases draws

theorem mark_step (state : BuilderState) (kind : MarkKind) (options : Option MarkOptions) :
    step fields state (.setMark kind options) =
      { state with mark := state.mark.retargeted kind (options.getD {}) } := by
  have result : apply fields state (.setMark kind options) =
      (state.mark.retarget kind (options.getD {})).map fun mark => { state with mark } := rfl
  unfold MarkConfig.retargeted
  cases made : state.mark.retarget kind (options.getD {}) with
  | valid mark =>
      rw [made] at result
      exact step_valid result
  | faulty faults =>
      rw [made] at result
      exact step_refused result

theorem rank_step (state : BuilderState) (n : Nat) (byField : Option String)
    (direction : Direction) :
    step fields state (.setTopN n byField direction) =
      { state with
        transforms := reranked n direction (state.rankField? byField) state.transforms } :=
  (step_valid rfl).trans (rank_reranks state n byField direction)

end Operation
end Chartwright
