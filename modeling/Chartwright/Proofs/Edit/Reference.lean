import Chartwright.Edit.Apply
import Chartwright.Proofs.Chart.Writing
import Chartwright.Proofs.Form.Acceptance
import Chartwright.Proofs.Table.Reference
import Chartwright.Spec.Check

/-!
Operations that refer to fields of the data keep a builder state free of warnings. A state has none
if every channel with a field and every rank has one that is there, and the kinds of the channels
agree with it. An operation takes its fields from the reference it was made of, from the state or
from the data, so none of them can be missing.
-/

namespace Chartwright
open Form

/-- The field of a channel, if it has one, is there, and is not taken for one in time or a number
against its kind. -/
def Encoding.Fits (fields : List DataField) (encoding : Encoding) : Prop :=
  ∀ name, filled? encoding.field = some name → ∃ actual, kindOf? fields name = some actual ∧
    ∀ kind, kind = .temporal ∨ kind = .quantitative → encoding.kind = some kind → actual = kind

namespace BuilderState
variable {fields : List DataField}

/-- All that the channels and ranks of a state refer to is there. -/
structure Grounded (fields : List DataField) (state : BuilderState) : Prop where
  channels : ∀ channel, ∀ encoding ∈ state.encodings.at? channel, encoding.Fits fields
  ranks : ∀ n byField direction, .topN n byField direction ∈ state.transforms →
    byField ∈ fields.map (·.name)

theorem kind_warnings_nil_iff (path : String) (encoding : Encoding) (name : String)
    (actual : FieldKind) :
    kindWarnings path encoding name actual = [] ↔
      ∀ kind, kind = .temporal ∨ kind = .quantitative → encoding.kind = some kind →
        actual = kind := by
  simp [kindWarnings]

theorem channel_warnings_nil_iff (state : BuilderState) (channel : Channel) :
    channelWarnings fields state channel = [] ↔
      ∀ encoding ∈ state.encodings.at? channel, encoding.Fits fields := by
  unfold channelWarnings
  cases state.encodings.at? channel with
  | none => simp
  | some encoding =>
      simp only [Option.mem_def, Option.some.injEq, forall_eq', Encoding.Fits]
      cases named : encoding.field with
      | none => simp [filled?]
      | some name =>
          by_cases empty : name = ""
          · subst empty
            simp [filled?]
          · have filled : filled? (some name) = some name := by simp [filled?, Option.filter, empty]
            simp only [filled, Option.some.injEq, forall_eq']
            cases kindOf? fields name with
            | none => simp
            | some actual => simp [kind_warnings_nil_iff]

theorem transform_warnings_nil_iff (place : Nat) (transforms : List Transform) :
    transformWarnings fields place transforms = [] ↔
      ∀ n byField direction, .topN n byField direction ∈ transforms →
        byField ∈ fields.map (·.name) := by
  induction transforms generalizing place with
  | nil => simp [transformWarnings]
  | cons transform rest ih =>
      cases transform with
      | topN n byField direction =>
          simp only [transformWarnings, kind_isSome_iff]
          by_cases known : byField ∈ fields.map (·.name)
          · rw [if_pos known, ih]
            constructor
            · intro later m other way inside
              rcases List.mem_cons.mp inside with same | inside
              · cases same
                exact known
              · exact later m other way inside
            · exact fun all m other way inside => all m other way (List.mem_cons_of_mem _ inside)
          · rw [if_neg known]
            constructor
            · exact fun nothing => nomatch nothing
            · exact fun all => absurd (all n byField direction List.mem_cons_self) known
      | filter expr => simp [transformWarnings, ih]
      | calculate expr name => simp [transformWarnings, ih]
      | aggregate aggregation => simp [transformWarnings, ih]

/-- A state is checked without a warning just if all it refers to is there. -/
theorem warnings_nil_iff (state : BuilderState) (fields : List DataField) :
    (state.check fields).warnings = [] ↔ state.Grounded fields := by
  unfold check Verdict.of
  rw [List.append_eq_nil_iff, List.flatMap_eq_nil_iff, transform_warnings_nil_iff]
  constructor
  · rintro ⟨channels, ranks⟩
    refine ⟨fun channel => ?_, ranks⟩
    have listed : channel ∈ Named.all (α := Channel) := by cases channel <;> decide
    exact (channel_warnings_nil_iff state channel).mp (channels channel listed)
  · rintro ⟨channels, ranks⟩
    exact ⟨fun channel _ => (channel_warnings_nil_iff state channel).mpr (channels channel), ranks⟩

/-! Channels. -/

theorem with_channel_at (state : BuilderState) (channel other : Channel)
    (encoding : Option Encoding) :
    (state.withChannel channel encoding).encodings.at? other =
      if other = channel then encoding else state.encodings.at? other := by
  cases channel <;> cases other <;> rfl

theorem with_channel_grounded {state : BuilderState} (grounded : state.Grounded fields)
    (channel : Channel) {encoding : Option Encoding} (fits : ∀ new ∈ encoding, new.Fits fields) :
    (state.withChannel channel encoding).Grounded fields := by
  refine ⟨fun other => ?_, grounded.ranks⟩
  rw [with_channel_at]
  split
  · exact fits
  · exact grounded.channels other

theorem fits_of_same {old new : Encoding} (fits : old.Fits fields) (field : new.field = old.field)
    (kind : new.kind = old.kind) : new.Fits fields := by
  unfold Encoding.Fits
  rw [field, kind]
  exact fits

theorem fits_of_field (distinct : (fields.map (·.name)).Nodup) {field : DataField}
    (there : field ∈ fields) {encoding : Encoding} (named : encoding.field = some field.name)
    (kind : encoding.kind = some field.kind) : encoding.Fits fields := by
  intro name filled
  obtain rfl : field.name = name := by
    rw [named] at filled
    exact Option.some.inj (Option.filter_eq_some_iff.mp filled).1
  refine ⟨field.kind, kind_of_field distinct there, fun chosen _ typed => ?_⟩
  rw [kind] at typed
  exact Option.some.inj typed

theorem encoding_read_iff {entries : Members} {encoding : Encoding} :
    Encoding.readMembers entries = .valid encoding ↔
      optionally entries (word "field") Form.text = .valid encoding.field ∧
        optionally entries (word "type") (named FieldKind) = .valid encoding.kind ∧
        optionally entries (word "aggregate") (named Aggregate) = .valid encoding.aggregate ∧
        optionally entries (word "sort") Sorting.read = .valid encoding.sorting ∧
        optionally entries (word "bin") Binning.read = .valid encoding.binning ∧
        optionally entries timeUnitAttr (named TimeUnit) = .valid encoding.timeUnit ∧
        optionally entries (word "scale") Scale.read = .valid encoding.scale ∧
        optionally entries (word "axis") Axis.read = .valid encoding.axis ∧
        optionally entries (word "legend") Legend.read = .valid encoding.legend := by
  unfold Encoding.readMembers
  constructor
  · intro reads
    simp only [Checked.seq_eq_valid, Checked.functor_map_eq_valid] at reads
    obtain ⟨_, _, ⟨_, _, ⟨_, _, ⟨_, _, ⟨_, _, ⟨_, _, ⟨_, _, ⟨_, _, ⟨_, field, rfl⟩, kind, rfl⟩,
      aggregate, rfl⟩, sorting, rfl⟩, binning, rfl⟩, timeUnit, rfl⟩, scale, rfl⟩, axis, rfl⟩,
      legend, rfl⟩ := reads
    exact ⟨field, kind, aggregate, sorting, binning, timeUnit, scale, axis, legend⟩
  · rintro ⟨field, kind, aggregate, sorting, binning, timeUnit, scale, axis, legend⟩
    rw [field, kind, aggregate, sorting, binning, timeUnit, scale, axis, legend]
    rfl

theorem chosen_lookup (current : Option Encoding) (name : String) (kind : Option FieldKind) :
    (encodingEntries current name kind []).lookup "field" = some (.text name) ∧
      (encodingEntries current name kind []).lookup "type" = some (orNull writeName kind) := by
  simp [encodingEntries]

/-- A channel that is given a field has it, with the kind that was looked up. -/
theorem encode_sets {state after : BuilderState} {channel : Channel} {name : String}
    {kind : FieldKind} (looked : firstKindOf? fields name = some kind)
    (made : state.encode fields channel name none none = .valid after) :
    ∃ encoding, after = state.withChannel channel (some encoding) ∧
      encoding.field = some name ∧ encoding.kind = some kind := by
  obtain ⟨encoding, read, rfl⟩ := Checked.map_eq_valid.mp made
  change Encoding.readMembers (encodingEntries _ name (firstKindOf? fields name) []) = _ at read
  rw [looked] at read
  obtain ⟨fieldRead, kindRead, _⟩ := encoding_read_iff.mp read
  obtain ⟨field, type⟩ := chosen_lookup (state.encodings.at? channel) name (some kind)
  refine ⟨encoding, rfl, ?_, ?_⟩
  · have told := word_read.mpr ⟨.text name, field, Json.noConfusion, (text_back name).1⟩
    exact (Checked.valid.inj (told.symm.trans fieldRead)).symm
  · have told := word_read.mpr ⟨writeName kind, type, (named_back kind).2, (named_back kind).1⟩
    exact (Checked.valid.inj (told.symm.trans kindRead)).symm

theorem encode_grounded (distinct : (fields.map (·.name)).Nodup) {state after : BuilderState}
    (grounded : state.Grounded fields) {channel : Channel} {name : String}
    (known : name ∈ fields.map (·.name))
    (made : state.encode fields channel name none none = .valid after) : after.Grounded fields := by
  obtain ⟨field, looked⟩ : ∃ field, fields.find? (fun field => field.name = name) = some field := by
    obtain ⟨field, there, rfl⟩ := List.mem_map.mp known
    exact Option.isSome_iff_exists.mp (List.find?_isSome.mpr ⟨field, there, by simp⟩)
  have there : field ∈ fields := List.mem_of_find?_eq_some looked
  have named : field.name = name := by simpa using List.find?_some looked
  have typed : firstKindOf? fields name = some field.kind := by simp [firstKindOf?, looked]
  obtain ⟨encoding, rfl, chosen, kind⟩ := encode_sets typed made
  apply with_channel_grounded grounded
  rintro new ⟨⟩
  exact fits_of_field distinct there (named ▸ chosen) kind

/-- Colors are given to the field that has them, or else to one of the data. -/
theorem coloring_fits (distinct : (fields.map (·.name)).Nodup) {state : BuilderState}
    (grounded : state.Grounded fields) {color : Encoding}
    (chosen : state.coloring? fields = some color) : color.Fits fields := by
  unfold coloring? at chosen
  cases present : state.encodings.color.filter hasField with
  | some encoding =>
      obtain rfl : encoding = color := by simpa [present] using chosen
      exact grounded.channels .color encoding (Option.mem_filter_iff.mp present).1
  | none =>
      simp only [present] at chosen
      obtain ⟨field, picked, rfl⟩ := Option.map_eq_some_iff.mp chosen
      refine fits_of_field distinct ?_ rfl rfl
      unfold colorField? at picked
      cases nominal : fields.find? fun field => field.kind = .nominal with
      | some first =>
          obtain rfl : first = field := by simpa [nominal] using picked
          exact List.mem_of_find?_eq_some nominal
      | none => exact List.mem_of_head? (by simpa [nominal] using picked)

theorem rescale_grounded (distinct : (fields.map (·.name)).Nodup) {state : BuilderState}
    (grounded : state.Grounded fields) (change : Scale → Scale) :
    (state.rescale fields change).Grounded fields := by
  unfold rescale
  cases chosen : state.coloring? fields with
  | none => exact grounded
  | some color =>
      apply with_channel_grounded grounded
      rintro new ⟨⟩
      exact fits_of_same (coloring_fits distinct grounded chosen) rfl rfl

/-- Settings of a channel besides its field and kind do not matter, and a channel without a field
refers to none. -/
theorem adjusted_grounded {state : BuilderState} (grounded : state.Grounded fields)
    (channel : Channel) {new : Encoding}
    (field : new.field = ((state.encodings.at? channel).getD {}).field)
    (kind : new.kind = ((state.encodings.at? channel).getD {}).kind) :
    (state.withChannel channel (some new)).Grounded fields := by
  apply with_channel_grounded grounded
  rintro adjusted ⟨⟩
  cases present : state.encodings.at? channel with
  | some old =>
      rw [present] at field kind
      exact fits_of_same (grounded.channels channel old present) field kind
  | none =>
      rw [present] at field
      intro name filled
      rw [field] at filled
      cases filled

theorem sort_grounded {state : BuilderState} (grounded : state.Grounded fields) (target : String)
    (byField : Option String) (direction : Direction) :
    (state.sort target byField direction).Grounded fields := by
  unfold sort withSorting
  split <;> exact adjusted_grounded grounded _ rfl rfl

theorem aggregate_grounded {state : BuilderState} (grounded : state.Grounded fields)
    (channel : Channel) (op : Aggregate) : (state.aggregate channel op).Grounded fields := by
  unfold aggregate
  cases present : state.encodings.at? channel with
  | none => exact grounded
  | some encoding =>
      exact adjusted_grounded grounded channel (by simp [present]) (by simp [present])

/-! Ranks. -/

theorem axis_field_known {state : BuilderState} (grounded : state.Grounded fields)
    {channel : Channel} {name : String} (chosen : state.axisField? channel = some name) :
    name ∈ fields.map (·.name) := by
  obtain ⟨field, _⟩ := Option.filter_eq_some_iff.mp chosen
  obtain ⟨encoding, there, _⟩ := Option.bind_eq_some_iff.mp field
  rw [axisField?, there] at chosen
  obtain ⟨actual, known, _⟩ := grounded.channels channel encoding there name chosen
  exact (kind_isSome_iff fields name).mp (Option.isSome_of_eq_some known)

/-- A rank is by the field it was asked for, or else by one of the axes. -/
theorem rank_grounded {state : BuilderState} (grounded : state.Grounded fields) (n : Nat)
    {byField : Option String} (known : ∀ name ∈ byField, name ∈ fields.map (·.name))
    (direction : Direction) : (state.rank n byField direction).Grounded fields := by
  have others : ∀ m other way, .topN m other way ∈ (state.transforms.filter fun t => !t.isTopN) →
      other ∈ fields.map (·.name) :=
    fun m other way inside => grounded.ranks m other way (List.mem_of_mem_filter inside)
  unfold rank
  cases chosen : filled? byField <|> state.axisField? .y <|> state.axisField? .x with
  | none => exact ⟨grounded.channels, others⟩
  | some name =>
      refine ⟨grounded.channels, fun m other way inside => ?_⟩
      rcases List.mem_append.mp inside with old | new
      · exact others m other way old
      · cases List.mem_singleton.mp new
        refine Reference.either_known chosen (fun asked => ?_) fun chosen => ?_
        · exact known name (Option.filter_eq_some_iff.mp asked).1
        · exact Reference.either_known chosen (axis_field_known grounded)
            (axis_field_known grounded)

end BuilderState

namespace Operation
open BuilderState
variable {fields : List DataField}

/-- The fields that an operation names are among those given; their kinds are left to the data. -/
def Refers (names : List String) : Operation → Prop
  | .setEncoding _ field kind settings => field ∈ names ∧ kind = none ∧ settings = none
  | .setTopN _ byField _ => ∀ name ∈ byField, name ∈ names
  | _ => True

theorem apply_grounded (distinct : (fields.map (·.name)).Nodup) {operation : Operation}
    (refers : operation.Refers (fields.map (·.name))) {before after : BuilderState}
    (grounded : before.Grounded fields) (applied : operation.apply fields before = .valid after) :
    after.Grounded fields := by
  cases operation with
  | setMark kind options =>
      obtain ⟨mark, _, rfl⟩ := Checked.map_eq_valid.mp applied
      exact ⟨grounded.channels, grounded.ranks⟩
  | setEncoding channel field kind settings =>
      obtain ⟨known, rfl, rfl⟩ := refers
      exact encode_grounded distinct grounded known applied
  | removeEncoding channel =>
      cases applied
      exact with_channel_grounded grounded channel (by simp)
  | setSeriesColors colors =>
      cases applied
      exact rescale_grounded distinct grounded _
  | setColorScheme scheme =>
      cases applied
      exact rescale_grounded distinct grounded _
  | setTopN n byField direction =>
      cases applied
      exact rank_grounded grounded n refers direction
  | setSort target byField direction =>
      cases applied
      exact sort_grounded grounded target byField direction
  | addFilter expr =>
      cases applied
      refine ⟨grounded.channels, fun n byField direction inside => ?_⟩
      exact grounded.ranks n byField direction (by simpa using inside)
  | setAggregate position op =>
      cases applied
      exact aggregate_grounded grounded position.channel op
  | setTitle title =>
      cases applied
      exact ⟨grounded.channels, grounded.ranks⟩
  | setSize width height =>
      cases applied
      exact ⟨grounded.channels, grounded.ranks⟩
  | directEdit description =>
      cases applied
      exact grounded

theorem step_grounded (distinct : (fields.map (·.name)).Nodup) {operation : Operation}
    (refers : operation.Refers (fields.map (·.name))) {state : BuilderState}
    (grounded : state.Grounded fields) : (operation.step fields state).Grounded fields := by
  unfold step
  cases applied : operation.apply fields state with
  | valid after => exact apply_grounded distinct refers grounded applied
  | faulty faults => exact grounded

theorem plan_grounded (distinct : (fields.map (·.name)).Nodup) (operations : List Operation)
    (refer : ∀ operation ∈ operations, operation.Refers (fields.map (·.name)))
    {state : BuilderState} (grounded : state.Grounded fields) :
    (applyAll fields state operations).Grounded fields := by
  induction operations generalizing state with
  | nil => exact grounded
  | cons operation rest ih =>
      have first : (step fields state operation).Grounded fields :=
        step_grounded distinct (refer operation List.mem_cons_self) grounded
      exact ih (fun other inside => refer other (List.mem_cons_of_mem operation inside)) first

end Operation
end Chartwright
