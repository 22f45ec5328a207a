import Chartwright.Edit.Plan
import Chartwright.Proofs.Chart.Writing
import Chartwright.Proofs.Edit.Validity
import Chartwright.Table.Field

/-!
Fields, operations and plans are read back from what is written for them. With that every value that
any reader of the schema accepts is its own: written out in either spelling, it is read again as the
same value.
-/

namespace Chartwright
open Form

theorem top_value_read (style : Style) (top : TopValue) :
    TopValue.read (top.write style) = .valid top := by
  have apart : Apart [word "value", word "count"] := by decide
  simp only [TopValue.read, TopValue.write, written, record]
  rw [required_told Form.text _ top.value (written_at apart rfl 0 rfl) Json.noConfusion rfl,
    required_told integer _ top.count (written_at apart rfl 1 rfl) Json.noConfusion rfl]
  rfl

theorem stats_apart : Apart
    [word "min", word "max", uniqueCountAttr, nullCountAttr, topValuesAttr] := by decide

theorem stats_back (style : Style) (stats : FieldStats) :
    ReadsBack FieldStats.read (FieldStats.write style) stats := by
  refine ⟨?_, Json.noConfusion⟩
  simp only [FieldStats.read, FieldStats.write, written, record]
  rw [optionally_told (written_at stats_apart rfl 0 rfl) fun x _ => number_back x,
    optionally_told (written_at stats_apart rfl 1 rfl) fun x _ => number_back x,
    default_told integer _ _ stats.uniqueCount (written_at stats_apart rfl 2 rfl)
      Json.noConfusion rfl,
    default_told integer _ _ stats.nullCount (written_at stats_apart rfl 3 rfl)
      Json.noConfusion rfl,
    optionally_told (written_at stats_apart rfl 4 rfl) fun tops _ =>
      list_back tops fun top _ => top_value_read style top]
  rfl

theorem field_apart : Apart [word "name", inferredTypeAttr, word "stats"] := by decide

theorem field_read (style : Style) (field : DataField) :
    DataField.read (field.write style) = .valid field := by
  have ⟨kindReads, kindPresent⟩ := named_back field.kind
  have ⟨statsRead, statsPresent⟩ := stats_back style field.stats
  simp only [DataField.read, DataField.write, written, record]
  rw [required_told Form.text _ field.name (written_at field_apart rfl 0 rfl) Json.noConfusion rfl,
    required_told _ _ field.kind (written_at field_apart rfl 1 rfl) kindPresent kindReads,
    default_told _ _ _ field.stats (written_at field_apart rfl 2 rfl) statsPresent statsRead]
  rfl

instance : LawfulNamed Channel := ⟨by intro value; cases value <;> rfl⟩
instance : LawfulNamed Position := ⟨by intro value; cases value <;> rfl⟩

/-! Attributes of operations. -/

theorem options_apart : Apart
    [word "point", word "stacked", word "opacity", word "size", strokeWidthAttr,
      word "interpolate"] := by decide

theorem options_back (style : Style) (options : MarkOptions) :
    ReadsBack MarkOptions.read (MarkOptions.write style) options := by
  refine ⟨?_, Json.noConfusion⟩
  simp only [MarkOptions.read, MarkOptions.write, MarkOptions.toMembers, record]
  rw [optionally_told (written_at options_apart rfl 0 rfl) fun x _ => truth_back x,
    optionally_told (written_at options_apart rfl 1 rfl) fun x _ => named_back x,
    optionally_told (written_at options_apart rfl 2 rfl) fun x _ => number_back x,
    optionally_told (written_at options_apart rfl 3 rfl) fun x _ => number_back x,
    optionally_told (written_at options_apart rfl 4 rfl) fun x _ => number_back x,
    optionally_told (written_at options_apart rfl 5 rfl) fun x _ => named_back x]
  rfl

theorem settings_back (settings : Members) : ReadsBack (members any) .object settings := by
  refine ⟨?_, Json.noConfusion⟩
  change valuesOf any settings = .valid settings
  induction settings with
  | nil => rfl
  | cons setting rest ih => simp [valuesOf, ih, any]

theorem colors_back (colors : List (String × String)) :
    ReadsBack (members Form.text) Operation.writeColors colors := by
  refine ⟨?_, Json.noConfusion⟩
  change valuesOf Form.text (colors.map fun entry => (entry.1, .text entry.2)) = .valid colors
  induction colors with
  | nil => rfl
  | cons entry rest ih => simp [valuesOf, ih, Form.text]

namespace Operation

theorem tag_read (style : Style) (operation : Operation)
    (told : readMembers
      (writtenMembers style ((word "op", writeName operation.kind) :: operation.entries style))
      operation.kind = .valid operation) :
    Operation.read (operation.write style) = .valid operation := by
  have known : readers.lookup (Named.name operation.kind) =
      some fun entries => readMembers entries operation.kind := by
    cases operation.kind <;> rfl
  unfold Operation.read write
  rw [writeName, tagged_read style "op" _ readers known]
  rw [writeName] at told
  rw [told, Checked.under_valid]

theorem operation_read (style : Style) (operation : Operation) (valid : operation.Valid) :
    Operation.read (operation.write style) = .valid operation := by
  apply tag_read
  cases operation with
  | setMark kind options =>
      have apart : Apart [word "op", word "mark", word "options"] := by decide
      obtain ⟨reads, present⟩ := named_back kind
      simp only [Operation.kind, readMembers, entries]
      rw [required_told _ _ kind (written_at apart rfl 1 rfl) present reads,
        optionally_told (written_at apart rfl 2 rfl) fun x _ => options_back style x]
      rfl
  | setEncoding channel field kind settings =>
      have apart : Apart [word "op", word "channel", word "field", word "type", word "config"] := by
        decide
      obtain ⟨reads, present⟩ := literal_back channel
      simp only [Operation.kind, readMembers, entries]
      rw [required_told _ _ channel (written_at apart rfl 1 rfl) present reads,
        required_told Form.text _ field (written_at apart rfl 2 rfl) Json.noConfusion rfl,
        optionally_told (written_at apart rfl 3 rfl) fun x _ => named_back x,
        optionally_told (written_at apart rfl 4 rfl) fun x _ => settings_back x]
      rfl
  | removeEncoding channel =>
      have apart : Apart [word "op", word "channel"] := by decide
      obtain ⟨reads, present⟩ := literal_back channel
      simp only [Operation.kind, readMembers, entries]
      rw [required_told _ _ channel (written_at apart rfl 1 rfl) present reads]
      rfl
  | setSeriesColors colors =>
      have apart : Apart [word "op", word "colors"] := by decide
      obtain ⟨reads, present⟩ := colors_back colors
      simp only [Operation.kind, readMembers, entries]
      rw [required_told _ _ colors (written_at apart rfl 1 rfl) present reads]
      rfl
  | setColorScheme scheme =>
      have apart : Apart [word "op", word "scheme"] := by decide
      simp only [Operation.kind, readMembers, entries]
      rw [required_told Form.text _ scheme (written_at apart rfl 1 rfl) Json.noConfusion rfl]
      rfl
  | setTopN n byField direction =>
      have apart : Apart [word "op", word "n", Transform.byFieldAttr, word "order"] := by decide
      obtain ⟨reads, present⟩ := named_back direction
      simp only [Operation.kind, readMembers, entries]
      rw [required_told positive _ n (written_at apart rfl 1 rfl) Json.noConfusion
          (positive_read n valid),
        optionally_told (written_at apart rfl 2 rfl) fun x _ => text_back x,
        default_told _ _ _ direction (written_at apart rfl 3 rfl) present reads]
      rfl
  | setSort target byField direction =>
      have apart : Apart [word "op", targetAttr, word "by", word "order"] := by decide
      obtain ⟨reads, present⟩ := named_back direction
      simp only [Operation.kind, readMembers, entries]
      rw [required_told Form.text _ target (written_at apart rfl 1 rfl) Json.noConfusion rfl,
        optionally_told (written_at apart rfl 2 rfl) fun x _ => text_back x,
        default_told _ _ _ direction (written_at apart rfl 3 rfl) present reads]
      rfl
  | addFilter expr =>
      have apart : Apart [word "op", word "expr"] := by decide
      simp only [Operation.kind, readMembers, entries]
      rw [required_told Form.text _ expr (written_at apart rfl 1 rfl) Json.noConfusion rfl]
      rfl
  | setAggregate position aggregate =>
      have apart : Apart [word "op", word "channel", word "aggregate"] := by decide
      obtain ⟨positionReads, positionPresent⟩ := literal_back position
      obtain ⟨reads, present⟩ := named_back aggregate
      simp only [Operation.kind, readMembers, entries]
      rw [required_told _ _ position (written_at apart rfl 1 rfl) positionPresent positionReads,
        required_told _ _ aggregate (written_at apart rfl 2 rfl) present reads]
      rfl
  | setTitle title =>
      have apart : Apart [word "op", word "title"] := by decide
      simp only [Operation.kind, readMembers, entries]
      rw [required_told Form.text _ title (written_at apart rfl 1 rfl) Json.noConfusion rfl]
      rfl
  | setSize width height =>
      have apart : Apart [word "op", word "width", word "height"] := by decide
      simp only [Operation.kind, readMembers, entries]
      rw [optionally_told (written_at apart rfl 1 rfl) fun x _ => dimension_back x,
        optionally_told (written_at apart rfl 2 rfl) fun x _ => dimension_back x]
      rfl
  | directEdit description =>
      have apart : Apart [word "op", word "description"] := by decide
      simp only [Operation.kind, readMembers, entries]
      rw [default_told Form.text _ _ description (written_at apart rfl 1 rfl) Json.noConfusion rfl]
      rfl

end Operation

namespace Plan

/-- The confidence is a fraction, and the operations are valid. -/
def Valid (plan : Plan) : Prop :=
  MarkConfig.isFraction plan.confidence = true ∧ ∀ operation ∈ plan.operations, operation.Valid

theorem plan_yields : Yields Plan.read Plan.Valid := by
  apply record_yields
  intro entries plan accepted
  simp only [Checked.seq_eq_valid, Checked.functor_map_eq_valid] at accepted
  obtain ⟨_, _, ⟨_, _, ⟨_, _, rfl⟩, confidence, rfl⟩, operations, rfl⟩ := accepted
  constructor
  · exact default_yields (P := fun x => MarkConfig.isFraction x = true) fraction_yields
      (by decide +kernel) confidence
  · exact default_yields (list_yields operation_yields) (by simp) operations

theorem plan_apart : Apart [intentAttr, word "confidence", word "operations"] := by decide

theorem plan_read (style : Style) (plan : Plan) (valid : plan.Valid) :
    Plan.read (plan.write style) = .valid plan := by
  obtain ⟨sure, legal⟩ := valid
  have ⟨sureReads, surePresent⟩ := fraction_back plan.confidence sure
  have ⟨reads, present⟩ := list_back plan.operations fun operation inside =>
    Operation.operation_read style operation (legal operation inside)
  simp only [Plan.read, Plan.write, written, record]
  rw [required_told Form.text _ plan.intent (written_at plan_apart rfl 0 rfl) Json.noConfusion rfl,
    default_told _ _ _ plan.confidence (written_at plan_apart rfl 1 rfl) surePresent sureReads,
    default_told _ _ _ plan.operations (written_at plan_apart rfl 2 rfl) present reads]
  rfl

end Plan

/-! The whole schema. -/

/-- Every value that the reader accepts is read again from what is written for it. -/
def Settles {α : Type} (read : Json → Checked α) (write : α → Json) : Prop :=
  ∀ document value, read document = .valid value → read (write value) = .valid value

theorem settles_of_yields {α : Type} {read : Json → Checked α} {write : α → Json} {P : α → Prop}
    (yields : Yields read P) (back : ∀ value, P value → read (write value) = .valid value) :
    Settles read write :=
  fun document value accepted => back value (yields document value accepted)

/-- Writing out what was validated and validating it again changes nothing: the same value comes
back, down to the kind of every number and the member of every union. This holds in either spelling,
with null for what is absent. In all records but builder states, whose width and height have
defaults, what is absent may be left out as well. -/
theorem validation_undoes_writing (naming : Naming) (nulls : Bool) :
    Settles BuilderState.read (BuilderState.write ⟨naming, true⟩) ∧
      Settles MarkConfig.read (MarkConfig.write ⟨naming, nulls⟩) ∧
      Settles Encoding.read (Encoding.write ⟨naming, nulls⟩) ∧
      Settles Transform.read (Transform.write ⟨naming, nulls⟩) ∧
      Settles Operation.read (Operation.write ⟨naming, nulls⟩) ∧
      Settles Plan.read (Plan.write ⟨naming, nulls⟩) ∧
      Settles DataField.read (DataField.write ⟨naming, nulls⟩) := by
  refine ⟨?_, ?_, ?_, ?_, ?_, ?_, ?_⟩
  · exact settles_of_yields state_yields (state_read naming)
  · exact settles_of_yields mark_yields (mark_read _)
  · exact fun _ encoding _ => (encoding_back _ encoding).1
  · exact settles_of_yields transform_yields (transform_read _)
  · exact settles_of_yields operation_yields (Operation.operation_read _)
  · exact settles_of_yields Plan.plan_yields (Plan.plan_read _)
  · exact fun _ field _ => field_read _ field

/-- A state as it may be handed in: numerals in texts, a truth value for a number, a name in snake
case, and attributes left out. -/
def laxDocument : Json :=
  .object
    [("mark", .object
       [("type", .text "area"), ("opacity", .text " 0.5"), ("stroke_width", .int 2)]),
     ("encodings", .object
       [("x", .object [("field", .text "Date"), ("bin", .text "on")]),
        ("y", .object
          [("sort", .object [("field", .text "Sales")]),
           ("scale", .object [("range", .list [.int 0, .text "red"])])])]),
     ("width", .text "600"), ("height", .bool true),
     ("padding", .object [("top", .int 5)])]

def laxState : BuilderState := ((BuilderState.read laxDocument).toOption).getD {}

theorem lax_document_read : BuilderState.read laxDocument = .valid laxState := rfl

/-- The numeral has become an integer, and stays one. -/
theorem lax_document_settles :
    BuilderState.read laxDocument = .valid laxState ∧
      laxState.width = some (.checked (.whole 600)) ∧
      BuilderState.read (laxState.write ⟨.snake, true⟩) = .valid laxState :=
  ⟨lax_document_read, rfl,
    (validation_undoes_writing .snake true).1 laxDocument laxState lax_document_read⟩

end Chartwright
