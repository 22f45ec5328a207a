import Chartwright.Proofs.Chart.Writing

/-!
Encodings, marks, transforms and whole builder states are read back from what is written for them.
Some attributes have a default and may still be without a value, so these are written with their
nulls: a state without a width is not one with the usual width.
-/

namespace Chartwright
open Form

namespace Form

/-! Attributes that are written with their nulls. -/

theorem written_found {attrs : List Attribute} {naming : Naming} (apart : Apart attrs)
    {entries : List (Attribute × Json)} (listed : entries.map (·.1) = attrs)
    {attr : Attribute} {value : Json} (member : (attr, value) ∈ entries) :
    ∃ spelling, attr.find? (writtenMembers ⟨naming, true⟩ entries) = some (spelling, value) := by
  have tells := written_said ⟨naming, true⟩ apart listed member
  have there : (writtenMembers ⟨naming, true⟩ entries).lookup (attr.name naming) ≠ none := by
    intro absent
    have kept : (attr.name naming, value) ∈ writtenMembers ⟨naming, true⟩ entries :=
      List.mem_map.mpr ⟨(attr, value), member, rfl⟩
    simpa using List.lookup_eq_none_iff.mp absent _ kept
  cases found : attr.find? (writtenMembers ⟨naming, true⟩ entries) with
  | some entry =>
      obtain ⟨spelling, here⟩ := entry
      exact ⟨spelling, by rw [← tells, found_said found]⟩
  | none =>
      unfold Attribute.find? at found
      cases camel : (writtenMembers ⟨naming, true⟩ entries).lookup attr.camel with
      | some told => simp [camel] at found
      | none =>
          simp only [camel, Option.map_eq_none_iff] at found
          rcases name_either attr naming with spelled | spelled <;> rw [spelled] at there
          · exact absurd camel there
          · exact absurd found there

theorem default_written {α : Type} {attrs : List Attribute} {naming : Naming} (apart : Apart attrs)
    {entries : List (Attribute × Json)} (listed : entries.map (·.1) = attrs) (place : Nat)
    {attr : Attribute} {told : Json} (there : entries[place]? = some (attr, told))
    {read : Json → Checked α} {default value : α} (reads : read told = .valid value) :
    withDefault (writtenMembers ⟨naming, true⟩ entries) attr default read = .valid value := by
  obtain ⟨spelling, found⟩ : ∃ spelling,
      attr.find? (writtenMembers ⟨naming, true⟩ entries) = some (spelling, told) :=
    written_found apart listed (List.mem_of_getElem? there)
  simp [withDefault, found, reads]

end Form

/-! Encodings. -/

theorem encoding_apart : Apart
    [word "field", word "type", word "aggregate", word "sort", word "bin", timeUnitAttr,
      word "scale", word "axis", word "legend"] := by decide

theorem encoding_back (style : Style) (encoding : Encoding) :
    ReadsBack Encoding.read (Encoding.write style) encoding := by
  refine ⟨?_, Json.noConfusion⟩
  simp only [Encoding.read, Encoding.write, Encoding.toMembers, record, Encoding.readMembers]
  rw [optionally_told (written_at encoding_apart rfl 0 rfl) fun x _ => text_back x,
    optionally_told (written_at encoding_apart rfl 1 rfl) fun x _ => named_back x,
    optionally_told (written_at encoding_apart rfl 2 rfl) fun x _ => named_back x,
    optionally_told (written_at encoding_apart rfl 3 rfl) fun x _ => sorting_back style x,
    optionally_told (written_at encoding_apart rfl 4 rfl) fun x _ => binning_back style x,
    optionally_told (written_at encoding_apart rfl 5 rfl) fun x _ => named_back x,
    optionally_told (written_at encoding_apart rfl 6 rfl) fun x _ => scale_back style x,
    optionally_told (written_at encoding_apart rfl 7 rfl) fun x _ => axis_back style x,
    optionally_told (written_at encoding_apart rfl 8 rfl) fun x _ => legend_back style x]
  rfl

-- A list is not taken for the word.
theorem tooltip_back (style : Style) (tooltip : Tooltip) :
    ReadsBack Tooltip.read (Tooltip.write style) tooltip := by
  cases tooltip with
  | auto => exact ⟨rfl, Json.noConfusion⟩
  | chosen entries =>
      refine ⟨?_, Json.noConfusion⟩
      have ⟨back, _⟩ : ReadsBack (list Encoding.read)
          (fun entries => .list (entries.map (Encoding.write style))) entries :=
        list_back entries fun encoding _ => (encoding_back style encoding).1
      have refused (items : List Json) : literal AutoWord (.list items) =
          .fault (.notLiteral (Named.names AutoWord)) (.list items) := rfl
      simp only [Tooltip.read, Tooltip.write, refused, Checked.fault, back]

theorem encodings_apart : Apart
    [word "x", word "y", word "color", word "size", word "tooltip"] := by decide

theorem encodings_read (naming : Naming) (encodings : Encodings) :
    Encodings.read (encodings.write ⟨naming, true⟩) = .valid encodings := by
  simp only [Encodings.read, Encodings.write, written, record, Encodings.readMembers]
  rw [optionally_told (written_at encodings_apart rfl 0 rfl) fun x _ => encoding_back _ x,
    optionally_told (written_at encodings_apart rfl 1 rfl) fun x _ => encoding_back _ x,
    optionally_told (written_at encodings_apart rfl 2 rfl) fun x _ => encoding_back _ x,
    optionally_told (written_at encodings_apart rfl 3 rfl) fun x _ => encoding_back _ x,
    default_written encodings_apart rfl 4 rfl
      (optional_written fun tooltip _ => tooltip_back _ tooltip)]
  rfl

/-! Marks. -/

theorem fraction_back (opacity : Binary64) (bounded : MarkConfig.isFraction opacity = true) :
    ReadsBack fraction .float opacity := by
  simp only [MarkConfig.isFraction, Bool.and_eq_true] at bounded
  refine ⟨?_, Json.noConfusion⟩
  simp [fraction, number, Checked.andThen, bounded.1, bounded.2]

theorem objection_none_iff (mark : MarkConfig) :
    mark.objection? = none ↔
      (mark.stacked.isSome → mark.kind.isStackable) ∧
        (mark.point.isSome → mark.kind.hasOverlay) := by
  unfold MarkConfig.objection?
  cases mark.stacked.isSome <;> cases mark.kind.isStackable <;> cases mark.point.isSome <;>
    cases mark.kind.hasOverlay <;> simp

theorem mark_apart : Apart
    [word "type", word "point", word "stacked", word "opacity", word "size", strokeWidthAttr,
      word "interpolate"] := by decide

theorem mark_told {entries : Members} (mark : MarkConfig) (valid : mark.Valid)
    (kind : said entries (word "type") = writeName mark.kind)
    (point : said entries (word "point") = orNull .bool mark.point)
    (stacked : said entries (word "stacked") = orNull writeName mark.stacked)
    (opacity : said entries (word "opacity") = orNull .float mark.opacity)
    (size : said entries (word "size") = orNull .float mark.size)
    (stroke : said entries strokeWidthAttr = orNull .float mark.strokeWidth)
    (interpolate : said entries (word "interpolate") = orNull writeName mark.interpolate) :
    MarkConfig.readMembers entries = .valid mark := by
  obtain ⟨stacking, overlays, bounded⟩ := valid
  have suits := (objection_none_iff mark).mpr ⟨stacking, overlays⟩
  have ⟨reads, present⟩ := named_back mark.kind
  unfold MarkConfig.readMembers
  rw [default_told _ _ _ mark.kind kind present reads,
    optionally_told point fun x _ => truth_back x,
    optionally_told stacked fun x _ => named_back x,
    optionally_told opacity fun x here => fraction_back x (bounded x here),
    optionally_told size fun x _ => number_back x,
    optionally_told stroke fun x _ => number_back x,
    optionally_told interpolate fun x _ => named_back x]
  change abiding MarkConfig.objection? _ (.valid mark) = _
  simp [abiding, Checked.andThen, suits]

theorem mark_read (style : Style) (mark : MarkConfig) (valid : mark.Valid) :
    MarkConfig.read (mark.write style) = .valid mark :=
  mark_told mark valid (written_at mark_apart rfl 0 rfl) (written_at mark_apart rfl 1 rfl)
    (written_at mark_apart rfl 2 rfl) (written_at mark_apart rfl 3 rfl)
    (written_at mark_apart rfl 4 rfl) (written_at mark_apart rfl 5 rfl)
    (written_at mark_apart rfl 6 rfl)

/-! Transforms. -/

theorem texts_back (items : List String) : ReadsBack (list Form.text) Transform.texts items :=
  list_back items fun _ _ => rfl

theorem positive_read (n : Nat) (counted : 0 < n) : positive (.int n) = .valid n := by
  simp [positive, integer, Checked.andThen, counted]

/-- A record with its tag written first is read by the reader of that tag. -/
theorem tagged_read {α : Type} (style : Style) (attr name : String)
    (readers : List (String × (Members → Checked α))) {read : Members → Checked α}
    (known : readers.lookup name = some read) (rest : List (Attribute × Json)) :
    tagged attr readers (written style ((word attr, .text name) :: rest)) =
      (read (writtenMembers style ((word attr, .text name) :: rest))).under (.name name) := by
  have tag : (writtenMembers style ((word attr, .text name) :: rest)).lookup attr =
      some (.text name) := by
    obtain ⟨naming, nulls⟩ := style
    cases naming <;> simp [written_lookup_cons, word, Attribute.name, Json.isNull]
  simp [tagged, written, tag, Json.asText?, known]

theorem aggregation_told {entries : Members} (a : Aggregation)
    (sizes : a.ops.length = a.fields.length ∧ a.fields.length = a.names.length)
    (groupby : said entries (word "groupby") = orNull Transform.texts a.groupby)
    (ops : said entries (word "ops") = .list (a.ops.map writeName))
    (fields : said entries (word "fields") = Transform.texts a.fields)
    (names : said entries Transform.asAttr = Transform.texts a.names) :
    Transform.readAggregate entries = .valid a := by
  have opsBack : ReadsBack (list (named Aggregate)) (fun ops => .list (ops.map writeName)) a.ops :=
    list_back a.ops fun op _ => (named_back op).1
  unfold Transform.readAggregate
  rw [optionally_told groupby fun x _ => texts_back x,
    required_told _ _ a.ops ops opsBack.2 opsBack.1,
    required_told _ _ a.fields fields (texts_back a.fields).2 (texts_back a.fields).1,
    required_told _ _ a.names names (texts_back a.names).2 (texts_back a.names).1]
  change abiding Transform.objection? _ (.valid a) = _
  simp [abiding, Checked.andThen, Transform.objection?, sizes]

theorem filter_apart : Apart [word "kind", word "expr"] := by decide

theorem rank_apart : Apart
    [word "kind", word "n", Transform.byFieldAttr, word "order"] := by decide

theorem calculation_apart : Apart
    [word "kind", word "calculate", Transform.asAttr] := by decide

theorem aggregation_apart : Apart
    [word "kind", word "groupby", word "ops", word "fields", Transform.asAttr] := by decide

theorem transform_read (style : Style) (transform : Transform) (valid : transform.Valid) :
    Transform.read (transform.write style) = .valid transform := by
  unfold Transform.read
  cases transform with
  | filter expr =>
      rw [Transform.write, tagged_read _ _ _ _ rfl,
        Transform.readFilter,
        required_told Form.text _ expr (written_at filter_apart rfl 1 rfl) Json.noConfusion rfl]
      rfl
  | topN n byField direction =>
      have ⟨reads, present⟩ := named_back direction
      rw [Transform.write, tagged_read _ _ _ _ rfl,
        Transform.readTopN,
        required_told positive _ n (written_at rank_apart rfl 1 rfl) Json.noConfusion
          (positive_read n valid),
        required_told Form.text _ byField (written_at rank_apart rfl 2 rfl) Json.noConfusion rfl,
        default_told _ _ _ direction (written_at rank_apart rfl 3 rfl) present reads]
      rfl
  | calculate expr name =>
      rw [Transform.write, tagged_read _ _ _ _ rfl,
        Transform.readCalculate,
        required_told Form.text _ expr (written_at calculation_apart rfl 1 rfl) Json.noConfusion
          rfl,
        required_told Form.text _ name (written_at calculation_apart rfl 2 rfl) Json.noConfusion
          rfl]
      rfl
  | aggregate a =>
      rw [Transform.write, tagged_read _ _ _ _ rfl,
        aggregation_told a valid (written_at aggregation_apart rfl 1 rfl)
          (written_at aggregation_apart rfl 2 rfl) (written_at aggregation_apart rfl 3 rfl)
          (written_at aggregation_apart rfl 4 rfl)]
      rfl

/-! States. -/

theorem dimension_back (dimension : Dimension) :
    ReadsBack Dimension.read Dimension.write dimension := by
  cases dimension with
  | whole pixels => exact ⟨rfl, Json.noConfusion⟩
  | real pixels => exact ⟨rfl, Json.noConfusion⟩
  | container => exact ⟨rfl, Json.noConfusion⟩

theorem padding_back (style : Style) (padding : Padding) :
    ReadsBack Padding.read (Padding.write style) padding := by
  cases padding with
  | even space => exact ⟨rfl, Json.noConfusion⟩
  | separate sides =>
      refine ⟨?_, Json.noConfusion⟩
      have refused : number (Padding.writeSides style sides) =
          .fault .notNumber (Padding.writeSides style sides) := rfl
      simp only [Padding.read, Padding.write, refused, Checked.fault, sides_read]

theorem setting_back {α : Type} {read : Json → Checked α} {write : α → Json}
    {setting : Setting α} (checked : setting.IsChecked)
    (back : ∀ value, ReadsBack read write value) :
    ReadsBack (BuilderState.setting read) (Setting.write write) setting := by
  cases setting with
  | unchecked document => cases checked
  | checked value =>
      have ⟨reads, present⟩ := back value
      exact ⟨by simp [BuilderState.setting, Setting.write, reads, Checked.map], present⟩

theorem state_apart : Apart
    [word "mark", word "encodings", word "transforms", word "width", word "height", word "title",
      word "description", word "background", word "padding"] := by decide

/-- A valid state is read back from what is written for it. -/
theorem state_read (naming : Naming) (state : BuilderState) (valid : state.Valid) :
    BuilderState.read (state.write ⟨naming, true⟩) = .valid state := by
  obtain ⟨mark, transforms, width, height, title, description, background, padding⟩ := valid
  simp only [BuilderState.read, BuilderState.write, BuilderState.toMembers, record,
    BuilderState.readMembers, BuilderState.titleJson]
  rw [default_written state_apart rfl 0 rfl (mark_read _ state.mark mark),
    default_written state_apart rfl 1 rfl (encodings_read naming state.encodings),
    default_written state_apart rfl 2 rfl
      (list_back state.transforms fun x here => transform_read _ x (transforms x here)).1,
    default_written state_apart rfl 3 rfl
      (optional_written fun x here => setting_back (width x here) dimension_back),
    default_written state_apart rfl 4 rfl
      (optional_written fun x here => setting_back (height x here) dimension_back),
    optionally_told (written_at state_apart rfl 5 rfl) fun x here =>
      setting_back (title x here) text_back,
    optionally_told (written_at state_apart rfl 6 rfl) fun x here =>
      setting_back (description x here) text_back,
    optionally_told (written_at state_apart rfl 7 rfl) fun x here =>
      setting_back (background x here) text_back,
    optionally_told (written_at state_apart rfl 8 rfl) fun x here =>
      setting_back (padding x here) (padding_back _)]
  rfl

end Chartwright
