import Chartwright.Chart.State
import Chartwright.Proofs.Form.Reading

/-!
The parts of a chart description are read back from what is written for them, in every style. The
laws go from the words of a description to sorting, binning, scales, axes, legends and paddings.
-/

namespace Chartwright
open Form

/-! Words. -/

instance : LawfulNamed FieldKind := ⟨by intro value; cases value <;> rfl⟩
instance : LawfulNamed MarkKind := ⟨by intro value; cases value <;> rfl⟩
instance : LawfulNamed Aggregate := ⟨by intro value; cases value <;> rfl⟩
instance : LawfulNamed TimeUnit := ⟨by intro value; cases value <;> rfl⟩
instance : LawfulNamed Direction := ⟨by intro value; cases value <;> rfl⟩
instance : LawfulNamed Stacking := ⟨by intro value; cases value <;> rfl⟩
instance : LawfulNamed Interpolation := ⟨by intro value; cases value <;> rfl⟩
instance : LawfulNamed LegendSide := ⟨by intro value; cases value <;> rfl⟩

/-! Sorting and binning. -/

theorem sort_field_apart : Apart [word "field", word "order"] := by decide

theorem sort_field_read (style : Style) (field : String) (direction : Direction) :
    SortField.read (SortField.write style field direction) = .valid (field, direction) := by
  have ⟨reads, present⟩ := named_back direction
  simp only [SortField.read, SortField.write, written, record]
  rw [required_told Form.text _ field (written_at sort_field_apart rfl 0 rfl) Json.noConfusion rfl,
    default_told _ _ _ direction (written_at sort_field_apart rfl 1 rfl) present reads]
  rfl

-- An object is not taken for the name of a direction.
theorem sorting_back (style : Style) (sorting : Sorting) :
    ReadsBack Sorting.read (Sorting.write style) sorting := by
  cases sorting with
  | plain direction =>
      refine ⟨?_, (named_back direction).2⟩
      have reads : named Direction (writeName direction) = .valid direction :=
        (named_back direction).1
      simp [Sorting.read, Sorting.write, reads]
  | byField field direction =>
      refine ⟨?_, Json.noConfusion⟩
      have refused : named Direction (SortField.write style field direction) =
          .fault (.notNamed (Named.names Direction)) (SortField.write style field direction) := rfl
      simp only [Sorting.read, Sorting.write, refused, sort_field_read]
      rfl

theorem bin_params_read (style : Style) (maximum : Option Int) :
    BinParams.read (BinParams.write style maximum) = .valid maximum := by
  have apart : Apart [word "maxbins"] := by decide
  simp only [BinParams.read, BinParams.write, written, record]
  rw [optionally_told (written_at apart rfl 0 rfl) fun n _ => integer_back n]

theorem binning_back (style : Style) (binning : Binning) :
    ReadsBack Binning.read (Binning.write style) binning := by
  cases binning with
  | flag on => exact ⟨rfl, Json.noConfusion⟩
  | limited maximum =>
      refine ⟨?_, Json.noConfusion⟩
      have refused : truth (BinParams.write style maximum) =
          .fault .notTruth (BinParams.write style maximum) := rfl
      simp only [Binning.read, Binning.write, refused, bin_params_read]
      rfl

/-! Scales, axes and legends. -/

theorem range_item_read (item : RangeItem) : RangeItem.read item.write = .valid item := by
  cases item with
  | text value => rfl
  | number value => rfl

theorem domain_back (domain : List Json) : ReadsBack (list any) .list domain := by
  have back : ReadsBack (list any) (fun values => .list (values.map id)) domain :=
    list_back domain fun _ _ => rfl
  simpa [ReadsBack] using back

theorem scale_apart : Apart
    [word "domain", word "range", word "scheme", word "reverse", word "zero"] := by decide

theorem scale_back (style : Style) (scale : Scale) :
    ReadsBack Scale.read (Scale.write style) scale := by
  refine ⟨?_, Json.noConfusion⟩
  simp only [Scale.read, Scale.write, written, record]
  rw [optionally_told (written_at scale_apart rfl 0 rfl) fun x _ => domain_back x,
    optionally_told (written_at scale_apart rfl 1 rfl) fun x _ => list_back x fun item _ =>
      range_item_read item,
    optionally_told (written_at scale_apart rfl 2 rfl) fun x _ => text_back x,
    optionally_told (written_at scale_apart rfl 3 rfl) fun x _ => truth_back x,
    optionally_told (written_at scale_apart rfl 4 rfl) fun x _ => truth_back x]
  rfl

theorem axis_apart : Apart
    [word "title", word "format", word "grid", labelAngleAttr, labelFontSizeAttr,
      titleFontSizeAttr] := by decide

theorem axis_back (style : Style) (axis : Axis) : ReadsBack Axis.read (Axis.write style) axis := by
  refine ⟨?_, Json.noConfusion⟩
  simp only [Axis.read, Axis.write, written, record]
  rw [optionally_told (written_at axis_apart rfl 0 rfl) fun x _ => text_back x,
    optionally_told (written_at axis_apart rfl 1 rfl) fun x _ => text_back x,
    optionally_told (written_at axis_apart rfl 2 rfl) fun x _ => truth_back x,
    optionally_told (written_at axis_apart rfl 3 rfl) fun x _ => number_back x,
    optionally_told (written_at axis_apart rfl 4 rfl) fun x _ => number_back x,
    optionally_told (written_at axis_apart rfl 5 rfl) fun x _ => number_back x]
  rfl

theorem legend_apart : Apart
    [word "title", word "orient", labelFontSizeAttr, titleFontSizeAttr] := by decide

theorem legend_back (style : Style) (legend : Legend) :
    ReadsBack Legend.read (Legend.write style) legend := by
  refine ⟨?_, Json.noConfusion⟩
  simp only [Legend.read, Legend.write, written, record]
  rw [optionally_told (written_at legend_apart rfl 0 rfl) fun x _ => text_back x,
    optionally_told (written_at legend_apart rfl 1 rfl) fun x _ => literal_back x,
    optionally_told (written_at legend_apart rfl 2 rfl) fun x _ => number_back x,
    optionally_told (written_at legend_apart rfl 3 rfl) fun x _ => number_back x]
  rfl

/-! Paddings. -/

theorem sides_apart : Apart [word "top", word "bottom", word "left", word "right"] := by decide

theorem sides_read (style : Style) (sides : Sides) :
    Padding.readSides (Padding.writeSides style sides) = .valid sides := by
  simp only [Padding.readSides, Padding.writeSides, written, record]
  rw [optionally_told (written_at sides_apart rfl 0 rfl) fun x _ => number_back x,
    optionally_told (written_at sides_apart rfl 1 rfl) fun x _ => number_back x,
    optionally_told (written_at sides_apart rfl 2 rfl) fun x _ => number_back x,
    optionally_told (written_at sides_apart rfl 3 rfl) fun x _ => number_back x]
  rfl

end Chartwright
