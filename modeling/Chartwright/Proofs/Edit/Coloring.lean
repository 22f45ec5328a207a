import Chartwright.Proofs.Edit.Effect
import Chartwright.Spec.Compile

/-!
Operations that give colors. They change the scale of the color channel, and no more than that if
the channel has a field. A channel that counts rows without a field is drawn as well, but it is not
taken for one that is in use: if the data has any field, one is put in its place.
-/

namespace Chartwright
open Form

namespace BuilderState

theorem color_field_none_iff (fields : List DataField) :
    colorField? fields = none ↔ fields = [] := by
  unfold colorField?
  cases fields with
  | nil => simp
  | cons first rest => simp

/-- Nothing has changed but the scale of the color channel. -/
def OnlyRescaled (before after : BuilderState) : Prop :=
  ∃ scale, after = before.adjust .color (Option.map fun encoding => { encoding with scale })

theorem only_rescaled_of_scale {before : BuilderState} {color : Encoding}
    (present : before.encodings.color = some color) (scale : Option Scale) :
    before.OnlyRescaled (before.withChannel .color (some { color with scale })) := by
  have current : before.encodings.at? .color = some color := present
  refine ⟨scale, ?_⟩
  rw [adjust, current]
  rfl

theorem only_rescaled_same {state : BuilderState} {color : Encoding}
    (present : state.encodings.color = some color) : state.OnlyRescaled state := by
  have kept : state.withChannel .color (some color) = state := by
    rw [← present]
    exact with_channel_same state .color
  have same := only_rescaled_of_scale present color.scale
  exact kept ▸ same

theorem shown_counts {encoding : Encoding} (shown : Spec.isShown encoding = true)
    (fieldless : hasField encoding = false) : encoding.aggregate = some .count := by
  have either := Bool.or_eq_true_iff.mp shown
  rcases either with fielded | counts
  · exact absurd fielded (Bool.eq_false_iff.mp fieldless)
  · exact of_decide_eq_true counts

theorem not_only_rescaled {before : BuilderState} {color new : Encoding}
    (present : before.encodings.color = some color) (changed : new.aggregate ≠ color.aggregate) :
    ¬ before.OnlyRescaled (before.withChannel .color (some new)) := by
  rintro ⟨scale, same⟩
  have there := congrArg (fun state => state.encodings.color.map (·.aggregate)) same
  have same : new.aggregate = color.aggregate := by
    simpa [adjust, withChannel, Encodings.put, Encodings.at?, present] using there
  exact changed same

end BuilderState

namespace Operation
open BuilderState
variable {fields : List DataField} {operation : Operation} {change : Scale → Scale}

def recoloring? : Operation → Option (Scale → Scale)
  | .setSeriesColors colors => some (seriesScale colors)
  | .setColorScheme scheme => some fun scale => { scale with scheme := some scheme }
  | _ => none

theorem recoloring_drawing (recolors : operation.recoloring? = some change) :
    operation.drawing? fields = some (.color, rescaled fields change) := by
  cases operation with
  | setSeriesColors colors =>
      cases recolors
      rfl
  | setColorScheme scheme =>
      cases recolors
      rfl
  | _ => cases recolors

theorem recoloring_fielded (recolors : operation.recoloring? = some change) {state : BuilderState}
    {color : Encoding} (present : state.encodings.color = some color)
    (fielded : hasField color = true) :
    operation.step fields state = state.withChannel .color (some (color.rescale change)) := by
  have current : state.encodings.at? .color = some color := present
  rw [step_drawing (recoloring_drawing recolors), adjust, current,
    rescaled_colored (colored_own fields fielded)]

theorem recoloring_fieldless (recolors : operation.recoloring? = some change)
    {state : BuilderState} {color : Encoding} (present : state.encodings.color = some color)
    (fieldless : hasField color = false) :
    operation.step fields state =
      (colorField? fields).elim state fun field =>
        state.withChannel .color (some ((ofField field).rescale change)) := by
  have current : state.encodings.at? .color = some color := present
  have unowned : (some color).filter hasField = none := by
    simp [fieldless]
  have chosen := colored_else fields unowned
  rw [step_drawing (recoloring_drawing recolors), adjust, current]
  cases picked : colorField? fields with
  | none =>
      rw [picked] at chosen
      rw [rescaled_uncolored chosen, ← current]
      exact with_channel_same state .color
  | some field =>
      rw [picked] at chosen
      rw [rescaled_colored chosen]
      rfl

/-- Colors given to a channel that is drawn change nothing but its scale, unless it counts rows
without a field. That channel stays as it is if the data has no fields, and otherwise gives way to
one of them. -/
theorem shown_color_recolored (fields : List DataField)
    (recolors : operation.recoloring? = some change) {state : BuilderState} {color : Encoding}
    (shown : Spec.shown? state .color = some color) :
    (hasField color = true →
      operation.step fields state = state.withChannel .color (some (color.rescale change))) ∧
    (hasField color = false →
      operation.step fields state =
        (colorField? fields).elim state fun field =>
          state.withChannel .color (some ((ofField field).rescale change))) ∧
    (state.OnlyRescaled (operation.step fields state) ↔ hasField color = true ∨ fields = []) := by
  obtain ⟨present, drawn⟩ := Option.filter_eq_some_iff.mp shown
  refine ⟨recoloring_fielded recolors present, recoloring_fieldless recolors present, ?_⟩
  cases fielded : hasField color with
  | true =>
      rw [recoloring_fielded recolors present fielded]
      exact iff_of_true (only_rescaled_of_scale present _) (.inl rfl)
  | false =>
      rw [recoloring_fieldless recolors present fielded]
      cases picked : colorField? fields with
      | none =>
          exact iff_of_true (only_rescaled_same present)
            (.inr ((color_field_none_iff fields).mp picked))
      | some field =>
          refine iff_of_false ?_ ?_
          · apply not_only_rescaled present
            rw [shown_counts drawn fielded]
            intro same
            cases same
          · intro either
            rcases either with never | empty
            · cases never
            · rw [(color_field_none_iff fields).mpr empty] at picked
              cases picked

/-- A chart colored by region, from the last color of its scheme to the first. -/
def regionColors : BuilderState :=
  { encodings.color := some { field := some "Region", scale := some { reverse := some true } } }

theorem region_colors_kept :
    step [] regionColors (.setColorScheme "tableau10") =
        { encodings.color := some
            { field := some "Region"
              scale := some { reverse := some true, scheme := some "tableau10" } } } ∧
      regionColors.OnlyRescaled (step [] regionColors (.setColorScheme "tableau10")) := by
  have recolors : recoloring? (.setColorScheme "tableau10") =
      some fun scale => { scale with scheme := some "tableau10" } := rfl
  have shown : Spec.shown? regionColors .color =
      some { field := some "Region", scale := some { reverse := some true } } := rfl
  obtain ⟨rescales, -, only⟩ := shown_color_recolored [] recolors shown
  exact ⟨rescales rfl, only.mpr (.inl rfl)⟩

def countColors : BuilderState := { encodings.color := some { aggregate := some .count } }

/-- Colors given to a valid state can replace what is drawn by them. -/
theorem count_colors_replaced :
    countColors.Valid ∧ Spec.shown? countColors .color = some { aggregate := some .count } ∧
      ¬ countColors.OnlyRescaled
        (step [{ name := "Region", kind := .nominal }] countColors
          (.setColorScheme "tableau10")) := by
  refine ⟨⟨?_, ?_, ?_⟩, rfl, ?_⟩
  · simp [MarkConfig.Valid, countColors]
  · simp [countColors]
  · simp [IsChecked, countColors, Setting.IsChecked]
  · have replaced : step [{ name := "Region", kind := .nominal }] countColors
        (.setColorScheme "tableau10") =
          countColors.withChannel .color (some
            { field := some "Region", kind := some .nominal
              scale := some { scheme := some "tableau10" } }) := rfl
    rw [replaced]
    apply not_only_rescaled rfl
    intro same
    cases same

end Operation
end Chartwright
