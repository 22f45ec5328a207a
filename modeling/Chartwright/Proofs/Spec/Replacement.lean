import Chartwright.Proofs.Spec.Recovery

/-!
A compiled specification put in the place of a chart. What is recovered of it carries every
attribute but a padding that there is none of, so of the state it is laid over nothing is left but
the padding. That padding is compiled again, unless the specification has one of its own.
-/

namespace Chartwright
namespace Spec
open Form

theorem setting_over_carried {α : Type} (own : Option (Setting α)) (value : Option α) :
    PartialState.settingOver own (value.map some) = (value.map .checked <|> own) := by
  cases value <;> rfl

theorem dimension_carried (own other : Option (Setting Dimension))
    (dimension : Option (Setting Dimension))
    (checked : ∀ setting ∈ dimension, setting.IsChecked) :
    PartialState.settingOver own ((recoverDimension ((pixels? dimension).getD .null)).map some) =
      PartialState.settingOver other
        ((recoverDimension ((pixels? dimension).getD .null)).map some) := by
  have recovered := dimension_recovered dimension checked
  rw [setting_over_carried, setting_over_carried, recovered]
  cases dimension <;> rfl

-- The padding is the one attribute that is carried only if there is one.
theorem replaced_but_padding {state : BuilderState} (valid : state.Valid)
    (fields : List DataField) (base : BuilderState) :
    let part := recover (.object (compile state fields))
    (part.onto {}).padding = state.padding ∧
      part.onto base = { part.onto {} with padding := state.padding <|> base.padding } := by
  obtain ⟨space, spaceIs, recovered⟩ := part_recovered state fields valid
  obtain ⟨_, _, width, height, _⟩ := valid
  have spaceOver (own : Option (Setting Padding)) :
      PartialState.settingOver own (space.map some) = (state.padding <|> own) := by
    rw [setting_over_carried, spaceIs]
  simp only [recovered]
  constructor
  · have alone := spaceOver none
    cases given : state.padding <;> simpa [PartialState.onto, recoveredPart, given] using alone
  · have widths := dimension_carried base.width ({} : BuilderState).width state.width width
    have heights := dimension_carried base.height ({} : BuilderState).height state.height height
    simp only [PartialState.onto, recoveredPart, widths, heights, spaceOver]
    rfl

theorem padding_compiled (state : BuilderState) (fields : List DataField) :
    (compile state fields).lookup "padding" =
      state.padding.map (Setting.write (Padding.write .present)) := by
  simp [compile, List.lookup_append]

/-- Laid over any valid state and over the default one, what is recovered of a compiled
specification gives two states that differ in the padding alone: the first keeps that of the state
unless the specification has one. They compile to the same specification exactly if it has one or
the state had none. -/
theorem nothing_stale_but_padding (state base : BuilderState) (fields : List DataField)
    (valid : state.Valid) (baseValid : base.Valid) :
    ∃ replaced afresh,
      base.merge (recover (.object (compile state fields))) = .valid replaced ∧
      ({} : BuilderState).merge (recover (.object (compile state fields))) = .valid afresh ∧
      replaced = { afresh with padding := state.padding <|> base.padding } ∧
      (compile replaced fields = compile afresh fields ↔
        state.padding.isSome ∨ base.padding = none) := by
  have fits := recover_fits (.object (compile state fields))
  obtain ⟨own, differ⟩ := replaced_but_padding valid fields base
  refine ⟨_, _, PartialState.merge_onto baseValid.2.2 fits,
    PartialState.merge_onto default_valid.2.2 fits, differ, ?_⟩
  constructor
  · intro same
    have paddings := congrArg (List.lookup "padding") same
    rw [padding_compiled, padding_compiled, differ, own] at paddings
    cases given : state.padding with
    | some padding => exact .inl rfl
    | none =>
        right
        cases old : base.padding with
        | none => rfl
        | some padding => simp [given, old] at paddings
  · intro told
    have kept : (state.padding <|> base.padding) = state.padding := by
      rcases told with given | absent
      · obtain ⟨padding, given⟩ := Option.isSome_iff_exists.mp given
        simp [given]
      · cases given : state.padding <;> simp [absent]
    rw [differ, kept, ← own]

def padded : BuilderState := { padding := some (.checked (.even (.ofInt 5))) }

theorem padded_valid : padded.Valid := by
  refine ⟨by simp [MarkConfig.Valid, padded], by simp [padded], ?_⟩
  simp [BuilderState.IsChecked, padded, Setting.IsChecked]

theorem padded_replaced :
    ({} : BuilderState).Valid ∧ padded.Valid ∧
      ∃ replaced afresh,
        padded.merge (recover (.object (compile {} []))) = .valid replaced ∧
        ({} : BuilderState).merge (recover (.object (compile {} []))) = .valid afresh ∧
        replaced = { afresh with padding := ({} : BuilderState).padding <|> padded.padding } ∧
        (compile replaced [] = compile afresh [] ↔
          ({} : BuilderState).padding.isSome ∨ padded.padding = none) :=
  ⟨default_valid, padded_valid, nothing_stale_but_padding {} padded [] default_valid padded_valid⟩

/-- The padding of a chart outlasts the replacement by a specification without one. -/
theorem padding_comes_back :
    ∃ replaced afresh,
      padded.merge (recover (.object (compile {} []))) = .valid replaced ∧
      ({} : BuilderState).merge (recover (.object (compile {} []))) = .valid afresh ∧
      compile replaced [] ≠ compile afresh [] := by
  refine ⟨_, _, rfl, rfl, ?_⟩
  intro same
  have paddings := congrArg (List.lookup "padding") same
  rw [padding_compiled, padding_compiled] at paddings
  cases paddings

end Spec
end Chartwright
