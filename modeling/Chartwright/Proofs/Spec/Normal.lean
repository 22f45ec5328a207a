import Chartwright.Proofs.Spec.Binning
import Chartwright.Proofs.Spec.Recovery

/-!
The normal form of a specification: what is recovered of it is laid over the default state and
compiled. The compiler's own specifications change in this only where binning is switched off,
which is left out. A first pass leaves such binning behind exactly if a drawn channel switches it
off by another value than false, as zero or a word; a second pass always settles.
-/

namespace Chartwright
namespace Spec
open Form

/-! What is expressible. -/

theorem binned_twice (encoding : Encoding) : encoding.binned.binned = encoding.binned := by
  simp [Encoding.binned, Option.filter_filter]

theorem expressible_twice (state : BuilderState) :
    state.expressible.expressible = state.expressible := by
  have twice (encoding : Option Encoding) :
      (encoding.map Encoding.binned).map Encoding.binned = encoding.map Encoding.binned := by
    cases encoding <;> simp [binned_twice]
  have sized {α : Type} (size : Option α) (usual : α) :
      ((size <|> some usual) <|> some usual) = (size <|> some usual) := by
    cases size <;> rfl
  simp only [BuilderState.expressible, twice, sized, List.filter_filter, Bool.and_self]

theorem expressible_valid {state : BuilderState} (valid : state.Valid) :
    state.expressible.Valid := by
  obtain ⟨mark, transforms, width, height, texts⟩ := valid
  have sized (size : Option (Setting Dimension)) (checked : ∀ setting ∈ size, setting.IsChecked) :
      ∀ setting ∈ (size <|> some (.checked .container)), setting.IsChecked := by
    cases size with
    | none => simp [Setting.IsChecked]
    | some setting => simpa using checked
  refine ⟨mark, ?_, sized _ width, sized _ height, texts⟩
  intro step member
  exact transforms step (List.mem_filter.mp member).1

def NoneOff (state : BuilderState) : Prop :=
  ∀ channel, ∀ encoding ∈ shown? state channel, encoding.binning ≠ some (.flag false)

theorem entries_expressible {state : BuilderState} (on : NoneOff state)
    (fields : List DataField) :
    encodingMembers state.expressible fields = encodingMembers state fields := by
  have shown (channel : Channel) : shown? state.expressible channel = shown? state channel := by
    rw [shown_expressible]
    have here := on channel
    cases drawn : shown? state channel with
    | none => rfl
    | some encoding => simp [binned_of_binning encoding (here encoding drawn)]
  have entry : channelEntry state.expressible fields = channelEntry state fields := by
    funext channel
    have stacking : stackingAt? state.expressible fields channel =
        stackingAt? state fields channel := by
      rw [stackingAt?, stackingAt?, stacked_expressible]
      rfl
    rw [channelEntry, channelEntry, shown, stacking]
  have tooltip : state.expressible.encodings.tooltip = state.encodings.tooltip := rfl
  rw [encodingMembers, encodingMembers, entry, tooltip]

/-- A state has a width and a height and no ranking. -/
structure IsSettled (state : BuilderState) : Prop where
  unranked : ∀ step ∈ state.transforms, step.isTopN = false
  width : state.width.isSome
  height : state.height.isSome

theorem expressible_same_iff {state : BuilderState} (settled : IsSettled state)
    (fields : List DataField) :
    compile state.expressible fields = compile state fields ↔ NoneOff state := by
  constructor
  · intro same channel encoding drawn off
    have entries : encodingMembers state.expressible fields = encodingMembers state fields := by
      have members := congrArg (Members.getD · "encoding") same
      obtain ⟨_, before, _⟩ := compiled_members state.expressible fields
      obtain ⟨_, after, _⟩ := compiled_members state fields
      simpa only [before, after, Json.object.injEq] using members
    have descriptions := congrArg (Members.getD · (Named.name channel)) entries
    simp only [channel_entry_at, shown_expressible] at descriptions
    rw [drawn, Option.map_some, orNull, orNull, Json.object.injEq] at descriptions
    have told := congrArg (List.lookup "bin") descriptions
    simp [channelMembers, List.lookup_append, Encoding.binned, off, Option.filter] at told
  · intro on
    have steps : state.expressible.transforms = state.transforms := by
      apply List.filter_eq_self.mpr
      intro step member
      simp [settled.unranked step member]
    have width : state.expressible.width = state.width := by
      obtain ⟨size, given⟩ := Option.isSome_iff_exists.mp settled.width
      simp [BuilderState.expressible, given]
    have height : state.expressible.height = state.height := by
      obtain ⟨size, given⟩ := Option.isSome_iff_exists.mp settled.height
      simp [BuilderState.expressible, given]
    have view : configuration state.expressible = configuration state := by
      simp only [configuration, viewMembers, width, height]
    simp only [compile, steps, width, height, view, entries_expressible on fields]
    rfl

/-! The normal form. -/

/-- The specification that a specification is read and compiled to. -/
def normalized (spec : Json) (fields : List DataField) : Checked Members :=
  (({} : BuilderState).merge (recover spec)).map fun state => compile state fields

def described (spec : Json) (channel : Channel) : Members :=
  let encoding := ((spec.asObject?.getD []).getD "encoding").asObject?.getD []
  (encoding.getD (Named.name channel)).asObject?.getD []

theorem normalized_recovered (spec : Json) (fields : List DataField) :
    normalized spec fields = .valid (compile ((recover spec).onto {}) fields) := by
  rw [normalized, PartialState.merge_onto default_valid.2.2 (recover_fits spec)]
  rfl

theorem normalized_compiled {state : BuilderState} (valid : state.Valid)
    (fields : List DataField) :
    normalized (.object (compile state fields)) fields =
      .valid (compile state.expressible fields) := by
  rw [normalized, state_recovered state fields valid]
  exact congrArg Checked.valid (compile_recovered state fields fields)

theorem recovered_settled (spec : Json) : IsSettled ((recover spec).onto {}) := by
  have sized (own : Dimension) (dimension : Option Dimension) :
      (PartialState.settingOver (some (.checked own)) (dimension.map some)).isSome := by
    cases dimension <;> rfl
  rcases recover_cases spec with nothing | ⟨members, padding, _, all⟩
  · rw [nothing]
    exact ⟨by simp [PartialState.onto], rfl, rfl⟩
  · refine ⟨?_, ?_, ?_⟩
    · intro step member
      have carried : (recover spec).transforms = (attributes members padding).transforms := by
        rw [all]
      rw [all] at member
      exact recover_unranked spec _ carried _ rfl step member
    · rw [all]
      exact sized _ _
    · rw [all]
      exact sized _ _

theorem recovered_channel (spec : Json) (channel : Channel) :
    ((recover spec).onto {}).encodings.at? channel = none ∨
      ((recover spec).onto {}).encodings.at? channel =
        recoverChannel (described spec channel) := by
  rcases recover_cases spec with nothing | ⟨members, padding, rfl, all⟩
  · left
    rw [nothing]
    cases channel <;> rfl
  · have there : ((recover (.object members)).onto {}).encodings.at? channel =
        recoverAt ((Members.getD members "encoding").asObject?.getD []) channel := by
      rw [all]
      cases channel <;> rfl
    rw [there, recoverAt]
    cases told : (Members.getD ((Members.getD members "encoding").asObject?.getD [])
        (Named.name channel)).asObject? with
    | none => exact .inl rfl
    | some description =>
        right
        have same : described (.object members) channel = description :=
          congrArg (Option.getD · []) told
        rw [same, Option.bind_some]

theorem none_off_iff (spec : Json) :
    NoneOff ((recover spec).onto {}) ↔
      ∀ channel, (shown? ((recover spec).onto {}) channel).isSome →
        ¬OffInOtherWords (described spec channel) := by
  -- A drawn channel has the encoding that is recovered from its description.
  have drawn {channel : Channel} {encoding : Encoding}
      (shown : shown? ((recover spec).onto {}) channel = some encoding) :
      recoverChannel (described spec channel) = some encoding := by
    have there := (Option.filter_eq_some_iff.mp shown).1
    rcases recovered_channel spec channel with absent | same
    · simp [absent] at there
    · rw [← same, there]
  constructor
  · intro on channel given otherwise
    obtain ⟨encoding, shown⟩ := Option.isSome_iff_exists.mp given
    obtain ⟨other, recovered, off⟩ := (recovered_off_iff _).mpr otherwise
    rw [drawn shown, Option.some.injEq] at recovered
    exact on channel encoding shown (recovered ▸ off)
  · intro quiet channel encoding shown off
    have given : (shown? ((recover spec).onto {}) channel).isSome := by simp_all
    exact quiet channel given ((recovered_off_iff _).mp ⟨encoding, drawn shown, off⟩)

/-- A specification has its normal form after two passes at the latest. The second pass leaves out
binning that is off, and it changes nothing exactly if no channel that is drawn has its binning
switched off by another value than false. -/
theorem normal_after_two (spec : Json) (fields : List DataField) :
    ∃ state, ({} : BuilderState).merge (recover spec) = .valid state ∧
      normalized spec fields = .valid (compile state fields) ∧
      normalized (.object (compile state fields)) fields =
        .valid (compile state.expressible fields) ∧
      normalized (.object (compile state.expressible fields)) fields =
        .valid (compile state.expressible fields) ∧
      (compile state.expressible fields = compile state fields ↔
        ∀ channel, (shown? state channel).isSome →
          ¬OffInOtherWords (described spec channel)) := by
  have fits := recover_fits spec
  have valid := PartialState.onto_valid default_valid fits
  have third := normalized_compiled (expressible_valid valid) fields
  rw [expressible_twice] at third
  refine ⟨(recover spec).onto {}, PartialState.merge_onto default_valid.2.2 fits,
    normalized_recovered spec fields, normalized_compiled valid fields, third, ?_⟩
  rw [expressible_same_iff (recovered_settled spec), none_off_iff]

/-- Bars over a category whose binning is switched off by zero. -/
def zeroBinning : Json :=
  .object
    [("mark", .text "bar"),
     ("encoding", .object [("x", .object [("field", .text "Region"), ("bin", .int 0)])])]

/-- One pass does not settle binning that is switched off by zero. -/
theorem zero_binning_unsettled :
    ∃ first second, normalized zeroBinning [] = .valid first ∧
      normalized (.object first) [] = .valid second ∧ second ≠ first := by
  refine ⟨_, _, rfl, rfl, ?_⟩
  intro same
  have told := congrArg (fun spec => ((described (.object spec) .x).lookup "bin").isSome) same
  cases told

end Spec
end Chartwright
