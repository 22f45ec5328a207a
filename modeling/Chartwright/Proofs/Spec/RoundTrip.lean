import Chartwright.Proofs.Spec.Attributes
import Chartwright.Proofs.Spec.Mark

/-!
The way of a builder state through its specification. What is recovered from a compiled
specification compiles to the same specification again, member by member and in the same order,
but for what a specification cannot carry: the first rows by rank, a missing size and binning that
is switched off. The fields of the data are told in the specification, so others do not matter.
-/

namespace Chartwright

def BuilderState.expressible (state : BuilderState) : BuilderState :=
  { state with
    encodings :=
      { x := state.encodings.x.map Encoding.binned
        y := state.encodings.y.map Encoding.binned
        color := state.encodings.color.map Encoding.binned
        size := state.encodings.size.map Encoding.binned
        tooltip := state.encodings.tooltip }
    transforms := state.transforms.filter fun transform => !transform.isTopN
    width := state.width <|> some (.checked .container)
    height := state.height <|> some (.checked .container) }

namespace Spec
open Form

/-! The whole. -/

/-- The members of a compiled specification that are read when it is recovered. -/
theorem compiled_members (state : BuilderState) (fields : List DataField) :
    let spec := compile state fields
    let steps := state.transforms.flatMap transformSteps
    spec.getD "mark" = .object (markMembers state.mark) ∧
    spec.getD "encoding" = .object (encodingMembers state fields) ∧
    spec.getD "transform" = orNull .list (if steps.isEmpty then none else some steps) ∧
    spec.getD "width" = (pixels? state.width).getD .null ∧
    spec.getD "height" = (pixels? state.height).getD .null ∧
    spec.getD "title" = (legible? state.title).getD .null ∧
    spec.getD "description" = (legible? state.description).getD .null ∧
    spec.getD "background" = (legible? state.background).getD .null ∧
    spec.getD "padding" = orNull (Setting.write (Padding.write .present)) state.padding := by
  simp [compile, Members.getD, List.lookup_append]

/-- The state that is recovered from a compiled specification and laid over the default one. -/
def recoveredState (state : BuilderState) (fields : List DataField) : BuilderState :=
  { mark := recoveredMark state.mark (toldStacking state fields)
    encodings := recoveredEncodings state fields
    transforms := (state.transforms.filter fun transform => !transform.isTopN).map stepped
    width := state.expressible.width
    height := state.expressible.height
    title := legibleSetting state.title
    description := legibleSetting state.description
    background := legibleSetting state.background
    padding := state.padding }

theorem toldStacking_suits (state : BuilderState) (fields : List DataField) :
    (if state.mark.kind.isStackable then stackingIn? (encodingMembers state fields) else none) =
      toldStacking state fields := by
  rw [stacking_recovered]
  cases stackable : state.mark.kind.isStackable <;> simp [toldStacking, stackable]

theorem mark_description_told (mark : MarkConfig) :
    markDescription? (.object (markMembers mark)) =
      some (writeName mark.kind, markMembers mark) := by
  have kind : (markMembers mark).getD "type" = writeName mark.kind := by
    simp [markMembers, Members.getD]
  simp only [markDescription?, kind]
  cases mark.kind <;> rfl

/-- What is recovered from a compiled specification, with its padding given. Every attribute is
carried but for a padding that there is none of. -/
def recoveredPart (state : BuilderState) (fields : List DataField) (space : Option Padding) :
    PartialState :=
  { mark := some (some (recoveredMark state.mark (toldStacking state fields)))
    encodings := some (some (recoveredEncodings state fields))
    transforms :=
      some (some ((state.transforms.filter fun transform => !transform.isTopN).map stepped))
    width := (recoverDimension ((pixels? state.width).getD .null)).map some
    height := (recoverDimension ((pixels? state.height).getD .null)).map some
    title := some (recoverTitle ((legible? state.title).getD .null))
    description := some (Json.asText? ((legible? state.description).getD .null))
    background := some (Json.asText? ((legible? state.background).getD .null))
    padding := space.map some }

theorem part_recovered (state : BuilderState) (fields : List DataField) (valid : state.Valid) :
    ∃ space : Option Padding, space.map Setting.checked = state.padding ∧
      recover (.object (compile state fields)) = recoveredPart state fields space := by
  obtain ⟨markValid, stepsValid, _, _, _, _, _, padding⟩ := valid
  obtain ⟨mark, encoding, transform, atWidth, atHeight, atTitle, atDescription, atBackground,
    atPadding⟩ := compiled_members state fields
  obtain ⟨space, spaceRead, spaceIs⟩ := padding_recovered state.padding padding
  have markRead := mark_recovered state.mark (encodingMembers state fields) markValid
  rw [toldStacking_suits] at markRead
  have steps : recoverSteps false (((compile state fields).getD "transform").asList?.getD []) =
      (state.transforms.filter fun transform => !transform.isTopN).map stepped := by
    rw [transform, ← steps_recovered state.transforms stepsValid]
    cases state.transforms.flatMap transformSteps <;> rfl
  have single : isCompound (writeName state.mark.kind) = false := rfl
  have members : recoverMembers? (compile state fields) =
      some (recoveredPart state fields space) := by
    simp [recoverMembers?, recoveredPart, mark, encoding, steps, atWidth, atHeight, atTitle,
      atDescription, atBackground, atPadding, mark_description_told, single, spaceRead,
      Json.asObject?, markRead, encodings_recovered]
  have recovered : recover (.object (compile state fields)) =
      (recoverMembers? (compile state fields)).getD {} := rfl
  exact ⟨space, spaceIs, by rw [recovered, members, Option.getD_some]⟩

theorem over_carried {α : Type} (name : String) (read : Json → Checked α) (own value : Option α) :
    PartialState.overSetting name read (own.map .checked) (value.map some) =
      .valid (value.map .checked <|> own.map .checked) := by
  cases value with
  | none => cases own <;> rfl
  | some value => rfl

-- A dimension that is recovered has a value, so that of the default state does not count.
theorem dimension_over (name : String) (own : Dimension) (dimension : Option (Setting Dimension))
    (checked : ∀ setting ∈ dimension, setting.IsChecked) :
    PartialState.overSetting name Dimension.read (some (.checked own))
        ((recoverDimension ((pixels? dimension).getD .null)).map some) =
      .valid (dimension <|> some (.checked .container)) := by
  have carried := over_carried name Dimension.read (some own)
    (recoverDimension ((pixels? dimension).getD .null))
  rw [dimension_recovered dimension checked] at carried
  simp only [Option.map_some] at carried
  rw [carried]
  cases dimension <;> rfl

theorem state_recovered (state : BuilderState) (fields : List DataField) (valid : state.Valid) :
    ({} : BuilderState).merge (recover (.object (compile state fields))) =
      .valid (recoveredState state fields) := by
  obtain ⟨space, spaceIs, recovered⟩ := part_recovered state fields valid
  obtain ⟨_, _, width, height, title, description, background, _⟩ := valid
  have paddingOver := over_carried "padding" Padding.read none space
  have paddingIs : (space.map Setting.checked <|> none) = state.padding := by simp [spaceIs]
  simp only [Option.map_none, paddingIs] at paddingOver
  have titleText (text : String) (legible : text.isEmpty = false) :
      recoverTitle (.text text) = some text := by
    simp [recoverTitle, filled?, Option.filter, legible]
  have titleIs := text_recovered recoverTitle state.title title rfl titleText
  have descriptionIs := text_recovered Json.asText? state.description description rfl
    fun _ _ => rfl
  have backgroundIs := text_recovered Json.asText? state.background background rfl fun _ _ => rfl
  rw [recovered]
  simp only [BuilderState.merge, recoveredPart, PartialState.over]
  rw [dimension_over "width" _ state.width width, dimension_over "height" _ state.height height,
    paddingOver]
  simp only [PartialState.overSetting, titleIs, descriptionIs, backgroundIs]
  rfl

/-! Compiling once more. -/

theorem shown_recovered (state : BuilderState) (fields : List DataField) (channel : Channel) :
    shown? (recoveredState state fields) channel =
      (shown? state channel).map fun encoding => (explicit fields encoding).binned := by
  have found : (recoveredEncodings state fields).at? channel =
      (shown? state channel).map fun encoding => (explicit fields encoding).binned := by
    cases channel <;> rfl
  rw [shown?, recoveredState, found]
  cases shown : shown? state channel with
  | none => rfl
  | some encoding =>
      have isShown := (Option.filter_eq_some_iff.mp shown).2
      simp [explicit_shown, isShown, Option.filter]

theorem shown_expressible (state : BuilderState) (channel : Channel) :
    shown? state.expressible channel = (shown? state channel).map Encoding.binned := by
  have found : state.expressible.encodings.at? channel =
      (state.encodings.at? channel).map Encoding.binned := by
    cases channel <;> rfl
  rw [shown?, found, shown?]
  cases state.encodings.at? channel with
  | none => rfl
  | some encoding =>
      have same : isShown encoding.binned = isShown encoding := rfl
      cases shown : isShown encoding <;> simp [Option.filter, same, shown]

theorem stacked_recovered (state : BuilderState) (fields others : List DataField) :
    stackedChannel? (recoveredState state fields) others = stackedChannel? state fields := by
  have same (channel : Channel) :
      ((shown? (recoveredState state fields) channel).any fun encoding =>
        decide (shownKind others encoding = .quantitative)) =
      (shown? state channel).any fun encoding =>
        decide (shownKind fields encoding = .quantitative) := by
    rw [shown_recovered]
    cases shown? state channel <;> simp [explicit_kind]
  simp only [stackedChannel?, same]

theorem stacked_expressible (state : BuilderState) (fields : List DataField) :
    stackedChannel? state.expressible fields = stackedChannel? state fields := by
  have same (channel : Channel) : ((shown? state.expressible channel).any fun encoding =>
      decide (shownKind fields encoding = .quantitative)) =
      (shown? state channel).any fun encoding =>
        decide (shownKind fields encoding = .quantitative) := by
    rw [shown_expressible]
    cases shown? state channel <;> rfl
  simp only [stackedChannel?, same]

theorem stacking_at_recovered (state : BuilderState) (fields others : List DataField)
    (channel : Channel) :
    stackingAt? (recoveredState state fields) others channel =
      stackingAt? state.expressible fields channel := by
  rw [stackingAt?, stackingAt?, stacked_recovered, stacked_expressible]
  by_cases stacked : state.mark.kind.isStackable ∧ stackedChannel? state fields = some channel
  · simp [recoveredState, recoveredMark, BuilderState.expressible, stacked, toldStacking]
  · simp [recoveredState, recoveredMark, BuilderState.expressible, stacked]

theorem encoding_members_recovered (state : BuilderState) (fields others : List DataField) :
    encodingMembers (recoveredState state fields) others =
      encodingMembers state.expressible fields := by
  have entry (channel : Channel) : channelEntry (recoveredState state fields) others channel =
      channelEntry state.expressible fields channel := by
    rw [channelEntry, channelEntry, shown_recovered, shown_expressible, stacking_at_recovered]
    cases shown? state channel with
    | none => rfl
    | some encoding => simp [memberOf, explicit_members]
  have tooltip : (recoveredState state fields).encodings.tooltip =
      state.encodings.tooltip.map fun tooltip =>
        .chosen ((tooltipShown fields tooltip).map tooltipPart) := rfl
  have kept : state.expressible.encodings.tooltip = state.encodings.tooltip := rfl
  have entries : channelEntry (recoveredState state fields) others =
      channelEntry state.expressible fields := funext entry
  simp only [encodingMembers, entries, tooltip, kept]
  cases state.encodings.tooltip with
  | none => rfl
  | some tooltip => simp [memberOf, tooltip_items_part]

/-- The recovered state compiles to the specification of what was expressible, for any fields. -/
theorem compile_recovered (state : BuilderState) (fields others : List DataField) :
    compile (recoveredState state fields) others = compile state.expressible fields := by
  have mark : markMembers (recoveredState state fields).mark = markMembers state.mark := by
    simp [markMembers, recoveredState, recoveredMark, Option.filter_filter]
  have steps : (recoveredState state fields).transforms.flatMap transformSteps =
      state.expressible.transforms.flatMap transformSteps := by
    simp [recoveredState, BuilderState.expressible, List.flatMap_map, stepped_steps]
  have title : legible? (recoveredState state fields).title = legible? state.title :=
    legible_setting state.title
  have description : legible? (recoveredState state fields).description =
      legible? state.description := legible_setting state.description
  have background : legible? (recoveredState state fields).background =
      legible? state.background := legible_setting state.background
  have view : configuration (recoveredState state fields) = configuration state.expressible := rfl
  simp only [compile, mark, steps, title, description, background, view,
    encoding_members_recovered state fields others]
  rfl

/-- The state has nothing in it that a specification cannot carry. -/
def Carried (state : BuilderState) : Prop :=
  (∀ transform ∈ state.transforms, transform.isTopN = false) ∧
    state.width.isSome ∧ state.height.isSome ∧
    ∀ channel, ∀ encoding ∈ state.encodings.at? channel, encoding.binning ≠ some (.flag false)

theorem binned_of_binning (encoding : Encoding) (on : encoding.binning ≠ some (.flag false)) :
    encoding.binned = encoding := by
  rcases encoding with ⟨field, kind, aggregate, sorting, binning, timeUnit, scale, axis, legend⟩
  cases binning with
  | none => rfl
  | some binning =>
      have kept : binning ≠ .flag false := fun off => on (by simp [off])
      simp [Encoding.binned, Option.filter, kept]

theorem expressible_of_carried (state : BuilderState) (carried : Carried state) :
    state.expressible = state := by
  obtain ⟨unranked, width, height, binned⟩ := carried
  have channels (channel : Channel) : (state.encodings.at? channel).map Encoding.binned =
      state.encodings.at? channel := by
    have here := binned channel
    cases shown : state.encodings.at? channel with
    | none => rfl
    | some encoding => simp [binned_of_binning encoding (here encoding (by simp [shown]))]
  have steps : (state.transforms.filter fun transform => !transform.isTopN) = state.transforms := by
    rw [List.filter_eq_self]
    intro transform member
    simp [unranked transform member]
  have widthIs : (state.width <|> some (.checked .container)) = state.width := by
    cases given : state.width <;> simp [given] at width ⊢
  have heightIs : (state.height <|> some (.checked .container)) = state.height := by
    cases given : state.height <;> simp [given] at height ⊢
  have x := channels .x
  have y := channels .y
  have color := channels .color
  have size := channels .size
  simp only [Encodings.at?] at x y color size
  simp only [BuilderState.expressible, x, y, color, size, steps, widthIs, heightIs]

/-- A valid state goes through its specification: what is recovered of it can be laid over the
default state, and compiles to the specification of everything expressible in the state, whatever
the fields of the data are by then. That is the specification itself if nothing was lost. -/
theorem compile_survives_recovery (state : BuilderState) (fields others : List DataField)
    (valid : state.Valid) :
    ∃ merged, ({} : BuilderState).merge (recover (.object (compile state fields))) =
        .valid merged ∧
      compile merged others = compile state.expressible fields ∧
      (Carried state → compile merged others = compile state fields) := by
  refine ⟨recoveredState state fields, state_recovered state fields valid, ?_, ?_⟩
  · exact compile_recovered state fields others
  · intro carried
    rw [compile_recovered, expressible_of_carried state carried]

/-- Stacked bars of the first three categories, with binning switched off and no width. -/
def rankedChart : BuilderState :=
  { mark := { stacked := some .unstacked }
    encodings :=
      { x := some { field := some "Category", binning := some (.flag false) }
        y := some { field := some "Sales", aggregate := some .sum } }
    transforms := [.topN 3 "Sales" .descending, .filter "datum.Sales > 50"]
    width := none }

theorem ranked_chart_survives :
    rankedChart.Valid ∧
      ∃ merged, ({} : BuilderState).merge (recover (.object (compile rankedChart
          [{ name := "Sales", kind := .quantitative }]))) = .valid merged ∧
        compile merged [] =
          compile rankedChart.expressible [{ name := "Sales", kind := .quantitative }] ∧
        (Carried rankedChart →
          compile merged [] =
            compile rankedChart [{ name := "Sales", kind := .quantitative }]) := by
  have valid : rankedChart.Valid := by
    refine ⟨by simp [MarkConfig.Valid, rankedChart, MarkKind.isStackable], ?_, ?_⟩
    · simp [rankedChart, Transform.Valid]
    · simp [BuilderState.IsChecked, rankedChart, Setting.IsChecked]
  exact ⟨valid, compile_survives_recovery rankedChart _ _ valid⟩

end Spec
end Chartwright
