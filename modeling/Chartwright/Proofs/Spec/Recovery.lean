import Chartwright.Proofs.Chart.Validity
import Chartwright.Proofs.Spec.RoundTrip
import Chartwright.Spec.Check
import Mathlib.Data.Option.Basic

/-!
What is recovered of a specification, be it compiled or written by hand, can be laid over any valid
state and gives a valid one. Each part that is carried was read and so abides by the rules of its
type; mark, encodings and transforms are never carried without a value. The merged state compiles
to a specification in which the check finds no error.
-/

namespace Chartwright
open Form

/-! Laying a partial state over a state. -/

namespace PartialState

/-- The partial state can be laid over any state: what must have a value is carried with one, and
the parts abide by the rules of their types. -/
structure Fits (part : PartialState) : Prop where
  mark : ∀ mark ∈ part.mark, ∃ config ∈ mark, config.Valid
  encodings : part.encodings ≠ some none
  transforms : ∀ transforms ∈ part.transforms, ∃ steps ∈ transforms, ∀ step ∈ steps, step.Valid

def settingOver {α : Type} (own : Option (Setting α)) :
    Option (Option α) → Option (Setting α)
  | some value => value.map .checked
  | none => own

/-- The state with the carried attributes in place of its own. -/
def onto (part : PartialState) (state : BuilderState) : BuilderState :=
  { mark := part.mark.join.getD state.mark
    encodings := part.encodings.join.getD state.encodings
    transforms := part.transforms.join.getD state.transforms
    width := settingOver state.width part.width
    height := settingOver state.height part.height
    title := settingOver state.title part.title
    description := settingOver state.description part.description
    background := settingOver state.background part.background
    padding := settingOver state.padding part.padding }

theorem over_full {α : Type} (name : String) (cause : FaultCause) (own : α)
    (value : Option (Option α)) (full : value ≠ some none) :
    PartialState.over name cause own value = .valid (value.join.getD own) := by
  rcases value with _ | _ | value
  · rfl
  · exact absurd rfl full
  · rfl

theorem over_checked {α : Type} (name : String) (read : Json → Checked α)
    (own : Option (Setting α)) (checked : ∀ setting ∈ own, setting.IsChecked)
    (value : Option (Option α)) :
    overSetting name read own value = .valid (settingOver own value) := by
  rcases value with _ | value
  · rcases own with _ | setting
    · rfl
    · cases setting with
      | checked value => rfl
      | «unchecked» document => exact absurd (checked _ rfl) id
  · rfl

theorem setting_over_checked {α : Type} {own : Option (Setting α)}
    (checked : ∀ setting ∈ own, setting.IsChecked) (value : Option (Option α)) :
    ∀ setting ∈ settingOver own value, setting.IsChecked := by
  rcases value with _ | _ | value
  · exact checked
  · simp [settingOver]
  · simp [settingOver, Setting.IsChecked]

theorem merge_onto {state : BuilderState} {part : PartialState} (checked : state.IsChecked)
    (fits : part.Fits) : state.merge part = .valid (part.onto state) := by
  obtain ⟨width, height, title, description, background, padding⟩ := checked
  have mark : part.mark ≠ some none := by
    intro empty
    obtain ⟨config, there, _⟩ := fits.mark none empty
    cases there
  have transforms : part.transforms ≠ some none := by
    intro empty
    obtain ⟨steps, there, _⟩ := fits.transforms none empty
    cases there
  unfold BuilderState.merge
  rw [over_full _ _ _ _ mark, over_full _ _ _ _ fits.encodings, over_full _ _ _ _ transforms,
    over_checked _ _ _ width, over_checked _ _ _ height, over_checked _ _ _ title,
    over_checked _ _ _ description, over_checked _ _ _ background, over_checked _ _ _ padding]
  rfl

theorem onto_valid {state : BuilderState} {part : PartialState} (valid : state.Valid)
    (fits : part.Fits) : (part.onto state).Valid := by
  obtain ⟨mark, transforms, width, height, title, description, background, padding⟩ := valid
  refine ⟨?_, ?_, setting_over_checked width _, setting_over_checked height _,
    setting_over_checked title _, setting_over_checked description _,
    setting_over_checked background _, setting_over_checked padding _⟩
  · cases carried : part.mark with
    | none => simpa [onto, carried] using mark
    | some other =>
        obtain ⟨config, rfl, abides⟩ := fits.mark other carried
        simpa [onto, carried] using abides
  · cases carried : part.transforms with
    | none => simpa [onto, carried] using transforms
    | some others =>
        obtain ⟨steps, rfl, abide⟩ := fits.transforms others carried
        simpa [onto, carried] using abide

end PartialState

namespace Spec

/-! What is recovered. -/

/-- The attributes that the members of a specification give, with the padding read from them. -/
def attributes (spec : Members) (padding : Option Padding) : PartialState :=
  let encoding := (spec.getD "encoding").asObject?.getD []
  { mark := ((markDescription? (spec.getD "mark")).bind fun (kind, entries) =>
      readMark kind entries encoding).map some
    encodings := some (some (recoverEncodings encoding))
    transforms := some (some (recoverSteps false ((spec.getD "transform").asList?.getD [])))
    width := (recoverDimension (spec.getD "width")).map some
    height := (recoverDimension (spec.getD "height")).map some
    title := some (recoverTitle (spec.getD "title"))
    description := some (spec.getD "description").asText?
    background := some (spec.getD "background").asText?
    padding := padding.map some }

theorem members_recovered {spec : Members} {part : PartialState}
    (recovered : recoverMembers? spec = some part) :
    ∃ padding, (recoverPadding (spec.getD "padding")).toOption = some padding ∧
      part = attributes spec padding := by
  unfold recoverMembers? at recovered
  by_cases compound : (markDescription? (spec.getD "mark")).any fun (kind, _) => isCompound kind
  · simp [compound] at recovered
  · simp only [compound] at recovered
    obtain ⟨padding, read, same⟩ := Option.bind_eq_some_iff.mp recovered
    exact ⟨padding, read, (Option.some.inj same).symm⟩

/-- Nothing is recovered of a specification, or all its attributes are. -/
theorem recover_cases (spec : Json) :
    recover spec = {} ∨
      ∃ members padding, spec = .object members ∧ recover spec = attributes members padding := by
  cases spec with
  | object members =>
      have whole : recover (.object members) = (recoverMembers? members).getD {} := rfl
      cases recovered : recoverMembers? members with
      | none => exact .inl (by rw [whole, recovered, Option.getD_none])
      | some part =>
          obtain ⟨padding, _, same⟩ := members_recovered recovered
          exact .inr ⟨members, padding, rfl, by rw [whole, recovered, Option.getD_some, same]⟩
  | _ => exact .inl rfl

theorem read_mark_valid {kind : Json} {entries encoding : Members} {mark : MarkConfig}
    (read : readMark kind entries encoding = some mark) : mark.Valid := by
  have accepted (members : Members) (is : (MarkConfig.readMembers members).toOption = some mark) :
      mark.Valid :=
    mark_yields (.object members) mark (Checked.toOption_eq_some.mp is)
  rcases (Option.orElse_eq_some _ _ _).mp read with whole | ⟨_, plain⟩
  · exact accepted _ whole
  · exact accepted _ plain

theorem recover_step_valid {step : Members} {transform : Transform}
    (recovered : recoverStep step = some transform) :
    transform.Valid ∧ transform.isTopN = false := by
  unfold recoverStep at recovered
  split at recovered
  · cases recovered
    exact ⟨trivial, rfl⟩
  · rw [Checked.toOption_eq_some] at recovered
    simp only [Transform.readCalculate, Checked.seq_eq_valid, Checked.functor_map_eq_valid]
      at recovered
    obtain ⟨_, _, ⟨_, _, rfl⟩, _, rfl⟩ := recovered
    exact ⟨trivial, rfl⟩
  · obtain ⟨aggregation, found, rfl⟩ := Option.map_eq_some_iff.mp recovered
    exact ⟨aggregation_yields (Checked.toOption_eq_some.mp found), rfl⟩
  · cases recovered

theorem recover_steps_valid (afterWindow : Bool) (steps : List Json) :
    ∀ transform ∈ recoverSteps afterWindow steps,
      transform.Valid ∧ transform.isTopN = false := by
  fun_induction recoverSteps afterWindow steps with
  | case1 => simp
  | case2 _ _ _ _ ih => exact ih
  | case3 _ _ _ _ _ ih => exact ih
  | case4 _ step rest _ _ ih =>
      intro transform member
      rcases List.mem_append.mp member with here | later
      · exact recover_step_valid (Option.mem_toList.mp here)
      · exact ih transform later
  | case5 _ _ _ _ ih => exact ih

theorem recover_fits (spec : Json) : (recover spec).Fits := by
  rcases recover_cases spec with nothing | ⟨members, padding, _, all⟩
  · rw [nothing]
    exact ⟨by simp, by simp, by simp⟩
  · rw [all]
    refine ⟨?_, by simp [attributes], ?_⟩
    · intro mark carried
      obtain ⟨config, read, rfl⟩ := Option.map_eq_some_iff.mp carried
      obtain ⟨description, _, accepted⟩ := Option.bind_eq_some_iff.mp read
      exact ⟨config, rfl, read_mark_valid accepted⟩
    · intro transforms carried
      cases carried
      exact ⟨_, rfl, fun step member => (recover_steps_valid _ _ step member).1⟩

/-- No transform that is recovered keeps the first rows by rank. -/
theorem recover_unranked (spec : Json) :
    ∀ transforms ∈ (recover spec).transforms, ∀ steps ∈ transforms, ∀ step ∈ steps,
      step.isTopN = false := by
  intro transforms carried steps given step member
  rcases recover_cases spec with nothing | ⟨members, padding, _, all⟩
  · simp [nothing] at carried
  · rw [all] at carried
    cases carried
    cases given
    exact (recover_steps_valid _ _ step member).2

/-! The check of what is compiled. -/

theorem compiled_without_errors (state : BuilderState) (fields : List DataField) :
    (check (.object (compile state fields))).errors = [] := by
  obtain ⟨mark, encoding, transform, _⟩ := compiled_members state fields
  have body : bodyErrors (compile state fields) = [] := by
    simp [bodyErrors, Members.has, compile, List.lookup_append]
  have kind : (markMembers state.mark).getD "type" = writeName state.mark.kind := by
    simp [markMembers, Members.getD]
  have marks : markErrors (compile state fields) = [] := by
    simp [markErrors, mark, markType, kind, writeName, Json.asText?]
  have encodings : encodingErrors (compile state fields) = [] := by
    simp [encodingErrors, encoding]
  have steps : transformErrors (compile state fields) = [] := by
    cases list : state.transforms.flatMap transformSteps <;>
      simp [transformErrors, transform, list, orNull]
  simp [check, Verdict.of, body, marks, encodings, steps]

theorem valid_without_errors (document : Json) :
    (check document).valid = (check document).errors.isEmpty := by
  cases document <;> rfl

/-- Whatever a specification holds, what is recovered of it can be laid over every valid state. The
outcome is valid, a ranking in it is one of the state's own, and it compiles to a specification
that passes the check. -/
theorem recovered_fits_any (spec : Json) (state : BuilderState) (fields : List DataField)
    (valid : state.Valid) :
    ∃ merged, state.merge (recover spec) = .valid merged ∧ merged.Valid ∧
      (∀ step ∈ merged.transforms, step.isTopN → (recover spec).transforms = none ∧
        step ∈ state.transforms) ∧
      (check (.object (compile merged fields))).valid = true ∧
      (check (.object (compile merged fields))).errors = [] := by
  have fits := recover_fits spec
  have accepted := compiled_without_errors ((recover spec).onto state) fields
  refine ⟨(recover spec).onto state, PartialState.merge_onto valid.2.2 fits,
    PartialState.onto_valid valid fits, ?_, ?_, accepted⟩
  · intro step member ranks
    cases carried : (recover spec).transforms with
    | none => exact ⟨rfl, by simpa [PartialState.onto, carried] using member⟩
    | some transforms =>
        obtain ⟨steps, rfl, _⟩ := fits.transforms transforms carried
        have inside : step ∈ steps := by simpa [PartialState.onto, carried] using member
        have unranked := recover_unranked spec _ carried steps rfl step inside
        simp [unranked] at ranks
  · rw [valid_without_errors, accepted]
    rfl

def faultySpec : Json :=
  .object
    [("mark", .object
      [("type", .text "line"), ("opacity", .text "faint"), ("interpolate", .int 3)]),
     ("encoding", .object
       [("x", .object [("field", .int 1), ("bin", .list [])]),
        ("y", .object [("field", .text "Sales"), ("stack", .text "zero")])]),
     ("transform", .list
       [.object [("window", .null)], .object [("filter", .text "datum.__rank__ <= 3")],
        .object [("aggregate", .list [.object [("op", .text "sum")]])]]),
     ("padding", .object [("top", .text "wide")])]

def rankedBars : BuilderState :=
  { mark := { stacked := some .normalize }
    transforms := [.topN 3 "Sales" .descending] }

theorem faulty_fits_ranked :
    rankedBars.Valid ∧
      ∃ merged, rankedBars.merge (recover faultySpec) = .valid merged ∧ merged.Valid ∧
        (∀ step ∈ merged.transforms, step.isTopN → (recover faultySpec).transforms = none ∧
          step ∈ rankedBars.transforms) ∧
        (check (.object (compile merged []))).valid = true ∧
        (check (.object (compile merged []))).errors = [] := by
  have valid : rankedBars.Valid := by
    refine ⟨by simp [MarkConfig.Valid, rankedBars, MarkKind.isStackable], ?_, ?_⟩
    · simp [rankedBars, Transform.Valid]
    · simp [BuilderState.IsChecked, rankedBars, Setting.IsChecked]
  exact ⟨valid, recovered_fits_any faultySpec rankedBars [] valid⟩

end Spec
end Chartwright
