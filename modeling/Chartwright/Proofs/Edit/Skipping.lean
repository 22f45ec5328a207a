import Chartwright.Proofs.Edit.Validity

/-!
Edit operations that are skipped. An operation that would make a part of the state invalid leaves
no trace, and neither does one that finds nothing to work on, with one exception: ranking takes
away the earlier ranks before it looks for a field to rank by, and does not bring them back when
there is none.
-/

namespace Chartwright
open Form

namespace BuilderState

def unranked (state : BuilderState) : BuilderState :=
  { state with transforms := state.transforms.filter fun transform => !transform.isTopN }

theorem unranked_iff (state : BuilderState) : state.unranked = state ↔ state.rankCount = 0 := by
  have kept : state.unranked = state ↔
      (state.transforms.filter fun transform => !transform.isTopN) = state.transforms := by
    constructor
    · exact congrArg BuilderState.transforms
    · intro same
      rw [unranked, same]
  rw [kept, List.filter_eq_self, rankCount, List.countP_eq_zero]
  simp

def Uncolorable (state : BuilderState) (fields : List DataField) : Prop :=
  (∀ encoding ∈ state.encodings.color, hasField encoding = false) ∧ fields = []

theorem rescale_uncolorable {state : BuilderState} {fields : List DataField}
    (blank : state.Uncolorable fields) (change : Scale → Scale) :
    state.rescale fields change = state := by
  obtain ⟨fieldless, rfl⟩ := blank
  have own : state.encodings.color.filter hasField = none := by
    rw [Option.filter_eq_none_iff]
    intro encoding present
    simp [fieldless encoding present]
  have none : state.coloring? [] = none := by
    simp [coloring?, own, colorField?]
  simp only [rescale, none]

def Unrankable (state : BuilderState) (byField : Option String) : Prop :=
  filled? byField = none ∧ state.axisField? .y = none ∧ state.axisField? .x = none

theorem rank_unrankable {state : BuilderState} {byField : Option String}
    (fieldless : state.Unrankable byField) (n : Nat) (direction : Direction) :
    state.rank n byField direction = state.unranked := by
  obtain ⟨named, y, x⟩ := fieldless
  simp only [rank, named, y, x, Option.orElse_eq_orElse, Option.orElse_eq_or, Option.or_none]
  rfl

end BuilderState

namespace Operation

/-- The operations that are skipped: what would come of them is invalid, they find nothing to work
on, or they are not for a builder state at all. -/
inductive Skipped (fields : List DataField) (state : BuilderState) : Operation → Prop where
  | refused (operation : Operation) (faults : List Fault)
      (invalid : operation.apply fields state = .faulty faults) : Skipped fields state operation
  | unaggregated (position : Position) (op : Aggregate)
      (empty : state.encodings.at? position.channel = none) :
      Skipped fields state (.setAggregate position op)
  | uncolored (colors : List (String × String)) (blank : state.Uncolorable fields) :
      Skipped fields state (.setSeriesColors colors)
  | unschemed (scheme : String) (blank : state.Uncolorable fields) :
      Skipped fields state (.setColorScheme scheme)
  | unranked (n : Nat) (byField : Option String) (direction : Direction)
      (fieldless : state.Unrankable byField) :
      Skipped fields state (.setTopN n byField direction)
  | unsupported (description : String) : Skipped fields state (.directEdit description)

variable {fields : List DataField} {state : BuilderState} {operation : Operation}

theorem step_valid {after : BuilderState} (applied : operation.apply fields state = .valid after) :
    operation.step fields state = after := by
  rw [step, applied]
  rfl

theorem step_refused {faults : List Fault}
    (invalid : operation.apply fields state = .faulty faults) :
    operation.step fields state = state := by
  rw [step, invalid]
  rfl

theorem ranking_accepted {faults : List Fault}
    (invalid : operation.apply fields state = .faulty faults) : operation.kind ≠ .setTopN := by
  cases operation with
  | setTopN n byField direction => cases invalid
  | _ => exact OperationKind.noConfusion

theorem skipped_leaves (skipped : operation.Skipped fields state) :
    operation.step fields state =
      if operation.kind = .setTopN then state.unranked else state := by
  cases skipped with
  | refused _ faults invalid => rw [step_refused invalid, if_neg (ranking_accepted invalid)]
  | unaggregated position op empty =>
      apply step_valid
      simp [apply, BuilderState.aggregate, empty, kind]
  | uncolored colors blank =>
      apply step_valid
      simp [apply, BuilderState.rescale_uncolorable blank, kind]
  | unschemed scheme blank =>
      apply step_valid
      simp [apply, BuilderState.rescale_uncolorable blank, kind]
  | unranked n byField direction fieldless =>
      apply step_valid
      simp [apply, BuilderState.rank_unrankable fieldless, kind]
  | unsupported description => rfl

/-- An operation that is skipped leaves the state as it is, unless it is a ranking: that leaves the
state without its earlier ranks. So something changes exactly if there were any. -/
theorem skipped_keeps_all_but_ranks (skipped : operation.Skipped fields state) :
    (operation.step fields state =
        if operation.kind = .setTopN then state.unranked else state) ∧
      (operation.step fields state = state ↔
        (operation.kind = .setTopN → state.rankCount = 0)) := by
  have leaves := skipped_leaves skipped
  refine ⟨leaves, ?_⟩
  rw [leaves]
  by_cases ranks : operation.kind = .setTopN
  · simp only [ranks, if_true, true_implies]
    exact state.unranked_iff
  · simp [ranks]

def bareRanking : BuilderState :=
  { transforms := [.topN 5 "Sales" .descending, .filter "datum.Sales > 50"] }

theorem bare_ranking_skipped (fields : List DataField) :
    Skipped fields bareRanking (.setTopN 3 (some "") .ascending) :=
  .unranked 3 (some "") .ascending ⟨rfl, rfl, rfl⟩

theorem bare_ranking_dropped :
    Skipped [] bareRanking (.setTopN 3 (some "") .ascending) ∧
      step [] bareRanking (.setTopN 3 (some "") .ascending) =
        { transforms := [.filter "datum.Sales > 50"] } :=
  ⟨bare_ranking_skipped [], (skipped_keeps_all_but_ranks (bare_ranking_skipped [])).1⟩

/-- A ranking that is skipped can cost a valid state the rank that it had. -/
theorem skipped_ranking_not_idle :
    bareRanking.Valid ∧ Valid (.setTopN 3 (some "") .ascending) ∧
      Skipped [] bareRanking (.setTopN 3 (some "") .ascending) ∧
      step [] bareRanking (.setTopN 3 (some "") .ascending) ≠ bareRanking := by
  refine ⟨⟨?_, ?_, ?_⟩, Nat.succ_pos 2, bare_ranking_skipped [], ?_⟩
  · simp [MarkConfig.Valid, bareRanking]
  · simp [bareRanking, Transform.Valid]
  · simp [BuilderState.IsChecked, bareRanking, Setting.IsChecked]
  · intro same
    have steps := congrArg (fun state => state.transforms.length) same
    cases steps

end Operation
end Chartwright
