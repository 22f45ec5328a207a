import Chartwright.Proofs.Spec.RoundTrip
import Chartwright.Spec.Check

/-!
When the compiler makes a custom specification. It combines no views and loads no data from
elsewhere, so the number of its transform steps decides, which follows from the transforms of the
builder state alone.
-/

namespace Chartwright

/-- The number of steps that transforms are compiled to. Those that keep the first rows take two,
one that ranks and one that filters. -/
def BuilderState.stepCount (state : BuilderState) : Nat :=
  state.transforms.length + state.transforms.countP Transform.isTopN

namespace Spec
open Form

theorem transform_steps_count (transform : Transform) :
    (transformSteps transform).length = 1 + if transform.isTopN then 1 else 0 := by
  cases transform <;> rfl

theorem steps_count (transforms : List Transform) :
    (transforms.flatMap transformSteps).length =
      transforms.length + transforms.countP Transform.isTopN := by
  induction transforms with
  | nil => rfl
  | cons transform rest ih =>
      rw [List.flatMap_cons, List.length_append, transform_steps_count, ih, List.countP_cons,
        List.length_cons]
      omega

theorem compiled_not_composed (state : BuilderState) (fields : List DataField) :
    isComposed (compile state fields) = false := by
  simp [isComposed, compositionKeys, Members.has, compile, List.lookup_append]

theorem compiled_not_remote (state : BuilderState) (fields : List DataField) :
    isRemote (compile state fields) = false := by
  have data : (compile state fields).getD "data" = .object [("name", .text datasetName)] := by
    simp [compile, Members.getD, List.lookup_append]
  rw [isRemote, data]
  rfl

theorem compiled_custom_iff (state : BuilderState) (fields : List DataField) :
    isCustomMembers (compile state fields) = true ↔ transformLimit < state.stepCount := by
  obtain ⟨_, _, steps, _⟩ := compiled_members state fields
  rw [isCustomMembers, compiled_not_composed, compiled_not_remote, Bool.or_false, Bool.false_or,
    hasManySteps, steps, BuilderState.stepCount, ← steps_count]
  cases list : state.transforms.flatMap transformSteps with
  | nil => simp [orNull, Json.asList?]
  | cons first rest => simp [orNull, Json.asList?]

end Spec
end Chartwright
