import Chartwright.Edit.Apply
import Chartwright.Json.Reader
import Chartwright.Proofs.Chart.Validity

/-!
Edit operations keep a builder state valid. Two of them make a part anew out of what is there and
what is asked for, and are skipped if that is refused; the others cannot fail. What one operation
keeps, a whole plan keeps.
-/

namespace Chartwright
open Form

theorem operation_yields : Yields Operation.read Operation.Valid := by
  apply tagged_yields
  intro reader listed entries operation accepted
  obtain ⟨kind, _, rfl⟩ := List.mem_map.mp listed
  cases kind <;>
    simp only [Operation.readMembers, Checked.seq_eq_valid, Checked.functor_map_eq_valid]
      at accepted
  case setTopN =>
    obtain ⟨_, _, ⟨_, _, ⟨n, counted, rfl⟩, _, rfl⟩, _, rfl⟩ := accepted
    exact required_yields (P := fun n => 0 < n) positive_yields counted
  case setEncoding =>
    obtain ⟨_, _, ⟨_, _, ⟨_, _, ⟨_, _, rfl⟩, _, rfl⟩, _, rfl⟩, _, rfl⟩ := accepted
    trivial
  case setSort =>
    obtain ⟨_, _, ⟨_, _, ⟨_, _, rfl⟩, _, rfl⟩, _, rfl⟩ := accepted
    trivial
  case setMark | setAggregate | setSize =>
    obtain ⟨_, _, ⟨_, _, rfl⟩, _, rfl⟩ := accepted
    trivial
  all_goals
    obtain ⟨_, _, rfl⟩ := accepted
    trivial

theorem retarget_valid {mark target : MarkConfig} {kind : MarkKind} {options : MarkOptions}
    (made : mark.retarget kind options = .valid target) : target.Valid := by
  obtain ⟨opacity, bounded, rfl⟩ := Checked.functor_map_eq_valid.mp made
  refine ⟨?_, ?_, ?_⟩
  · cases kind.isStackable <;> simp
  · cases kind.hasOverlay <;> simp
  · exact optional_yields fraction_yields _ _ (Checked.under_eq_valid.mp bounded)

namespace BuilderState

/-- How many times a state is cut down to its first rows by rank. -/
def rankCount (state : BuilderState) : Nat := state.transforms.countP Transform.isTopN

/-! Operations on the channels change nothing else, and there are no rules on channels. -/

def Redrawn (before after : BuilderState) : Prop := ∃ encodings, after = { before with encodings }

theorem rescale_redraws (state : BuilderState) (fields : List DataField) (change : Scale → Scale) :
    state.Redrawn (state.rescale fields change) := by
  unfold rescale
  split <;> exact ⟨_, rfl⟩

theorem sort_redraws (state : BuilderState) (target : String) (byField : Option String)
    (direction : Direction) : state.Redrawn (state.sort target byField direction) := by
  unfold sort
  split <;> exact ⟨_, rfl⟩

theorem aggregate_redraws (state : BuilderState) (channel : Channel) (op : Aggregate) :
    state.Redrawn (state.aggregate channel op) := by
  unfold aggregate
  split <;> exact ⟨_, rfl⟩

theorem encode_redraws {state after : BuilderState} {fields : List DataField} {channel : Channel}
    {field : String} {kind : Option FieldKind} {settings : Option Members}
    (made : state.encode fields channel field kind settings = .valid after) :
    state.Redrawn after := by
  obtain ⟨encoding, _, rfl⟩ := Checked.map_eq_valid.mp made
  exact ⟨_, rfl⟩

/-! Ranking drops every earlier rank. -/

theorem rank_valid {state : BuilderState} (valid : state.Valid) (n : Nat) (counted : 0 < n)
    (byField : Option String) (direction : Direction) :
    (state.rank n byField direction).Valid := by
  obtain ⟨mark, transforms, settings⟩ := valid
  have others : ∀ transform ∈ state.transforms.filter fun t => !t.isTopN, transform.Valid :=
    fun transform inside => transforms transform (List.mem_of_mem_filter inside)
  unfold rank
  split
  · exact ⟨mark, others, settings⟩
  · refine ⟨mark, ?_, settings⟩
    intro transform inside
    rcases List.mem_append.mp inside with old | new
    · exact others transform old
    · rw [List.mem_singleton.mp new]
      exact counted

theorem rank_once (state : BuilderState) (n : Nat) (byField : Option String)
    (direction : Direction) : (state.rank n byField direction).rankCount ≤ 1 := by
  have unranked : (state.transforms.filter fun t => !t.isTopN).countP Transform.isTopN = 0 := by
    simp [List.countP_eq_zero]
  unfold rank rankCount
  split
  · rw [unranked]
    exact Nat.zero_le 1
  · rw [List.countP_append, unranked]
    simp [Transform.isTopN]

end BuilderState

namespace Operation

/-- What an operation that can be applied keeps of a state. -/
structure Kept (before after : BuilderState) : Prop where
  valid : after.Valid
  ranked : before.rankCount ≤ 1 → after.rankCount ≤ 1

theorem redrawn_kept {before after : BuilderState} (valid : before.Valid)
    (redrawn : before.Redrawn after) : Kept before after := by
  obtain ⟨encodings, rfl⟩ := redrawn
  exact ⟨valid, id⟩

theorem apply_keeps {fields : List DataField} {operation : Operation} {before after : BuilderState}
    (valid : before.Valid) (legal : operation.Valid)
    (applied : operation.apply fields before = .valid after) : Kept before after := by
  have ⟨mark, transforms, width, height, title, description, background, padding⟩ := valid
  cases operation with
  | setMark kind options =>
      obtain ⟨target, made, rfl⟩ := Checked.map_eq_valid.mp applied
      exact ⟨⟨retarget_valid made, valid.2⟩, id⟩
  | setEncoding channel field kind settings =>
      exact redrawn_kept valid (BuilderState.encode_redraws applied)
  | removeEncoding channel =>
      cases applied
      exact redrawn_kept valid ⟨_, rfl⟩
  | setSeriesColors colors =>
      cases applied
      exact redrawn_kept valid (BuilderState.rescale_redraws ..)
  | setColorScheme scheme =>
      cases applied
      exact redrawn_kept valid (BuilderState.rescale_redraws ..)
  | setTopN n byField direction =>
      cases applied
      exact ⟨BuilderState.rank_valid valid n legal byField direction,
        fun _ => BuilderState.rank_once ..⟩
  | setSort target byField direction =>
      cases applied
      exact redrawn_kept valid (BuilderState.sort_redraws ..)
  | addFilter expr =>
      cases applied
      refine ⟨⟨mark, ?_, valid.2.2⟩, ?_⟩
      · intro transform inside
        rcases List.mem_append.mp inside with old | new
        · exact transforms transform old
        · rw [List.mem_singleton.mp new]
          trivial
      · simp [BuilderState.rankCount, Transform.isTopN]
  | setAggregate position op =>
      cases applied
      exact redrawn_kept valid (BuilderState.aggregate_redraws ..)
  | setTitle text =>
      cases applied
      refine ⟨⟨mark, transforms, width, height, ?_, description, background, padding⟩, id⟩
      simp [Setting.IsChecked]
  | setSize newWidth newHeight =>
      cases applied
      refine ⟨⟨mark, transforms, ?_, ?_, title, description, background, padding⟩, id⟩
      · cases newWidth with
        | none => exact width
        | some pixels => simp [Setting.IsChecked]
      · cases newHeight with
        | none => exact height
        | some pixels => simp [Setting.IsChecked]
  | directEdit description =>
      cases applied
      exact ⟨valid, id⟩

theorem step_keeps {fields : List DataField} {operation : Operation} {state : BuilderState}
    (valid : state.Valid) (legal : operation.Valid) : Kept state (operation.step fields state) := by
  unfold step
  cases applied : operation.apply fields state with
  | valid after => exact apply_keeps valid legal applied
  | faulty faults => exact ⟨valid, id⟩

theorem plan_keeps {fields : List DataField} (operations : List Operation) (state : BuilderState)
    (valid : state.Valid) (legal : ∀ operation ∈ operations, operation.Valid) :
    Kept state (applyAll fields state operations) := by
  induction operations generalizing state with
  | nil => exact ⟨valid, id⟩
  | cons operation rest ih =>
      have first : Kept state (step fields state operation) :=
        step_keeps valid (legal operation List.mem_cons_self)
      have later := ih (step fields state operation) first.valid fun other inside =>
        legal other (List.mem_cons_of_mem operation inside)
      exact ⟨later.valid, fun once => later.ranked (first.ranked once)⟩

/-- A plan of valid operations takes a valid state to a valid one, whatever the fields: stacking,
overlays, opacity, ranks and aggregations abide by their rules. The state is read back from what is
written for it in either spelling, and it has at most one rank if it had at most one before. There
is no such state only if there is no room for the copy that the plan is applied to. -/
theorem plan_keeps_validity (fits : BuilderState → Bool) (fields : List DataField)
    (state : BuilderState) (operations : List Operation) (valid : state.Valid)
    (legal : ∀ operation ∈ operations, operation.Valid) :
    ((applyPlan fits fields state operations).isSome = true ↔ fits state = true) ∧
      ∀ after ∈ applyPlan fits fields state operations, after.Valid ∧
        (∀ naming, BuilderState.read (after.write ⟨naming, true⟩) = .valid after) ∧
        (state.rankCount ≤ 1 → after.rankCount ≤ 1) := by
  unfold applyPlan
  cases room : fits state with
  | false => simp
  | true =>
      refine ⟨by simp, fun after led => ?_⟩
      cases led
      have kept : Kept state (applyAll fields state operations) :=
        plan_keeps operations state valid legal
      exact ⟨kept.valid, fun naming => state_read naming _ kept.valid, kept.ranked⟩

def stackedBars : BuilderState :=
  { mark := { stacked := some .zero }
    encodings := { y := some { field := some "Sales" } }
    transforms := [.topN 3 "Sales" .descending] }

/-- The line drops the stacking; the second mark is too opaque and the encoding has no such
aggregate, so both are skipped. -/
def redesign : List Operation :=
  [.setMark .line none, .setMark .area (some { opacity := some (.ofInt 2) }),
   .setEncoding .x "Date" none (some [("aggregate", .text "mode")]), .setTopN 5 none .ascending,
   .addFilter "datum.Sales > 50", .setSize (some (.whole 600)) none]

/-- Whether there is room for a copy of a state, on a stack as a service has it. -/
def roomFor (state : BuilderState) : Bool := (state.write .full).isCopied

theorem redesign_keeps_validity :
    stackedBars.Valid ∧ (∀ operation ∈ redesign, operation.Valid) ∧ stackedBars.rankCount ≤ 1 ∧
      ∃ after, applyPlan roomFor [] stackedBars redesign = some after ∧ after.Valid ∧
        after.rankCount ≤ 1 ∧ after.mark.kind = .line := by
  have valid : stackedBars.Valid := by
    refine ⟨by simp [MarkConfig.Valid, stackedBars, MarkKind.isStackable], ?_, ?_⟩
    · simp [stackedBars, Transform.Valid]
    · simp [BuilderState.IsChecked, stackedBars, Setting.IsChecked]
  have legal : ∀ operation ∈ redesign, operation.Valid := by simp [redesign, Operation.Valid]
  have once : stackedBars.rankCount ≤ 1 := by decide
  have room : roomFor stackedBars = true := by decide +kernel
  have ends := plan_keeps_validity roomFor [] stackedBars redesign valid legal
  obtain ⟨after, led⟩ := Option.isSome_iff_exists.mp (ends.1.mpr room)
  obtain ⟨kept, _, ranked⟩ := ends.2 after led
  have drawn : (applyPlan roomFor [] stackedBars redesign).all (·.mark.kind == .line) = true := by
    decide +kernel
  exact ⟨valid, legal, once, after, led, kept, ranked once, by simpa [led] using drawn⟩

def nested : Nat → Json
  | 0 => .list []
  | depth + 1 => .list [nested depth]

/-- Bars whose color scale has lists within each other for its only value. -/
def deeplyColored : BuilderState :=
  { encodings :=
      { color := some
          { field := some "Region"
            kind := some .nominal
            scale := some { domain := some [nested 600] } } } }

theorem deeply_colored_valid : deeplyColored.Valid := by
  refine ⟨by simp [MarkConfig.Valid, deeplyColored], by simp [deeplyColored], ?_⟩
  simp [BuilderState.IsChecked, deeplyColored, Setting.IsChecked]

theorem deep_state_unplanned :
    ¬∀ (fields : List DataField) (state : BuilderState) (operations : List Operation),
      state.Valid → (∀ operation ∈ operations, operation.Valid) →
        (applyPlan roomFor fields state operations).isSome = true := by
  intro always
  have led := always [] deeplyColored [] deeply_colored_valid (List.forall_mem_nil _)
  have cramped : roomFor deeplyColored = false := by decide +kernel
  simp [applyPlan, cramped] at led

end Operation
end Chartwright
