import Chartwright.Proofs.Edit.Effect

/-!
Operations that do not concern each other. Every operation has a footprint, the parts of a builder
state that it may change. What it leaves there depends on these same parts, with one exception: a
ranking that names no field looks at the axes. So two operations with footprints apart can change
places in a plan, unless the one is such a ranking and the other changes an axis.
-/

namespace Chartwright
open Form

/-- The parts of a builder state. -/
inductive Part where
  | mark
  | channel (channel : Channel)
  | tooltip
  | transforms
  | width
  | height
  | title
  | description
  | background
  | padding
  deriving DecidableEq, Repr

def Part.Content : Part → Type
  | .mark => MarkConfig
  | .channel _ => Option Encoding
  | .tooltip => Option Tooltip
  | .transforms => List Transform
  | .width | .height => Option (Setting Dimension)
  | .title | .description | .background => Option (Setting String)
  | .padding => Option (Setting Padding)

attribute [ext] Encodings BuilderState

namespace BuilderState

def content (state : BuilderState) : (part : Part) → part.Content
  | .mark => state.mark
  | .channel channel => state.encodings.at? channel
  | .tooltip => state.encodings.tooltip
  | .transforms => state.transforms
  | .width => state.width
  | .height => state.height
  | .title => state.title
  | .description => state.description
  | .background => state.background
  | .padding => state.padding

theorem content_ext {one other : BuilderState}
    (same : ∀ part, one.content part = other.content part) : one = other := by
  have encodings : one.encodings = other.encodings :=
    Encodings.ext (same (.channel .x)) (same (.channel .y)) (same (.channel .color))
      (same (.channel .size)) (same .tooltip)
  exact BuilderState.ext (same .mark) encodings (same .transforms) (same .width) (same .height)
    (same .title) (same .description) (same .background) (same .padding)

theorem with_channel_elsewhere (state : BuilderState) {channel : Channel} {part : Part}
    (elsewhere : part ≠ .channel channel) (encoding : Option Encoding) :
    (state.withChannel channel encoding).content part = state.content part := by
  cases part with
  | channel other =>
      have apart : other ≠ channel := fun same => elsewhere (congrArg Part.channel same)
      exact (with_channel_at state channel other encoding).trans (if_neg apart)
  | tooltip => cases channel <;> rfl
  | _ => rfl

theorem rank_field_agrees {one other : BuilderState} {byField : Option String}
    (axes : filled? byField = none → ∀ position : Position,
      one.encodings.at? position.channel = other.encodings.at? position.channel) :
    one.rankField? byField = other.rankField? byField := by
  unfold rankField?
  cases named : filled? byField with
  | some field => rfl
  | none =>
      have field (position : Position) :
          one.axisField? position.channel = other.axisField? position.channel := by
        rw [axisField?, axes named position]
        rfl
      have y : one.axisField? .y = other.axisField? .y := field .y
      have x : one.axisField? .x = other.axisField? .x := field .x
      rw [y, x]

end BuilderState

namespace Operation
open BuilderState

def footprint : Operation → List Part
  | .setMark .. => [.mark]
  | .setEncoding channel .. | .removeEncoding channel => [.channel channel]
  | .setSeriesColors .. | .setColorScheme .. => [.channel .color]
  | .setTopN .. | .addFilter .. => [.transforms]
  | .setSort target .. => [.channel (if target = "x" then .x else .y)]
  | .setAggregate position _ => [.channel position.channel]
  | .setTitle .. => [.title]
  | .setSize width height =>
    (width.map fun _ => Part.width).toList ++ (height.map fun _ => Part.height).toList
  | .directEdit .. => []

/-- A ranking that names no field, and takes that of an axis. -/
def RanksByAxis : Operation → Prop
  | .setTopN _ byField _ => filled? byField = none
  | _ => False

def OnAxis (operation : Operation) : Prop :=
  ∃ position : Position, .channel position.channel ∈ operation.footprint

/-- The operations do not work on the same part, and neither is a ranking by what the other works
on. -/
structure Independent (first second : Operation) : Prop where
  apart : first.footprint.Disjoint second.footprint
  unseen : first.RanksByAxis → ¬ second.OnAxis
  unseeing : second.RanksByAxis → ¬ first.OnAxis

theorem Independent.symm {first second : Operation} (independent : first.Independent second) :
    second.Independent first :=
  ⟨fun _ inSecond inFirst => independent.apart inFirst inSecond, independent.unseeing,
    independent.unseen⟩

variable {fields : List DataField} {operation : Operation}

theorem sort_channel (target : String) (byField : Option String) (direction : Direction) :
    (sortOf target byField direction).1 = if target = "x" then .x else .y := by
  by_cases x : target = "x"
  · subst x
    rfl
  · by_cases y : target = "y"
    · subst y
      rfl
    · have other : Named.ofName? (α := Position) target = none := by
        simp [Named.ofName?, Named.all, Named.name, Ne.symm x, Ne.symm y]
      simp [sortOf, other, x]

theorem drawing_footprint {channel : Channel} {change : Option Encoding → Option Encoding}
    (draws : operation.drawing? fields = some (channel, change)) :
    operation.footprint = [.channel channel] := by
  cases operation with
  | setSort target byField direction =>
      cases draws
      rw [sort_channel]
      rfl
  | setMark | setTopN | addFilter | setTitle | setSize | directEdit => cases draws
  | _ =>
      cases draws
      rfl

theorem step_elsewhere (state : BuilderState) {part : Part}
    (outside : part ∉ operation.footprint) :
    (operation.step fields state).content part = state.content part := by
  cases drawn : operation.drawing? fields with
  | some drawing =>
      obtain ⟨channel, change⟩ := drawing
      rw [drawing_footprint drawn, List.mem_singleton] at outside
      rw [step_drawing drawn]
      exact with_channel_elsewhere state outside _
  | none =>
      cases operation with
      | setMark kind options =>
          rw [mark_step]
          cases part with
          | mark => exact absurd (List.mem_singleton_self _) outside
          | _ => rfl
      | setTopN n byField direction =>
          rw [rank_step]
          cases part with
          | transforms => exact absurd (List.mem_singleton_self _) outside
          | _ => rfl
      | addFilter expr =>
          cases part with
          | transforms => exact absurd (List.mem_singleton_self _) outside
          | _ => rfl
      | setTitle title =>
          cases part with
          | title => exact absurd (List.mem_singleton_self _) outside
          | _ => rfl
      | setSize width height =>
          cases part with
          | width =>
              cases width with
              | none => rfl
              | some width => simp [footprint] at outside
          | height =>
              cases height with
              | none => rfl
              | some height => simp [footprint] at outside
          | _ => rfl
      | directEdit description => rfl
      | setEncoding | removeEncoding | setSeriesColors | setColorScheme | setSort | setAggregate =>
          cases drawn

/-- What an operation leaves in its footprint depends on nothing but what was there, unless it is a
ranking by an axis. -/
theorem step_agrees {one other : BuilderState}
    (same : ∀ part ∈ operation.footprint, one.content part = other.content part)
    (axes : operation.RanksByAxis → ∀ position : Position,
      one.content (.channel position.channel) = other.content (.channel position.channel))
    {part : Part} (inside : part ∈ operation.footprint) :
    (operation.step fields one).content part = (operation.step fields other).content part := by
  have own := same part inside
  cases drawn : operation.drawing? fields with
  | some drawing =>
      obtain ⟨channel, change⟩ := drawing
      rw [drawing_footprint drawn, List.mem_singleton] at inside
      subst inside
      rw [step_drawing drawn, step_drawing drawn]
      have changed (state : BuilderState) :
          (state.adjust channel change).content (.channel channel) =
            change (state.content (.channel channel)) := adjust_at state channel change
      rw [changed, changed, own]
  | none =>
      cases operation with
      | setMark kind options =>
          obtain rfl := List.mem_singleton.mp inside
          rw [mark_step, mark_step]
          exact congrArg (MarkConfig.retargeted kind (options.getD {})) own
      | setTopN n byField direction =>
          obtain rfl := List.mem_singleton.mp inside
          have ranked : one.rankField? byField = other.rankField? byField :=
            rank_field_agrees axes
          rw [rank_step, rank_step, ranked]
          exact congrArg (reranked n direction (other.rankField? byField)) own
      | addFilter expr =>
          obtain rfl := List.mem_singleton.mp inside
          exact congrArg (fun transforms : List Transform => transforms ++ [.filter expr]) own
      | setTitle title =>
          obtain rfl := List.mem_singleton.mp inside
          rfl
      | setSize width height =>
          cases part with
          | width =>
              exact congrArg
                (fun old : Option (Setting Dimension) => width.map .checked <|> old) own
          | height =>
              exact congrArg
                (fun old : Option (Setting Dimension) => height.map .checked <|> old) own
          | _ => exact own
      | directEdit description => cases inside
      | setEncoding | removeEncoding | setSeriesColors | setColorScheme | setSort | setAggregate =>
          cases drawn

/-- To an operation it makes no difference whether an independent one was done before. -/
theorem step_beside {first second : Operation} (independent : first.Independent second)
    (state : BuilderState) {part : Part} (inside : part ∈ first.footprint) :
    (first.step fields (second.step fields state)).content part =
      (first.step fields state).content part := by
  apply step_agrees _ _ inside
  · intro own inFirst
    exact step_elsewhere state (independent.apart inFirst)
  · intro ranks position
    apply step_elsewhere state
    intro onAxis
    exact independent.unseen ranks ⟨position, onAxis⟩

theorem independent_steps {first second : Operation} (independent : first.Independent second)
    (state : BuilderState) :
    second.step fields (first.step fields state) =
      first.step fields (second.step fields state) := by
  -- at each part at most one of the two does anything, and it does the same before and after
  apply content_ext
  intro part
  by_cases inFirst : part ∈ first.footprint
  · rw [step_elsewhere _ (independent.apart inFirst), step_beside independent state inFirst]
  · rw [step_elsewhere _ inFirst]
    by_cases inSecond : part ∈ second.footprint
    · exact step_beside independent.symm state inSecond
    · rw [step_elsewhere _ inSecond, step_elsewhere _ inSecond, step_elsewhere _ inFirst]

/-- An operation changes nothing outside its footprint, and two neighbours in a plan that do not
concern each other can change places there. -/
theorem independent_operations_commute (fields : List DataField) (state : BuilderState) :
    (∀ operation : Operation, ∀ part ∉ operation.footprint,
      (operation.step fields state).content part = state.content part) ∧
    ∀ first second : Operation, first.Independent second → ∀ before after,
      applyAll fields state (before ++ first :: second :: after) =
        applyAll fields state (before ++ second :: first :: after) := by
  constructor
  · intro operation part outside
    exact step_elsewhere state outside
  · intro first second independent before after
    simp only [applyAll, List.foldl_append, List.foldl_cons, independent_steps independent]

/-- A ranking by an axis does not mind another mark. -/
theorem mark_beside_ranking (n : Nat) (direction : Direction)
    (kind : MarkKind) : Independent (.setTopN n none direction) (.setMark kind none) where
  apart := by simp [footprint, List.disjoint_singleton]
  unseen := by
    rintro - ⟨position, onAxis⟩
    cases List.mem_singleton.mp onAxis
  unseeing := nofun

def salesByRegion : BuilderState :=
  { encodings.x := some { field := some "Region" }, encodings.y := some { field := some "Sales" } }

theorem ranked_line_either_way :
    (step [] salesByRegion (.setMark .line none)).content .transforms = [] ∧
    applyAll [] salesByRegion [.setTopN 5 none .descending, .setMark .line none] =
      applyAll [] salesByRegion [.setMark .line none, .setTopN 5 none .descending] := by
  obtain ⟨elsewhere, commute⟩ := independent_operations_commute [] salesByRegion
  exact ⟨elsewhere (.setMark .line none) .transforms (by decide),
    commute _ _ (mark_beside_ranking 5 .descending .line) [] []⟩

-- An axis that gets its field before a ranking by the axes is not like one that gets it after.
example :
    applyAll [] {} [.setTopN 5 none .descending, .setEncoding .y "Sales" none none] ≠
      applyAll [] {} [.setEncoding .y "Sales" none none, .setTopN 5 none .descending] := by
  intro same
  have counts := congrArg (fun state => state.transforms.length) same
  cases counts

end Operation
end Chartwright
