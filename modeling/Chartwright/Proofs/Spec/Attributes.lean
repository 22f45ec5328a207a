import Chartwright.Proofs.Spec.Channel
import Chartwright.Proofs.Text.Words

/-!
The attributes of a compiled specification besides encodings and mark, and what is recovered of
them: the steps of its transforms, its size, its texts and its padding.
-/

namespace Chartwright
namespace Spec
open Form

/-! Transforms. -/

theorem rank_test_mentions (n : Nat) : mentionsRank (rankTest n) = true := by
  simp only [mentionsRank, rankTest, String.append_assoc, String.toList_append]
  rw [← List.append_assoc]
  exact Text.occursIn_iff.mpr (List.prefix_append _ _).isInfix

theorem aggregate_columns (ops : List Aggregate) (fields names : List String)
    (sameFields : ops.length = fields.length) (sameNames : fields.length = names.length) :
    column "op" (aggregateItems ops fields names) = .list (ops.map writeName) ∧
    column "field" (aggregateItems ops fields names) = Transform.texts fields ∧
    column "as" (aggregateItems ops fields names) = Transform.texts names := by
  induction ops generalizing fields names with
  | nil =>
      cases fields with
      | cons _ _ => simp at sameFields
      | nil =>
          cases names with
          | cons _ _ => simp at sameNames
          | nil => exact ⟨rfl, rfl, rfl⟩
  | cons op ops ih =>
      cases fields with
      | nil => simp at sameFields
      | cons field fields =>
          cases names with
          | nil => simp at sameNames
          | cons name names =>
              have later := ih fields names (by simpa using sameFields) (by simpa using sameNames)
              simp only [column, Transform.texts, Json.list.injEq, Members.getD] at later ⊢
              simp [aggregateItems, aggregateItem, Json.asObject?, later]

/-- An aggregation without groups is recovered as one that gives none. -/
def ungrouped (aggregation : Aggregation) : Aggregation :=
  { aggregation with groupby := aggregation.groupby.filter fun names => !names.isEmpty }

theorem aggregation_read (a : Aggregation)
    (sizes : a.ops.length = a.fields.length ∧ a.fields.length = a.names.length) :
    Transform.readAggregate
      [("groupby", orNull Transform.texts (ungrouped a).groupby),
       ("ops", .list (a.ops.map writeName)), ("fields", Transform.texts a.fields),
       ("as", Transform.texts a.names)] = .valid (ungrouped a) := by
  apply aggregation_told (ungrouped a) sizes
  · simp [said, word]
  · simp [said, word, ungrouped]
  · simp [said, word, ungrouped]
  · simp [said, Transform.asAttr, ungrouped]

/-- The transform that a compiled step is recovered to. -/
def stepped : Transform → Transform
  | .aggregate a => .aggregate (ungrouped a)
  | transform => transform

theorem stepped_steps (transform : Transform) :
    transformSteps (stepped transform) = transformSteps transform := by
  cases transform with
  | aggregate a => simp [stepped, transformSteps, ungrouped, Option.filter_filter]
  | _ => rfl

-- The two steps of the first rows by rank are skipped together, so nothing of them is left for the
-- step that follows.
theorem steps_recovered_cons (transform : Transform) (rest : List Json) (valid : transform.Valid) :
    recoverSteps false (transformSteps transform ++ rest) =
      (if transform.isTopN then [] else [stepped transform]) ++ recoverSteps false rest := by
  cases transform with
  | filter expr =>
      simp [transformSteps, recoverSteps, Members.has, recoverStep, Members.getD, Transform.isTopN,
        stepped]
  | topN n byField direction =>
      have ranked : isRankFilter [("filter", .text (rankTest n))] = true := by
        simp [isRankFilter, Members.getD, Json.asText?, rank_test_mentions]
      simp [transformSteps, recoverSteps, Members.has, ranked, Transform.isTopN]
  | calculate expr name =>
      simp [transformSteps, recoverSteps, Members.has, recoverStep, Members.getD, Transform.isTopN,
        stepped]
      rfl
  | aggregate a =>
      have columns := aggregate_columns a.ops a.fields a.names valid.1 valid.2
      have reads := aggregation_read a valid
      simp [transformSteps, recoverSteps, Members.has, recoverStep, Members.getD, Transform.isTopN,
        stepped, columns, ungrouped] at reads ⊢
      simp [reads]

theorem steps_recovered (transforms : List Transform)
    (valid : ∀ transform ∈ transforms, transform.Valid) :
    recoverSteps false (transforms.flatMap transformSteps) =
      (transforms.filter fun transform => !transform.isTopN).map stepped := by
  induction transforms with
  | nil => rfl
  | cons transform rest ih =>
      have later := ih fun other member => valid other (List.mem_cons_of_mem _ member)
      rw [List.flatMap_cons, steps_recovered_cons transform _ (valid transform (by simp)), later]
      cases ranks : transform.isTopN <;> simp [ranks]

/-! Size, texts and padding. -/

theorem dimension_recovered (dimension : Option (Setting Dimension))
    (checked : ∀ setting ∈ dimension, setting.IsChecked) :
    (recoverDimension ((pixels? dimension).getD .null)).map .checked =
      (dimension <|> some (.checked .container)) := by
  cases dimension with
  | none => rfl
  | some setting =>
      cases setting with
      | «unchecked» document => exact absurd (checked _ rfl) id
      | checked dimension => cases dimension <;> rfl

/-- A text, unless it is empty. -/
def legibleSetting (setting : Option (Setting String)) : Option (Setting String) :=
  setting.filter fun setting => !(setting.write .text).isVacant

theorem legible_setting (setting : Option (Setting String)) :
    legible? (legibleSetting setting) = legible? setting := by
  cases setting with
  | none => rfl
  | some setting =>
      cases vacant : (setting.write .text).isVacant <;>
        simp [legible?, legibleSetting, Option.filter, vacant]

theorem text_recovered (reading : Json → Option String) (setting : Option (Setting String))
    (checked : ∀ value ∈ setting, value.IsChecked) (absent : reading .null = none)
    (present : ∀ text : String, text.isEmpty = false → reading (.text text) = some text) :
    (reading ((legible? setting).getD .null)).map .checked = legibleSetting setting := by
  cases setting with
  | none => simp [legible?, absent, legibleSetting]
  | some value =>
      cases value with
      | «unchecked» document => exact absurd (checked _ rfl) id
      | checked text =>
          cases empty : text.isEmpty <;>
            simp [legible?, legibleSetting, Setting.write, Json.isVacant, empty, absent, present,
              Option.filter]

theorem padding_recovered (padding : Option (Setting Padding))
    (checked : ∀ setting ∈ padding, setting.IsChecked) :
    ∃ value, recoverPadding (orNull (Setting.write (Padding.write .present)) padding) =
      .valid value ∧ value.map .checked = padding := by
  cases padding with
  | none => exact ⟨none, rfl, rfl⟩
  | some setting =>
      cases setting with
      | «unchecked» document => exact absurd (checked _ rfl) id
      | checked padding =>
          refine ⟨some padding, ?_, rfl⟩
          cases padding with
          | even space => rfl
          | separate sides =>
              have reads := sides_read .present sides
              change recoverPadding (Padding.writeSides .present sides) = _
              simp only [Padding.writeSides, written, recoverPadding] at reads ⊢
              rw [reads]
              rfl

end Spec
end Chartwright
