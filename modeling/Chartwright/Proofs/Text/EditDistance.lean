import Chartwright.Text.EditDistance
import Mathlib.Data.List.Basic
import Mathlib.Order.Bounds.Basic

/-!
Edits of texts. What the table of edit distances ends with is the least number of edits that lead
from one text to the other, so it is a metric.
-/

namespace Chartwright.Text

/-- One character is inserted, deleted, or put in the place of another. -/
inductive Edit : List Char → List Char → Prop
  | insert (front : List Char) (c : Char) (back : List Char) :
      Edit (front ++ back) (front ++ c :: back)
  | delete (front : List Char) (c : Char) (back : List Char) :
      Edit (front ++ c :: back) (front ++ back)
  | substitute (front : List Char) (c d : Char) (back : List Char) :
      Edit (front ++ c :: back) (front ++ d :: back)

namespace Edit
variable {source target : List Char}

theorem symm (edit : Edit source target) : Edit target source := by
  cases edit with
  | insert front c back => exact .delete front c back
  | delete front c back => exact .insert front c back
  | substitute front c d back => exact .substitute front d c back

theorem behind (edit : Edit source target) (c : Char) : Edit (c :: source) (c :: target) := by
  cases edit with
  | insert front d back => exact .insert (c :: front) d back
  | delete front d back => exact .delete (c :: front) d back
  | substitute front d e back => exact .substitute (c :: front) d e back

theorem reverse (edit : Edit source target) : Edit source.reverse target.reverse := by
  cases edit with
  | insert front c back => simpa using Edit.insert back.reverse c front.reverse
  | delete front c back => simpa using Edit.delete back.reverse c front.reverse
  | substitute front c d back => simpa using Edit.substitute back.reverse c d front.reverse

end Edit

/-- A number of edits that lead from one text to another. -/
inductive Edits : Nat → List Char → List Char → Prop
  | none (text : List Char) : Edits 0 text text
  | next {count : Nat} {source middle target : List Char} (first : Edit source middle)
      (rest : Edits count middle target) : Edits (count + 1) source target

namespace Edits
variable {count other : Nat} {source middle target : List Char}

theorem zero_iff : Edits 0 source target ↔ source = target := by
  constructor
  · rintro ⟨⟩
    rfl
  · rintro rfl
    exact .none source

theorem trans (first : Edits count source middle) (second : Edits other middle target) :
    Edits (count + other) source target := by
  induction first with
  | none text => rwa [Nat.zero_add]
  | next edit _ ih =>
      rw [Nat.succ_add]
      exact .next edit (ih second)

/-- What can be done to both sides of an edit can be done to both sides of many. -/
theorem map {change : List Char → List Char}
    (each : ∀ {source target}, Edit source target → Edit (change source) (change target))
    (edits : Edits count source target) : Edits count (change source) (change target) := by
  induction edits with
  | none text => exact .none _
  | next edit _ ih => exact .next (each edit) ih

theorem symm (edits : Edits count source target) : Edits count target source := by
  induction edits with
  | none text => exact .none text
  | next edit _ ih => exact ih.trans (.next edit.symm (.none _))

theorem behind (edits : Edits count source target) (c : Char) :
    Edits count (c :: source) (c :: target) := edits.map fun edit => edit.behind c

theorem reverse_iff : Edits count source.reverse target.reverse ↔ Edits count source target := by
  constructor
  · intro edits
    simpa using edits.map Edit.reverse
  · exact fun edits => edits.map Edit.reverse

theorem typed (text : List Char) : Edits text.length [] text := by
  induction text with
  | nil => exact .none []
  | cons c text ih => exact ih.trans (.next (.insert [] c text) (.none _))

end Edits

/-! The distance by recursion on the first characters of both texts. -/

def headDistance : List Char → List Char → Nat
  | [], target => target.length
  | source, [] => source.length
  | c :: source, d :: target =>
    min (min (headDistance source (d :: target) + 1) (headDistance (c :: source) target + 1))
      (headDistance source target + if c = d then 0 else 1)
termination_by source target => source.length + target.length

theorem head_distance_nil (target : List Char) : headDistance [] target = target.length := by
  rw [headDistance]

theorem head_distance_to_nil (source : List Char) : headDistance source [] = source.length := by
  cases source <;> simp [headDistance]

theorem head_distance_cons (c d : Char) (source target : List Char) :
    headDistance (c :: source) (d :: target) =
      min (min (headDistance source (d :: target) + 1) (headDistance (c :: source) target + 1))
        (headDistance source target + if c = d then 0 else 1) := by
  rw [headDistance]

theorem head_distance_self (text : List Char) : headDistance text text = 0 := by
  induction text with
  | nil => exact head_distance_nil []
  | cons c text ih =>
      rw [head_distance_cons, ih, if_pos rfl]
      exact Nat.min_zero _

theorem least_of_three (first second third : Nat) :
    min (min first second) third = first ∨ min (min first second) third = second ∨
      min (min first second) third = third := by omega

theorem head_distance_attained (source target : List Char) :
    Edits (headDistance source target) source target := by
  -- The edits follow the cell that the least of the three comes from.
  fun_induction headDistance source target with
  | case1 target => exact .typed target
  | case2 source => exact (Edits.typed source).symm
  | case3 c source d target deleting inserting keeping =>
      rcases least_of_three (headDistance source (d :: target) + 1)
        (headDistance (c :: source) target + 1)
        (headDistance source target + if c = d then 0 else 1) with least | least | least
      · rw [least]
        exact .next (.delete [] c source) deleting
      · rw [least]
        exact inserting.trans (.next (.insert [] d target) (.none _))
      · rw [least]
        by_cases same : c = d
        · rw [if_pos same, ← same]
          exact keeping.behind c
        · rw [if_neg same]
          exact .next (.substitute [] c d source) (keeping.behind d)

/-! One edit of the source changes the distance by one at most, whatever the target is. -/

section Neighbors
variable {c d : Char} {source other target : List Char}

theorem head_distance_deleted (c : Char) (source target : List Char) :
    headDistance (c :: source) target ≤ headDistance source target + 1 := by
  cases target with
  | nil => simp [head_distance_to_nil]
  | cons d target =>
      rw [head_distance_cons]
      omega

theorem head_distance_typed (source : List Char) (d : Char) (target : List Char) :
    headDistance source (d :: target) ≤ headDistance source target + 1 := by
  cases source with
  | nil => simp [head_distance_nil]
  | cons c source =>
      rw [head_distance_cons]
      omega

theorem head_distance_inserted (c : Char) (source target : List Char) :
    headDistance source target ≤ headDistance (c :: source) target + 1 := by
  induction target with
  | nil =>
      simp only [head_distance_to_nil, List.length_cons]
      omega
  | cons d target ih =>
      have typed := head_distance_typed source d target
      rw [head_distance_cons]
      omega

theorem head_distance_substituted (c d : Char) (source target : List Char) :
    headDistance (c :: source) target ≤ headDistance (d :: source) target + 1 := by
  induction target with
  | nil => simp [head_distance_to_nil]
  | cons e target ih =>
      rw [head_distance_cons, head_distance_cons d]
      split <;> omega

/-- What lies before an edit does not matter. -/
theorem head_distance_behind (c : Char)
    (near : ∀ target, headDistance source target ≤ headDistance other target + 1)
    (target : List Char) :
    headDistance (c :: source) target ≤ headDistance (c :: other) target + 1 := by
  -- By induction on the target, since the recursion may leave the source as it is.
  induction target with
  | nil =>
      have lengths := near []
      simp only [head_distance_to_nil, List.length_cons] at lengths ⊢
      omega
  | cons d target ih =>
      have deleted := near (d :: target)
      have kept := near target
      rw [head_distance_cons, head_distance_cons c]
      omega

theorem head_distance_before (front : List Char)
    (near : ∀ target, headDistance source target ≤ headDistance other target + 1)
    (target : List Char) :
    headDistance (front ++ source) target ≤ headDistance (front ++ other) target + 1 := by
  induction front generalizing target with
  | nil => exact near target
  | cons c front ih => exact head_distance_behind c ih target

theorem head_distance_edit (edit : Edit source other) (target : List Char) :
    headDistance source target ≤ headDistance other target + 1 := by
  cases edit with
  | insert front c back => exact head_distance_before front (head_distance_inserted c back) target
  | delete front c back => exact head_distance_before front (head_distance_deleted c back) target
  | substitute front c d back =>
      exact head_distance_before front (head_distance_substituted c d back) target

end Neighbors

theorem head_distance_minimal {count : Nat} {source target : List Char}
    (edits : Edits count source target) : headDistance source target ≤ count := by
  induction edits with
  | none text => exact Nat.le_of_eq (head_distance_self text)
  | next first _ ih => exact Nat.le_trans (head_distance_edit first _) (Nat.succ_le_succ ih)

/-! The table. Its rows go forward through the texts, so the recursion reads what they have passed
backwards. -/

/-- The distances of a source from the growing parts of a target, both read backwards. -/
def distances (source behind : List Char) : List Char → List Nat
  | [] => [headDistance source behind]
  | c :: ahead => headDistance source behind :: distances source (c :: behind) ahead

theorem distances_cons (source behind ahead : List Char) :
    distances source behind ahead =
      headDistance source behind :: (distances source behind ahead).tail := by
  cases ahead <;> rfl

theorem distances_last (source behind ahead : List Char) (other : Nat) :
    (distances source behind ahead).getLastD other =
      headDistance source (ahead.reverse ++ behind) := by
  induction ahead generalizing behind other with
  | nil => rfl
  | cons c ahead ih =>
      rw [distances, List.getLastD_cons, ih, List.reverse_cons, List.append_assoc,
        List.singleton_append]

theorem next_cells_distances (c : Char) (source behind ahead : List Char) :
    nextCells c (headDistance (c :: source) behind) (distances source behind ahead) ahead =
      (distances (c :: source) behind ahead).tail := by
  -- Every cell is told the one to its left, which is the first of the row that is still to come.
  induction ahead generalizing behind with
  | nil => rfl
  | cons d ahead ih =>
      have later := ih (d :: behind)
      rw [distances_cons] at later
      rw [distances, distances_cons source, nextCells, ← head_distance_cons, later, distances,
        List.tail_cons, ← distances_cons]

theorem next_row_distances (c : Char) (source target : List Char) :
    nextRow target (distances source [] target) c = distances (c :: source) [] target := by
  have first : (distances source [] target).headD 0 + 1 = headDistance (c :: source) [] := by
    rw [distances_cons, List.headD_cons, head_distance_to_nil, head_distance_to_nil,
      List.length_cons]
  rw [nextRow, first, next_cells_distances, ← distances_cons]

theorem distances_of_nil (behind ahead : List Char) :
    distances [] behind ahead = List.range' behind.length (ahead.length + 1) := by
  induction ahead generalizing behind with
  | nil => simp [distances, head_distance_nil]
  | cons c ahead ih =>
      rw [distances, ih, head_distance_nil, List.length_cons, List.range'_succ]
      rfl

theorem first_row_distances (target : List Char) : firstRow target = distances [] [] target := by
  rw [distances_of_nil, firstRow, List.range_eq_range', List.length_nil]

theorem rows_distances (source passed target : List Char) :
    source.foldl (nextRow target) (distances passed [] target) =
      distances (source.reverse ++ passed) [] target := by
  induction source generalizing passed with
  | nil => rfl
  | cons c source ih =>
      rw [List.foldl_cons, next_row_distances, ih, List.reverse_cons, List.append_assoc,
        List.singleton_append]

theorem edit_distance_eq (source target : List Char) :
    editDistance source target = headDistance source.reverse target.reverse := by
  rw [editDistance, first_row_distances, rows_distances, distances_last, List.append_nil,
    List.append_nil]

/-- The edit distance is the least number of edits. -/
theorem edit_distance_isLeast (source target : List Char) :
    IsLeast {count | Edits count source target} (editDistance source target) := by
  rw [edit_distance_eq]
  constructor
  · exact Edits.reverse_iff.mp (head_distance_attained source.reverse target.reverse)
  · intro count edits
    exact head_distance_minimal (Edits.reverse_iff.mpr edits)

/-- The edit distance is the least number of edits that lead from one text to the other. So it is
zero just for equal texts, the same both ways, and never longer than a way round. -/
theorem least_edits (source target : List Char) :
    IsLeast {count | Edits count source target} (editDistance source target) ∧
      (editDistance source target = 0 ↔ source = target) ∧
      editDistance source target = editDistance target source ∧
      ∀ middle,
        editDistance source target ≤ editDistance source middle + editDistance middle target := by
  have least := edit_distance_isLeast
  refine ⟨least source target, ?_, ?_, fun middle => ?_⟩
  · rw [← Edits.zero_iff]
    constructor
    · intro zero
      exact zero ▸ (least source target).1
    · exact fun none_ => Nat.eq_zero_of_le_zero ((least source target).2 none_)
  · apply Nat.le_antisymm
    · exact (least source target).2 (least target source).1.symm
    · exact (least target source).2 (least source target).1.symm
  · exact (least source target).2 ((least source middle).1.trans (least middle target).1)

end Chartwright.Text
