import Chartwright.Proofs.Number.Order
import Chartwright.Proofs.Table.Inference

/-!
The least and the greatest number of a column. Both come from one pass that keeps the foremost
number seen so far, by what numbers amount to or by the opposite of it. So they are attained and
bound all other numbers.
-/

namespace Chartwright
namespace Table

/-- A number of a list with the least score of all. -/
structure Foremost (score : Binary64 → ℚ) (numbers : List Binary64) (best : Binary64) : Prop where
  attained : best ∈ numbers
  bounds : ∀ x ∈ numbers, score best ≤ score x

/-- A pass over a list that keeps what is ahead of the number seen before keeps a foremost one. -/
theorem kept_foremost (ahead : Binary64 → Binary64 → Bool) (score : Binary64 → ℚ)
    (first : Binary64) (rest : List Binary64)
    (tells : ∀ x ∈ first :: rest, ∀ y ∈ first :: rest, ahead x y = true ↔ score x < score y) :
    Foremost score (first :: rest)
      (rest.foldl (fun best x => if ahead x best then x else best) first) := by
  induction rest generalizing first with
  | nil => exact ⟨List.mem_cons_self, by simp⟩
  | cons next rest ih =>
      have told := tells next (by simp) first (by simp)
      rw [List.foldl_cons]
      cases moved : ahead next first with
      | true =>
          have less : score next < score first := told.mp moved
          have best := ih next fun x hx y hy =>
            tells x (List.mem_cons_of_mem _ hx) y (List.mem_cons_of_mem _ hy)
          rw [if_pos rfl]
          refine ⟨List.mem_cons_of_mem _ best.attained, ?_⟩
          intro x member
          rcases List.mem_cons.mp member with rfl | later
          · exact (best.bounds next List.mem_cons_self).trans less.le
          · exact best.bounds x later
      | false =>
          have most : score first ≤ score next := by
            rw [← not_lt, ← told, moved]
            decide
          have within (x : Binary64) (member : x ∈ first :: rest) : x ∈ first :: next :: rest := by
            rcases List.mem_cons.mp member with rfl | later
            · exact List.mem_cons_self
            · exact List.mem_cons_of_mem _ (List.mem_cons_of_mem _ later)
          have best := ih first fun x hx y hy => tells x (within x hx) y (within y hy)
          rw [if_neg (by decide)]
          refine ⟨within _ best.attained, ?_⟩
          intro x member
          rcases List.mem_cons.mp member with rfl | later
          · exact best.bounds x List.mem_cons_self
          · rcases List.mem_cons.mp later with rfl | last
            · exact (best.bounds first List.mem_cons_self).trans most
            · exact best.bounds x (List.mem_cons_of_mem _ last)

/-- Whether a function finds a foremost number wherever there is one. -/
structure FindsForemost (score : Binary64 → ℚ) (pick : List Binary64 → Option Binary64) : Prop where
  nothing : pick [] = none
  found : ∀ numbers, (∀ x ∈ numbers, x.isFinite = true) → numbers ≠ [] →
    ∃ best, pick numbers = some best ∧ Foremost score numbers best

theorem least_foremost : FindsForemost Binary64.amount least? where
  nothing := rfl
  found numbers finite nonempty := by
    cases numbers with
    | nil => exact absurd rfl nonempty
    | cons first rest =>
        refine ⟨_, rfl, kept_foremost Binary64.less Binary64.amount first rest ?_⟩
        intro x hx y hy
        exact Binary64.less_iff (finite x hx) (finite y hy)

theorem greatest_foremost : FindsForemost (fun x => -x.amount) greatest? where
  nothing := rfl
  found numbers finite nonempty := by
    cases numbers with
    | nil => exact absurd rfl nonempty
    | cons first rest =>
        refine ⟨_, rfl, kept_foremost (fun x y => y.less x) (fun x => -x.amount) first rest ?_⟩
        intro x hx y hy
        rw [Binary64.less_iff (finite y hy) (finite x hx), neg_lt_neg_iff]

/-! The numbers of cells. -/

theorem finite_isFinite {cell : Cell} {x : Binary64} (read : cell.finite? = .ok (some x)) :
    x.isFinite = true := by
  unfold Cell.finite? at read
  split at read
  · rename_i n
    cases near : Binary64.ofInt? n with
    | none => simp [near] at read
    | some y =>
        simp only [near, Except.ok.injEq, Option.some.injEq] at read
        subst read
        unfold Binary64.ofInt? at near
        split at near
        · cases near
          rfl
        · cases near
  · rename_i y
    cases finite : y.isFinite <;> simp_all
  · cases read

theorem numbers_cons {cell : Cell} {rest : List Cell} {found : List Binary64} :
    numbers (cell :: rest) = .ok found ↔
      ∃ here others, cell.finite? = .ok here ∧ numbers rest = .ok others ∧
        found = here.toList ++ others := by
  simp only [numbers, bind_eq_ok, pure, Except.pure, Except.ok.injEq]
  constructor
  · rintro ⟨here, first, others, later, rfl⟩
    exact ⟨here, others, first, later, rfl⟩
  · rintro ⟨here, others, first, later, rfl⟩
    exact ⟨here, first, others, later, rfl⟩

theorem numbers_mem_iff {cells : List Cell} {found : List Binary64}
    (read : numbers cells = .ok found) (x : Binary64) :
    x ∈ found ↔ ∃ cell ∈ cells, cell.finite? = .ok (some x) := by
  induction cells generalizing found with
  | nil =>
      cases read
      simp
  | cons cell rest ih =>
      obtain ⟨here, others, first, later, rfl⟩ := numbers_cons.mp read
      rw [List.mem_append, ih later, List.exists_mem_cons_iff, first]
      simp

theorem numbers_finite {cells : List Cell} {found : List Binary64}
    (read : numbers cells = .ok found) : ∀ x ∈ found, x.isFinite = true := by
  intro x member
  obtain ⟨cell, _, finite⟩ := (numbers_mem_iff read x).mp member
  exact finite_isFinite finite

end Table
end Chartwright
