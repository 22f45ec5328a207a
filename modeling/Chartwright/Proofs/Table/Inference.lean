import Chartwright.Proofs.Number.Range
import Chartwright.Table.Inference
import Mathlib.Data.List.Basic
import Mathlib.Tactic.SplitIfs

/-!
When the fields of rows cannot be inferred: exactly when a record among the first rows holds an
integer that is beyond all floating-point numbers. It does not matter what else its column holds.
-/

namespace Chartwright

/-! Steps that may fail. -/

section Steps
variable {ε α β : Type} {first : Except ε α} {next : α → Except ε β}

theorem bind_eq_ok {result : β} :
    (first >>= next) = .ok result ↔ ∃ value, first = .ok value ∧ next value = .ok result := by
  cases first <;> simp [bind, Except.bind]

theorem map_eq_ok {change : α → β} {result : β} :
    first.map change = .ok result ↔ ∃ value, first = .ok value ∧ change value = result := by
  cases first <;> simp [Except.map]

end Steps

/-- An integer beyond all floating-point numbers. -/
def Cell.IsTooLarge (cell : Cell) : Prop :=
  ∃ n : Int, cell = .value (.int n) ∧ Binary64.overflowBound ≤ n.natAbs

theorem Cell.finite_fails_iff (cell : Cell) :
    cell.finite? = .error .integerTooLarge ↔ cell.IsTooLarge := by
  have whole (n : Int) :
      (Cell.value (.int n)).finite? = .error .integerTooLarge ↔ Binary64.ofInt? n = none := by
    simp only [finite?]
    cases Binary64.ofInt? n <;> simp
  constructor
  · intro fails
    unfold finite? at fails
    split at fails
    · rename_i n
      exact ⟨n, rfl, (Binary64.of_int_none_iff n).mp ((whole n).mp fails)⟩
    · cases fails
    · cases fails
  · rintro ⟨n, rfl, beyond⟩
    exact (whole n).mpr ((Binary64.of_int_none_iff n).mpr beyond)

namespace Table

theorem fails_or_returns {α : Type} (result : Except TableError α) :
    result = .error .integerTooLarge ∨ ∃ value, result = .ok value := by
  cases result with
  | error cause =>
      cases cause
      exact .inl rfl
  | ok value => exact .inr ⟨value, rfl⟩

theorem numbers_fail_iff (cells : List Cell) :
    numbers cells = .error .integerTooLarge ↔ ∃ cell ∈ cells, cell.IsTooLarge := by
  induction cells with
  | nil => simp [numbers]
  | cons cell rest ih =>
      rw [List.exists_mem_cons_iff, ← ih, ← Cell.finite_fails_iff cell, numbers]
      rcases fails_or_returns cell.finite? with here | ⟨here, found⟩
      · simp [here, bind, Except.bind]
      · rcases fails_or_returns (numbers rest) with others | ⟨others, more⟩
        · simp [found, others, bind, Except.bind]
        · simp [found, more, bind, Except.bind, pure, Except.pure]

theorem each_fails_iff {α β : Type} (f : α → Except TableError β) (items : List α) :
    items.mapM f = .error .integerTooLarge ↔ ∃ item ∈ items, f item = .error .integerTooLarge := by
  induction items with
  | nil => simp [pure, Except.pure]
  | cons item rest ih =>
      rw [List.mapM_cons, List.exists_mem_cons_iff, ← ih]
      rcases fails_or_returns (f item) with here | ⟨here, found⟩
      · simp [here, bind, Except.bind]
      · rcases fails_or_returns (rest.mapM f) with others | ⟨others, more⟩
        · simp [found, others, bind, Except.bind]
        · simp [found, more, bind, Except.bind, pure, Except.pure]

/-! Columns. -/

theorem kind_fails_iff (cells : List Cell) :
    kindOf cells = .error .integerTooLarge ↔ ∃ cell ∈ cells, cell.IsTooLarge := by
  have kept : (∃ cell ∈ present cells, cell.IsTooLarge) ↔ ∃ cell ∈ cells, cell.IsTooLarge := by
    constructor
    · rintro ⟨cell, member, large⟩
      exact ⟨cell, (List.mem_filter.mp member).1, large⟩
    · rintro ⟨cell, member, n, rfl, beyond⟩
      exact ⟨_, List.mem_filter.mpr ⟨member, rfl⟩, n, rfl, beyond⟩
  rw [← kept, ← numbers_fail_iff]
  unfold kindOf
  by_cases vacant : (present cells).isEmpty = true
  · simp [List.isEmpty_iff.mp vacant, numbers, pure, Except.pure]
  · rcases fails_or_returns (numbers (present cells)) with fails | ⟨finite, returns⟩
    · simp [vacant, fails, bind, Except.bind]
    · simp only [vacant, returns, bind, Except.bind, pure, Except.pure, reduceCtorEq, iff_false]
      split_ifs <;> simp

theorem stats_return (cells : List Cell) (kind : FieldKind)
    (small : ¬∃ cell ∈ cells, cell.IsTooLarge) : ∃ stats, statsOf cells kind = .ok stats := by
  have within : ¬∃ cell ∈ present cells, cell.IsTooLarge := by
    rintro ⟨cell, member, large⟩
    exact small ⟨cell, (List.mem_filter.mp member).1, large⟩
  unfold statsOf
  cases kind with
  | quantitative =>
      rcases fails_or_returns (numbers (present cells)) with fails | ⟨finite, returns⟩
      · exact absurd ((numbers_fail_iff _).mp fails) within
      · simp only [returns]
        exact ⟨_, rfl⟩
  | nominal | ordinal | temporal => exact ⟨_, rfl⟩

theorem as_float_fails_iff (item : Option Cell) :
    asFloat item = .error .integerTooLarge ↔ ∃ cell, item = some cell ∧ cell.IsTooLarge := by
  unfold asFloat
  split
  · rename_i n
    constructor
    · intro fails
      cases far : Binary64.ofInt? n with
      | none => exact ⟨_, rfl, n, rfl, (Binary64.of_int_none_iff n).mp far⟩
      | some x => simp [far] at fails
    · rintro ⟨_, ⟨⟩, m, same, far⟩
      cases same
      rw [(Binary64.of_int_none_iff n).mpr far]
  · rename_i cell other
    simp only [reduceCtorEq, false_iff]
    rintro ⟨_, ⟨⟩, n, rfl, _⟩
    exact other n rfl
  · simp

theorem as_float_small {item : Option Cell} {cell : Cell} (taken : asFloat item = .ok cell) :
    ¬cell.IsTooLarge := by
  rintro ⟨n, rfl, far⟩
  unfold asFloat at taken
  split at taken
  · rename_i m
    cases near : Binary64.ofInt? m <;> simp [near] at taken
  · rename_i other whole
    cases taken
    exact whole n rfl
  · cases taken

theorem floats_small {column : List (Option Cell)} {cells : List Cell}
    (taken : column.mapM asFloat = .ok cells) : ¬∃ cell ∈ cells, cell.IsTooLarge := by
  induction column generalizing cells with
  | nil =>
      cases taken
      simp
  | cons item rest ih =>
      simp only [List.mapM_cons, bind_eq_ok, pure, Except.pure, Except.ok.injEq] at taken
      obtain ⟨here, first, others, later, rfl⟩ := taken
      rw [List.exists_mem_cons_iff]
      exact not_or.mpr ⟨as_float_small first, ih later⟩

-- An integer that is too large fails this step or is left by it to fail a later one.
theorem settled_ends (column : List (Option Cell)) :
    (settled column = .error .integerTooLarge ∧ ∃ cell, some cell ∈ column ∧ cell.IsTooLarge) ∨
      ∃ cells, settled column = .ok cells ∧
        ((∃ cell ∈ cells, cell.IsTooLarge) ↔ ∃ cell, some cell ∈ column ∧ cell.IsTooLarge) := by
  have large : column.mapM asFloat = .error .integerTooLarge ↔
      ∃ cell, some cell ∈ column ∧ cell.IsTooLarge := by
    simp only [each_fails_iff, as_float_fails_iff]
    constructor
    · rintro ⟨_, member, cell, rfl, far⟩
      exact ⟨cell, member, far⟩
    · rintro ⟨cell, member, far⟩
      exact ⟨_, member, cell, rfl, far⟩
  unfold settled floatsIf
  by_cases numeric : (isFloating column && !keepsValues false false column) = true
  · rw [if_pos numeric]
    rcases fails_or_returns (column.mapM asFloat) with fails | ⟨cells, taken⟩
    · exact .inl ⟨fails, large.mp fails⟩
    · refine .inr ⟨cells, taken, ?_⟩
      rw [← large, taken]
      simpa using floats_small taken
  · rw [if_neg numeric]
    refine .inr ⟨_, rfl, ?_⟩
    simp only [List.mem_map]
    constructor
    · rintro ⟨cell, ⟨item, member, filled⟩, n, rfl, beyond⟩
      cases item with
      | none => cases filled
      | some cell =>
          cases filled
          exact ⟨_, member, n, rfl, beyond⟩
    · rintro ⟨cell, member, large⟩
      exact ⟨cell, ⟨some cell, member, rfl⟩, large⟩

theorem field_fails_iff (records : List (List (String × Cell))) (name : String) :
    fieldOf settled records name = .error .integerTooLarge ↔
      ∃ cells ∈ records, ∃ cell, cells.lookup name = some cell ∧ cell.IsTooLarge := by
  have meant : (∃ cell, some cell ∈ columnOf records name ∧ cell.IsTooLarge) ↔
      ∃ cells ∈ records, ∃ cell, cells.lookup name = some cell ∧ cell.IsTooLarge := by
    simp only [columnOf, List.mem_map]
    constructor
    · rintro ⟨cell, ⟨cells, member, found⟩, large⟩
      exact ⟨cells, member, cell, found, large⟩
    · rintro ⟨cells, member, cell, found, large⟩
      exact ⟨cell, ⟨cells, member, found⟩, large⟩
  rw [← meant]
  unfold fieldOf
  rcases settled_ends (columnOf records name) with ⟨fails, large⟩ | ⟨cells, settles, large⟩
  · simpa [fails, bind, Except.bind] using large
  · rw [← large, ← kind_fails_iff]
    rcases fails_or_returns (kindOf cells) with fails | ⟨kind, returns⟩
    · simp [settles, fails, bind, Except.bind]
    · have small : ¬∃ cell ∈ cells, cell.IsTooLarge := by
        rw [← kind_fails_iff, returns]
        simp
      obtain ⟨stats, figures⟩ := stats_return cells kind small
      simp [settles, returns, figures, bind, Except.bind, pure, Except.pure]

/-! Rows. -/

/-- One of the first records holds an integer beyond all floating-point numbers. -/
def Overflows (rows : List Row) : Prop :=
  ∃ cells ∈ sample rows, ∃ name cell, cells.lookup name = some cell ∧ cell.IsTooLarge

theorem infer_fails_iff (rows : List Row) :
    inferFields rows = .error .integerTooLarge ↔ Overflows rows := by
  unfold inferFields inferFieldsBy Overflows
  rw [each_fails_iff]
  simp only [field_fails_iff]
  constructor
  · rintro ⟨name, _, cells, member, cell, found, large⟩
    exact ⟨cells, member, name, cell, found, large⟩
  · rintro ⟨cells, member, name, cell, found, large⟩
    refine ⟨name, ?_, cells, member, cell, found, large⟩
    have inside : (name, cell) ∈ cells := by
      obtain ⟨before, after, rfl, _⟩ := List.lookup_eq_some_iff.mp found
      simp
    unfold columnNames
    rw [List.mem_eraseDups, List.mem_flatMap]
    exact ⟨cells, member, List.mem_map.mpr ⟨_, inside, rfl⟩⟩

end Table
end Chartwright
