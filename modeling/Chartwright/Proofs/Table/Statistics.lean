import Chartwright.Proofs.Table.Extremes
import Chartwright.Proofs.Table.Frequency

/-!
The figures on a column are exact. Gaps and values make up the column, the distinct labels are
counted, the labels listed are the most frequent ones with their numbers of occurrences, and least
and greatest number are attained and bound all finite ones.
-/

namespace Chartwright
namespace Table

def labels (cells : List Cell) : List String := (present cells).map Cell.display

def ListsValues (kind : FieldKind) : Prop := kind = .nominal ∨ kind = .ordinal

/-- What the figures on a column are taken from. -/
structure Figures (cells : List Cell) (kind : FieldKind) (stats : FieldStats) : Prop where
  gaps : stats.nullCount = (cells.length : Int) - (present cells).length
  unique : stats.uniqueCount = (labels cells).toFinset.card
  listed : ListsValues kind → labels cells ≠ [] →
    stats.topValues = some (mostFrequent (labels cells))
  unlisted : ¬(ListsValues kind ∧ labels cells ≠ []) → stats.topValues = none
  spread : kind = .quantitative → ∃ found, numbers (present cells) = .ok found ∧
    stats.min = least? found ∧ stats.max = greatest? found
  unspread : kind ≠ .quantitative → stats.min = none ∧ stats.max = none

theorem stats_figures {cells : List Cell} {kind : FieldKind} {stats : FieldStats}
    (returned : statsOf cells kind = .ok stats) : Figures cells kind stats := by
  have counted := distinct_length (labels cells)
  unfold statsOf at returned
  cases kind with
  | quantitative =>
      rcases fails_or_returns (numbers (present cells)) with fails | ⟨found, read⟩
      · simp [fails, bind, Except.bind] at returned
      · simp only [read] at returned
        cases returned
        exact ⟨rfl, congrArg Int.ofNat counted, by simp [ListsValues], by simp,
          fun _ => ⟨found, read, rfl, rfl⟩, by simp⟩
  | nominal | ordinal =>
      cases returned
      refine ⟨rfl, congrArg Int.ofNat counted, ?_, ?_, by simp, by simp⟩
      · intro _ some
        have filled : (labels cells).isEmpty = false := by simpa using some
        exact if_neg (by rw [← labels, filled]; decide)
      · intro none
        have empty : (labels cells).isEmpty = true := by simpa [ListsValues] using none
        exact if_pos empty
  | temporal =>
      cases returned
      exact ⟨rfl, congrArg Int.ofNat counted, by simp [ListsValues], by simp, by simp, by simp⟩

/-- Two finite numbers of a column between which all its finite numbers are. -/
structure Spans (cells : List Cell) (low high : Binary64) : Prop where
  least : ∃ cell ∈ cells, cell.finite? = .ok (some low)
  greatest : ∃ cell ∈ cells, cell.finite? = .ok (some high)
  within : ∀ cell ∈ cells, ∀ x, cell.finite? = .ok (some x) →
    low.atMost x = true ∧ x.atMost high = true

theorem finite_present {cell : Cell} {x : Binary64} (finite : cell.finite? = .ok (some x)) :
    cell.isNull = false := by
  unfold Cell.isNull
  split
  · cases finite
  · rename_i y
    cases y with
    | nan payload => simp [Cell.finite?, Binary64.isFinite] at finite
    | infinite _ | finite _ _ _ => rfl
  · rfl

theorem present_numbers {cells : List Cell} {found : List Binary64}
    (read : numbers (present cells) = .ok found) (x : Binary64) :
    x ∈ found ↔ ∃ cell ∈ cells, cell.finite? = .ok (some x) := by
  rw [numbers_mem_iff read]
  constructor
  · rintro ⟨cell, member, finite⟩
    exact ⟨cell, (List.mem_filter.mp member).1, finite⟩
  · rintro ⟨cell, member, finite⟩
    exact ⟨cell, List.mem_filter.mpr ⟨member, by simp [finite_present finite]⟩, finite⟩

theorem numbers_span {cells : List Cell} {found : List Binary64}
    (read : numbers (present cells) = .ok found)
    (numeric : ∃ cell ∈ cells, ∃ x, cell.finite? = .ok (some x)) :
    ∃ low high, least? found = some low ∧ greatest? found = some high ∧
      Spans cells low high := by
  have members := present_numbers read
  have nonempty : found ≠ [] := by
    obtain ⟨cell, member, x, finite⟩ := numeric
    exact List.ne_nil_of_mem ((members x).mpr ⟨cell, member, finite⟩)
  have finite := numbers_finite read
  obtain ⟨low, least, lowest⟩ := least_foremost.found found finite nonempty
  obtain ⟨high, greatest, highest⟩ := greatest_foremost.found found finite nonempty
  refine ⟨low, high, least, greatest, (members low).mp lowest.attained,
    (members high).mp highest.attained, ?_⟩
  intro cell member x told
  have inside := (members x).mpr ⟨cell, member, told⟩
  constructor
  · rw [Binary64.at_most_iff (finite low lowest.attained) (finite x inside)]
    exact lowest.bounds x inside
  · rw [Binary64.at_most_iff (finite x inside) (finite high highest.attained)]
    exact neg_le_neg_iff.mp (highest.bounds x inside)

/-- The figures on a column are exact, whatever its cells are. -/
theorem column_statistics_exact (cells : List Cell) (kind : FieldKind) (stats : FieldStats)
    (returned : statsOf cells kind = .ok stats) :
    stats.nullCount + (present cells).length = cells.length ∧
      stats.uniqueCount = (labels cells).toFinset.card ∧
      (ListsValues kind → present cells ≠ [] →
        ∃ tops, stats.topValues = some tops ∧ MostFrequent (labels cells) tops) ∧
      (kind = .quantitative → (∃ cell ∈ cells, ∃ x, cell.finite? = .ok (some x)) →
        ∃ low high, stats.min = some low ∧ stats.max = some high ∧ Spans cells low high) := by
  have figures := stats_figures returned
  refine ⟨by rw [figures.gaps]; omega, figures.unique, ?_, ?_⟩
  · intro lists filled
    have labelled : labels cells ≠ [] := by simpa [labels] using filled
    exact ⟨_, figures.listed lists labelled, most_frequent_listed _⟩
  · intro quantitative numeric
    obtain ⟨found, read, min, max⟩ := figures.spread quantitative
    obtain ⟨low, high, least, greatest, spans⟩ := numbers_span read numeric
    exact ⟨low, high, min.trans least, max.trans greatest, spans⟩

def mixedColumn : List Cell :=
  [.value (.text "b"), .value (.int 1), .value .null, .value (.text "a"), .value (.text "1"),
   .value (.text "a"), .value (.float (.nan 0)), .value (.text "b"),
   .value (.float (.finite true 5 (-1)))]

theorem mixed_column_counted :
    (∃ stats, statsOf mixedColumn .nominal = .ok stats ∧ stats.nullCount = 2 ∧
      stats.uniqueCount = 4 ∧ ∃ tops, stats.topValues = some tops ∧
        MostFrequent (labels mixedColumn) tops ∧ (tops.map (·.count)).sum = 7) ∧
    ∃ stats, statsOf mixedColumn .quantitative = .ok stats ∧
      ∃ low high, stats.min = some low ∧ stats.max = some high ∧ Spans mixedColumn low high := by
  have distinct : (labels mixedColumn).toFinset.card = 4 := by decide +kernel
  have length : (labels mixedColumn).length = 7 := rfl
  constructor
  · obtain ⟨gaps, unique, listed, _⟩ := column_statistics_exact mixedColumn .nominal _ rfl
    obtain ⟨tops, told, most⟩ := listed (.inl rfl) (by simp [mixedColumn, present, Cell.isNull])
    have whole := most.whole (by omega)
    rw [length] at whole
    rw [distinct] at unique
    exact ⟨_, rfl, rfl, unique, tops, told, most, whole⟩
  · have returns : ∃ stats, statsOf mixedColumn .quantitative = .ok stats := ⟨_, rfl⟩
    obtain ⟨stats, returned⟩ := returns
    have numeric : ∃ cell ∈ mixedColumn, ∃ x, cell.finite? = .ok (some x) :=
      ⟨.value (.int 1), by simp [mixedColumn], _, rfl⟩
    exact ⟨stats, returned,
      (column_statistics_exact mixedColumn .quantitative stats returned).2.2.2 rfl numeric⟩

end Table
end Chartwright
