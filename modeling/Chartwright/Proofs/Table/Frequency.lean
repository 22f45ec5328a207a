import Chartwright.Table.Inference
import Mathlib.Algebra.BigOperators.Group.List.Lemmas
import Mathlib.Algebra.BigOperators.Ring.Finset
import Mathlib.Data.Finset.Card

/-!
Which labels of a column are listed as its most frequent ones. Each label is counted once, at the
place where it first occurs, and the counts are sorted by a sort that keeps ties in order. So a
label goes before another one exactly if it occurs more often, or as often and earlier.
-/

namespace Chartwright
namespace Table

/-! Labels, each once. -/

@[simp] theorem mem_distinct {label : String} {labels : List String} :
    label ∈ distinct labels ↔ label ∈ labels :=
  List.mem_eraseDups

theorem distinct_concat (labels : List String) (last : String) :
    distinct (labels ++ [last]) =
      if last ∈ labels then distinct labels else distinct labels ++ [last] := by
  unfold distinct
  rw [List.eraseDups_append]
  by_cases known : last ∈ labels <;> simp [List.removeAll, List.eraseDups_cons, known]

/-- The labels stand in the order in which they first occur. -/
theorem distinct_in_order (labels : List String) :
    (distinct labels).Pairwise fun a b => labels.idxOf a < labels.idxOf b := by
  induction labels using List.reverseRecOn with
  | nil => exact List.Pairwise.nil
  | append_singleton labels last ih =>
      have before (label : String) (known : label ∈ labels) :
          (labels ++ [last]).idxOf label = labels.idxOf label := by
        rw [List.idxOf_append, if_pos known]
      have earlier : (distinct labels).Pairwise fun a b =>
          (labels ++ [last]).idxOf a < (labels ++ [last]).idxOf b := by
        refine ih.imp_of_mem fun {a b} here there less => ?_
        rwa [before a (mem_distinct.mp here), before b (mem_distinct.mp there)]
      rw [distinct_concat]
      by_cases known : last ∈ labels
      · rwa [if_pos known]
      · rw [if_neg known, List.pairwise_append]
        refine ⟨earlier, List.pairwise_singleton _ _, ?_⟩
        intro a here b there
        obtain rfl := List.mem_singleton.mp there
        have inside := mem_distinct.mp here
        rw [before a inside, List.idxOf_append, if_neg known]
        exact Nat.lt_of_lt_of_le (List.idxOf_lt_length_of_mem inside) (Nat.le_add_left _ _)

theorem distinct_nodup (labels : List String) : (distinct labels).Nodup :=
  (distinct_in_order labels).imp fun less same => by
    rw [same] at less
    exact Nat.lt_irrefl _ less

theorem distinct_length (labels : List String) :
    (distinct labels).length = labels.toFinset.card := by
  rw [← List.toFinset_card_of_nodup (distinct_nodup labels)]
  congr 1
  ext label
  simp

theorem distinct_perm {labels others : List String} (reordered : labels.Perm others) :
    (distinct labels).Perm (distinct others) := by
  rw [List.perm_ext_iff_of_nodup (distinct_nodup labels) (distinct_nodup others)]
  intro label
  rw [mem_distinct, mem_distinct, reordered.mem_iff]

/-! Counts. -/

theorem tally_values (labels : List String) :
    (tally labels).map (·.value) = distinct labels := by
  simp [tally, Function.comp_def]

theorem mem_tally {top : TopValue} {labels : List String} :
    top ∈ tally labels ↔ top.value ∈ labels ∧ top.count = labels.count top.value := by
  unfold tally
  rw [List.mem_map]
  constructor
  · rintro ⟨label, member, rfl⟩
    exact ⟨mem_distinct.mp member, rfl⟩
  · rintro ⟨member, exact⟩
    exact ⟨top.value, mem_distinct.mpr member, by rw [← exact]⟩

theorem tally_perm {labels others : List String} (reordered : labels.Perm others) :
    (tally labels).Perm (tally others) := by
  have counts : (fun label => TopValue.mk label (labels.count label)) =
      fun label => TopValue.mk label (others.count label) := by
    funext label
    rw [reordered.count_eq]
  unfold tally
  rw [counts]
  exact (distinct_perm reordered).map _

theorem tally_sum (labels : List String) : ((tally labels).map (·.count)).sum = labels.length := by
  have dedup : (distinct labels).Perm labels.dedup := by
    rw [List.perm_ext_iff_of_nodup (distinct_nodup labels) labels.nodup_dedup]
    simp
  have total := List.sum_map_count_dedup_eq_length labels
  rw [← (dedup.map fun label => labels.count label).sum_eq] at total
  rw [← total, Nat.cast_list_sum, List.map_map]
  simp [tally, Function.comp_def]

/-! The order of the counts. -/

/-- Whether one label is listed before another: it occurs more often, or as often and earlier. -/
def Precedes (labels : List String) (a b : TopValue) : Prop :=
  b.count < a.count ∨ (a.count = b.count ∧ labels.idxOf a.value < labels.idxOf b.value)

/-- All labels with their counts, the most frequent first. -/
def ranked (labels : List String) : List TopValue :=
  (tally labels).mergeSort fun a b => b.count ≤ a.count

theorem most_frequent_eq (labels : List String) :
    mostFrequent labels = (ranked labels).take topLimit := rfl

theorem ranked_perm (labels : List String) : (ranked labels).Perm (tally labels) :=
  List.mergeSort_perm _ _

theorem ranked_length (labels : List String) :
    (ranked labels).length = labels.toFinset.card := by
  rw [(ranked_perm labels).length_eq, ← distinct_length, ← tally_values, List.length_map]

theorem ranked_values_nodup (labels : List String) : ((ranked labels).map (·.value)).Nodup := by
  rw [((ranked_perm labels).map _).nodup_iff, tally_values]
  exact distinct_nodup labels

theorem count_trans (a b c : TopValue) (first : decide (b.count ≤ a.count) = true)
    (second : decide (c.count ≤ b.count) = true) : decide (c.count ≤ a.count) = true := by
  simp only [decide_eq_true_eq] at *
  omega

theorem count_total (a b : TopValue) :
    (decide (b.count ≤ a.count) || decide (a.count ≤ b.count)) = true := by
  simp only [Bool.or_eq_true, decide_eq_true_eq]
  omega

theorem ranked_falls (labels : List String) :
    (ranked labels).Pairwise fun a b => b.count ≤ a.count :=
  (List.pairwise_mergeSort count_trans count_total _).imp fun falls => of_decide_eq_true falls

theorem places_in_order (labels : List String) :
    (tally labels).Pairwise fun a b => labels.idxOf a.value < labels.idxOf b.value := by
  have places := distinct_in_order labels
  rwa [← tally_values, List.pairwise_map] at places

theorem numbered_apart (tops : List TopValue) (le : TopValue × Nat → TopValue × Nat → Bool) :
    (tops.zipIdx.mergeSort le).Pairwise fun a b => a.2 ≠ b.2 := by
  have places : (tops.zipIdx.map (·.2)).Nodup := by
    rw [List.zipIdx_map_snd]
    exact List.nodup_range'
  rw [← ((List.mergeSort_perm tops.zipIdx le).map _).nodup_iff] at places
  exact List.pairwise_map.mp places

-- The sort is that of the counts with their places in the tally, which breaks ties by the place;
-- and the tally is in the order of the first occurrences.
theorem ranked_in_order (labels : List String) :
    (ranked labels).Pairwise (Precedes labels) := by
  have places := List.pairwise_iff_getElem.mp (places_in_order labels)
  have sorted := List.pairwise_mergeSort (List.zipIdxLE_trans count_trans)
    (List.zipIdxLE_total count_total) (tally labels).zipIdx
  unfold ranked
  rw [← List.mergeSort_zipIdx, List.pairwise_map]
  refine (sorted.and (numbered_apart _ _)).imp_of_mem ?_
  rintro ⟨a, i⟩ ⟨b, j⟩ here there ⟨le, apart⟩
  obtain ⟨inside, first⟩ := List.mem_zipIdx' (List.mem_mergeSort.mp here)
  obtain ⟨within, second⟩ := List.mem_zipIdx' (List.mem_mergeSort.mp there)
  simp only [List.zipIdxLE, decide_eq_true_eq] at le
  by_cases falls : b.count ≤ a.count
  · by_cases ties : a.count ≤ b.count
    · have before : i < j := by
        simp only [falls, ties, if_true, decide_eq_true_eq] at le
        exact Nat.lt_of_le_of_ne le apart
      have earlier := places i j inside within before
      rw [← first, ← second] at earlier
      exact .inr ⟨Int.le_antisymm ties falls, earlier⟩
    · exact .inl (Int.not_le.mp ties)
  · simp [falls] at le

/-! The most frequent labels. -/

/-- The labels that occur most often, listed with their counts: at most ten, each once, one after
another as they precede each other, and none left out that precedes one of them. -/
structure MostFrequent (labels : List String) (tops : List TopValue) : Prop where
  size : tops.length = min 10 labels.toFinset.card
  apart : (tops.map (·.value)).Nodup
  counts : ∀ top ∈ tops, top.value ∈ labels ∧ top.count = labels.count top.value
  order : tops.Pairwise (Precedes labels)
  others : ∀ label ∈ labels, label ∉ tops.map (·.value) →
    ∀ top ∈ tops, Precedes labels top ⟨label, labels.count label⟩
  whole : labels.toFinset.card ≤ 10 → (tops.map (·.count)).sum = labels.length

theorem most_frequent_listed (labels : List String) :
    MostFrequent labels (mostFrequent labels) where
  size := by rw [most_frequent_eq, List.length_take, ranked_length, topLimit]
  apart := by
    rw [most_frequent_eq, List.map_take]
    exact (ranked_values_nodup labels).sublist (List.take_sublist _ _)
  counts top member := by
    rw [most_frequent_eq] at member
    exact mem_tally.mp ((ranked_perm labels).mem_iff.mp (List.mem_of_mem_take member))
  order := (ranked_in_order labels).sublist (List.take_sublist _ _)
  others label occurs unlisted top member := by
    have counted : ⟨label, labels.count label⟩ ∈ ranked labels :=
      (ranked_perm labels).mem_iff.mpr (mem_tally.mpr ⟨occurs, rfl⟩)
    rw [most_frequent_eq] at unlisted member
    have split := ranked_in_order labels
    rw [← List.take_append_drop topLimit (ranked labels), List.pairwise_append] at split
    rw [← List.take_append_drop topLimit (ranked labels), List.mem_append] at counted
    rcases counted with listed | later
    · exact absurd (List.mem_map.mpr ⟨_, listed, rfl⟩) unlisted
    · exact split.2.2 top member _ later
  whole few := by
    have all : (ranked labels).length ≤ topLimit := by
      rw [ranked_length]
      exact few
    rw [most_frequent_eq, List.take_of_length_le all, ((ranked_perm labels).map _).sum_eq,
      tally_sum]

/-- Labels in another order have the same counts in their lists of most frequent labels. -/
theorem top_counts_perm {labels others : List String} (reordered : labels.Perm others) :
    (mostFrequent labels).map (·.count) = (mostFrequent others).map (·.count) := by
  have falls (labels : List String) : ((ranked labels).map (·.count)).Pairwise (· ≥ ·) :=
    List.pairwise_map.mpr (ranked_falls labels)
  have same : ((ranked labels).map (·.count)).Perm ((ranked others).map (·.count)) :=
    (((ranked_perm labels).trans (tally_perm reordered)).trans (ranked_perm others).symm).map _
  have equal := same.eq_of_pairwise (fun a b _ _ more less => Int.le_antisymm less more)
    (falls labels) (falls others)
  rw [most_frequent_eq, most_frequent_eq, List.map_take, List.map_take, equal]

end Table
end Chartwright
