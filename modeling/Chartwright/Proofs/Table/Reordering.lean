import Chartwright.Proofs.Table.Statistics
import Mathlib.Data.List.Perm.Basic

/-!
The order of rows does not matter to the fields inferred from them, if the table takes in their
columns as it is documented. Every step from the rows to a field depends on which cells a column has
and how often, not on where they stand: whether the column becomes one of floating-point numbers,
what kind it is of, and the figures on it.
-/

namespace Chartwright
namespace Table

/-! Reading one by one. -/

theorem each_cons {α β : Type} {f : α → Except TableError β} {item : α} {rest : List α}
    {found : List β} : (item :: rest).mapM f = .ok found ↔
      ∃ here others, f item = .ok here ∧ rest.mapM f = .ok others ∧ found = here :: others := by
  simp only [List.mapM_cons, bind_eq_ok, pure, Except.pure, Except.ok.injEq]
  constructor
  · rintro ⟨here, first, others, later, rfl⟩
    exact ⟨here, others, first, later, rfl⟩
  · rintro ⟨here, others, first, later, rfl⟩
    exact ⟨here, first, others, later, rfl⟩

/-- What is read one by one of items in another order is the same in another order. -/
theorem each_perm {α β : Type} {f : α → Except TableError β} {items others : List α}
    {found : List β} (reordered : items.Perm others) (read : items.mapM f = .ok found) :
    ∃ again, others.mapM f = .ok again ∧ found.Perm again := by
  induction reordered generalizing found with
  | nil => exact ⟨found, read, .refl _⟩
  | cons item reordered ih =>
      obtain ⟨here, rest, first, later, rfl⟩ := each_cons.mp read
      obtain ⟨again, reread, same⟩ := ih later
      exact ⟨here :: again, each_cons.mpr ⟨here, again, first, reread, rfl⟩, same.cons here⟩
  | swap a b rest =>
      obtain ⟨second, tail, readB, more, rfl⟩ := each_cons.mp read
      obtain ⟨first, others, readA, last, rfl⟩ := each_cons.mp more
      have swapped : (b :: rest).mapM f = .ok (second :: others) :=
        each_cons.mpr ⟨second, others, readB, last, rfl⟩
      exact ⟨first :: second :: others, each_cons.mpr ⟨first, _, readA, swapped, rfl⟩,
        .swap first second others⟩
  | trans first second ihFirst ihSecond =>
      obtain ⟨middle, readMiddle, sameFirst⟩ := ihFirst read
      obtain ⟨again, readAgain, sameSecond⟩ := ihSecond readMiddle
      exact ⟨again, readAgain, sameFirst.trans sameSecond⟩

theorem numbers_each {cells : List Cell} {found : List Binary64} :
    numbers cells = .ok found ↔
      ∃ each, cells.mapM Cell.finite? = .ok each ∧ each.flatMap Option.toList = found := by
  induction cells generalizing found with
  | nil => simp [numbers, pure, Except.pure]
  | cons cell rest ih =>
      rw [numbers_cons]
      constructor
      · rintro ⟨here, others, first, later, rfl⟩
        obtain ⟨each, read, rfl⟩ := ih.mp later
        exact ⟨here :: each, each_cons.mpr ⟨here, each, first, read, rfl⟩, rfl⟩
      · rintro ⟨_, read, rfl⟩
        obtain ⟨here, each, first, later, rfl⟩ := each_cons.mp read
        exact ⟨here, _, first, ih.mpr ⟨each, later, rfl⟩, rfl⟩

theorem numbers_perm {cells others : List Cell} {found : List Binary64}
    (reordered : cells.Perm others) (read : numbers cells = .ok found) :
    ∃ again, numbers others = .ok again ∧ found.Perm again := by
  obtain ⟨each, readEach, rfl⟩ := numbers_each.mp read
  obtain ⟨again, readAgain, same⟩ := each_perm reordered readEach
  exact ⟨_, numbers_each.mpr ⟨again, readAgain, rfl⟩, same.flatMap_right _⟩

/-! What becomes of the cells of a column. -/

def isNumeric : Option Cell → Bool
  | none | some (.value .null) | some (.value (.float _)) | some (.value (.int _)) => true
  | some _ => false

/-- What is documented: a column of numbers and gaps is one of floating-point numbers alone when it
has one of these or a gap, and every other column keeps its values. -/
def documented : Coercion :=
  floatsIf fun column => isFloating column && column.all isNumeric

theorem keeps_values_small (negative : Bool) (column : List (Option Cell))
    (small : ∀ n, some (.value (.int n)) ∈ column → -Int.pow 2 63 ≤ n ∧ n < Int.pow 2 63) :
    keepsValues negative false column = !column.all isNumeric := by
  induction column generalizing negative with
  | nil => rfl
  | cons item rest ih =>
      have later (negative : Bool) :=
        ih negative fun n member => small n (List.mem_cons_of_mem item member)
      match item with
      | none | some (.value .null) | some (.value (.float _)) =>
          simpa [keepsValues, isNumeric] using later _
      | some (.value (.int n)) =>
          obtain ⟨least, most⟩ := small n List.mem_cons_self
          have wider : Int.pow 2 63 ≤ Int.pow 2 64 := by decide
          have below : decide (n < -Int.pow 2 63) = false := decide_eq_false (by omega)
          have above : decide (Int.pow 2 64 ≤ n) = false := decide_eq_false (by omega)
          have narrow : decide (Int.pow 2 63 ≤ n) = false := decide_eq_false (by omega)
          simp only [keepsValues, below, above, narrow, Bool.or_false, Bool.and_false,
            Bool.false_or, later, List.all_cons, isNumeric, Bool.true_and]
      | some (.value (.bool _)) | some (.value (.text _)) | some (.value (.list _))
      | some (.value (.object _)) | some (.date _) | some (.moment _) | some (.list _)
      | some (.record _) => rfl

/-- As long as integers have 64 bits with their sign, a column is taken in as it is documented. -/
theorem settled_documented {column : List (Option Cell)}
    (small : ∀ n, some (.value (.int n)) ∈ column → -Int.pow 2 63 ≤ n ∧ n < Int.pow 2 63) :
    settled column = documented column := by
  simp only [settled, documented, floatsIf, keeps_values_small false column small,
    Bool.not_not]

/-- The two columns are taken in as the same cells, in whatever order, or neither can be. -/
def TakesAlike (coerce : Coercion) (column other : List (Option Cell)) : Prop :=
  ∀ cells, coerce column = .ok cells → ∃ again, coerce other = .ok again ∧ cells.Perm again

theorem floats_if_perm {test : List (Option Cell) → Bool} {column other : List (Option Cell)}
    (reordered : column.Perm other) (same : test column = test other) :
    TakesAlike (floatsIf test) column other := by
  intro cells settles
  unfold floatsIf at settles ⊢
  rw [← same]
  by_cases numeric : test column = true
  · rw [if_pos numeric] at settles ⊢
    exact each_perm reordered settles
  · rw [if_neg numeric] at settles ⊢
    cases settles
    exact ⟨_, rfl, reordered.map _⟩

theorem floating_perm {column other : List (Option Cell)} (reordered : column.Perm other) :
    isFloating column = isFloating other :=
  reordered.any_eq

theorem documented_perm {column other : List (Option Cell)} (reordered : column.Perm other) :
    TakesAlike documented column other := by
  apply floats_if_perm reordered
  rw [floating_perm reordered, reordered.all_eq]

theorem present_perm {cells others : List Cell} (reordered : cells.Perm others) :
    (present cells).Perm (present others) :=
  reordered.filter _

theorem labels_perm {cells others : List Cell} (reordered : cells.Perm others) :
    (labels cells).Perm (labels others) :=
  (present_perm reordered).map _

theorem unique_perm {cells others : List Cell} (reordered : cells.Perm others) :
    (labels cells).toFinset.card = (labels others).toFinset.card := by
  rw [List.toFinset_eq_of_perm _ _ (labels_perm reordered)]

/-! Kind and figures. -/

/-- The kind of a column by how many values it has, how many of them are finite numbers or read as
dates, and how many distinct labels. -/
def kindBy (values finite dates unique : Nat) : FieldKind :=
  if values = 0 then .nominal
  else if isMost finite values then .quantitative
  else if isMost dates values then .temporal
  else if unique ≤ ordinalLimit ∧ 2 * unique < values then .ordinal
  else .nominal

theorem kind_by_counts {cells : List Cell} {found : List Binary64}
    (read : numbers (present cells) = .ok found) :
    kindOf cells = .ok (kindBy (present cells).length found.length
      ((present cells).countP Cell.readsAsDate) (labels cells).toFinset.card) := by
  have counted := distinct_length (labels cells)
  unfold labels at counted
  unfold kindOf kindBy labels
  cases list : present cells with
  | nil => rfl
  | cons first rest =>
      rw [list] at read counted
      simp only [List.isEmpty_cons, Bool.false_eq_true, if_false, read, counted, bind, Except.bind,
        pure, Except.pure, List.length_cons, Nat.add_eq_zero_iff, Nat.one_ne_zero, and_false]
      split_ifs <;> rfl

theorem kind_numbers {cells : List Cell} {kind : FieldKind} (told : kindOf cells = .ok kind) :
    ∃ found, numbers (present cells) = .ok found := by
  rcases fails_or_returns (numbers (present cells)) with fails | returns
  · obtain ⟨cell, member, large⟩ := (numbers_fail_iff _).mp fails
    have failed := (kind_fails_iff cells).mpr ⟨cell, (List.mem_filter.mp member).1, large⟩
    rw [failed] at told
    cases told
  · exact returns

theorem kind_perm {cells others : List Cell} {kind : FieldKind} (reordered : cells.Perm others)
    (told : kindOf cells = .ok kind) : kindOf others = .ok kind := by
  have present := present_perm reordered
  obtain ⟨found, read⟩ := kind_numbers told
  obtain ⟨again, reread, same⟩ := numbers_perm present read
  rw [kind_by_counts read] at told
  rw [kind_by_counts reread, ← told, present.length_eq, same.length_eq, present.countP_eq,
    unique_perm reordered]

/-- Two numbers of the same value, or none on both sides. The zeros are of the same value. -/
def SameNumber : Option Binary64 → Option Binary64 → Prop :=
  Option.Rel fun x y => x.same y = true

theorem foremost_perm {score : Binary64 → ℚ} {pick : List Binary64 → Option Binary64}
    (finds : FindsForemost score pick)
    (telling : ∀ x y : Binary64, score x = score y → x.amount = y.amount)
    {found others : List Binary64} (reordered : found.Perm others)
    (finite : ∀ x ∈ found, x.isFinite = true) : SameNumber (pick found) (pick others) := by
  by_cases empty : found = []
  · subst empty
    obtain rfl := reordered.nil_eq
    rw [finds.nothing]
    exact .none
  · have finiteOthers (x : Binary64) (member : x ∈ others) : x.isFinite = true :=
      finite x (reordered.mem_iff.mpr member)
    have filled : others ≠ [] := fun none => empty (none ▸ reordered).eq_nil
    obtain ⟨best, picked, foremost⟩ := finds.found found finite empty
    obtain ⟨other, repicked, again⟩ := finds.found others finiteOthers filled
    have below := foremost.bounds other (reordered.mem_iff.mpr again.attained)
    have above := again.bounds best (reordered.mem_iff.mp foremost.attained)
    rw [picked, repicked]
    refine .some ?_
    rw [Binary64.same_amount_iff (finite best foremost.attained)
      (finiteOthers other again.attained)]
    exact telling best other (le_antisymm below above)

/-- Two fields of one kind, with the same figures: gaps, distinct values, extremes and how often the
most frequent values occur, each in its place. -/
structure SameFigures (field other : DataField) : Prop where
  kind : field.kind = other.kind
  gaps : field.stats.nullCount = other.stats.nullCount
  unique : field.stats.uniqueCount = other.stats.uniqueCount
  min : SameNumber field.stats.min other.stats.min
  max : SameNumber field.stats.max other.stats.max
  tops : field.stats.topValues.map (·.map (·.count)) = other.stats.topValues.map (·.map (·.count))

theorem stats_perm {cells others : List Cell} {kind : FieldKind} {stats : FieldStats}
    (name : String) (reordered : cells.Perm others) (told : kindOf cells = .ok kind)
    (returned : statsOf cells kind = .ok stats) :
    ∃ again, statsOf others kind = .ok again ∧
      SameFigures { name, kind, stats } { name, kind, stats := again } := by
  have small : ¬∃ cell ∈ others, cell.IsTooLarge := by
    rw [← kind_fails_iff, kind_perm reordered told]
    simp
  obtain ⟨again, returns⟩ := stats_return others kind small
  have before := stats_figures returned
  have after := stats_figures returns
  have same := labels_perm reordered
  have spread : SameNumber stats.min again.min ∧ SameNumber stats.max again.max := by
    by_cases quantitative : kind = .quantitative
    · obtain ⟨found, read, min, max⟩ := before.spread quantitative
      obtain ⟨refound, reread, min', max'⟩ := after.spread quantitative
      obtain ⟨listed, relisted, equal⟩ := numbers_perm (present_perm reordered) read
      cases reread.symm.trans relisted
      rw [min, max, min', max']
      have finite := numbers_finite read
      exact ⟨foremost_perm least_foremost (fun _ _ => id) equal finite,
        foremost_perm greatest_foremost (fun _ _ => neg_inj.mp) equal finite⟩
    · obtain ⟨min, max⟩ := before.unspread quantitative
      obtain ⟨min', max'⟩ := after.unspread quantitative
      rw [min, max, min', max']
      exact ⟨.none, .none⟩
  have tops : stats.topValues.map (·.map (·.count)) = again.topValues.map (·.map (·.count)) := by
    have filled : labels cells = [] ↔ labels others = [] := by
      rw [← List.length_eq_zero_iff, ← List.length_eq_zero_iff, same.length_eq]
    by_cases lists : ListsValues kind ∧ labels cells ≠ []
    · rw [before.listed lists.1 lists.2, after.listed lists.1 (mt filled.mpr lists.2),
        Option.map_some, Option.map_some, top_counts_perm same]
    · rw [before.unlisted lists, after.unlisted fun both => lists ⟨both.1, mt filled.mp both.2⟩]
  refine ⟨again, returns, rfl, ?_, ?_, spread.1, spread.2, tops⟩
  · rw [before.gaps, after.gaps, reordered.length_eq, (present_perm reordered).length_eq]
  · rw [before.unique, after.unique, unique_perm reordered]

/-! Fields and rows. -/

section Fields
variable {coerce : Coercion}

theorem field_parts {records : List (List (String × Cell))} {name : String} {field : DataField} :
    fieldOf coerce records name = .ok field ↔
      ∃ cells kind stats, coerce (columnOf records name) = .ok cells ∧
        kindOf cells = .ok kind ∧ statsOf cells kind = .ok stats ∧
        field = { name, kind, stats } := by
  simp only [fieldOf, bind_eq_ok, pure, Except.pure, Except.ok.injEq]
  constructor
  · rintro ⟨cells, settles, kind, told, stats, returned, rfl⟩
    exact ⟨cells, kind, stats, settles, told, returned, rfl⟩
  · rintro ⟨cells, kind, stats, settles, told, returned, rfl⟩
    exact ⟨cells, settles, kind, told, stats, returned, rfl⟩

theorem field_alike {records others : List (List (String × Cell))} {name : String}
    {field : DataField} (alike : TakesAlike coerce (columnOf records name) (columnOf others name))
    (read : fieldOf coerce records name = .ok field) :
    ∃ again, fieldOf coerce others name = .ok again ∧ SameFigures field again := by
  obtain ⟨cells, kind, stats, settles, told, returned, rfl⟩ := field_parts.mp read
  obtain ⟨column, resettles, same⟩ := alike cells settles
  obtain ⟨again, returns, figures⟩ := stats_perm name same told returned
  exact ⟨_, field_parts.mpr ⟨column, kind, again, resettles, kind_perm same told, returns, rfl⟩,
    figures⟩

theorem column_names_perm {records others : List (List (String × Cell))}
    (reordered : records.Perm others) : (columnNames records).Perm (columnNames others) :=
  distinct_perm (reordered.flatMap_right _)

theorem column_names_nodup (records : List (List (String × Cell))) :
    (columnNames records).Nodup :=
  distinct_nodup _

/-- The fields have the names that were asked for, and each is the one of its name. -/
theorem fields_named {records : List (List (String × Cell))} {names : List String}
    {fields : List DataField} (read : names.mapM (fieldOf coerce records) = .ok fields) :
    fields.map (·.name) = names ∧
      ∀ field ∈ fields, fieldOf coerce records field.name = .ok field := by
  induction names generalizing fields with
  | nil =>
      cases read
      simp
  | cons name rest ih =>
      obtain ⟨first, others, here, later, rfl⟩ := each_cons.mp read
      obtain ⟨named, each⟩ := ih later
      obtain ⟨_, _, _, _, _, _, rfl⟩ := field_parts.mp here
      refine ⟨congrArg _ named, ?_⟩
      intro field member
      rcases List.mem_cons.mp member with rfl | inside
      · exact here
      · exact each field inside

theorem sample_perm {rows others : List Row} (reordered : rows.Perm others)
    (few : rows.length ≤ sampleSize) : (sample rows).Perm (sample others) := by
  unfold sample
  rw [List.take_of_length_le few, List.take_of_length_le (reordered.length_eq ▸ few)]
  exact reordered.filterMap _

def RowsAlike (coerce : Coercion) (rows others : List Row) : Prop :=
  ∀ name ∈ columnNames (sample rows),
    TakesAlike coerce (columnOf (sample rows) name) (columnOf (sample others) name)

theorem inferred_alike {rows others : List Row} (sampled : (sample rows).Perm (sample others))
    (alike : RowsAlike coerce rows others) {fields : List DataField}
    (inferred : inferFieldsBy coerce rows = .ok fields) :
    ∃ again, inferFieldsBy coerce others = .ok again := by
  rcases fails_or_returns (inferFieldsBy coerce others) with fails | returns
  · obtain ⟨name, member, failed⟩ := (each_fails_iff _ _).mp fails
    have here : name ∈ columnNames (sample rows) := (column_names_perm sampled).mem_iff.mpr member
    obtain ⟨names, each⟩ := fields_named inferred
    rw [← names] at here
    obtain ⟨field, inside, rfl⟩ := List.mem_map.mp here
    obtain ⟨again, reread, -⟩ := field_alike (alike field.name (by rwa [names] at here))
      (each field inside)
    rw [failed] at reread
    cases reread
  · exact returns

/-- What rows have in common with the same rows in another order: fields of the same names, and
under each name of the same kind and figures. -/
theorem figures_alike {rows others : List Row} (sampled : (sample rows).Perm (sample others))
    (alike : RowsAlike coerce rows others) {fields again : List DataField}
    (inferred : inferFieldsBy coerce rows = .ok fields)
    (reinferred : inferFieldsBy coerce others = .ok again) :
    (fields.map (·.name)).Perm (again.map (·.name)) ∧ (fields.map (·.name)).Nodup ∧
      ∀ field ∈ fields, ∀ other ∈ again, field.name = other.name → SameFigures field other := by
  obtain ⟨names, each⟩ := fields_named inferred
  obtain ⟨renames, reeach⟩ := fields_named reinferred
  rw [names, renames]
  refine ⟨column_names_perm sampled, column_names_nodup _, ?_⟩
  intro field here other there same
  have named : field.name ∈ columnNames (sample rows) := by
    rw [← names]
    exact List.mem_map_of_mem here
  obtain ⟨found, read, figures⟩ := field_alike (alike field.name named) (each field here)
  rw [same, reeach other there] at read
  cases read
  exact figures

end Fields

def Follows (coerce : Coercion) (rows : List Row) : Prop :=
  ∀ name ∈ columnNames (sample rows),
    coerce (columnOf (sample rows) name) = documented (columnOf (sample rows) name)

theorem settled_follows {rows : List Row}
    (small : ∀ cells ∈ sample rows, ∀ name n, (name, .value (.int n)) ∈ cells →
      -Int.pow 2 63 ≤ n ∧ n < Int.pow 2 63) : Follows settled rows := by
  intro name _
  apply settled_documented
  intro n inside
  obtain ⟨cells, member, found⟩ := List.mem_map.mp inside
  obtain ⟨before, after, rfl, _⟩ := List.lookup_eq_some_iff.mp found
  exact small _ member name n (by simp)

theorem follows_alike {coerce : Coercion} {rows others : List Row}
    (sampled : (sample rows).Perm (sample others)) (first : Follows coerce rows)
    (second : Follows coerce others) : RowsAlike coerce rows others := by
  intro name member cells settles
  rw [first name member] at settles
  rw [second name ((column_names_perm sampled).mem_iff.mp member)]
  exact documented_perm (sampled.map _) cells settles

/-- The order of at most a hundred rows does not matter to the fields inferred from them, whatever
the coercion, as long as it does with their columns what is documented: they have the same names,
each once, and the same kind and figures under each name. If the fields cannot be inferred in one
order, they cannot in any other. -/
theorem row_order_immaterial (coerce : Coercion) (rows others : List Row)
    (reordered : rows.Perm others) (few : rows.length ≤ 100) (first : Follows coerce rows)
    (second : Follows coerce others) :
    (inferFieldsBy coerce rows = .error .integerTooLarge ↔
        inferFieldsBy coerce others = .error .integerTooLarge) ∧
      ∀ fields again, inferFieldsBy coerce rows = .ok fields →
        inferFieldsBy coerce others = .ok again →
        (fields.map (·.name)).Perm (again.map (·.name)) ∧ (fields.map (·.name)).Nodup ∧
        ∀ field ∈ fields, ∀ other ∈ again, field.name = other.name → SameFigures field other := by
  have sampled := sample_perm reordered few
  have alike := follows_alike sampled first second
  have back := follows_alike sampled.symm second first
  refine ⟨?_, fun fields again => figures_alike sampled alike⟩
  constructor
  · intro fails
    rcases fails_or_returns (inferFieldsBy coerce others) with failed | ⟨again, returned⟩
    · exact failed
    · obtain ⟨fields, returns⟩ := inferred_alike sampled.symm back returned
      rw [fails] at returns
      cases returns
  · intro fails
    rcases fails_or_returns (inferFieldsBy coerce rows) with failed | ⟨fields, returned⟩
    · exact failed
    · obtain ⟨again, returns⟩ := inferred_alike sampled alike returned
      rw [fails] at returns
      cases returns

def gappedRows : List Row :=
  [.record [("Sales", .value (.int 3)), ("Region", .value (.text "West"))],
   .record [("Region", .value (.text "East")), ("Sales", .value (.float (.finite false 3 0)))],
   .record [("Region", .value (.text "East"))], .stray]

theorem gapped_rows_follow : Follows settled gappedRows ∧ Follows settled gappedRows.reverse := by
  constructor <;>
  · apply settled_follows
    intro cells member name n inside
    have three : n = 3 := by
      simp [gappedRows, sample, sampleSize] at member
      rcases member with rfl | rfl | rfl <;> simp at inside
      exact inside.2
    subst three
    decide

theorem gapped_rows_reversed :
    Follows settled gappedRows ∧ Follows settled gappedRows.reverse ∧
    ∃ fields again, inferFieldsBy settled gappedRows = .ok fields ∧
      inferFieldsBy settled gappedRows.reverse = .ok again ∧
      fields.map (·.name) = ["Sales", "Region"] ∧ again.map (·.name) = ["Region", "Sales"] ∧
      ∀ field ∈ fields, ∀ other ∈ again, field.name = other.name → SameFigures field other := by
  obtain ⟨first, second⟩ := gapped_rows_follow
  obtain ⟨fields, inferred⟩ : ∃ fields, inferFieldsBy settled gappedRows = .ok fields := ⟨_, rfl⟩
  obtain ⟨again, reinferred⟩ : ∃ fields, inferFieldsBy settled gappedRows.reverse = .ok fields :=
    ⟨_, rfl⟩
  obtain ⟨_, _, same⟩ := (row_order_immaterial settled gappedRows gappedRows.reverse
    (List.reverse_perm _).symm (by decide) first second).2 fields again inferred reinferred
  exact ⟨first, second, fields, again, inferred, reinferred, (fields_named inferred).1,
    (fields_named reinferred).1, same⟩

end Table
end Chartwright
