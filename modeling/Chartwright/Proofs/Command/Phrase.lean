import Chartwright.Command.Planner
import Chartwright.Proofs.Edit.Reference
import Chartwright.Proofs.Table.Inference

/-!
What the phrases of a command find. Each makes operations of one kind, of which the title is none. A
phrase names a field only as far as it resolves to one of the names given, and leaves the kind of
the field to the data. What is typed for no field is at most sorted by.
-/

namespace Chartwright
open Text Pattern

namespace Phrase

/-- An operation of a kind that names no field but those of a wording. -/
def Fits (wording : Wording) (kind : OperationKind) (operation : Operation) : Prop :=
  operation.kind = kind ∧ operation.Refers wording.names

/-- All operations of a reader are of one kind, and the fields that they name are among those of the
wording. -/
def Reader.Makes (kind : OperationKind) (reader : Reader) : Prop :=
  ∀ wording, ∀ operation ∈ reader wording, Fits wording kind operation

def Makes (kind : OperationKind) (phrase : Phrase) : Prop :=
  ∀ wording operation, phrase wording = .ok (some operation) → Fits wording kind operation

theorem reader_makes {kind : OperationKind} {reader : Reader} (makes : reader.Makes kind) :
    Makes kind (ofReader reader) :=
  fun wording operation found => makes wording operation (Except.ok.inj found)

theorem encoded_channel {α : Type} (found : Option α) (wording : Wording) (channel : α → Channel)
    (reference : α → List Char) :
    ∀ operation ∈ found.bind fun value => encode wording (channel value) (reference value),
      ∃ value ∈ found, ∃ field, wording.field? (reference value) = some field ∧
        operation = .setEncoding (channel value) field none none := by
  intro operation encoded
  obtain ⟨value, there, encoded⟩ := Option.bind_eq_some_iff.mp encoded
  obtain ⟨field, resolved, rfl⟩ := Option.map_eq_some_iff.mp encoded
  exact ⟨value, there, field, resolved, rfl⟩

theorem encoded_fits {α : Type} (found : Option α) (wording : Wording) (channel : α → Channel)
    (reference : α → List Char) :
    ∀ operation ∈ found.bind fun value => encode wording (channel value) (reference value),
      Fits wording .setEncoding operation := by
  intro operation encoded
  obtain ⟨_, _, field, resolved, rfl⟩ :=
    encoded_channel found wording channel reference operation encoded
  exact ⟨rfl, Reference.resolve_known resolved, rfl, rfl⟩

section Made
variable {α β : Type} {holds : Operation → Prop}

theorem made_holds (found : Option α) {make : α → Operation}
    (each : ∀ value, holds (make value)) : ∀ operation ∈ found.map make, holds operation := by
  intro operation made
  obtain ⟨value, _, rfl⟩ := Option.map_eq_some_iff.mp made
  exact each value

/-- The same where something of what was found has to be looked up. -/
theorem looked_holds (found : Option α) (look : α → Option β) {make : α → β → Operation}
    (each : ∀ value known, holds (make value known)) :
    ∀ operation ∈ found.bind fun value => (look value).bind fun known => some (make value known),
      holds operation := by
  intro operation made
  obtain ⟨value, _, made⟩ := Option.bind_eq_some_iff.mp made
  obtain ⟨known, _, made⟩ := Option.bind_eq_some_iff.mp made
  obtain rfl := Option.some.inj made
  exact each value known

end Made

theorem mark_makes : Reader.Makes .setMark mark := fun _ => made_holds _ fun _ => ⟨rfl, trivial⟩

theorem color_by_makes : Reader.Makes .setEncoding colorBy := fun wording =>
  encoded_fits _ wording (fun _ => .color) id

theorem series_colors_makes : Reader.Makes .setSeriesColors seriesColors := by
  intro wording operation found
  obtain ⟨list, _, colored⟩ := Option.bind_eq_some_iff.mp found
  simp only at colored
  split at colored
  · cases colored
  · cases colored
    exact ⟨rfl, trivial⟩

theorem top_makes : Makes .setTopN topN := by
  intro wording operation found
  unfold topN at found
  split at found
  · cases found
  · obtain ⟨n, _, ranked⟩ := map_eq_ok.mp found
    split at ranked
    · cases ranked
    · cases ranked
      refine ⟨rfl, fun name chosen => ?_⟩
      obtain ⟨reference, _, resolved⟩ := Option.bind_eq_some_iff.mp chosen
      exact Reference.resolve_known resolved

theorem sort_makes : Reader.Makes .setSort sort := by
  intro wording operation found
  unfold sort at found
  split at found
  · cases found
    exact ⟨rfl, trivial⟩
  · exact made_holds _ (fun found => ⟨rfl, trivial⟩) operation found

theorem use_as_color_makes : Reader.Makes .setEncoding useAsColor := fun wording =>
  encoded_fits _ wording (fun _ => .color) id

theorem scheme_makes : Reader.Makes .setColorScheme scheme := fun _ =>
  made_holds _ fun _ => ⟨rfl, trivial⟩

theorem axis_makes : Reader.Makes .setEncoding axis := fun wording =>
  encoded_fits (find? axisPattern wording.lowered) wording (fun found => found.2.channel)
    fun found => found.1

theorem size_by_makes : Reader.Makes .setEncoding sizeBy := fun wording =>
  encoded_fits _ wording (fun _ => .size) id

theorem remove_makes : Reader.Makes .removeEncoding remove := fun _ =>
  made_holds _ fun _ => ⟨rfl, trivial⟩

theorem aggregate_makes : Reader.Makes .setAggregate aggregate := fun wording =>
  looked_holds (find? aggregatePattern wording.lowered)
    (fun found => aggregateWords.lookup found.1) fun _ _ => ⟨rfl, trivial⟩

theorem filter_makes : Reader.Makes .addFilter filter := fun wording =>
  looked_holds (find? filterPattern wording.text) (fun found => wording.field? found.1)
    fun _ _ => ⟨rfl, trivial⟩

theorem size_makes : Makes .setSize size := by
  intro wording operation found
  obtain ⟨width, _, found⟩ := bind_eq_ok.mp found
  obtain ⟨height, _, found⟩ := bind_eq_ok.mp found
  obtain ⟨_, sized⟩ := Option.ite_none_left_eq_some.mp (Except.ok.inj found)
  obtain rfl := Option.some.inj sized
  exact ⟨rfl, trivial⟩

def kinds : List (OperationKind × Phrase) :=
  [(.setMark, ofReader mark), (.setEncoding, ofReader colorBy),
   (.setSeriesColors, ofReader seriesColors), (.setTopN, topN), (.setSort, ofReader sort),
   (.setEncoding, ofReader useAsColor), (.setColorScheme, ofReader scheme),
   (.setEncoding, ofReader axis), (.setEncoding, ofReader sizeBy),
   (.removeEncoding, ofReader remove), (.setAggregate, ofReader aggregate),
   (.addFilter, ofReader filter), (.setSize, size)]

theorem kinds_make : ∀ entry ∈ kinds, Makes entry.1 entry.2 := by
  intro entry listed
  simp only [kinds, List.mem_cons, List.not_mem_nil, or_false] at listed
  rcases listed with rfl | rfl | rfl | rfl | rfl | rfl | rfl | rfl | rfl | rfl | rfl | rfl | rfl
  · exact reader_makes mark_makes
  · exact reader_makes color_by_makes
  · exact reader_makes series_colors_makes
  · exact top_makes
  · exact reader_makes sort_makes
  · exact reader_makes use_as_color_makes
  · exact reader_makes scheme_makes
  · exact reader_makes axis_makes
  · exact reader_makes size_by_makes
  · exact reader_makes remove_makes
  · exact reader_makes aggregate_makes
  · exact reader_makes filter_makes
  · exact size_makes

theorem all_eq : all = kinds.map (·.2) := rfl

def otherKinds : List OperationKind :=
  [.setMark, .setEncoding, .removeEncoding, .setSeriesColors, .setColorScheme, .setTopN, .setSort,
   .setAggregate, .setSize]

theorem all_make :
    ∀ phrase ∈ all, phrase = ofReader filter ∨ ∃ kind ∈ otherKinds, Makes kind phrase := by
  intro phrase listed
  rw [all_eq] at listed
  obtain ⟨⟨kind, _⟩, there, rfl⟩ := List.mem_map.mp listed
  have kindly : ∀ kind ∈ kinds.map (·.1), kind = .addFilter ∨ kind ∈ otherKinds := by decide
  rcases kindly kind (List.mem_map_of_mem there) with rfl | other
  · refine .inl ?_
    simpa [kinds] using there
  · exact .inr ⟨kind, other, kinds_make _ there⟩

variable {phrase : Phrase} {wording : Wording} {operation : Operation}

/-- What is found tells by its kind which phrases may have found it. -/
theorem found_kind (listed : phrase ∈ all) (found : phrase wording = .ok (some operation)) :
    (operation.kind, phrase) ∈ kinds := by
  rw [all_eq] at listed
  obtain ⟨⟨kind, _⟩, there, rfl⟩ := List.mem_map.mp listed
  obtain ⟨rfl, -⟩ := kinds_make _ there wording operation found
  exact there

/-- Whatever finds a filter is the phrase for it, and whatever a phrase finds is no title. -/
theorem found_fits (listed : phrase ∈ all) (found : phrase wording = .ok (some operation)) :
    operation.Refers wording.names ∧ operation.kind ≠ .setTitle ∧
      (operation.kind = .addFilter → filter wording = some operation) := by
  rcases all_make phrase listed with rfl | ⟨kind, other, makes⟩
  · obtain ⟨same, refers⟩ := reader_makes filter_makes wording operation found
    refine ⟨refers, ?_, fun _ => Except.ok.inj found⟩
    rw [same]
    decide
  · obtain ⟨rfl, refers⟩ := makes wording operation found
    refine ⟨refers, ?_, ?_⟩
    · intro titled
      rw [titled] at other
      exact absurd other (by decide)
    · intro filters
      rw [filters] at other
      exact absurd other (by decide)

end Phrase

namespace Command
variable {wording : Wording} {phrases : List Phrase} {found : List Operation}
  {operation : Operation}

theorem findings_mem (finds : findings wording phrases = .ok found) :
    operation ∈ found ↔ ∃ phrase ∈ phrases, phrase wording = .ok (some operation) := by
  induction phrases generalizing found with
  | nil =>
      cases finds
      simp
  | cons phrase rest ih =>
      obtain ⟨here, first, finds⟩ := bind_eq_ok.mp finds
      obtain ⟨others, later, finds⟩ := bind_eq_ok.mp finds
      obtain rfl := Except.ok.inj finds
      rw [List.mem_append, ih later, Option.mem_toList, List.exists_mem_cons_iff, first,
        Except.ok.injEq]

theorem findings_append {front back : List Phrase} {found : List Operation}
    (finds : findings wording (front ++ back) = .ok found) :
    ∃ before after, findings wording front = .ok before ∧ findings wording back = .ok after ∧
      found = before ++ after := by
  induction front generalizing found with
  | nil => exact ⟨[], found, rfl, finds, rfl⟩
  | cons phrase rest ih =>
      obtain ⟨here, first, finds⟩ := bind_eq_ok.mp finds
      obtain ⟨others, later, finds⟩ := bind_eq_ok.mp finds
      obtain rfl := Except.ok.inj finds
      obtain ⟨before, after, front, back, rfl⟩ := ih later
      refine ⟨here.toList ++ before, after, ?_, back, (List.append_assoc _ _ _).symm⟩
      exact bind_eq_ok.mpr ⟨here, first, bind_eq_ok.mpr ⟨before, front, rfl⟩⟩

theorem findings_apart {entries : List (OperationKind × Phrase)} {kind : OperationKind}
    (within : entries ⊆ Phrase.kinds) (apart : kind ∉ entries.map (·.1))
    (finds : findings wording (entries.map (·.2)) = .ok found) :
    found.filter (fun operation => operation.kind = kind) = [] := by
  refine List.filter_eq_nil_iff.mpr fun operation inside same => ?_
  obtain ⟨phrase, listed, here⟩ := (findings_mem finds).mp inside
  obtain ⟨entry, there, rfl⟩ := List.mem_map.mp listed
  have made := (Phrase.kinds_make entry (within there) wording operation here).1
  rw [← of_decide_eq_true same, made] at apart
  exact apart (List.mem_map_of_mem there)

/-- All that a wording asks for is found by some phrase, unless it is the lines that were spoken
of. -/
theorem wording_mem (finds : wordingOperations wording = .ok found)
    (other : operation ≠ .setMark .line none) :
    operation ∈ found ↔ ∃ phrase ∈ Phrase.all, phrase wording = .ok (some operation) := by
  obtain ⟨listed, lists, rfl⟩ := map_eq_ok.mp finds
  rw [← findings_mem lists]
  split
  · rw [List.mem_append, List.mem_singleton, or_iff_left other]
  · rfl

theorem wording_refers (finds : wordingOperations wording = .ok found)
    (inside : operation ∈ found) :
    operation.Refers wording.names := by
  by_cases lines : operation = .setMark .line none
  · subst lines
    trivial
  · obtain ⟨phrase, listed, here⟩ := (wording_mem finds lines).mp inside
    exact (Phrase.found_fits listed here).1

theorem wording_untitled (finds : wordingOperations wording = .ok found) (title : String) :
    .setTitle title ∉ found := by
  intro inside
  obtain ⟨phrase, listed, here⟩ := (wording_mem finds (by simp)).mp inside
  exact (Phrase.found_fits listed here).2.1 rfl

def wordingOf (command : String) (names : List String) : Wording :=
  .of (Title.split (trim command.toList)).2 names

theorem operations_eq (command : String) (names : List String) :
    operations command names =
      (wordingOperations (wordingOf command names)).map fun found =>
        ((Title.split (trim command.toList)).1.map fun title =>
          Operation.setTitle (String.ofList title)).toList ++ found := rfl

section Alone
variable {kind : OperationKind} {phrase : Phrase} {front back : List (OperationKind × Phrase)}
  (split : Phrase.kinds = front ++ (kind, phrase) :: back) (before : kind ∉ front.map (·.1))
  (after : kind ∉ back.map (·.1)) (unmarked : kind ≠ .setMark)
include split before after unmarked

/-- If one phrase alone makes operations of a kind, a wording asks for at most one of them. -/
theorem wording_alone (finds : wordingOperations wording = .ok found) :
    ∃ operation, phrase wording = .ok operation ∧
      found.filter (fun operation => operation.kind = kind) = operation.toList := by
  obtain ⟨listed, lists, rfl⟩ := map_eq_ok.mp finds
  rw [Phrase.all_eq, split, List.map_append, List.map_cons] at lists
  obtain ⟨first, others, frontFinds, rest, rfl⟩ := findings_append lists
  obtain ⟨operation, here, rest⟩ := bind_eq_ok.mp rest
  obtain ⟨last, backFinds, rest⟩ := bind_eq_ok.mp rest
  obtain rfl := Except.ok.inj rest
  refine ⟨operation, here, ?_⟩
  have alone : (first ++ (operation.toList ++ last)).filter (fun other => other.kind = kind) =
      operation.toList := by
    have within : (kind, phrase) ∈ Phrase.kinds := by simp [split]
    have same : ∀ other ∈ operation.toList, decide (other.kind = kind) = true := by
      intro other found
      rw [Option.mem_toList.mp found] at here
      exact decide_eq_true (Phrase.kinds_make _ within wording other here).1
    rw [List.filter_append, List.filter_append, findings_apart (by simp [split]) before frontFinds,
      findings_apart (by simp [split]) after backFinds, List.filter_eq_self.mpr same,
      List.nil_append, List.append_nil]
  split
  · have lines : [Operation.setMark .line none].filter (fun other => other.kind = kind) = [] := by
      simp [Operation.kind, unmarked.symm]
    rw [List.filter_append, alone, lines, List.append_nil]
  · exact alone

theorem plan_alone {command : String} {names : List String} {made : Plan}
    (untitled : kind ≠ .setTitle) (planned : plan command names = .ok made) :
    ∃ operation, phrase (wordingOf command names) = .ok operation ∧
      made.operations.filter (fun operation => operation.kind = kind) = operation.toList := by
  obtain ⟨operations, finds, rfl⟩ := map_eq_ok.mp planned
  rw [operations_eq] at finds
  obtain ⟨found, worded, rfl⟩ := map_eq_ok.mp finds
  obtain ⟨operation, here, alone⟩ := wording_alone split before after unmarked worded
  refine ⟨operation, here, ?_⟩
  rw [List.filter_append, alone]
  cases (Title.split (trim command.toList)).1 with
  | none => rfl
  | some title => simp [Operation.kind, untitled.symm]

end Alone

/-- The fields that the operations of a plan name are among the names it was made for. -/
theorem plan_refers {command : String} {names : List String} {made : Plan}
    (planned : plan command names = .ok made) :
    ∀ operation ∈ made.operations, operation.Refers names := by
  obtain ⟨operations, finds, rfl⟩ := map_eq_ok.mp planned
  rw [operations_eq] at finds
  obtain ⟨found, worded, rfl⟩ := map_eq_ok.mp finds
  intro operation inside
  rcases List.mem_append.mp inside with titled | inside
  · obtain ⟨title, _, rfl⟩ := Option.map_eq_some_iff.mp (Option.mem_toList.mp titled)
    trivial
  · exact wording_refers worded inside

theorem plan_mem {command : String} {names : List String} {made : Plan}
    (planned : plan command names = .ok made) (untitled : operation.kind ≠ .setTitle)
    (unmarked : operation.kind ≠ .setMark) :
    operation ∈ made.operations ↔
      ∃ phrase ∈ Phrase.all, phrase (wordingOf command names) = .ok (some operation) := by
  obtain ⟨operations, finds, rfl⟩ := map_eq_ok.mp planned
  rw [operations_eq] at finds
  obtain ⟨found, worded, rfl⟩ := map_eq_ok.mp finds
  have other : operation ≠ .setMark .line none := fun lines => unmarked (congrArg _ lines)
  rw [← wording_mem worded other, List.mem_append, or_iff_right]
  intro titled
  obtain ⟨title, _, rfl⟩ := Option.map_eq_some_iff.mp (Option.mem_toList.mp titled)
  exact untitled rfl

theorem plan_filters {command : String} {names : List String} {made : Plan}
    (planned : plan command names = .ok made) (test : String) :
    .addFilter test ∈ made.operations ↔
      Phrase.filter (wordingOf command names) = some (.addFilter test) := by
  rw [plan_mem planned (by simp [Operation.kind]) (by simp [Operation.kind])]
  constructor
  · rintro ⟨phrase, listed, here⟩
    exact (Phrase.found_fits listed here).2.2 rfl
  · intro here
    exact ⟨Phrase.ofReader Phrase.filter, by simp [Phrase.all], congrArg Except.ok here⟩

end Command
end Chartwright
