import Chartwright.Proofs.Command.Title
import Chartwright.Proofs.Text.Case

/-!
Numbers in commands. The phrases for ranks and sizes take runs of digits for numbers, and a run of
too many digits breaks off the planning. Nothing else does, so a command without that many digits
always has a plan.
-/

namespace Chartwright
open Text Pattern

section Steps
variable {ε α β : Type} {first : Except ε α} {next : α → Except ε β}

theorem bind_fails_iff {fails : Prop}
    (second : ∀ value, (∃ cause, next value = .error cause) ↔ fails) :
    (∃ cause, first >>= next = .error cause) ↔ (∃ cause, first = .error cause) ∨ fails := by
  cases first with
  | error cause => simp [bind, Except.bind]
  | ok value => simpa [bind, Except.bind] using second value

theorem bind_pure_fails_iff {change : α → β} :
    (∃ cause, (first >>= fun value => pure (change value)) = .error cause) ↔
      ∃ cause, first = .error cause := by
  cases first <;> simp [bind, Except.bind, pure, Except.pure]

theorem map_fails_iff {change : α → β} :
    (∃ cause, first.map change = .error cause) ↔ ∃ cause, first = .error cause := by
  cases first <;> simp [Except.map]

end Steps

theorem Numeral.natural_fails_iff (digits : List Char) :
    (∃ cause, natural digits = .error cause) ↔ digitLimit < digits.length := by
  unfold natural
  split <;> simp [*]

namespace Phrase

theorem pixels_fails_iff (length : Option (List Char)) :
    (∃ cause, pixels length = .error cause) ↔
      ∃ digits ∈ length, Numeral.digitLimit < digits.length := by
  cases length with
  | none => simp [pixels]
  | some digits =>
      simp only [Option.mem_some_iff, exists_eq_left', ← Numeral.natural_fails_iff]
      cases number : Numeral.natural digits <;>
        simp [pixels, number, Except.map, pure, Except.pure, bind, Except.bind]

/-- The digits that a phrase takes for the number of rows to keep. -/
def count? (text : List Char) : Option (List Char) := (find? topPattern text).map (·.2.1)

/-- The runs of digits that the phrases take for numbers. -/
def numerals (text : List Char) : List (List Char) :=
  (count? text).toList ++ (lengths text).1.toList ++ (lengths text).2.toList

theorem top_fails_iff (wording : Wording) :
    (∃ cause, topN wording = .error cause) ↔
      ∃ digits ∈ count? wording.lowered, Numeral.digitLimit < digits.length := by
  unfold topN count?
  cases find? topPattern wording.lowered with
  | none => simp
  | some found => simp [map_fails_iff, Numeral.natural_fails_iff]

theorem size_fails_iff (wording : Wording) :
    (∃ cause, size wording = .error cause) ↔
      (∃ digits ∈ (lengths wording.lowered).1, Numeral.digitLimit < digits.length) ∨
        ∃ digits ∈ (lengths wording.lowered).2, Numeral.digitLimit < digits.length := by
  rw [← pixels_fails_iff, ← pixels_fails_iff]
  exact bind_fails_iff fun width => bind_pure_fails_iff

theorem all_fail_iff (wording : Wording) :
    (∃ phrase ∈ all, ∃ cause, phrase wording = .error cause) ↔
      ∃ digits ∈ numerals wording.lowered, Numeral.digitLimit < digits.length := by
  have still (reader : Reader) : ¬∃ cause, ofReader reader wording = .error cause := by
    rintro ⟨cause, fails⟩
    cases fails
  simp only [all, List.mem_cons, List.not_mem_nil, or_false, exists_eq_or_imp, exists_eq_left,
    still, false_or, top_fails_iff, size_fails_iff, Option.mem_def]
  simp only [numerals, List.mem_append, Option.mem_toList, or_and_right, exists_or, or_assoc]

/-! The digits that are read stand in the text, so there are no more of them than in the text. -/

theorem digits_within {place after : Place} {digits text : List Char}
    (found : Finds digits1 place digits after) (within : place.ahead <:+ text) :
    digits.length ≤ text.countP isDigit := by
  obtain ⟨⟨ahead, -⟩, all, -⟩ := run1_finds found
  have counted : digits.length ≤ place.ahead.countP isDigit := by
    rw [ahead, List.countP_append, List.countP_eq_length.mpr all]
    exact Nat.le_add_right _ _
  exact Nat.le_trans counted within.sublist.countP_le

theorem count_within {text digits : List Char} (counted : count? text = some digits) :
    digits.length ≤ text.countP isDigit := by
  obtain ⟨⟨side, count, field⟩, finds, rfl⟩ := Option.map_eq_some_iff.mp counted
  obtain ⟨place, after, found, within⟩ := find?_finds finds
  obtain ⟨_, edge, atEdge, found⟩ := rest_finds (here_advances _) found
  obtain ⟨_, worded, atWord, found⟩ := rest_finds (one_of_advances _) found
  obtain ⟨_, spaced, atSpace, found⟩ := rest_finds blanks1_advances found
  obtain ⟨number, _, run, found⟩ := bind_finds.mp found
  obtain ⟨_, _, _, found⟩ := bind_finds.mp found
  obtain ⟨same, -⟩ := pure_finds.mp found
  cases same
  exact digits_within run (((atSpace.trans atWord).trans atEdge).trans within)

theorem length_within {dimension : String} {text digits : List Char}
    (finds : find? (lengthPattern dimension) text = some digits) :
    digits.length ≤ text.countP isDigit := by
  obtain ⟨place, after, found, within⟩ := find?_finds finds
  obtain ⟨_, edge, atEdge, found⟩ := rest_finds (here_advances _) found
  obtain ⟨_, named, atName, found⟩ := rest_finds (step_advances _) found
  obtain ⟨_, worded, atWord, found⟩ := rest_finds
    (optional_advances (either_advances (step_advances _) (step_advances _))) found
  obtain ⟨number, _, run, found⟩ := bind_finds.mp found
  obtain ⟨_, _, _, found⟩ := bind_finds.mp found
  obtain ⟨rfl, -⟩ := pure_finds.mp found
  exact digits_within run (((atWord.trans atName).trans atEdge).trans within)

theorem size_within {text width height : List Char}
    (finds : find? sizePattern text = some (width, height)) :
    width.length ≤ text.countP isDigit ∧ height.length ≤ text.countP isDigit := by
  obtain ⟨place, after, found, within⟩ := find?_finds finds
  obtain ⟨_, edge, atEdge, found⟩ := rest_finds (here_advances _) found
  obtain ⟨_, named, atName, found⟩ := rest_finds (step_advances _) found
  obtain ⟨_, worded, atWord, found⟩ := rest_finds (maybe_advances _) found
  obtain ⟨first, crossed, run, found⟩ := bind_finds.mp found
  obtain ⟨_, spaced, atSpace, found⟩ := rest_finds (skip_advances _) found
  obtain ⟨_, cross, atCross, found⟩ := rest_finds (one_advances _) found
  obtain ⟨_, behind, atBehind, found⟩ := rest_finds (skip_advances _) found
  obtain ⟨second, _, later, found⟩ := bind_finds.mp found
  obtain ⟨_, _, _, found⟩ := bind_finds.mp found
  obtain ⟨same, -⟩ := pure_finds.mp found
  cases same
  have start := ((atWord.trans atName).trans atEdge).trans within
  have middle := (run1_advances _ _ _ _ run).trans start
  exact ⟨digits_within run start,
    digits_within later (((atBehind.trans atCross).trans atSpace).trans middle)⟩

theorem lengths_within (text : List Char) :
    (∀ width ∈ (lengths text).1, width.length ≤ text.countP isDigit) ∧
      ∀ height ∈ (lengths text).2, height.length ≤ text.countP isDigit := by
  unfold lengths
  cases sized : find? sizePattern text with
  | none => exact ⟨fun width finds => length_within finds, fun height finds => length_within finds⟩
  | some sizes =>
      obtain ⟨width, height⟩ := sizes
      obtain ⟨wide, high⟩ := size_within sized
      refine ⟨?_, ?_⟩
      · rintro digits ⟨⟩
        exact wide
      · rintro digits ⟨⟩
        exact high

theorem numerals_within {text digits : List Char} (read : digits ∈ numerals text) :
    digits.length ≤ text.countP isDigit := by
  simp only [numerals, List.mem_append, Option.mem_toList] at read
  rcases read with (counted | width) | height
  · exact count_within counted
  · exact (lengths_within text).1 digits width
  · exact (lengths_within text).2 digits height

end Phrase

/-! A command loses characters on the way to the phrases, and gains no digits. -/

namespace Command

theorem wording_digits (command : String) (names : List String) :
    (wordingOf command names).lowered.countP isDigit ≤ command.toList.countP isDigit :=
  Nat.le_trans (lower_digits _)
    ((Title.split_sublist _).trans (trim_sublist _)).countP_le

theorem findings_fail_iff (wording : Wording) (phrases : List Phrase) :
    (∃ cause, findings wording phrases = .error cause) ↔
      ∃ phrase ∈ phrases, ∃ cause, phrase wording = .error cause := by
  induction phrases with
  | nil => simp [findings]
  | cons phrase rest ih =>
      rw [List.exists_mem_cons_iff, ← ih]
      exact bind_fails_iff fun operation => bind_pure_fails_iff

theorem plan_fails_iff (command : String) (names : List String) :
    (∃ cause, plan command names = .error cause) ↔
      ∃ digits ∈ Phrase.numerals (wordingOf command names).lowered,
        Numeral.digitLimit < digits.length := by
  unfold plan
  rw [map_fails_iff, operations_eq, map_fails_iff, ← Phrase.all_fail_iff, ← findings_fail_iff]
  exact map_fails_iff

theorem plan_made_iff (command : String) (names : List String) :
    (∃ made, plan command names = .ok made) ↔
      ∀ digits ∈ Phrase.numerals (wordingOf command names).lowered,
        digits.length ≤ Numeral.digitLimit := by
  have fails := plan_fails_iff command names
  cases planned : plan command names with
  | ok made =>
      simp only [planned, reduceCtorEq, exists_false, false_iff, not_exists, not_and,
        Nat.not_lt] at fails
      simpa using fails
  | error cause =>
      obtain ⟨digits, read, long⟩ := fails.mp ⟨cause, planned⟩
      refine iff_of_false (by simp) fun few => ?_
      exact absurd (few digits read) (Nat.not_le.mpr long)

theorem plan_of_few_digits {command : String}
    (few : command.toList.countP isDigit ≤ Numeral.digitLimit) (names : List String) :
    ∃ made, plan command names = .ok made := by
  refine (plan_made_iff command names).mpr fun digits read => ?_
  have within := Phrase.numerals_within read
  have worded := wording_digits command names
  omega

/-! A command to keep as many rows as some digits say is taken for just that, however many digits
there are. -/

def digitChars : List Char := "0123456789".toList

/-- The command "top" with a number of rows. -/
def rankText (digits : List Char) : List Char := 't' :: 'o' :: 'p' :: ' ' :: digits

def rankChars : List Char := rankText digitChars

-- Tested over the list, since a quantifier over characters may be decided by testing them all.
theorem digit_chars_plain : ∀ c ∈ digitChars, isDigit c = true ∧ isBlank c = false := by
  have each : digitChars.all (fun c => isDigit c && !isBlank c) = true := by decide +kernel
  intro c inside
  simpa using List.all_eq_true.mp each c inside

theorem rank_chars_plain : ∀ c ∈ rankChars,
    c.toNat < 128 ∧ c.toLower = c ∧ plainLetter c ≠ 's' := by
  have each : rankChars.all (fun c => decide (c.toNat < 128) && c.toLower == c &&
      plainLetter c != 's') = true := by decide +kernel
  intro c inside
  have plain := List.all_eq_true.mp each c inside
  simp only [Bool.and_eq_true, decide_eq_true_eq, beq_iff_eq, bne_iff_ne] at plain
  exact ⟨plain.1.1, plain.1.2, plain.2⟩

theorem rank_lower {text : List Char} (plain : ∀ c ∈ text, c ∈ rankChars) : lower text = text := by
  rw [lower_ascii fun c inside => (rank_chars_plain c (plain c inside)).1]
  refine (List.map_congr_left fun c inside => ?_).trans (List.map_id text)
  exact (rank_chars_plain c (plain c inside)).2.1

theorem rank_untitled {text : List Char} (plain : ∀ c ∈ text, c ∈ rankChars) :
    Title.split text = (none, text) := by
  unfold Title.split
  cases finds : search Title.pattern text with
  | none => rfl
  | some found =>
      -- A title would need a word with an s.
      obtain ⟨place, here, split⟩ := search_from_finds finds
      obtain ⟨c, head, letter⟩ := Option.map_eq_some_iff.mp (Title.found_words here).1
      have inside : c ∈ text := by
        rw [split]
        exact List.mem_append_right _ (List.mem_of_mem_head? head)
      exact absurd letter (rank_chars_plain c (plain c inside)).2.2

section Rank
variable {first : Char} {others : List Char}

theorem rank_trim (numeric : ∀ c ∈ first :: others, c ∈ digitChars) :
    trim (rankText (first :: others)) = rankText (first :: others) := by
  have start : isBlank 't' = false := by decide
  refine trim_tight ⟨?_, fun c last => ?_⟩
  · rintro c ⟨⟩
    exact start
  · have inside : c ∈ first :: others := by
      simp only [rankText, List.getLast?_cons_cons] at last
      exact List.mem_of_getLast? last
    exact (digit_chars_plain c (numeric c inside)).2

/-- Behind the edge of a word a rank is found with all its digits. -/
theorem rank_first (numeric : ∀ c ∈ first :: others, c ∈ digitChars) {behind : Option Char}
    (edge : behind.any isWordChar = false) : ∃ after,
      first? Phrase.topPattern ⟨behind, rankText (first :: others)⟩ =
        some (("top", first :: others, none), after) := by
  have all : ∀ c ∈ first :: others, isDigit c = true :=
    fun c inside => (digit_chars_plain c (numeric c inside)).1
  have solid : isBlank first = false :=
    (digit_chars_plain first (numeric first List.mem_cons_self)).2
  have stops : ∀ c ∈ (first :: others).head?, isBlank c = false := by
    rintro c ⟨⟩
    exact solid
  have start : (behind.any isWordChar != (some 't').any isWordChar) = true := by
    rw [edge]
    decide
  have gap : first? blanks1 ⟨some 'p', ' ' :: first :: others⟩ =
      some ((), ⟨some ' ', first :: others⟩) := first?_blanks1 (by decide) stops _
  have run : first? Phrase.digits1 ⟨some ' ', first :: others ++ []⟩ = _ :=
    first?_run1 all (by simp) _ (by simp)
  rw [List.append_nil] at run
  exact ⟨_, first?_bind (first?_boundary start)
    (first?_bind rfl (first?_bind gap (first?_bind run (first?_bind rfl rfl))))⟩

theorem rank_found (numeric : ∀ c ∈ first :: others, c ∈ digitChars) :
    find? Phrase.topPattern (rankText (first :: others)) =
      some ("top", first :: others, none) := by
  have edge : (none : Option Char).any isWordChar = false := rfl
  obtain ⟨after, found⟩ := rank_first numeric edge
  exact find?_start found

end Rank

/-- A rank of more digits than a number may have breaks off the planning. -/
theorem long_rank_fails {digits : List Char} (numeric : ∀ c ∈ digits, c ∈ digitChars)
    (long : Numeral.digitLimit < digits.length) (names : List String) :
    ∃ cause, plan (String.ofList (rankText digits)) names = .error cause := by
  have plain : ∀ c ∈ rankText digits, c ∈ rankChars := by
    intro c inside
    simp only [rankText, rankChars, List.mem_cons] at inside ⊢
    rcases inside with rfl | rfl | rfl | rfl | digit
    · simp
    · simp
    · simp
    · simp
    · simp [numeric c digit]
  cases digits with
  | nil => cases long
  | cons first others =>
      have lowered : (wordingOf (String.ofList (rankText (first :: others))) names).lowered =
          rankText (first :: others) := by
        rw [wordingOf, String.toList_ofList, rank_trim numeric, rank_untitled plain]
        exact rank_lower plain
      rw [plan_fails_iff, lowered]
      refine ⟨first :: others, ?_, long⟩
      simp [Phrase.numerals, Phrase.count?, rank_found numeric]

end Command
end Chartwright
