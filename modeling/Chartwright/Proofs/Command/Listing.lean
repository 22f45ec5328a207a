import Chartwright.Proofs.Command.Title
import Chartwright.Proofs.Command.Word

/-!
Lists of values with their colors, as in "west blue, east red and north teal". Such a list is cut
at its commas and at the word between its entries, if that word is none of the values and colors
themselves. No list is taken for a title: behind a color there is a comma, that word or the end.
-/

namespace Chartwright
open Text Pattern

namespace Series

/-- A value and its color, as they are typed. -/
structure Entry where
  value : List Char
  color : List Char
  deriving DecidableEq, Repr

/-- What stands between two entries. -/
inductive Joint
  | comma
  | and
  deriving DecidableEq, Repr

def Joint.text : Joint → List Char
  | .comma => [',', ' ']
  | .and => [' ', 'a', 'n', 'd', ' ']

/-- The entries behind the first one, each with what stands before it. -/
abbrev Others := List (Joint × Entry)

def following : Others → List Char
  | [] => []
  | (joint, next) :: rest => joint.text ++ (next.value ++ ' ' :: (next.color ++ following rest))

def Entry.text (entry : Entry) : List Char := entry.value ++ ' ' :: entry.color

def listing (first : Entry) (others : Others) : List Char :=
  first.value ++ ' ' :: (first.color ++ following others)

theorem listing_eq (first : Entry) (others : Others) :
    listing first others = first.text ++ following others := by
  simp [listing, Entry.text]

theorem following_cons (joint : Joint) (next : Entry) (rest : Others) :
    following ((joint, next) :: rest) = joint.text ++ listing next rest := rfl

/-- What holds of the characters of the entries and of the joints holds of those of the list. -/
theorem listing_all {holds : Char → Prop} {first : Entry} {others : Others}
    (joints : ∀ c ∈ [',', ' ', 'a', 'n', 'd'], holds c)
    (here : ∀ c ∈ first.text, holds c) (later : ∀ other ∈ others, ∀ c ∈ other.2.text, holds c) :
    ∀ c ∈ listing first others, holds c := by
  induction others generalizing first with
  | nil =>
      intro c inside
      rw [listing_eq, following, List.append_nil] at inside
      exact here c inside
  | cons other rest ih =>
      obtain ⟨joint, next⟩ := other
      obtain ⟨there, later⟩ := List.forall_mem_cons.mp later
      have between : ∀ c ∈ joint.text, c ∈ [',', ' ', 'a', 'n', 'd'] := by
        cases joint <;> simp [Joint.text]
      intro c inside
      rw [listing_eq, following_cons] at inside
      rcases List.mem_append.mp inside with entry | inside
      · exact here c entry
      rcases List.mem_append.mp inside with joint | list
      · exact joints c (between c joint)
      · exact ih there later c list

theorem length_others (first : Entry) (others : Others) :
    others.length ≤ (listing first others).length := by
  induction others generalizing first with
  | nil => exact Nat.zero_le _
  | cons other rest ih =>
      obtain ⟨joint, next⟩ := other
      have later := ih next
      simp only [listing, following_cons, List.length_append, List.length_cons] at later ⊢
      omega

/-- What a list may be made of: texts without white space and commas. -/
structure IsPart (text : List Char) : Prop where
  some_ : text ≠ []
  solid : ∀ c ∈ text, isBlank c = false
  commaless : ',' ∉ text
  /-- This word would be taken for a joint. -/
  other : text ≠ ['a', 'n', 'd']

structure Entry.IsParts (entry : Entry) : Prop where
  value : IsPart entry.value
  color : IsPart entry.color

section Parts
variable {text : List Char} (part : IsPart text)
include part

theorem part_head (rest : List Char) : ∀ c ∈ (text ++ rest).head?, isBlank c = false ∧ c ≠ ',' := by
  obtain ⟨d, later, rfl⟩ := List.exists_cons_of_ne_nil part.some_
  rintro c ⟨⟩
  exact ⟨part.solid d List.mem_cons_self, fun same => part.commaless (by simp [same])⟩

theorem part_suffix {ahead : List Char} (suffix : ahead <:+ text) :
    (∀ c ∈ ahead, isBlank c = false) ∧ ',' ∉ ahead :=
  ⟨fun c inside => part.solid c (suffix.subset inside),
    fun inside => part.commaless (suffix.subset inside)⟩

end Parts

theorem listing_last {first : Entry} {others : Others} (parts : first.IsParts)
    (all : ∀ other ∈ others, other.2.IsParts) :
    ∀ c ∈ (listing first others).getLast?, isBlank c = false := by
  induction others generalizing first with
  | nil =>
      intro c last
      have color := parts.color.some_
      rw [listing_eq, following, List.append_nil, Entry.text, List.getLast?_append,
        List.getLast?_cons_of_ne_nil color, List.getLast?_eq_some_getLast color,
        Option.some_or] at last
      exact parts.color.solid c (Option.some.inj last ▸ List.getLast_mem color)
  | cons other rest ih =>
      obtain ⟨joint, next⟩ := other
      obtain ⟨here, later⟩ := List.forall_mem_cons.mp all
      have some_ : listing next rest ≠ [] := by simp [listing]
      rw [listing_eq, following_cons, List.getLast?_append, List.getLast?_append,
        List.getLast?_eq_some_getLast some_, Option.some_or, Option.some_or,
        ← List.getLast?_eq_some_getLast some_]
      exact ih here later

theorem listing_tight {first : Entry} {others : Others} (parts : first.IsParts)
    (all : ∀ other ∈ others, other.2.IsParts) : Tight (listing first others) :=
  ⟨fun c head => (part_head parts.value _ c head).1, listing_last parts all⟩

theorem text_tight {entry : Entry} (parts : entry.IsParts) : Tight entry.text := by
  have tight : Tight (listing entry []) := listing_tight parts (by simp)
  rwa [listing_eq, following, List.append_nil] at tight

section Words
variable {word : List Char} (solid : ∀ c ∈ word, isBlank c = false)
include solid

theorem comma_word (next : Entry) (rest : Others) :
    firstWord (word ++ following ((.comma, next) :: rest)) = word ++ [','] := by
  have signs : isBlank ',' = false ∧ isBlank ' ' = true := by decide
  rw [firstWord_append solid, following_cons]
  simp [Joint.text, firstWord, signs]

theorem and_word (next : Entry) (rest : Others) :
    nextWord (word ++ following ((.and, next) :: rest)) =
      'a' :: 'n' :: 'd' :: ' ' :: listing next rest := by
  have gap : ∀ c ∈ [' '], isBlank c = true := List.forall_mem_singleton.mpr (by decide)
  have stops : ∀ c ∈ some 'a', isBlank c = false := by
    rintro c ⟨⟩
    decide
  exact nextWord_append solid gap (by exact stops) (by simp)

end Words

/-! No list is taken for a title. -/

section Titles
variable {first : Entry} (parts : first.IsParts) (others : Others)
include parts

theorem value_unopened {ahead : List Char} (suffix : ahead <:+ first.value) :
    ¬Title.Opens (ahead ++ ' ' :: (first.color ++ following others)) := by
  intro opens
  have gap : ∀ c ∈ [' '], isBlank c = true := List.forall_mem_singleton.mpr (by decide)
  have next : nextWord (ahead ++ ' ' :: (first.color ++ following others)) =
      first.color ++ following others :=
    nextWord_append (part_suffix parts.value suffix).1 gap
      (fun c head => (part_head parts.color _ c head).1) (by simp)
  obtain ⟨-, second, third⟩ := opens
  rw [next] at second third
  -- Behind the value stands the color, and the title would have to follow it.
  rcases others with _ | ⟨⟨_ | _, next⟩, rest⟩
  · rw [following, List.append_nil, nextWord_solid parts.color.solid] at third
    cases third
  · rw [comma_word parts.color.solid, List.map_append] at second
    have inside : ',' ∈ first.color.map plainLetter ++ [','].map plainLetter := by
      have same : plainLetter ',' = ',' := by decide
      simp [same]
    have apart : ∀ word ∈ ["the".toList, "title".toList], ',' ∉ word := by decide
    exact apart _ second inside
  · rw [and_word parts.color.solid] at third
    exact absurd third (by simp only [List.head?_cons, Option.map_some]; decide)

theorem color_unopened {ahead : List Char} (suffix : ahead <:+ first.color) :
    ¬Title.Opens (ahead ++ following others) := by
  obtain ⟨solid, -⟩ := part_suffix parts.color suffix
  rintro ⟨set, second, -⟩
  -- The end, a comma that goes with the color, or the word between entries.
  rcases others with _ | ⟨⟨_ | _, next⟩, rest⟩
  · rw [following, List.append_nil, nextWord_solid solid] at second
    exact absurd second (by decide)
  · rw [comma_word solid, List.map_append] at set
    have inside : ',' ∈ ahead.map plainLetter ++ [','].map plainLetter := by
      have same : plainLetter ',' = ',' := by decide
      simp [same]
    rw [set] at inside
    exact absurd inside (by decide)
  · have word : firstWord ('a' :: 'n' :: 'd' :: ' ' :: listing next rest) = ['a', 'n', 'd'] := by
      have solids : isBlank 'a' = false ∧ isBlank 'n' = false ∧ isBlank 'd' = false ∧
        isBlank ' ' = true := by decide
      simp [firstWord, solids]
    rw [and_word solid, word] at second
    exact absurd second (by decide)

theorem entry_untitled
    (later : ∀ behind, searchFrom Title.pattern behind (following others) = none)
    (behind : Option Char) : searchFrom Title.pattern behind (listing first others) = none := by
  have vain {behind : Option Char} {text : List Char} (unopened : ¬Title.Opens text) :
      first? Title.pattern ⟨behind, text⟩ = none :=
    first?_none_iff.mpr fun title after found => unopened (Title.found_opens found)
  refine search_from_passes (fun behind ahead suffix _ => vain ?_) _ ?_
  · exact value_unopened parts others suffix
  refine @Title.search_past [' '] _ (by decide) _ ?_
  refine search_from_passes (fun behind ahead suffix _ => vain ?_) _ (later _)
  exact color_unopened parts others suffix

end Titles

theorem listing_untitled {first : Entry} {others : Others} (parts : first.IsParts)
    (all : ∀ other ∈ others, other.2.IsParts) (behind : Option Char) :
    searchFrom Title.pattern behind (listing first others) = none := by
  -- By induction on the entries behind the first; in the joints there is no s.
  induction others generalizing first behind with
  | nil => exact entry_untitled parts [] Title.search_nothing behind
  | cons other rest ih =>
      obtain ⟨joint, next⟩ := other
      obtain ⟨here, later⟩ := List.forall_mem_cons.mp all
      have letters : 's' ∉ joint.text.map plainLetter := by cases joint <;> decide
      exact entry_untitled parts _ (fun _ => Title.search_past letters _ (ih here later _)) behind

/-! A list is cut into its entries. -/

/-- What separates begins with white space or a comma, and goes on with a comma or the word. -/
theorem separator_begins {place after : Place} {value : Unit}
    (found : Finds Phrase.listSeparator place value after) :
    (∀ c ∈ place.ahead.head?, isBlank c = true ∨ c = ',') ∧
      ((place.ahead.dropWhile isBlank).head? = some ',' ∨
        firstWord (place.ahead.dropWhile isBlank) = ['a', 'n', 'd']) := by
  rcases either_finds.mp found with comma | word
  · obtain ⟨_, between, skipped, found⟩ := bind_finds.mp comma
    obtain ⟨_, later, sign, _⟩ := bind_finds.mp found
    obtain ⟨gap, ⟨ahead, -⟩, blank, -⟩ := skip_finds skipped
    have spelled : ",".toList = [','] := by decide
    have solid : isBlank ',' = false := by decide
    rw [exactly_finds sign, spelled] at ahead
    rw [ahead, List.dropWhile_append_of_pos blank]
    refine ⟨fun c head => ?_, .inl (by simp [solid])⟩
    cases gap with
    | nil => exact .inr (Option.some.inj head).symm
    | cons d gap => exact .inl (Option.some.inj head ▸ blank d List.mem_cons_self)
  · obtain ⟨_, between, skipped, found⟩ := bind_finds.mp word
    obtain ⟨_, later, worded, found⟩ := bind_finds.mp found
    obtain ⟨c, gap, ahead, first, blank, -⟩ := blanks1_finds skipped
    obtain ⟨d, _, behind, last, -⟩ := blanks1_finds found
    have spelled : "and".toList = ['a', 'n', 'd'] := by decide
    have solid : isBlank 'a' = false ∧ isBlank 'n' = false ∧ isBlank 'd' = false := by decide
    rw [exactly_finds worded, spelled, behind] at ahead
    rw [ahead]
    refine ⟨fun e head => .inl (Option.some.inj head ▸ first), .inr ?_⟩
    rw [List.dropWhile_append_of_pos (by simpa [first] using blank)]
    simp [firstWord, solid, last]

theorem joint_separates (joint : Joint) {next : Entry} (parts : next.IsParts) (rest : Others)
    (behind : Option Char) :
    first? Phrase.listSeparator ⟨behind, joint.text ++ listing next rest⟩ =
      some ((), ⟨some ' ', listing next rest⟩) := by
  have stops : ∀ c ∈ (listing next rest).head?, isBlank c = false :=
    fun c head => (part_head parts.value _ c head).1
  have blank : isBlank ' ' = true := by decide
  cases joint with
  | comma =>
      have gap : ∀ c ∈ [' '], isBlank c = true := List.forall_mem_singleton.mpr blank
      exact first?_either (first?_bind rfl (first?_bind rfl (first?_skip gap stops (some ','))))
  | and =>
      refine (first?_second rfl).trans ?_
      have spaced : first? blanks1 ⟨behind, ' ' :: 'a' :: 'n' :: 'd' :: ' ' :: listing next rest⟩ =
          some ((), ⟨some ' ', 'a' :: 'n' :: 'd' :: ' ' :: listing next rest⟩) := rfl
      exact first?_bind spaced (first?_bind rfl (first?_blanks1 blank stops _))

theorem part_uncut {text ahead : List Char} (part : IsPart text) (suffix : ahead <:+ text)
    (more : ahead ≠ []) (behind : Option Char) (rest : List Char) :
    first? Phrase.listSeparator ⟨behind, ahead ++ rest⟩ = none := by
  refine first?_none_iff.mpr fun _ after found => ?_
  obtain ⟨c, later, rfl⟩ := List.exists_cons_of_ne_nil more
  obtain ⟨solid, commaless⟩ := part_suffix part suffix
  rcases (separator_begins found).1 c rfl with blank | rfl
  · rw [solid c List.mem_cons_self] at blank
    cases blank
  · exact commaless List.mem_cons_self

section Cuts
variable {first : Entry} (parts : first.IsParts) (others : Others) (behind : Option Char)
include parts

theorem gap_uncut :
    first? Phrase.listSeparator ⟨behind, ' ' :: (first.color ++ following others)⟩ = none := by
  have blank : isBlank ' ' = true := by decide
  have color : (' ' :: (first.color ++ following others)).dropWhile isBlank =
      first.color ++ following others := by
    rw [List.dropWhile_cons_of_pos blank]
    exact drop_none fun c head => (part_head parts.color _ c head).1
  refine first?_none_iff.mpr fun _ after found => ?_
  have begins := (separator_begins found).2
  rw [color] at begins
  rcases begins with comma | word
  · exact (part_head parts.color _ _ comma).2 rfl
  have signs : isBlank ',' = false ∧ isBlank ' ' = true := by decide
  rcases others with _ | ⟨⟨_ | _, next⟩, rest⟩
  · rw [firstWord_append parts.color.solid] at word
    exact parts.color.other (by simpa [following, firstWord] using word)
  · rw [comma_word parts.color.solid] at word
    have inside : ',' ∈ ['a', 'n', 'd'] := by simp [← word]
    exact absurd inside (by decide)
  · rw [firstWord_append parts.color.solid] at word
    exact parts.color.other (by simpa [following, Joint.text, firstWord, signs] using word)

/-- No separator begins in an entry. -/
theorem entry_uncut {ahead : List Char} (suffix : ahead <:+ first.text) (more : ahead ≠ []) :
    first? Phrase.listSeparator ⟨behind, ahead ++ following others⟩ = none := by
  obtain ⟨front, split⟩ := suffix
  -- An end of the entry begins in its value, at the gap, or in its color.
  rcases List.append_eq_append_iff.mp split with ⟨value, whole, rfl⟩ | ⟨taken, -, rest⟩
  · rw [List.append_assoc, List.cons_append]
    by_cases none_ : value = []
    · subst none_
      exact gap_uncut parts others behind
    · exact part_uncut parts.value ⟨front, whole.symm⟩ none_ behind _
  · cases taken with
    | nil =>
        obtain rfl : ahead = ' ' :: first.color := rest.symm
        exact gap_uncut parts others behind
    | cons c taken =>
        have color : first.color = taken ++ ahead := (List.cons.inj rest).2
        exact part_uncut parts.color ⟨taken, color.symm⟩ more behind _

end Cuts

/-- A list is cut into the texts of its entries. -/
theorem listing_pieces {first : Entry} {others : Others} (parts : first.IsParts)
    (all : ∀ other ∈ others, other.2.IsParts) :
    pieces Phrase.listSeparator (listing first others) =
      first.text :: others.map fun other => other.2.text := by
  -- As many cuts as there are joints are enough.
  suffices cut : ∀ (behind : Option Char) (count : Nat), others.length ≤ count →
      piecesFrom Phrase.listSeparator behind (listing first others) count =
        first.text :: others.map fun other => other.2.text from
    cut none _ (length_others first others)
  induction others generalizing first with
  | nil =>
      intro behind count _
      have whole : searchFrom Phrase.listSeparator behind (listing first []) = none := by
        rw [listing_eq]
        exact search_from_passes (fun behind ahead suffix more =>
          entry_uncut parts [] behind suffix more) behind rfl
      have alone : listing first [] = first.text := by
        rw [listing_eq, following, List.append_nil]
      cases count with
      | zero => exact congrArg ([·]) alone
      | succ count =>
          rw [piecesFrom, whole]
          exact congrArg ([·]) alone
  | cons other rest ih =>
      intro behind count enough
      obtain ⟨joint, next⟩ := other
      obtain ⟨here, later⟩ := List.forall_mem_cons.mp all
      cases count with
      | zero => cases enough
      | succ count =>
          have front : searchFrom Phrase.listSeparator behind
              (listing first ((joint, next) :: rest)) =
                some ⟨first.text, (), ⟨some ' ', listing next rest⟩⟩ := by
            rw [listing_eq]
            exact search_from_reaches (fun behind ahead suffix more =>
              entry_uncut parts _ behind suffix more) behind (joint_separates joint here rest _)
          rw [piecesFrom, front]
          exact congrArg (first.text :: ·) (ih here later _ count (Nat.le_of_succ_le_succ enough))

/-! The list stands behind a command to make it, if it does not begin like one for the chart. -/

/-- The command to make a list of values of their colors. -/
def making (first : Entry) (others : Others) : List Char :=
  'm' :: 'a' :: 'k' :: 'e' :: ' ' :: listing first others

section Making
variable {first : Entry} (parts : first.IsParts) (others : Others)
  (word : ∀ c ∈ first.value, isWordChar c = true) {place after : Place}
  (ahead : place.ahead = listing first others)

include word ahead

theorem made_word {text : List Char} (beyond : place.Beyond text after)
    (edge : Finds boundary after () after) (some_ : text ≠ [])
    (letters : ∀ c ∈ text, isWordChar c = true) : text = first.value := by
  have stops : ∀ c ∈ some ' ', isWordChar c = false := by
    rintro c ⟨⟩
    decide
  exact word_at_edge beyond edge some_ letters ahead word (by exact stops)

theorem not_it (apart : first.value ≠ "it".toList) (value : Unit) :
    ¬Finds (do exactly "it"; boundary) place value after := by
  intro found
  obtain ⟨_, between, worded, edge⟩ := bind_finds.mp found
  have same : after = between := (here_finds.mp edge).2
  rw [same] at edge
  have letters : ∀ c ∈ "it".toList, isWordChar c = true := List.all_eq_true.mp (by decide)
  exact apart (made_word others word ahead (exactly_beyond worded) edge (by decide) letters).symm

theorem not_an (apart : first.value ∉ ["a".toList, "an".toList]) (value : Unit) :
    ¬Finds (do exactly "a"; let _ ← optional (exactly "n"); boundary) place value after := by
  intro found
  obtain ⟨_, between, worded, found⟩ := bind_finds.mp found
  obtain ⟨_, last, more, edge⟩ := bind_finds.mp found
  have same : after = last := (here_finds.mp edge).2
  rw [same] at edge
  rcases optional_finds more with ⟨_, more⟩ | rfl
  · have beyond := (exactly_beyond worded).trans (exactly_beyond more)
    have letters : ∀ c ∈ "a".toList ++ "n".toList, isWordChar c = true :=
      List.all_eq_true.mp (by decide)
    have whole := made_word others word ahead beyond edge (by decide) letters
    exact apart (by rw [← whole]; decide)
  · have letters : ∀ c ∈ "a".toList, isWordChar c = true := List.all_eq_true.mp (by decide)
    have whole := made_word others word ahead (exactly_beyond worded) edge (by decide) letters
    exact apart (by rw [← whole]; decide)

include parts

omit word in
theorem not_the_chart
    (shade : (∀ c ∈ first.color, isWordChar c = true) ∨ first.color.head? = some '#')
    (apart : ¬(first.value = "the".toList ∧ first.color = "chart".toList)) (value : Unit) :
    ¬Finds (do step "the"; exactly "chart"; boundary) place value after := by
  intro found
  obtain ⟨_, between, the, found⟩ := bind_finds.mp found
  obtain ⟨_, last, chart, edge⟩ := bind_finds.mp found
  have same : after = last := (here_finds.mp edge).2
  rw [same] at edge
  obtain ⟨value, next⟩ := step_words (by decide) the
  have gap : ∀ c ∈ [], isBlank c = true := by simp
  have stops : ∀ c ∈ (first.color ++ following others).head?, isBlank c = false :=
    fun c head => (part_head parts.color _ c head).1
  obtain ⟨firstWord, nextWord⟩ := words_append parts.value.solid (by decide : isBlank ' ' = true)
    gap stops
  rw [ahead] at value next
  have spelled : listing first others =
      first.value ++ (' ' :: [] ++ (first.color ++ following others)) := rfl
  rw [spelled, firstWord] at value
  rw [spelled, nextWord] at next
  refine apart ⟨value, ?_⟩
  rcases shade with plain | code
  · have letters : ∀ c ∈ "chart".toList, isWordChar c = true := List.all_eq_true.mp (by decide)
    have ends : ∀ c ∈ (following others).head?, isWordChar c = false := by
      rcases others with _ | ⟨⟨_ | _, _⟩, rest⟩
      · simp [following]
      · rintro c ⟨⟩
        decide
      · rintro c ⟨⟩
        decide
    exact (word_at_edge (exactly_beyond chart) edge (by decide) letters next plain ends).symm
  · obtain ⟨digits, color⟩ := List.head?_eq_some_iff.mp code
    have spelled := exactly_finds chart
    rw [next, color] at spelled
    exact absurd (List.cons.inj spelled).1 (by decide)

end Making

/-- All behind the command is the list. -/
theorem make_found {first : Entry} {others : Others} (parts : first.IsParts)
    (all : ∀ other ∈ others, other.2.IsParts) (word : ∀ c ∈ first.value, isWordChar c = true)
    (named : first.value ∉ ["it".toList, "a".toList, "an".toList])
    (shade : (∀ c ∈ first.color, isWordChar c = true) ∨ first.color.head? = some '#')
    (other : ¬(first.value = "the".toList ∧ first.color = "chart".toList)) :
    find? Phrase.makePattern (making first others) = some (listing first others) := by
  have line {entry : Entry} (parts : entry.IsParts) : ∀ c ∈ entry.text, notNewline c = true := by
    intro c inside
    rw [notNewline, bne_iff_ne]
    rintro rfl
    rcases List.mem_append.mp inside with value | color
    · exact absurd (parts.value.solid _ value) (by decide)
    · rcases List.mem_cons.mp color with gap | color
      · exact absurd gap (by decide)
      · exact absurd (parts.color.solid _ color) (by decide)
  have joints : ∀ c ∈ [',', ' ', 'a', 'n', 'd'], notNewline c = true :=
    List.all_eq_true.mp (by decide)
  have oneLine := listing_all joints (line parts) fun other inside => line (all other inside)
  have edge : (none.any isWordChar != (some 'm').any isWordChar) = true := by decide
  have gap : ∀ c ∈ [], isBlank c = true := by simp
  have stops : ∀ c ∈ (listing first others).head?, isBlank c = false :=
    fun c head => (part_head parts.value _ c head).1
  have spaced : first? yieldingBlanks1 ⟨some 'e', ' ' :: listing first others⟩ =
      some ((), ⟨some ' ', listing first others⟩) :=
    first?_bind (first?_one (by decide) _ _) (first?_yieldingBlanks gap stops _)
  have run := first?_run1 oneLine (by simp : ∀ c ∈ [].head?, notNewline c = false) (some ' ')
    (by simp [listing])
  rw [List.append_nil] at run
  simp only [List.mem_cons, List.not_mem_nil, or_false, not_or] at named
  apply find?_start
  refine first?_bind (first?_boundary edge) ?_
  refine first?_bind rfl ?_
  refine first?_bind spaced ?_
  refine first?_bind (first?_notAhead fun value after => not_it others word rfl named.1 value) ?_
  refine first?_bind (first?_notAhead fun value after => not_an others word rfl ?_ value) ?_
  · simpa using named.2
  refine first?_bind (first?_notAhead fun value after => ?_) run
  exact not_the_chart parts others rfl shade other value

end Series
end Chartwright
