import Chartwright.Proofs.Command.Phrase
import Chartwright.Proofs.Text.Pattern
import Mathlib.Data.Bool.AllAny

/-!
Titles in commands: which words a title needs, what is left of a command when its title is cut out,
and what becomes of a title in quotes. It is taken as it was typed, and no word of it is taken for a
phrase, if it has no apostrophe. An apostrophe counts as a quote: the title ends before it, and what
stands behind it is read like any other command.
-/

namespace Chartwright
open Text Pattern

namespace Title

/-- The first words of a text are like those before a title. -/
structure Opens (text : List Char) : Prop where
  set : (firstWord text).map plainLetter = "set".toList
  second : (firstWord (nextWord text)).map plainLetter ∈ ["the".toList, "title".toList]
  third : (nextWord (nextWord text)).head?.map plainLetter = some 't'

theorem found_opens {place after : Place} {title : List Char}
    (found : Finds pattern place title after) : Opens place.ahead := by
  obtain ⟨_, edge, start, fromEdge⟩ := bind_finds.mp found
  obtain ⟨-, rfl⟩ := here_finds.mp start
  obtain ⟨_, first, set, fromSet⟩ := bind_finds.mp fromEdge
  obtain ⟨_, second, the, fromThe⟩ := bind_finds.mp fromSet
  obtain ⟨_, third, titled, fromTitle⟩ := bind_finds.mp fromThe
  obtain ⟨_, _, led, _⟩ := bind_finds.mp fromTitle
  obtain ⟨setWord, atSecond⟩ := any_step_words (by decide) set
  obtain ⟨titleWord, atThird⟩ := any_step_words (by decide) titled
  rcases optional_finds the with ⟨_, the⟩ | rfl
  · obtain ⟨theWord, atTitle⟩ := any_step_words (by decide) the
    rw [atSecond] at theWord atTitle
    refine ⟨setWord, by simp [theWord], ?_⟩
    rw [← atTitle]
    exact any_step_head (by decide) titled
  · rw [atSecond] at titleWord atThird
    refine ⟨setWord, by simp [titleWord], ?_⟩
    rw [← atThird]
    obtain ⟨taken, ahead, looks⟩ := folded_finds led
    cases taken with
    | nil => exact absurd looks (by decide)
    | cons c taken =>
        rw [ahead]
        exact congrArg List.head? looks

theorem opens_letters {text : List Char} (opens : Opens text) :
    text.head?.map plainLetter = some 's' ∧
      (nextWord text).head?.map plainLetter = some 't' := by
  have first (text : List Char) {word : List Char}
      (starts : (firstWord text).map plainLetter = word) (some_ : word ≠ []) :
      text.head?.map plainLetter = word.head? := by
    subst starts
    cases text with
    | nil => exact absurd rfl some_
    | cons c rest =>
        cases blank : isBlank c with
        | true => simp [firstWord, blank] at some_
        | false => simp [firstWord, blank]
  refine ⟨first text opens.set (by decide), ?_⟩
  have second := opens.second
  simp only [List.mem_cons, List.not_mem_nil, or_false] at second
  rcases second with the | title
  · exact first _ the (by decide)
  · exact first _ title (by decide)

/-- A title needs a word with an s and a next one with a t. -/
theorem found_words {place after : Place} {title : List Char}
    (found : Finds pattern place title after) :
    place.ahead.head?.map plainLetter = some 's' ∧
      (nextWord place.ahead).head?.map plainLetter = some 't' := opens_letters (found_opens found)

theorem search_past {front rest : List Char} (none_ : 's' ∉ front.map plainLetter)
    (behind : Option Char) (later : searchFrom pattern (front.getLast?.or behind) rest = none) :
    searchFrom pattern behind (front ++ rest) = none := by
  refine search_from_passes (fun behind ahead suffix more => ?_) behind later
  refine first?_none_iff.mpr fun title after found => ?_
  obtain ⟨c, others, rfl⟩ := List.exists_cons_of_ne_nil more
  have letter := (found_words found).1
  rw [List.cons_append, List.head?_cons, Option.map_some, Option.some.injEq] at letter
  rw [← letter] at none_
  exact none_ (List.mem_map_of_mem (suffix.subset List.mem_cons_self))

theorem search_nothing (behind : Option Char) : searchFrom pattern behind [] = none := by
  have vain : first? pattern ⟨behind, []⟩ = none :=
    first?_none_iff.mpr fun title after found => nomatch (found_words found).1
  rw [searchFrom, vain, Option.map_none]

theorem pattern_elsewhere {behind other : Option Char}
    (same : behind.any isWordChar = other.any isWordChar) (text : List Char) :
    pattern ⟨behind, text⟩ = pattern ⟨other, text⟩ := by
  refine edged_elsewhere same ?_
  exact congrArg (Matches.flatMap _) (congrArg (Matches.flatMap _) (folded_elsewhere _ _ _ text))

/-! What is left of a command without its title is part of it. -/

theorem pattern_advances : Advances pattern := by
  refine bind_advances (here_advances _) fun _ => ?_
  refine bind_advances (any_step_advances _) fun _ => ?_
  refine bind_advances (optional_advances (any_step_advances _)) fun _ => ?_
  refine bind_advances (any_step_advances _) fun _ => ?_
  refine bind_advances (folded_advances _ _) fun _ => ?_
  refine bind_advances ?_ fun _ => ?_
  · exact bind_advances (one_advances _) fun _ => yielding_blanks_advances
  have quoted : Advances quote :=
    bind_advances (optional_advances (one_advances _)) fun _ => pure_advances _
  refine bind_advances quoted fun _ => ?_
  refine bind_advances (run1_advances _) fun _ => ?_
  exact bind_advances quoted fun _ => pure_advances _

theorem connective_advances : Advances connective := by
  refine either_advances (folded_advances _ _) ?_
  refine bind_advances (here_advances _) fun _ => ?_
  exact bind_advances (folded_advances _ _) fun _ => here_advances _

theorem leading_advances : Advances leading :=
  bind_advances
    (repeated_advances (bind_advances (skip_advances _) fun _ => connective_advances))
    fun _ => skip_advances _

theorem trailing_advances : Advances trailing := by
  refine bind_advances (skip_advances _) fun _ => ?_
  refine bind_advances ?_ fun _ => here_advances _
  exact repeated_advances (bind_advances connective_advances fun _ => skip_advances _)

theorem without_connectives_sublist (text : List Char) :
    (withoutConnectives text).Sublist text := by
  unfold withoutConnectives
  extract_lets rest
  have later : rest.ahead <:+ text := by
    cases first : first? leading (.start text) with
    | none =>
        simp only [rest, first]
        exact List.suffix_refl text
    | some found =>
        simp only [rest, first]
        exact leading_advances _ _ _ (first?_finds first)
  split
  · rename_i found finds
    exact (search_from_sublist trailing_advances finds).trans later.sublist
  · exact later.sublist

theorem split_sublist (text : List Char) : (split text).2.Sublist text := by
  unfold split
  cases finds : search pattern text with
  | none => exact List.Sublist.refl _
  | some found =>
      exact (without_connectives_sublist _).trans
        ((trim_sublist _).trans (search_from_sublist pattern_advances finds))

/-! Titles in quotes. -/

/-- A title stands between quotes and holds none. -/
theorem found_plain {place after : Place} {title : List Char}
    (found : Finds pattern place title after) : ∀ c ∈ title, isTitleChar c = true := by
  obtain ⟨_, _, _, found⟩ := bind_finds.mp found
  obtain ⟨_, _, _, found⟩ := bind_finds.mp found
  obtain ⟨_, _, _, found⟩ := bind_finds.mp found
  obtain ⟨_, _, _, found⟩ := bind_finds.mp found
  obtain ⟨_, _, _, found⟩ := bind_finds.mp found
  obtain ⟨_, _, _, found⟩ := bind_finds.mp found
  obtain ⟨_, _, _, found⟩ := bind_finds.mp found
  obtain ⟨run, _, taken, found⟩ := bind_finds.mp found
  obtain ⟨_, _, _, found⟩ := bind_finds.mp found
  obtain ⟨rfl, -⟩ := pure_finds.mp found
  exact (run1_finds taken).2.1

theorem split_plain {text title : List Char} (titled : (split text).1 = some title) :
    ∀ c ∈ title, isTitleChar c = true := by
  unfold split at titled
  cases finds : search pattern text with
  | none => simp [finds] at titled
  | some found =>
      simp only [finds, Option.some.injEq] at titled
      obtain ⟨place, here, -⟩ := search_from_finds finds
      intro c inside
      rw [← titled] at inside
      exact found_plain here c ((trim_sublist _).subset inside)

def opening (rest : List Char) : List Char :=
  "set".toList ++ ' ' :: ("the".toList ++ ' ' :: ("title".toList ++ ' ' ::
    ("to".toList ++ ' ' :: '"' :: rest)))

/-- A title in quotes ends before the next quote, of either kind. -/
theorem quoted_found {title : List Char} {mark : Char} (some_ : title ≠ [])
    (plain : ∀ c ∈ title, isTitleChar c = true) (closing : isQuote mark = true)
    (rest : List Char) :
    search pattern (opening (title ++ mark :: rest)) = some ⟨[], title, ⟨some mark, rest⟩⟩ := by
  have blank : isBlank ' ' = true := by decide
  have opened : isQuote '"' = true := by decide
  have none_ : ∀ c ∈ [], isBlank c = true := by simp
  have unblank : ∀ c ∈ some '"', isBlank c = false := by
    rintro c ⟨⟩
    decide
  have gap (behind : Option Char) (later : List Char) :
      first? yieldingBlanks1 ⟨behind, ' ' :: '"' :: later⟩ = some ((), ⟨some ' ', '"' :: later⟩) :=
    first?_bind (first?_one blank behind _) (first?_yieldingBlanks none_ (by exact unblank) _)
  have quoted {c : Char} (quoting : isQuote c = true) (behind : Option Char) (later : List Char) :
      first? quote ⟨behind, c :: later⟩ = some ((), ⟨some c, later⟩) :=
    first?_bind (first?_optional (first?_one quoting behind later)) rfl
  have letter : ∀ c ∈ some 't', isBlank c = false := by
    rintro c ⟨⟩
    decide
  have edge : (none.any isWordChar != (some 's').any isWordChar) = true := by decide
  apply search_start
  refine first?_bind (first?_boundary edge) ?_
  refine first?_bind (first?_anyStep (by decide) (by exact letter) _) ?_
  refine first?_bind (first?_optional (first?_anyStep (by decide) (by exact letter) _)) ?_
  refine first?_bind (first?_anyStep (by decide) (by exact letter) _) ?_
  refine first?_bind (first?_folded (by decide) _ _) ?_
  refine first?_bind (gap _ _) ?_
  refine first?_bind (quoted opened _ _) ?_
  refine first?_bind (first?_run1 plain (by simp [isTitleChar, closing]) _ some_) ?_
  exact first?_bind (quoted closing _ _) rfl

end Title

namespace Command

def titled (title : String) : String := "set the title to \"" ++ title ++ "\""

theorem titled_text (title : String) :
    trim (titled title).toList = Title.opening (title.toList ++ ['"']) := by
  have spelled : (titled title).toList = Title.opening (title.toList ++ ['"']) := by
    have words : "set the title to \"".toList = Title.opening [] := by decide
    have ends : "\"".toList = ['"'] := by decide
    unfold titled
    rw [String.toList_append, String.toList_append, words, ends]
    simp only [Title.opening, List.append_assoc, List.cons_append, List.nil_append]
  rw [spelled]
  have solid : isBlank 's' = false ∧ isBlank '"' = false := by decide
  refine trim_tight ⟨?_, ?_⟩
  · rintro c ⟨⟩
    exact solid.1
  · have last : (Title.opening (title.toList ++ ['"'])).getLast? = some '"' := by
      simp [Title.opening, List.getLast?_append, List.getLast?_cons]
    rw [last]
    rintro c ⟨⟩
    exact solid.2

/-- A title that ends before some quote leaves the text behind that quote to the phrases. -/
theorem titled_operations {title : String} {before after : List Char} {mark : Char}
    (split : title.toList ++ ['"'] = before ++ mark :: after) (some_ : before ≠ [])
    (plain : ∀ c ∈ before, Title.isTitleChar c = true) (closing : isQuote mark = true)
    (names : List String) :
    operations (titled title) names =
      (wordingOperations (.of (Title.withoutConnectives (trim after)) names)).map
        (.setTitle (String.ofList (trim before)) :: ·) := by
  have cut : Title.split (trim (titled title).toList) =
      (some (trim before), Title.withoutConnectives (trim after)) := by
    rw [titled_text, split, Title.split, Title.quoted_found some_ plain closing]
    rfl
  rw [operations_eq, wordingOf, cut]
  rfl

theorem silent_wording (names : List String) : wordingOperations (.of [] names) = .ok [] := by
  have nothing : findings (.of [] names) Phrase.all = .ok [] := rfl
  rw [wordingOperations, nothing]
  rfl

/-- A title that a plan sets is cut out of the command and holds no quote. -/
theorem planned_title {command title : String} {names : List String} {made : Plan}
    (planned : plan command names = .ok made) (sets : .setTitle title ∈ made.operations) :
    ∀ c ∈ title.toList, Title.isTitleChar c = true := by
  obtain ⟨operations, finds, rfl⟩ := map_eq_ok.mp planned
  rw [operations_eq] at finds
  obtain ⟨found, worded, rfl⟩ := map_eq_ok.mp finds
  rcases List.mem_append.mp sets with titled | inside
  · obtain ⟨text, cut, same⟩ := Option.map_eq_some_iff.mp (Option.mem_toList.mp titled)
    cases same
    rw [String.toList_ofList]
    exact Title.split_plain cut
  · exact absurd inside (wording_untitled worded title)

/-- A quoted title of one line is all that is found in the command, as it was typed but for the
white space around it, just if it has no apostrophe. With one the title ends before it, and the text
behind it is read for phrases. -/
theorem title_verbatim_iff (title : String) (names : List String) (some_ : title ≠ "")
    (line : ∀ c ∈ title.toList, c ≠ '"' ∧ c ≠ '\n') :
    ((∃ made, plan (titled title) names = .ok made ∧
        made.operations = [.setTitle (String.ofList (trim title.toList))]) ↔
      '\'' ∉ title.toList) ∧
    ∀ before after, title.toList = before ++ '\'' :: after → before ≠ [] → '\'' ∉ before →
      operations (titled title) names =
        (wordingOperations (.of (Title.withoutConnectives (trim (after ++ ['"']))) names)).map
          (.setTitle (String.ofList (trim before)) :: ·) := by
  have plain {text : List Char} (within : text ⊆ title.toList) (unmarked : '\'' ∉ text) :
      ∀ c ∈ text, Title.isTitleChar c = true := by
    intro c inside
    have apart : c ≠ '\'' := fun same => unmarked (same ▸ inside)
    simp [Title.isTitleChar, isQuote, apart, line c (within inside)]
  have closing : isQuote '"' = true ∧ isQuote '\'' = true := by decide
  refine ⟨⟨?_, ?_⟩, ?_⟩
  -- Whichever title is found, it has no apostrophe, also when it begins further on in the text.
  · rintro ⟨made, planned, only⟩ marked
    have sets : .setTitle (String.ofList (trim title.toList)) ∈ made.operations := by simp [only]
    have kept : '\'' ∈ trim title.toList := mem_trim marked (by decide)
    rw [← String.toList_ofList (l := trim title.toList)] at kept
    exact absurd (planned_title planned sets '\'' kept) (by decide)
  · intro unmarked
    have alone : operations (titled title) names =
        .ok [.setTitle (String.ofList (trim title.toList))] := by
      rw [titled_operations rfl (by simpa using some_) (plain (List.Subset.refl _) unmarked)
        closing.1 names]
      exact congrArg (Except.map _) (silent_wording names)
    refine ⟨{ intent := titled title, confidence := confidenceFor 1, operations := [_] }, ?_, rfl⟩
    rw [plan, alone]
    rfl
  · intro before after split more unmarked
    refine titled_operations ?_ more (plain ?_ unmarked) closing.2 names
    · rw [split, List.append_assoc, List.cons_append]
    · rw [split]
      exact List.subset_append_left _ _

theorem worded_title_kept :
    "top 5 by sales, use bars" ≠ "" ∧
      (∀ c ∈ "top 5 by sales, use bars".toList, c ≠ '"' ∧ c ≠ '\n') ∧
      ∃ made, plan (titled "top 5 by sales, use bars") ["Sales"] = .ok made ∧
        made.operations = [.setTitle "top 5 by sales, use bars"] := by
  have line : ∀ c ∈ "top 5 by sales, use bars".toList, c ≠ '"' ∧ c ≠ '\n' :=
    List.all_iff_forall_prop.mp (by decide)
  obtain ⟨made, planned, only⟩ :=
    (title_verbatim_iff "top 5 by sales, use bars" ["Sales"] (by decide) line).1.mpr (by decide)
  refine ⟨by decide, line, made, planned, only.trans ?_⟩
  have tight : trim "top 5 by sales, use bars".toList = "top 5 by sales, use bars".toList := by
    decide
  rw [tight, String.ofList_toList]

/-- It is not so that every quoted title is taken as it was typed: of "Bob's lines" the title is
"Bob", and the rest is read for phrases. -/
theorem apostrophe_cuts_title :
    trim "Bob's lines".toList ≠ [] ∧ (∀ c ∈ "Bob's lines".toList, c ≠ '"' ∧ c ≠ '\n') ∧
      (operations (titled "Bob's lines") ["Region"] =
        (wordingOperations (.of "s lines\"".toList ["Region"])).map (.setTitle "Bob" :: ·)) ∧
      ¬∃ made, plan (titled "Bob's lines") ["Region"] = .ok made ∧
        made.operations = [.setTitle (String.ofList (trim "Bob's lines".toList))] := by
  refine ⟨by decide, List.all_iff_forall_prop.mp (by decide), ?_, ?_⟩
  · have split : "Bob's lines".toList ++ ['"'] = "Bob".toList ++ '\'' :: "s lines\"".toList := by
      decide
    have rest : Title.withoutConnectives (trim "s lines\"".toList) = "s lines\"".toList := by
      decide +kernel
    have before : trim "Bob".toList = "Bob".toList := by decide
    have plain : ∀ c ∈ "Bob".toList, Title.isTitleChar c = true := List.all_eq_true.mp (by decide)
    rw [titled_operations split (by decide) plain (by decide), rest, before,
      String.ofList_toList]
  · rintro ⟨made, planned, only⟩
    have sets : .setTitle (String.ofList (trim "Bob's lines".toList)) ∈ made.operations := by
      simp [only]
    have marked : '\'' ∈ (String.ofList (trim "Bob's lines".toList)).toList := by decide
    exact absurd (planned_title planned sets '\'' marked) (by decide)

end Command
end Chartwright
