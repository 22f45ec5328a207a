import Chartwright.Proofs.Command.Expression
import Chartwright.Proofs.Command.Numeral

/-!
Filters by a text, as in "filter Region = west". The value is put into the test between single
quotes, as it was typed. So the test holds a literal of that value unless the value has a backslash
or a carriage return, which mean something else in a literal.
-/

namespace Chartwright
open Text Pattern

theorem Phrase.filter_eq {wording : Wording} {field value : List Char}
    {comparison resolved : String}
    (found : find? filterPattern wording.text = some (field, comparison, value))
    (known : wording.field? field = some resolved) :
    filter wording = some (.addFilter (Expression.ofField resolved ++
      (" " ++ (if comparison = "=" then "==" else comparison) ++ " " ++
        Expression.ofValue value))) := by
  rw [filter, found]
  change (wording.field? field).bind _ = _
  rw [known]
  rfl

namespace Command

/-- The words of a filter by equality, with what follows the equals sign. -/
def compared (field rest : List Char) : List Char :=
  'f' :: 'i' :: 'l' :: 't' :: 'e' :: 'r' :: ' ' :: (field ++ ' ' :: '=' :: rest)

theorem compared_split (field rest : List Char) :
    compared field rest = "filter ".toList ++ (field ++ (" =".toList ++ rest)) := by
  have verb : "filter ".toList = ['f', 'i', 'l', 't', 'e', 'r', ' '] := by decide
  have sign : " =".toList = [' ', '='] := by decide
  rw [compared, verb, sign]
  rfl

section Compared
variable {field rest : List Char} (named : ∀ c ∈ field, Phrase.isNameChar (plainLetter c) = true)

theorem compared_tight (field : List Char) (last : ∀ c ∈ rest.getLast?, isBlank c = false) :
    Tight (compared field rest) := by
  have solid : isBlank 'f' = false ∧ isBlank '=' = false := by decide
  refine ⟨?_, ?_⟩
  · rintro c ⟨⟩
    exact solid.1
  · intro c inside
    have ends : (compared field rest).getLast? = rest.getLast?.or (some '=') := by
      simp only [compared, List.getLast?_append, List.getLast?_cons]
      cases rest.getLast? <;> rfl
    rw [ends] at inside
    cases final : rest.getLast? with
    | none =>
        rw [final] at inside
        cases inside
        exact solid.2
    | some d =>
        rw [final] at inside
        cases inside
        exact last _ final

include named

/-- Behind a name, or the end of one, the next word is the equals sign. -/
theorem name_next {ahead : List Char} (suffix : ahead <:+ field) :
    nextWord (ahead ++ (" =".toList ++ rest)) = '=' :: rest := by
  have solid : ∀ c ∈ ahead, isBlank c = false :=
    fun c inside => Phrase.name_solid (named c (suffix.subset inside))
  have gap : ∀ c ∈ [' '], isBlank c = true := List.forall_mem_singleton.mpr (by decide)
  have stops : ∀ c ∈ ('=' :: rest).head?, isBlank c = false := by
    rintro c ⟨⟩
    decide
  exact nextWord_append solid gap stops (by simp)

/-- The words up to the equals sign are not those of a title. -/
theorem compared_untitled (later : searchFrom Title.pattern (some '=') rest = none) :
    search Title.pattern (compared field rest) = none := by
  rw [compared_split]
  -- In the verb and at the sign there is no s; the name may be "set", but the sign comes next.
  refine Title.search_past (by decide) _ ?_
  refine search_from_passes (fun behind ahead suffix more => ?_) _ ?_
  · refine first?_none_iff.mpr fun title after found => ?_
    have second := (Title.found_words found).2
    rw [name_next named suffix] at second
    exact absurd second (by simp only [List.head?_cons, Option.map_some]; decide)
  exact Title.search_past (by decide) _ later

/-- What may stand before the name of a field does not stand before the equals sign. -/
theorem compared_unworded {behind : Option Char} {after between : Place} {word : Unit}
    {name : List Char}
    (found : Finds (anyStep "to" <|> anyStep "where" <|> (do anyStep "rows"; anyStep "where"))
      ⟨behind, field ++ (" =".toList ++ rest)⟩ word between) :
    ¬Finds (run1 fun c => Phrase.isNameChar (plainLetter c)) between name after := by
  have ends {word : String} (solid : word.toList.any isBlank = false) {between : Place}
      (found : Finds (anyStep word) ⟨behind, field ++ (" =".toList ++ rest)⟩ () between) :
      between.ahead = '=' :: rest :=
    (any_step_ends solid found).trans (name_next named (List.suffix_refl field))
  have sign (head : between.ahead = '=' :: rest) :
      ¬Finds (run1 fun c => Phrase.isNameChar (plainLetter c)) between name after := by
    intro run
    obtain ⟨⟨split, _⟩, all, more⟩ := run1_finds run
    obtain ⟨c, others, rfl⟩ := List.exists_cons_of_ne_nil more
    rw [head] at split
    obtain rfl := (List.cons.inj split).1
    exact absurd (all _ List.mem_cons_self) (by decide)
  rcases either_finds.mp found with first | found
  · exact sign (ends (by decide) first)
  rcases either_finds.mp found with second | third
  · exact sign (ends (by decide) second)
  · obtain ⟨_, _, rows, place⟩ := bind_finds.mp third
    have head := any_step_head (by decide) place
    rw [ends (by decide) rows] at head
    exact absurd head (by simp only [List.head?_cons, Option.map_some]; decide)

end Compared

/-- A text that a filter compares with as it is. -/
structure Comparable (value : List Char) : Prop where
  tight : Tight value
  line : '\n' ∉ value
  unquoted : ∀ c ∈ value, isQuote c = false
  alone : occurs (wholeWord (anyCase "and")) value = false
  untitled : occurs Title.pattern value = false
  text : Numeral.real? value = none

section Value
variable {α : Type} (make : List Char → α)

def valuePattern : Pattern α := do
  let value ← reluctant1 notNewline
  blanks
  Phrase.filterEnd
  return make value

variable {value : List Char} (comparable : Comparable value)
include comparable

theorem value_only {behind : Option Char} {made : α} {after : Place}
    (finds : Finds (valuePattern make) ⟨behind, value⟩ made after) : made = make value := by
  obtain ⟨found, reached, ran, fromRun⟩ := bind_finds.mp finds
  obtain ⟨_, ended, gapped, fromGap⟩ := bind_finds.mp fromRun
  obtain ⟨_, _, ends, rest⟩ := bind_finds.mp fromGap
  obtain ⟨rfl, -⟩ := pure_finds.mp rest
  obtain ⟨taken, -, more⟩ := run1_finds (reluctant1_finds_iff.mp ran)
  obtain ⟨gap, blank, spaced, -⟩ := skip_finds gapped
  have beyond := (taken.trans blank).elsewhere (by simp [more]) none
  rcases either_finds.mp ends with word | final
  · -- The word would stand at the same place of the value alone.
    have nowhere := search_from_none_iff.mp (occurs_eq_false.mp comparable.alone) _ _ beyond
    exact absurd word (first?_none_iff.mp nowhere _ _)
  · obtain ⟨last, -⟩ := here_finds.mp final
    have split : value = found ++ gap ++ ended.ahead := beyond.ahead
    rcases Bool.or_eq_true_iff.mp last with done | newline
    swap
    · rw [beq_iff_eq.mp newline] at split
      exact absurd (split ▸ by simp) comparable.line
    rw [List.isEmpty_iff.mp done, List.append_nil] at split
    -- White space at its end is not part of the value, but there is none.
    cases last : gap.getLast? with
    | none => rw [split, List.getLast?_eq_none_iff.mp last, List.append_nil]
    | some c =>
        have ends : value.getLast? = some c := by
          rw [split, List.getLast?_append, last, Option.some_or]
        have solid := comparable.tight.2 c ends
        rw [spaced c (List.mem_of_getLast? last)] at solid
        cases solid

theorem value_found (some_ : value ≠ []) (behind : Option Char) :
    ∃ after, first? (valuePattern make) ⟨behind, value⟩ = some (make value, after) := by
  have whole : ∃ after, Finds (valuePattern make) ⟨behind, value⟩ (make value) after := by
    have all : ∀ c ∈ value, notNewline c = true := by
      intro c inside
      rw [notNewline, bne_iff_ne]
      exact fun newline => comparable.line (newline ▸ inside)
    have run := first?_run1 all (by simp : ∀ c ∈ [].head?, notNewline c = false) behind some_
    rw [List.append_nil] at run
    exact ⟨_, bind_finds.mpr ⟨value, _, reluctant1_finds_iff.mpr (first?_finds run),
      bind_finds.mpr ⟨(), _, first?_finds rfl,
        bind_finds.mpr ⟨(), _, either_finds.mpr (.inr (here_finds.mpr ⟨rfl, rfl⟩)),
          pure_finds.mpr ⟨rfl, rfl⟩⟩⟩⟩⟩
  obtain ⟨after, finds⟩ := whole
  exact first?_only finds fun other later found => value_only make comparable found

end Value

section Found
variable {field value : List Char}
  (named : ∀ c ∈ field, Phrase.isNameChar (plainLetter c) = true) (spelled : field ≠ [])
include named spelled

theorem filter_found (comparable : Comparable value) (some_ : value ≠ []) :
    find? Phrase.filterPattern (compared field (' ' :: value)) = some (field, "=", value) := by
  obtain ⟨after, ends⟩ :=
    value_found (fun value => (field, "=", value)) comparable some_ (some ' ')
  have edge : (none.any isWordChar != (some 'f').any isWordChar) = true := by decide
  have gap : ∀ c ∈ [' '], isBlank c = true := List.forall_mem_singleton.mpr (by decide)
  have stop : ∀ c ∈ some '=', isBlank c = false := by
    rintro c ⟨⟩
    decide
  have unnamed : ∀ c ∈ some ' ', Phrase.isNameChar (plainLetter c) = false := by
    rintro c ⟨⟩
    decide
  have solid : ∀ c ∈ (field ++ ' ' :: '=' :: ' ' :: value).head?, isBlank c = false := by
    obtain ⟨c, others, rfl⟩ := List.exists_cons_of_ne_nil spelled
    rintro d ⟨⟩
    exact Phrase.name_solid (named c List.mem_cons_self)
  have verb : ['f', 'i', 'l', 't', 'e', 'r'].map plainLetter = "filter".toList := by decide
  suffices found : first? Phrase.filterPattern (.start (compared field (' ' :: value))) =
      some ((field, "=", value), after) from find?_start found
  refine first?_bind (first?_boundary edge) ?_
  refine first?_bind (first?_either (first?_folded verb _ _)) ?_
  refine first?_bind (first?_blanks1 (by decide) solid _) ?_
  -- A field may be called like the words before it: they are tried and given back.
  refine (first?_optional_without fun word between found => ?_).trans ?_
  · refine first?_none_iff.mpr fun filter after finds => ?_
    obtain ⟨name, _, run, _⟩ := bind_finds.mp finds
    exact compared_unworded named found run
  refine first?_bind (first?_run1 named (by exact unnamed) _ spelled) ?_
  refine first?_bind (first?_skip gap (by exact stop) _) ?_
  refine first?_bind rfl ?_
  exact first?_bind (first?_yieldingBlanks gap comparable.tight.1 _) ends

end Found

def signs : List Char := "<>=!".toList

theorem filter_compares {place after : Place} {filter : List Char × String × List Char}
    (found : Finds Phrase.filterPattern place filter after) :
    ∃ c ∈ signs, ∃ later, later ≠ [] ∧ c :: later <:+ place.ahead := by
  obtain ⟨_, edge, atEdge, found⟩ := rest_finds (here_advances _) found
  obtain ⟨_, led, atVerb, found⟩ := rest_finds (either_advances (folded_advances _ _)
    (either_advances (bind_advances (any_step_advances _) fun _ => folded_advances _ _)
      (folded_advances _ _))) found
  obtain ⟨_, spaced, atSpace, found⟩ := rest_finds blanks1_advances found
  obtain ⟨_, worded, atWord, found⟩ := rest_finds (optional_advances
    (either_advances (any_step_advances _) (either_advances (any_step_advances _)
      (bind_advances (any_step_advances _) fun _ => any_step_advances _)))) found
  obtain ⟨_, called, atName, found⟩ := rest_finds (run1_advances _) found
  obtain ⟨_, behind, atBehind, found⟩ := rest_finds (skip_advances _) found
  obtain ⟨comparison, compared, compares, found⟩ := bind_finds.mp found
  obtain ⟨_, valued, atValue, found⟩ := rest_finds yielding_blanks_advances found
  obtain ⟨value, _, run, _⟩ := bind_finds.mp found
  obtain ⟨taken, -, more⟩ := run1_finds (reluctant1_finds_iff.mp run)
  obtain ⟨listed, ahead⟩ := one_of_finds compares
  have begins : ∀ text ∈ Phrase.comparisons, text.toList.head?.any signs.contains = true :=
    List.all_eq_true.mp (by decide)
  obtain ⟨c, head, sign⟩ := Option.any_eq_true _ _ |>.mp (begins comparison listed)
  obtain ⟨others, spelled⟩ := List.head?_eq_some_iff.mp head
  refine ⟨c, List.contains_iff_mem.mp sign, others ++ compared.ahead, fun none_ => ?_, ?_⟩
  · rw [(List.append_eq_nil_iff.mp none_).2] at atValue
    have split := taken.ahead
    rw [List.suffix_nil.mp atValue] at split
    exact more (List.append_eq_nil_iff.mp split.symm).1
  · rw [← List.cons_append, ← spelled, ← ahead]
    exact ((((atBehind.trans atName).trans atWord).trans atSpace).trans atVerb).trans atEdge

theorem filter_unfound {field : List Char}
    (named : ∀ c ∈ field, Phrase.isNameChar (plainLetter c) = true) :
    find? Phrase.filterPattern (compared field []) = none := by
  cases finds : find? Phrase.filterPattern (compared field []) with
  | none => rfl
  | some filter =>
      obtain ⟨place, after, found, within⟩ := find?_finds finds
      obtain ⟨c, sign, later, more, suffix⟩ := filter_compares found
      obtain ⟨front, split⟩ := suffix.trans within
      -- The comparison is not the last character, and no other one is a sign.
      have ends : (compared field []).dropLast = "filter ".toList ++ field ++ [' '] := by
        have sign : " =".toList = [' '] ++ ['='] := by decide
        rw [compared_split, sign, List.append_nil, ← List.append_assoc, ← List.append_assoc,
          List.dropLast_concat]
      have inside : c ∈ (compared field []).dropLast := by
        rw [← split, List.dropLast_append_of_ne_nil (by simp), List.dropLast_cons_of_ne_nil more]
        simp
      rw [ends] at inside
      have unsigned : ∀ d ∈ signs, d ∉ "filter ".toList ∧ d ∉ [' '] ∧
          Phrase.isNameChar (plainLetter d) = false := List.all_iff_forall_prop.mp (by decide)
      obtain ⟨verb, gap, nameless⟩ := unsigned c sign
      rcases List.mem_append.mp inside with words | blank
      · rcases List.mem_append.mp words with word | name
        · exact absurd word verb
        · rw [named c name] at nameless
          cases nameless
      · exact absurd blank gap

/-- The command to keep the rows in which a field equals a value. -/
def filtered (field value : String) : String := "filter " ++ field ++ " = " ++ value

section Filtered
variable {field value : String}

theorem filtered_text (tight : Tight value.toList) :
    trim (filtered field value).toList =
      compared field.toList (if value = "" then [] else ' ' :: value.toList) := by
  have spelled : (filtered field value).toList = compared field.toList (' ' :: value.toList) := by
    have sign : " = ".toList = " =".toList ++ [' '] := by decide
    unfold filtered
    rw [String.toList_append, String.toList_append, String.toList_append, sign, compared_split]
    simp only [List.append_assoc, List.cons_append, List.nil_append]
  rw [spelled]
  by_cases none_ : value = ""
  · subst none_
    have padded : compared field.toList [' '] = compared field.toList [] ++ [' '] := by
      simp [compared]
    rw [if_pos rfl]
    exact (congrArg trim padded).trans
      (trim_padded (compared_tight _ (by simp)) (by simp [compared]) (by decide))
  · rw [if_neg none_]
    refine trim_tight (compared_tight _ fun c last => ?_)
    rw [List.getLast?_cons_of_ne_nil (by simpa using none_)] at last
    exact tight.2 c last

variable (named : ∀ c ∈ field.toList, Phrase.isNameChar (plainLetter c) = true)
  (comparable : Comparable value.toList)
include named comparable

theorem filtered_wording (names : List String) :
    wordingOf (filtered field value) names =
      .of (compared field.toList (if value = "" then [] else ' ' :: value.toList)) names := by
  have later : searchFrom Title.pattern (some '=')
      (if value = "" then [] else ' ' :: value.toList) = none := by
    split
    · rfl
    · have first : first? Title.pattern ⟨some '=', ' ' :: value.toList⟩ = none :=
        first?_none_iff.mpr fun title after found => absurd (Title.found_words found).1
          (by simp only [List.head?_cons, Option.map_some]; decide)
      have edges : (some ' ').any isWordChar = none.any isWordChar := by decide
      rw [searchFrom, first]
      simp only [Option.map_eq_none_iff]
      exact (search_from_elsewhere (Title.pattern_elsewhere edges) _).trans
        (occurs_eq_false.mp comparable.untitled)
  rw [wordingOf, filtered_text comparable.tight, Title.split, compared_untitled named later]

/-- The command is read as a filter by the value, unless there is none. -/
theorem filtered_reads {names : List String} (known : field ∈ names) (spelled : field ≠ "") :
    Phrase.filter (wordingOf (filtered field value) names) =
      if value = "" then none
      else some (.addFilter (Expression.ofField field ++ " == '" ++ value ++ "'")) := by
  rw [filtered_wording named comparable]
  have more : field.toList ≠ [] := by simpa using spelled
  by_cases none_ : value = ""
  · have nowhere := filter_unfound named
    simp [Phrase.filter, Wording.of, none_, nowhere]
  · have found := filter_found named more comparable (by simpa using none_)
    have resolved : Reference.resolve? (String.ofList field.toList) names = some field := by
      rw [String.ofList_toList]
      exact Reference.resolve_exact known spelled _
    have read : Phrase.filter (.of (compared field.toList (' ' :: value.toList)) names) = _ :=
      Phrase.filter_eq found resolved
    have sides : " " ++ "==" ++ " " = " == " := by decide
    have opened : " == " ++ "'" = " == '" := by decide
    rw [if_neg none_, if_neg none_, read, if_pos rfl, sides,
      Expression.quoted_value comparable.tight comparable.unquoted comparable.text]
    refine congrArg (fun test => some (Operation.addFilter test)) ?_
    simp only [← opened, String.append_assoc]

/-- The only filter of a plan for the command compares with the value as it was typed. -/
theorem planned_filter {names : List String} (known : field ∈ names) (spelled : field ≠ "")
    {made : Plan} (planned : plan (filtered field value) names = .ok made) (test : String) :
    .addFilter test ∈ made.operations ↔
      value ≠ "" ∧ test = Expression.ofField field ++ " == '" ++ value ++ "'" := by
  rw [plan_filters planned, filtered_reads named comparable known spelled]
  by_cases none_ : value = ""
  · simp [none_]
  · rw [if_neg none_, Option.some.injEq, Operation.addFilter.injEq]
    exact ⟨fun same => ⟨none_, same.symm⟩, fun filter => filter.2.symm⟩

omit named

theorem quoted_means_iff (meaning : Char → Option Char) :
    Expression.literalText? meaning ("'" ++ value ++ "'").toList = some value.toList ↔
      ∀ c ∈ value.toList, c ≠ '\\' ∧ c ≠ '\r' := by
  have unquoted : '\'' ∉ value.toList := fun inside => by
    have quote := comparable.unquoted _ inside
    revert quote
    decide
  have text : ("'" ++ value ++ "'").toList = '\'' :: value.toList ++ ['\''] := by simp
  rw [text, Expression.literal_text_iff unquoted]
  refine forall₂_congr fun c inside => ?_
  have line : c ≠ '\n' := fun newline => comparable.line (newline ▸ inside)
  simp [line]

end Filtered

/-- A filter by a text holds a literal of just that text if there is one, and if it has no backslash
and no carriage return. The plan is there unless some run of digits is too long to be read. Whatever
the text is, it stands as it was typed between the quotes of the only filter. -/
theorem filter_literal_iff (meaning : Char → Option Char) (field value : String)
    (names : List String) (identifier : Expression.isIdentifier field.toList = true)
    (known : field ∈ names) (comparable : Comparable value.toList) :
    ((∃ made resolved literal, plan (filtered field value) names = .ok made ∧
        Reference.resolve? field names = some resolved ∧
        .addFilter (Expression.ofField resolved ++ " == " ++ literal) ∈ made.operations ∧
        Expression.literalText? meaning literal.toList = some value.toList) ↔
      value ≠ "" ∧ (∀ c ∈ value.toList, c ≠ '\\' ∧ c ≠ '\r') ∧
        ∀ digits ∈ Phrase.numerals (wordingOf (filtered field value) names).lowered,
          digits.length ≤ Numeral.digitLimit) ∧
    ∀ made, plan (filtered field value) names = .ok made → ∀ test,
      .addFilter test ∈ made.operations ↔
        value ≠ "" ∧ test = Expression.ofField field ++ " == '" ++ value ++ "'" := by
  obtain ⟨more, named⟩ := Expression.identifier_named identifier
  have spelled : field ≠ "" := by simpa using more
  have resolves : Reference.resolve? field names = some field :=
    Reference.resolve_exact known spelled _
  refine ⟨⟨?_, ?_⟩, fun made planned => planned_filter named comparable known spelled planned⟩
  · rintro ⟨made, resolved, literal, planned, found, inside, means⟩
    obtain rfl := Option.some.inj (resolves.symm.trans found)
    obtain ⟨some_, same⟩ := (planned_filter named comparable known spelled planned _).mp inside
    obtain rfl := (Expression.same_literal_iff field value literal).mp same
    exact ⟨some_, (quoted_means_iff comparable meaning).mp means,
      (plan_made_iff _ names).mp ⟨made, planned⟩⟩
  · rintro ⟨some_, plain, few⟩
    obtain ⟨made, planned⟩ := (plan_made_iff _ names).mpr few
    have same := (Expression.same_literal_iff field value _).mpr rfl
    exact ⟨made, field, "'" ++ value ++ "'", planned, resolves,
      (planned_filter named comparable known spelled planned _).mpr ⟨some_, same⟩,
      (quoted_means_iff comparable meaning).mpr plain⟩

theorem island_comparable : Comparable "top 5 Sandy Islands".toList where
  tight := by
    constructor
    · rintro c ⟨⟩
      decide
    · rintro c ⟨⟩
      decide
  line := by decide
  unquoted := List.all_iff_forall_prop.mp (by decide)
  alone := by decide +kernel
  untitled := by decide +kernel
  text := by decide +kernel

theorem island_filtered :
    Expression.isIdentifier "Region".toList = true ∧ "Region" ∈ ["Region"] ∧
      Comparable "top 5 Sandy Islands".toList ∧
      ∃ made resolved literal,
        plan (filtered "Region" "top 5 Sandy Islands") ["Region"] = .ok made ∧
        Reference.resolve? "Region" ["Region"] = some resolved ∧
        .addFilter (Expression.ofField resolved ++ " == " ++ literal) ∈ made.operations ∧
        Expression.literalText? some literal.toList = some "top 5 Sandy Islands".toList := by
  have few : ∀ digits ∈ Phrase.numerals
      (wordingOf (filtered "Region" "top 5 Sandy Islands") ["Region"]).lowered,
      digits.length ≤ Numeral.digitLimit := by decide +kernel
  have plain : ∀ c ∈ "top 5 Sandy Islands".toList, c ≠ '\\' ∧ c ≠ '\r' :=
    List.all_iff_forall_prop.mp (by decide)
  have holds := (filter_literal_iff some "Region" "top 5 Sandy Islands" ["Region"] (by decide)
    (by decide) island_comparable).1.mpr ⟨by decide, plain, few⟩
  exact ⟨by decide, by decide, island_comparable, holds⟩

theorem directory_comparable : Comparable "C:\\".toList where
  tight := by
    constructor
    · rintro c ⟨⟩
      decide
    · rintro c ⟨⟩
      decide
  line := by decide
  unquoted := List.all_iff_forall_prop.mp (by decide)
  alone := by decide +kernel
  untitled := by decide +kernel
  text := by decide +kernel

/-- It is not so that every text becomes a literal of itself: a backslash at its end takes the
closing quote with it, whatever it may mean. -/
theorem backslash_takes_quote :
    Comparable "C:\\".toList ∧
    (∃ made, plan (filtered "Region" "C:\\") ["Region"] = .ok made ∧
      .addFilter "datum.Region == 'C:\\'" ∈ made.operations) ∧
    ∀ meaning : Char → Option Char,
      ¬∃ made resolved literal, plan (filtered "Region" "C:\\") ["Region"] = .ok made ∧
        Reference.resolve? "Region" ["Region"] = some resolved ∧
        .addFilter (Expression.ofField resolved ++ " == " ++ literal) ∈ made.operations ∧
        Expression.literalText? meaning literal.toList = some "C:\\".toList := by
  have identifier : Expression.isIdentifier "Region".toList = true := by decide
  have filter {made : Plan} (planned : plan (filtered "Region" "C:\\") ["Region"] = .ok made)
      (test : String) := planned_filter (Expression.identifier_named identifier).2
    directory_comparable (by decide : "Region" ∈ ["Region"]) (by decide) planned test
  have few : ∀ digits ∈ Phrase.numerals
      (wordingOf (filtered "Region" "C:\\") ["Region"]).lowered,
      digits.length ≤ Numeral.digitLimit := by decide +kernel
  have resolves : Reference.resolve? "Region" ["Region"] = some "Region" := by decide
  refine ⟨directory_comparable, ?_, fun meaning => ?_⟩
  · obtain ⟨made, planned⟩ := (plan_made_iff _ ["Region"]).mpr few
    exact ⟨made, planned, (filter planned _).mpr ⟨by decide, by decide⟩⟩
  · rintro ⟨made, resolved, literal, planned, found, inside, means⟩
    obtain rfl := Option.some.inj (resolves.symm.trans found)
    obtain ⟨-, same⟩ := (filter planned _).mp inside
    obtain rfl := (Expression.same_literal_iff "Region" "C:\\" literal).mp same
    have plain := (quoted_means_iff directory_comparable meaning).mp means
    exact (plain '\\' (by decide)).1 rfl

end Command
end Chartwright
