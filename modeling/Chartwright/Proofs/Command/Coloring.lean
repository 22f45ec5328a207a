import Chartwright.Proofs.Command.Numeral
import Chartwright.Proofs.Command.Word

/-!
Colors by a field, as in "color by region". The command is read in lower case, so a field wins over
the others whose names differ from its name by case only if its own is in lower case, or if none of
theirs is and it comes first.
-/

namespace Chartwright
open Text Pattern

/-! The colors that a plan sets. -/

namespace Phrase

theorem found_colors {phrase : Phrase} {wording : Wording} {field : String}
    {kind : Option FieldKind} {settings : Option Members} (listed : phrase ∈ all)
    (found : phrase wording = .ok (some (.setEncoding .color field kind settings))) :
    colorBy wording = some (.setEncoding .color field kind settings) ∨
      useAsColor wording = some (.setEncoding .color field kind settings) := by
  have kindly := found_kind listed found
  simp only [kinds, Operation.kind, List.mem_cons, List.not_mem_nil, Prod.mk.injEq, reduceCtorEq,
    false_and, true_and, false_or, or_false] at kindly
  rcases kindly with rfl | rfl | rfl | rfl
  · exact .inl (Except.ok.inj found)
  · exact .inr (Except.ok.inj found)
  · obtain ⟨⟨_, position⟩, -, _, -, same⟩ :=
      encoded_channel (find? axisPattern wording.lowered) wording (fun found => found.2.channel)
        (fun found => found.1) _ (Except.ok.inj found)
    cases position <;> cases same
  · obtain ⟨_, -, _, -, same⟩ :=
      encoded_channel (find? sizeByPattern wording.lowered) wording (fun _ => .size) id _
        (Except.ok.inj found)
    cases same

end Phrase

namespace Command

/-- The words before the name of a field to color by. -/
def coloring (field : List Char) : List Char :=
  'c' :: 'o' :: 'l' :: 'o' :: 'r' :: ' ' :: 'b' :: 'y' :: ' ' :: field

theorem coloring_split (field : List Char) : coloring field = "color by ".toList ++ field := by
  have words : "color by ".toList = coloring [] := by decide
  rw [words]
  rfl

def endings : List Char → List Char
  | c :: d :: rest => if isBlank d then c :: endings (d :: rest) else endings (d :: rest)
  | _ => []

theorem endings_cons {c d : Char} {text : List Char} (inside : d ∈ endings text) :
    d ∈ endings (c :: text) := by
  cases text with
  | nil => cases inside
  | cons e rest =>
      unfold endings
      split
      · exact List.mem_cons_of_mem _ inside
      · exact inside

theorem endings_mem (front : List Char) (c : Char) {d : Char} (rest : List Char)
    (blank : isBlank d = true) : c ∈ endings (front ++ c :: d :: rest) := by
  induction front with
  | nil => simp [endings, blank]
  | cons e front ih => exact endings_cons ih

/-- A word that white space follows in a text ends with one of its endings. -/
theorem word_ending {word text later : List Char} {c d : Char} (ahead : word ++ d :: later <:+ text)
    (blank : isBlank d = true) (last : word.getLast? = some c) : c ∈ endings text := by
  obtain ⟨front, rfl⟩ := ahead
  obtain ⟨word, rfl⟩ := List.getLast?_eq_some_iff.mp last
  have inside := endings_mem (front ++ word) c later blank
  simpa using inside

theorem step_ending {word : String} {place after : Place} {text : List Char} {c : Char}
    {value : Unit} (found : Finds (step word) place value after) (within : place.ahead <:+ text)
    (last : word.toList.getLast? = some c) : c ∈ endings text := by
  obtain ⟨_, between, worded, gapped⟩ := bind_finds.mp found
  obtain ⟨d, gap, split, blank, -⟩ := blanks1_finds gapped
  rw [exactly_finds worded, split, List.cons_append] at within
  exact word_ending within blank last

section Named
variable {field : List Char} (solid : ∀ c ∈ field, isBlank c = false)
include solid

theorem coloring_endings : endings (coloring field) = ['r', 'y'] := by
  have none_ : endings field = [] := by
    -- No white space follows any character of the name.
    induction field with
    | nil => rfl
    | cons c rest ih =>
        cases rest with
        | nil => rfl
        | cons d others =>
            have next := solid d (by simp)
            rw [endings, next]
            exact ih fun e inside => solid e (List.mem_cons_of_mem c inside)
  have words : endings (coloring field) = 'r' :: 'y' :: endings field := by
    cases field with
    | nil => rfl
    | cons c rest =>
        have first : endings (' ' :: c :: rest) = endings (c :: rest) := by
          rw [endings, solid c List.mem_cons_self]
          rfl
        exact congrArg (['r', 'y'] ++ ·) first
  rw [words, none_]

theorem coloring_untitled : search Title.pattern (coloring field) = none := by
  rw [coloring_split]
  refine Title.search_past (by decide) _ ?_
  refine search_from_none_iff.mpr fun taken after beyond => ?_
  refine first?_none_iff.mpr fun title _ found => ?_
  have second := (Title.found_words found).2
  have later : after.ahead <:+ field := ⟨taken, beyond.ahead.symm⟩
  rw [nextWord_solid fun c inside => solid c (later.subset inside)] at second
  cases second

theorem coloring_unranked : find? Phrase.topPattern (coloring field) = none := by
  refine find?_none fun place value after found within => ?_
  obtain ⟨_, edge, atEdge, found⟩ := rest_finds (here_advances _) found
  obtain ⟨side, between, sided, found⟩ := bind_finds.mp found
  obtain ⟨_, _, spaced, _⟩ := bind_finds.mp found
  obtain ⟨listed, ahead⟩ := one_of_finds sided
  obtain ⟨d, gap, split, blank, -⟩ := blanks1_finds spaced
  rw [split, List.cons_append] at ahead
  have ending {c : Char} (last : side.toList.getLast? = some c) : c ∈ ['r', 'y'] :=
    coloring_endings solid ▸ word_ending (ahead ▸ atEdge.trans within) blank last
  simp only [List.mem_cons, List.not_mem_nil, or_false] at listed
  rcases listed with rfl | rfl
  · exact absurd (ending (c := 'p') (by decide)) (by decide)
  · exact absurd (ending (c := 'm') (by decide)) (by decide)

/-- No phrase is found that begins with another word than those of the command. -/
theorem coloring_wordless {α : Type} (word : String) {next : Pattern α} {c : Char}
    (last : word.toList.getLast? = some c) (other : c ∉ ['r', 'y']) :
    find? (do boundary; step word; next) (coloring field) = none := by
  refine find?_none fun place value after found within => ?_
  obtain ⟨_, edge, atEdge, found⟩ := rest_finds (here_advances _) found
  obtain ⟨_, _, worded, _⟩ := bind_finds.mp found
  have ending := step_ending worded (atEdge.trans within) last
  rw [coloring_endings solid] at ending
  exact other ending

theorem coloring_numberless : Phrase.numerals (coloring field) = [] := by
  have sizes : find? Phrase.sizePattern (coloring field) = none :=
    coloring_wordless solid "size" (c := 'e') (by decide) (by decide)
  have width : find? (Phrase.lengthPattern "width") (coloring field) = none :=
    coloring_wordless solid "width" (c := 'h') (by decide) (by decide)
  have height : find? (Phrase.lengthPattern "height") (coloring field) = none :=
    coloring_wordless solid "height" (c := 't') (by decide) (by decide)
  simp [Phrase.numerals, Phrase.count?, Phrase.lengths, coloring_unranked solid, sizes, width,
    height]

theorem coloring_unused : find? Phrase.useAsColorPattern (coloring field) = none :=
  coloring_wordless solid "use" (c := 'e') (by decide) (by decide)

end Named

section Named
variable {field : List Char} (named : ∀ c ∈ field, Phrase.isNameChar c = true) (some_ : field ≠ [])
include named some_

theorem coloring_found : find? Phrase.colorByPattern (coloring field) = some field := by
  obtain ⟨c, others, rfl⟩ := List.exists_cons_of_ne_nil some_
  have stops : ∀ d ∈ (c :: others).head?, isBlank d = false := by
    rintro d ⟨⟩
    exact (Phrase.name_char (named c List.mem_cons_self)).solid
  have gap : first? blanks1 ⟨some 'y', ' ' :: c :: others⟩ = some ((), ⟨some ' ', c :: others⟩) :=
    first?_blanks1 (by decide) stops _
  have linked : first? (step "by") ⟨some ' ', 'b' :: 'y' :: ' ' :: c :: others⟩ =
      some ((), ⟨some ' ', c :: others⟩) := first?_bind rfl gap
  have run : first? Phrase.fieldWord ⟨some ' ', c :: others ++ []⟩ = _ :=
    first?_run1 named (by simp) _ some_
  rw [List.append_nil] at run
  apply find?_start
  refine first?_bind rfl ?_
  refine first?_bind rfl ?_
  -- The word after the first gap is not one for marks.
  refine first?_bind rfl ?_
  refine first?_bind rfl ?_
  exact first?_bind linked run

end Named

def colored (field : String) : String := "color by " ++ field

/-- The colors of a plan are what one of the two phrases for them finds. -/
theorem plan_colors {command : String} {names : List String} {made : Plan}
    (planned : plan command names = .ok made) {field : String} {kind : Option FieldKind}
    {settings : Option Members} :
    .setEncoding .color field kind settings ∈ made.operations ↔
      Phrase.colorBy (wordingOf command names) = some (.setEncoding .color field kind settings) ∨
      Phrase.useAsColor (wordingOf command names) =
        some (.setEncoding .color field kind settings) := by
  rw [plan_mem planned (by simp [Operation.kind]) (by simp [Operation.kind])]
  constructor
  · rintro ⟨phrase, listed, found⟩
    exact Phrase.found_colors listed found
  · rintro (found | found)
    · exact ⟨Phrase.ofReader Phrase.colorBy, by simp [Phrase.all], congrArg Except.ok found⟩
    · exact ⟨Phrase.ofReader Phrase.useAsColor, by simp [Phrase.all], congrArg Except.ok found⟩

section Colored
variable {field : String} {names : List String}
  (plain : ∀ c ∈ field.toList, isPlain c = true) (some_ : field ≠ "")
include plain some_

theorem colored_lowered :
    wordingOf (colored field) names =
      ⟨coloring field.toList, coloring (Reference.lowered field), names⟩ := by
  have solid : ∀ c ∈ field.toList, isBlank c = false :=
    fun c inside => (Phrase.plain_char (plain c inside)).solid
  have spelled : (colored field).toList = coloring field.toList := by
    rw [colored, String.toList_append, coloring_split]
  have tight : Tight (coloring field.toList) := by
    have first : isBlank 'c' = false := by decide
    refine ⟨?_, fun c last => solid c ?_⟩
    · rintro c ⟨⟩
      exact first
    · have more : field.toList ≠ [] := by simpa using some_
      obtain ⟨d, others, split⟩ := List.exists_cons_of_ne_nil more
      rw [split] at last ⊢
      simp only [coloring, List.getLast?_cons_cons] at last
      exact List.mem_of_getLast? last
  have words : ∀ c ∈ "color by ".toList, c.toNat < 128 := List.all_iff_forall_prop.mp (by decide)
  have ascii : ∀ c ∈ coloring field.toList, c.toNat < 128 := by
    rw [coloring_split]
    intro c inside
    rcases List.mem_append.mp inside with word | name
    · exact words c word
    · exact (Phrase.plain_char (plain c name)).ascii
  rw [wordingOf, spelled, trim_tight tight, Title.split, coloring_untitled solid, Wording.of,
    lower_ascii ascii, Reference.lowered, Phrase.plain_lower plain]
  rfl

/-- What the colors of a plan show is what the name resolves to in lower case. -/
theorem colored_colors {made : Plan} (planned : plan (colored field) names = .ok made)
    {other : String} {kind : Option FieldKind} {settings : Option Members} :
    .setEncoding .color other kind settings ∈ made.operations ↔
      Reference.resolve? (String.ofList (Reference.lowered field)) names = some other ∧
        kind = none ∧ settings = none := by
  have named : ∀ c ∈ Reference.lowered field, Phrase.isNameChar c = true :=
    Phrase.lower_named plain
  have spelled : Reference.lowered field ≠ [] := lower_some (by simpa using some_)
  have solid : ∀ c ∈ Reference.lowered field, isBlank c = false :=
    fun c inside => (Phrase.name_char (named c inside)).solid
  have byName : Phrase.colorBy (wordingOf (colored field) names) =
      Phrase.encode (wordingOf (colored field) names) .color (Reference.lowered field) := by
    rw [Phrase.colorBy, colored_lowered plain some_, coloring_found named spelled, Option.bind_some]
  have unused : Phrase.useAsColor (wordingOf (colored field) names) = none := by
    rw [Phrase.useAsColor, colored_lowered plain some_, coloring_unused solid, Option.bind_none]
  rw [plan_colors planned, byName, unused, or_iff_left nofun, Phrase.encode,
    Option.map_eq_some_iff, Wording.field?, colored_lowered plain some_]
  constructor
  · rintro ⟨_, resolved, same⟩
    cases same
    exact ⟨resolved, rfl, rfl⟩
  · rintro ⟨resolved, rfl, rfl⟩
    exact ⟨other, resolved, rfl⟩

theorem colored_planned : ∃ made, plan (colored field) names = .ok made := by
  have solid : ∀ c ∈ Reference.lowered field, isBlank c = false :=
    fun c inside => (Phrase.name_char (Phrase.lower_named plain c inside)).solid
  rw [plan_made_iff, colored_lowered plain some_, coloring_numberless solid]
  simp

/-- What leads to a name up to case from its lower case. -/
theorem lowered_leads_iff (limit : Int) (other : String) :
    Reference.Way.cased.Leads names limit (String.ofList (Reference.lowered field)) other ↔
      other ∈ names ∧ Reference.lowered other = Reference.lowered field := by
  have solid : ∀ c ∈ Reference.lowered field, isBlank c = false :=
    fun c inside => (Phrase.name_char (Phrase.lower_named plain c inside)).solid
  have tight : Tight (Reference.lowered field) :=
    ⟨fun c first => solid c (List.mem_of_mem_head? first),
      fun c last => solid c (List.mem_of_getLast? last)⟩
  have key : lower (trim (String.ofList (Reference.lowered field)).toList) =
      Reference.lowered field := by
    rw [String.toList_ofList, trim_tight tight, Reference.lowered, Phrase.lower_again plain]
  have spelled : Reference.lowered field ≠ [] := lower_some (by simpa using some_)
  rw [Reference.Way.Leads, Reference.Way.Fits, key]
  refine and_congr_right fun _ => and_iff_right_of_imp ?_
  rintro cased rfl
  exact spelled cased.symm

theorem lowered_leads_first (known : field ∈ names) (limit : Int) :
    ∃ chosen, Reference.Way.cased.LeadsFirst names limit
      (String.ofList (Reference.lowered field)) chosen := by
  have leads := (lowered_leads_iff plain some_ limit field).mpr ⟨known, rfl⟩
  cases first : Reference.Way.cased.first? (String.ofList (Reference.lowered field)) names
    limit with
  | none => exact absurd leads (Reference.Way.first_none_iff.mp first field)
  | some chosen => exact ⟨chosen, Reference.Way.first_iff.mp first⟩

theorem lowered_resolves (known : field ∈ names) (limit : Int) :
    ∃ chosen ∈ names, Reference.lowered chosen = Reference.lowered field ∧
      Reference.resolve? (String.ofList (Reference.lowered field)) names limit = some chosen := by
  have spelled : Reference.lowered field ≠ [] := lower_some (by simpa using some_)
  by_cases listed : String.ofList (Reference.lowered field) ∈ names
  · refine ⟨_, listed, ?_, Reference.resolve_exact listed (by simpa using spelled) limit⟩
    rw [Reference.lowered, String.toList_ofList]
    exact Phrase.lower_again plain
  · obtain ⟨chosen, leads⟩ := lowered_leads_first plain some_ known limit
    obtain ⟨there, cased⟩ := (lowered_leads_iff plain some_ limit chosen).mp leads.1
    exact ⟨chosen, there, cased, Reference.resolve_cased listed leads⟩

/-- In lower case a name resolves to itself only if it is in lower case, or if no name is its lower
case and it is the first of those that differ from it by case only. -/
theorem lowered_resolves_iff (known : field ∈ names) (limit : Int) :
    Reference.resolve? (String.ofList (Reference.lowered field)) names limit = some field ↔
      String.ofList (Reference.lowered field) = field ∨
        String.ofList (Reference.lowered field) ∉ names ∧
          ∃ before after, names = before ++ field :: after ∧
            ∀ other ∈ before, Reference.lowered other ≠ Reference.lowered field := by
  -- If its lower case is a name, that one is found and no other.
  have leads_iff (other : String) : Reference.Way.cased.Leads names limit
      (String.ofList (Reference.lowered field)) other ↔ _ :=
    lowered_leads_iff plain some_ limit other
  by_cases listed : String.ofList (Reference.lowered field) ∈ names
  · have letters : Reference.lowered field ≠ [] := lower_some (by simpa using some_)
    have spelled : String.ofList (Reference.lowered field) ≠ "" := by simpa using letters
    rw [Reference.resolve_exact listed spelled, Option.some.injEq, or_iff_left]
    exact fun absent => absent.1 listed
  have unlike : String.ofList (Reference.lowered field) ≠ field := by
    intro same
    rw [same] at listed
    exact listed known
  rw [or_iff_right unlike, and_iff_right listed]
  constructor
  · intro resolved
    obtain ⟨chosen, leads⟩ := lowered_leads_first plain some_ known limit
    rw [Reference.resolve_cased listed leads, Option.some.injEq] at resolved
    rw [resolved] at leads
    obtain ⟨-, before, after, split, passed⟩ := leads
    refine ⟨before, after, split, fun other earlier cased => passed other earlier ?_⟩
    exact (leads_iff other).mpr ⟨split ▸ List.mem_append_left _ earlier, cased⟩
  · rintro ⟨before, after, split, passed⟩
    refine Reference.resolve_cased listed ⟨(leads_iff field).mpr ⟨known, rfl⟩, before, after, split,
      fun other earlier leads => ?_⟩
    exact passed other earlier ((leads_iff other).mp leads).2

end Colored

theorem planned_color_named {command field : String} {names : List String} {made : Plan}
    (planned : plan command names = .ok made) {kind : Option FieldKind}
    {settings : Option Members}
    (colors : .setEncoding .color field kind settings ∈ made.operations) : field ≠ "" := by
  have named {found : Option (List Char)}
      (encoded : (found.bind (Phrase.encode (wordingOf command names) .color)) =
        some (.setEncoding .color field kind settings)) : field ≠ "" := by
    obtain ⟨reference, -, other, resolved, same⟩ := Phrase.encoded_channel found
      (wordingOf command names) (fun _ => .color) id _ encoded
    cases same
    obtain ⟨way, -, some_, -⟩ := Reference.resolve_leads resolved
    exact some_
  rcases (plan_colors planned).mp colors with byName | used
  · exact named byName
  · exact named used

/-- The command to color by a field colors by just that field if its name is in lower case, or if
no name is the lower case of it and no name before it differs from it by case only. Otherwise it
colors by another one that does. -/
theorem color_by_exact_iff (field : String) (names : List String) (known : field ∈ names)
    (plain : ∀ c ∈ field.toList, isPlain c = true) :
    ((∃ made, plan (colored field) names = .ok made ∧
        .setEncoding .color field none none ∈ made.operations ∧
        ∀ other kind settings,
          .setEncoding .color other kind settings ∈ made.operations → other = field) ↔
      field ≠ "" ∧ (String.ofList (Reference.lowered field) = field ∨
        String.ofList (Reference.lowered field) ∉ names ∧
          ∃ before after, names = before ++ field :: after ∧
            ∀ other ∈ before, Reference.lowered other ≠ Reference.lowered field)) ∧
    (field ≠ "" → ∃ made, plan (colored field) names = .ok made ∧
      ∃ chosen ∈ names, Reference.lowered chosen = Reference.lowered field ∧
        ∀ other kind settings, .setEncoding .color other kind settings ∈ made.operations ↔
          other = chosen ∧ kind = none ∧ settings = none) := by
  refine ⟨⟨?_, ?_⟩, fun some_ => ?_⟩
  -- Nothing resolves to the empty name, so there is a name to look for.
  · rintro ⟨made, planned, colors, -⟩
    have some_ := planned_color_named planned colors
    have resolved := ((colored_colors plain some_ planned).mp colors).1
    exact ⟨some_, (lowered_resolves_iff plain some_ known _).mp resolved⟩
  · rintro ⟨some_, first⟩
    have resolved := (lowered_resolves_iff plain some_ known Reference.usualLimit).mpr first
    obtain ⟨made, planned⟩ := colored_planned plain some_
    refine ⟨made, planned, (colored_colors plain some_ planned).mpr ⟨resolved, rfl, rfl⟩, ?_⟩
    intro other kind settings colors
    have also := ((colored_colors plain some_ planned).mp colors).1
    exact Option.some.inj (also.symm.trans resolved)
  · obtain ⟨made, planned⟩ := colored_planned plain some_
    obtain ⟨chosen, there, cased, resolved⟩ :=
      lowered_resolves plain some_ known Reference.usualLimit
    refine ⟨made, planned, chosen, there, cased, fun other kind settings => ?_⟩
    rw [colored_colors plain some_ planned, resolved, Option.some.injEq, eq_comm]

theorem first_cased_colored :
    "Region" ∈ ["region_2", "Region", "REGION"] ∧
      (∀ c ∈ "Region".toList, isPlain c = true) ∧
      ∃ made, plan (colored "Region") ["region_2", "Region", "REGION"] = .ok made ∧
        .setEncoding .color "Region" none none ∈ made.operations ∧
        ∀ other kind settings,
          .setEncoding .color other kind settings ∈ made.operations → other = "Region" := by
  have known : "Region" ∈ ["region_2", "Region", "REGION"] := by decide
  have plain : ∀ c ∈ "Region".toList, isPlain c = true := List.all_iff_forall_prop.mp (by decide)
  refine ⟨known, plain, (color_by_exact_iff "Region" _ known plain).1.mpr ⟨by decide, .inr ?_⟩⟩
  exact ⟨by decide, ["region_2"], ["REGION"], rfl, by decide⟩

/-- It is not so that a name colors by itself wherever it is given exactly: "Region" colors by
"region" if there is such a field. -/
theorem cased_name_loses :
    ¬∀ (names : List String) (field : String), names.Nodup →
      (∀ name ∈ names, ∀ c ∈ name.toList, isPlain c = true) → field ∈ names →
        ∃ made, plan (colored field) names = .ok made ∧
          .setEncoding .color field none none ∈ made.operations ∧
          ∀ other kind settings,
            .setEncoding .color other kind settings ∈ made.operations → other = field := by
  intro always
  have plain : ∀ name ∈ ["Region", "region"], ∀ c ∈ name.toList, isPlain c = true :=
    List.forall_mem_cons.mpr ⟨List.all_eq_true.mp (by decide),
      List.forall_mem_singleton.mpr (List.all_eq_true.mp (by decide))⟩
  have known : "Region" ∈ ["Region", "region"] := by decide
  obtain ⟨made, planned, -, only⟩ := always ["Region", "region"] "Region" (by decide) plain known
  have resolved : Reference.resolve? (String.ofList (Reference.lowered "Region"))
      ["Region", "region"] = some "region" := by decide
  have colors := (colored_colors (plain _ known) (by decide) planned).mpr ⟨resolved, rfl, rfl⟩
  exact absurd (only _ _ _ colors) (by decide)

end Command
end Chartwright
