import Chartwright.Proofs.Command.Listing
import Chartwright.Proofs.Command.Plan
import Mathlib.Data.List.Induction

/-!
Colors of single values, as in "make west blue, east red". Every value of such a list gets its color
under its name in title case, and the last color that is given for a name counts.
-/

namespace Chartwright
open Text Pattern

namespace Series

/-! Names have one color each: the last one given, in the place of the first. -/

section Names
variable (colors : List (String × String)) (name color : String)

theorem put_names : (Phrase.putColor colors (name, color)).map (·.1) =
    if name ∈ colors.map (·.1) then colors.map (·.1) else colors.map (·.1) ++ [name] := by
  induction colors with
  | nil => rfl
  | cons first rest ih =>
      obtain ⟨other, old⟩ := first
      unfold Phrase.putColor
      by_cases same : other = name
      · simp [same]
      · rw [if_neg same, List.map_cons, ih]
        by_cases listed : name ∈ rest.map (·.1)
        · simp [listed]
        · simp [listed, Ne.symm same]

theorem put_lookup (asked : String) : (Phrase.putColor colors (name, color)).lookup asked =
    if asked = name then some color else colors.lookup asked := by
  induction colors with
  | nil =>
      by_cases here : asked = name
      · simp [Phrase.putColor, here]
      · simp [Phrase.putColor, List.lookup_cons, here, beq_eq_false_iff_ne.mpr here]
  | cons first rest ih =>
      obtain ⟨other, old⟩ := first
      unfold Phrase.putColor
      by_cases same : other = name
      · subst same
        by_cases here : asked = other
        · simp [here]
        · simp [List.lookup_cons, here, beq_eq_false_iff_ne.mpr here]
      · rw [if_neg same, List.lookup_cons, List.lookup_cons, ih]
        by_cases first : asked = other
        · subst first
          simp [same]
        · simp [beq_eq_false_iff_ne.mpr first]

end Names

/-- The names are in the order in which they are first mentioned, and the last color counts. -/
theorem put_all (entries : List (String × String)) :
    (entries.foldl Phrase.putColor []).map (·.1) = (entries.map (·.1)).eraseDups ∧
      ∀ name, (entries.foldl Phrase.putColor []).lookup name = entries.reverse.lookup name := by
  -- By induction from the end: what is put last counts.
  induction entries using List.reverseRecOn with
  | nil => exact ⟨rfl, fun _ => rfl⟩
  | append_singleton entries last ih =>
      obtain ⟨names, colors⟩ := ih
      obtain ⟨name, color⟩ := last
      rw [List.foldl_concat]
      constructor
      · rw [put_names, names, List.map_append, List.eraseDups_append]
        by_cases listed : name ∈ entries.map (·.1)
        · simp [listed, List.removeAll]
        · simp [listed, List.removeAll, List.eraseDups_cons]
      · intro asked
        rw [put_lookup, colors, List.reverse_append, List.reverse_singleton, List.singleton_append,
          List.lookup_cons]
        by_cases here : asked = name
        · simp [here]
        · simp [here, beq_eq_false_iff_ne.mpr here]

/-! The last word of an entry is its color, and all before it its value. -/

def shadePattern : Pattern (List Char) := Phrase.codeWord <|> run1 Phrase.isSeriesChar

theorem shade_takes {place after : Place} {taken : List Char}
    (found : Finds shadePattern place taken after) : place.ahead = taken ++ after.ahead := by
  rcases either_finds.mp found with code | word
  · obtain ⟨_, between, sign, found⟩ := bind_finds.mp code
    obtain ⟨digits, last, run, found⟩ := bind_finds.mp found
    have spelled : "#".toList = ['#'] := by decide
    split at found
    · obtain ⟨rfl, rfl⟩ := pure_finds.mp found
      rw [exactly_finds sign, (run1_finds run).1.ahead, spelled]
      rfl
    · cases found
  · exact (run1_finds word).1.ahead

/-- At the end of a text without white space there is no line. -/
theorem ended {place : Place} (ends : Finds atEnd place () place)
    (solid : ∀ c ∈ place.ahead, isBlank c = false) : place.ahead = [] := by
  rcases Bool.or_eq_true_iff.mp (here_finds.mp ends).1 with done | line
  · exact List.isEmpty_iff.mp done
  · have newline : '\n' ∈ place.ahead := by simp [beq_iff_eq.mp line]
    exact absurd (solid _ newline) (by decide)

/-- A text of two words is cut at its only white space. -/
theorem cut_at_blank {value color name rest : List Char} {c : Char}
    (split : value ++ ' ' :: color = name ++ c :: rest) (blank : isBlank c = true)
    (valueSolid : ∀ c ∈ value, isBlank c = false) (colorSolid : ∀ c ∈ color, isBlank c = false) :
    name = value ∧ rest = color := by
  -- Where one front is longer, the white space of the other split lies in a word.
  rcases List.append_eq_append_iff.mp split with ⟨more, rfl, tail⟩ | ⟨more, rfl, tail⟩
  · cases more with
    | nil => exact ⟨List.append_nil _, (List.cons.inj tail).2.symm⟩
    | cons d more =>
        have inside : c ∈ color := by simp [(List.cons.inj tail).2]
        rw [colorSolid c inside] at blank
        cases blank
  · cases more with
    | nil => exact ⟨(List.append_nil _).symm, (List.cons.inj tail).2⟩
    | cons d more =>
        obtain ⟨rfl, -⟩ := List.cons.inj tail
        have inside : c ∈ name ++ c :: more := by simp
        rw [valueSolid c inside] at blank
        cases blank

section Read
variable {entry : Entry} (parts : entry.IsParts)
  (series : ∀ c ∈ entry.value, Phrase.isSeriesChar c = true)
  (shade : ∀ behind, Finds shadePattern ⟨behind, entry.color⟩ entry.color
    ⟨entry.color.getLast?.or behind, []⟩)
include parts

theorem series_only {name color : List Char} {after : Place}
    (found : Finds Phrase.seriesPattern (.start entry.text) (name, color) after) :
    (name, color) = (entry.value, entry.color) := by
  obtain ⟨taken, between, ran, found⟩ := bind_finds.mp found
  obtain ⟨_, reached, gapped, found⟩ := bind_finds.mp found
  obtain ⟨shade, last, shaded, found⟩ := bind_finds.mp found
  obtain ⟨_, final, ends, found⟩ := bind_finds.mp found
  obtain ⟨same, -⟩ := pure_finds.mp found
  cases same
  obtain ⟨ahead, -⟩ := (run1_finds (reluctant1_finds_iff.mp ran)).1
  obtain ⟨c, gap, split, blank, spaced, -⟩ := blanks1_finds gapped
  rw [split, List.cons_append] at ahead
  obtain ⟨rfl, rest⟩ := cut_at_blank ahead blank parts.value.solid parts.color.solid
  -- There is no more white space behind the first.
  have single : gap = [] := by
    refine List.eq_nil_iff_forall_not_mem.mpr fun d inside => ?_
    have solid := parts.color.solid d (rest ▸ List.mem_append_left _ inside)
    rw [spaced d inside] at solid
    cases solid
  rw [single, List.nil_append, shade_takes shaded] at rest
  have same : final = last := (here_finds.mp ends).2
  rw [same] at ends
  have done := ended ends fun d inside =>
    parts.color.solid d (rest ▸ List.mem_append_right _ inside)
  rw [done, List.append_nil] at rest
  rw [rest]

include series shade

theorem series_read :
    ∃ after, first? Phrase.seriesPattern (.start entry.text) =
      some ((entry.value, entry.color), after) := by
  have value : Finds (reluctant1 fun c => Phrase.isSeriesChar c || isBlank c)
      (.start entry.text) entry.value ⟨entry.value.getLast?.or none, ' ' :: entry.color⟩ := by
    refine reluctant1_finds_iff.mpr (run1_finds_iff.mpr ⟨⟨rfl, rfl⟩, ?_, parts.value.some_⟩)
    exact fun c inside => by simp [series c inside]
  have gap : Finds blanks1 ⟨entry.value.getLast?.or none, ' ' :: entry.color⟩ ()
      ⟨some ' ', entry.color⟩ := by
    refine first?_finds (first?_blanks1 (by decide) (fun c head => ?_) _)
    exact parts.color.solid c (List.mem_of_mem_head? head)
  have whole : Finds Phrase.seriesPattern (.start entry.text) (entry.value, entry.color)
      ⟨entry.color.getLast?.or (some ' '), []⟩ := by
    refine bind_finds.mpr ⟨_, _, value, bind_finds.mpr ⟨(), _, gap, ?_⟩⟩
    refine bind_finds.mpr ⟨_, _, shade _, bind_finds.mpr ⟨(), _, here_finds.mpr ⟨rfl, rfl⟩, ?_⟩⟩
    exact pure_finds.mpr ⟨rfl, rfl⟩
  exact first?_only whole fun read after found => series_only parts found

theorem series_color :
    Phrase.seriesColor? entry.text =
      some (String.ofList (titleCase entry.value), Color.ofWord entry.color) := by
  obtain ⟨after, read⟩ := series_read parts series shade
  have value : trim entry.value = entry.value := trim_tight
    ⟨fun c first => parts.value.solid c (List.mem_of_mem_head? first),
      fun c last => parts.value.solid c (List.mem_of_getLast? last)⟩
  rw [Phrase.seriesColor?, trim_tight (text_tight parts), read]
  simp only [Option.map_some, value]

end Read

/-! Values and colors as they are typed, in any case. -/

/-- A word of plain characters that is not the one between entries. -/
structure IsItem (text : List Char) : Prop where
  some_ : text ≠ []
  plain : ∀ c ∈ text, isPlain c = true
  other : lower text ≠ ['a', 'n', 'd']

/-- A number sign and three to six hexadecimal digits. -/
structure IsCode (digits : List Char) : Prop where
  hex : ∀ c ∈ digits, Color.isHexDigit c = true
  least : 3 ≤ digits.length
  most : digits.length ≤ 6

structure Entry.IsTyped (entry : Entry) : Prop where
  value : IsItem entry.value
  color : IsItem entry.color ∨ ∃ digits, entry.color = '#' :: digits ∧ IsCode digits

def Entry.lower (entry : Entry) : Entry := ⟨Text.lower entry.value, Text.lower entry.color⟩

theorem item_lower {text : List Char} (item : IsItem text) : IsItem (lower text) where
  some_ := lower_some item.some_
  plain c inside := Phrase.name_char_plain (Phrase.lower_named item.plain c inside)
  other := by
    rw [Phrase.lower_again item.plain]
    exact item.other

theorem item_part {text : List Char} (item : IsItem text) : IsPart text where
  some_ := item.some_
  solid c inside := (Phrase.plain_char (item.plain c inside)).solid
  commaless inside := absurd (item.plain _ inside) (by decide)
  other := by
    rintro rfl
    exact item.other (by decide)

theorem hex_plain {c : Char} (hex : Color.isHexDigit c = true) : isPlain c = true := by
  simp only [Color.isHexDigit, isPlain, isAsciiLower, isAsciiUpper, Bool.or_eq_true,
    Bool.and_eq_true, decide_eq_true_eq] at hex ⊢
  rcases hex with (digit | ⟨first, last⟩) | ⟨first, last⟩
  · exact .inr digit
  · exact .inl (.inl (.inl ⟨first, Char.le_trans last (by decide)⟩))
  · exact .inl (.inl (.inr ⟨first, Char.le_trans last (by decide)⟩))

theorem hex_lower {c : Char} (hex : Color.isHexDigit c = true) :
    Color.isHexDigit c.toLower = true ∧ Phrase.isLowerHex c.toLower = true := by
  have each : ∀ code < 128, Color.isHexDigit (Char.ofNat code) = true →
      Color.isHexDigit (Char.ofNat code).toLower = true ∧
        Phrase.isLowerHex (Char.ofNat code).toLower = true := by decide +kernel
  exact @of_ascii (fun c => Color.isHexDigit c = true →
    Color.isHexDigit c.toLower = true ∧ Phrase.isLowerHex c.toLower = true) each c
    (Phrase.plain_char (hex_plain hex)).ascii hex

section Codes
variable {digits : List Char} (code : IsCode digits)
include code

theorem code_part : IsPart ('#' :: digits) where
  some_ := List.cons_ne_nil _ _
  solid c inside := by
    rcases List.mem_cons.mp inside with rfl | digit
    · decide
    · exact (Phrase.plain_char (hex_plain (code.hex c digit))).solid
  commaless inside := by
    rcases List.mem_cons.mp inside with sign | digit
    · exact absurd sign (by decide)
    · exact absurd (code.hex _ digit) (by decide)
  other := by simp

theorem code_lower : lower ('#' :: digits) = '#' :: lower digits ∧ IsCode (lower digits) ∧
    ∀ c ∈ lower digits, Phrase.isLowerHex c = true := by
  have plain : ∀ c ∈ digits, isPlain c = true := fun c inside => hex_plain (code.hex c inside)
  have ascii : ∀ c ∈ '#' :: digits, c.toNat < 128 :=
    List.forall_mem_cons.mpr ⟨by decide, fun c inside => (Phrase.plain_char (plain c inside)).ascii⟩
  have each : ∀ c ∈ lower digits, Color.isHexDigit c = true ∧ Phrase.isLowerHex c = true := by
    rw [Phrase.plain_lower plain]
    intro c inside
    obtain ⟨d, there, rfl⟩ := List.mem_map.mp inside
    exact hex_lower (code.hex d there)
  have length : (lower digits).length = digits.length := by
    rw [Phrase.plain_lower plain, List.length_map]
  refine ⟨?_, ⟨fun c inside => (each c inside).1, length ▸ code.least, length ▸ code.most⟩,
    fun c inside => (each c inside).2⟩
  rw [lower_ascii ascii, Phrase.plain_lower plain]
  rfl

end Codes

section Typed
variable {entry : Entry} (typed : entry.IsTyped)
include typed

theorem typed_parts : entry.IsParts where
  value := item_part typed.value
  color := by
    rcases typed.color with item | ⟨digits, spelled, code⟩
    · exact item_part item
    · exact spelled ▸ code_part code

theorem typed_lower : entry.lower.IsTyped where
  value := item_lower typed.value
  color := by
    rcases typed.color with item | ⟨digits, spelled, code⟩
    · exact .inl (item_lower item)
    · obtain ⟨sign, code, -⟩ := code_lower code
      exact .inr ⟨_, (congrArg Text.lower spelled).trans sign, code⟩

theorem typed_shade (behind : Option Char) :
    Finds shadePattern ⟨behind, entry.lower.color⟩ entry.lower.color
      ⟨entry.lower.color.getLast?.or behind, []⟩ := by
  rcases typed.color with item | ⟨digits, spelled, code⟩
  · refine either_finds.mpr (.inr (run1_finds_iff.mpr ⟨⟨(List.append_nil _).symm, rfl⟩, ?_, ?_⟩))
    · intro c inside
      rw [Phrase.isSeriesChar, Phrase.lower_named item.plain c inside, Bool.true_or]
    · exact lower_some item.some_
  · obtain ⟨sign, lowered, hex⟩ := code_lower code
    have color : entry.lower.color = '#' :: Text.lower digits :=
      (congrArg Text.lower spelled).trans sign
    have more : Text.lower digits ≠ [] := by
      intro none_
      have least := lowered.least
      simp [none_] at least
    rw [color]
    refine either_finds.mpr (.inl (bind_finds.mpr ⟨(), ⟨some '#', Text.lower digits⟩, ?_, ?_⟩))
    · exact first?_finds rfl
    refine bind_finds.mpr ⟨Text.lower digits, ⟨_, []⟩, run1_finds_iff.mpr
      ⟨⟨(List.append_nil _).symm, rfl⟩, hex, more⟩, ?_⟩
    rw [if_pos ⟨lowered.least, lowered.most⟩]
    refine pure_finds.mpr ⟨rfl, ?_⟩
    rw [List.getLast?_cons]
    cases (Text.lower digits).getLast? <;> rfl

def Entry.name (entry : Entry) : String := String.ofList (titleCase entry.value)

/-- The color that a word stands for, in any case. -/
def Entry.shade (entry : Entry) : String := Color.ofWord (Text.lower entry.color)

/-- A typed entry is read as its name and shade. -/
theorem typed_read :
    Phrase.seriesColor? entry.lower.text = some (entry.name, entry.shade) := by
  have series : ∀ c ∈ entry.lower.value, Phrase.isSeriesChar c = true := by
    intro c inside
    rw [Phrase.isSeriesChar, Phrase.lower_named typed.value.plain c inside, Bool.true_or]
  rw [series_color (typed_parts (typed_lower typed)) series (typed_shade typed)]
  exact congrArg (fun name => some (String.ofList name, entry.shade))
    (Phrase.title_again typed.value.plain typed.value.some_)

theorem typed_ascii :
    (∀ c ∈ entry.value, c.toNat < 128) ∧ ∀ c ∈ entry.color, c.toNat < 128 := by
  have plain {text : List Char} (item : IsItem text) : ∀ c ∈ text, c.toNat < 128 :=
    fun c inside => (Phrase.plain_char (item.plain c inside)).ascii
  refine ⟨plain typed.value, ?_⟩
  rcases typed.color with item | ⟨digits, spelled, code⟩
  · exact plain item
  · rw [spelled]
    exact List.forall_mem_cons.mpr ⟨by decide,
      fun c inside => (Phrase.plain_char (hex_plain (code.hex c inside))).ascii⟩

theorem text_lower : entry.text.map Char.toLower = entry.lower.text := by
  obtain ⟨value, color⟩ := typed_ascii typed
  simp only [Entry.text, Entry.lower, lower_ascii value, lower_ascii color, List.map_append,
    List.map_cons]
  rfl

end Typed

section Lists
variable {first : Entry} {others : Others} (typed : first.IsTyped)
  (all : ∀ other ∈ others, other.2.IsTyped)

def lowerOthers (others : Others) : Others := others.map fun other => (other.1, other.2.lower)

include typed all

theorem listing_lower :
    (listing first others).map Char.toLower = listing first.lower (lowerOthers others) := by
  induction others generalizing first with
  | nil => simpa [listing_eq, following, lowerOthers] using text_lower typed
  | cons other rest ih =>
      obtain ⟨joint, next⟩ := other
      obtain ⟨here, later⟩ := List.forall_mem_cons.mp all
      have same : joint.text.map Char.toLower = joint.text := by cases joint <;> decide
      rw [listing_eq, following_cons, List.map_append, List.map_append, text_lower typed, same,
        ih here later, listing_eq first.lower]
      rfl

theorem making_lower :
    lower (making first others) = making first.lower (lowerOthers others) := by
  have ascii {entry : Entry} (typed : entry.IsTyped) : ∀ c ∈ entry.text, c.toNat < 128 := by
    obtain ⟨value, color⟩ := typed_ascii typed
    exact List.forall_mem_append.mpr ⟨value, List.forall_mem_cons.mpr ⟨by decide, color⟩⟩
  have list := listing_all (List.all_iff_forall_prop.mp (by decide)) (ascii typed)
    fun other inside => ascii (all other inside)
  have words : ∀ c ∈ making first others, c.toNat < 128 := by
    rw [making]
    simp only [List.forall_mem_cons]
    exact ⟨by decide, by decide, by decide, by decide, by decide, list⟩
  rw [lower_ascii words, making, List.map_cons, List.map_cons, List.map_cons, List.map_cons,
    List.map_cons, listing_lower typed all]
  rfl

theorem made_wording (names : List String) :
    Command.wordingOf (String.ofList (making first others)) names =
      ⟨making first others, making first.lower (lowerOthers others), names⟩ := by
  have parts := typed_parts typed
  have allParts : ∀ other ∈ others, other.2.IsParts :=
    fun other inside => typed_parts (all other inside)
  have tight : Tight (making first others) := by
    have start : isBlank 'm' = false := by decide
    refine ⟨?_, fun c last => listing_last parts allParts c ?_⟩
    · rintro c ⟨⟩
      exact start
    · have some_ : listing first others ≠ [] := by simp [listing]
      simpa only [making, List.getLast?_cons_cons, List.getLast?_cons_of_ne_nil some_] using last
  have untitled : search Title.pattern (making first others) = none :=
    @Title.search_past ['m', 'a', 'k', 'e', ' '] _ (by decide) none
      (listing_untitled parts allParts _)
  rw [Command.wordingOf, String.toList_ofList, trim_tight tight, Title.split, untitled,
    Wording.of, making_lower typed all]

def colorsOf (first : Entry) (others : Others) : List (String × String) :=
  (first :: others.map (·.2)).map fun entry => (entry.name, entry.shade)

variable (named : lower first.value ∉ ["it".toList, "a".toList, "an".toList])
  (other : ¬(lower first.value = "the".toList ∧ lower first.color = "chart".toList))
include named other

theorem made_colors (names : List String) :
    Phrase.seriesColors (Command.wordingOf (String.ofList (making first others)) names) =
      some (.setSeriesColors ((colorsOf first others).foldl Phrase.putColor [])) := by
  have parts := typed_parts (typed_lower typed)
  have allParts : ∀ other ∈ lowerOthers others, other.2.IsParts := by
    intro other inside
    obtain ⟨raw, there, rfl⟩ := List.mem_map.mp inside
    exact typed_parts (typed_lower (all raw there))
  have worded {text : List Char} (item : IsItem text) : ∀ c ∈ lower text, isWordChar c = true :=
    fun c inside => (Phrase.name_char (Phrase.lower_named item.plain c inside)).word
  have shade : (∀ c ∈ first.lower.color, isWordChar c = true) ∨
      first.lower.color.head? = some '#' := by
    rcases typed.color with item | ⟨digits, spelled, code⟩
    · exact .inl (worded item)
    · refine .inr ?_
      rw [Entry.lower, spelled, (code_lower code).1, List.head?_cons]
  have found := make_found parts allParts (worded typed.value) named shade other
  have read : (pieces Phrase.listSeparator (listing first.lower (lowerOthers others))).filterMap
      Phrase.seriesColor? = colorsOf first others := by
    have texts : first.lower.text :: (lowerOthers others).map (fun other => other.2.text) =
        (first :: others.map (·.2)).map fun entry => entry.lower.text := by
      simp [lowerOthers]
    have each : ∀ entry ∈ first :: others.map (·.2),
        (Phrase.seriesColor? ∘ fun entry : Entry => entry.lower.text) entry =
          (some ∘ fun entry : Entry => (entry.name, entry.shade)) entry := by
      refine List.forall_mem_cons.mpr ⟨typed_read typed, fun entry inside => ?_⟩
      obtain ⟨other, there, rfl⟩ := List.mem_map.mp inside
      exact typed_read (all other there)
    rw [listing_pieces parts allParts, texts, List.filterMap_map, List.filterMap_congr each]
    exact congrFun List.filterMap_eq_map _
  have some_ : ((colorsOf first others).foldl Phrase.putColor []).isEmpty = false := by
    have names := (put_all (colorsOf first others)).1
    cases colors : (colorsOf first others).foldl Phrase.putColor [] with
    | nil =>
        rw [colors] at names
        simp [colorsOf, List.eraseDups_cons] at names
    | cons => rfl
  rw [made_wording typed all, Phrase.seriesColors]
  simp only [found, Option.bind_eq_bind, Option.bind_some, read, some_, Bool.false_eq_true,
    if_false]

end Lists

end Series

namespace Command
open Series

/-- The command to color the values of a list. -/
def recolored (first : Entry) (others : Others) : String := String.ofList (making first others)

/-- Every list of values and colors is read as such: a plan for it colors the values by their names,
in the order in which they are first mentioned, each with the last color that is given for it. There
is a plan unless the phrases take a run of digits for a number that is longer than numbers are read,
for which the command must have that many digits. -/
theorem series_colored (first : Entry) (others : Others) (names : List String)
    (typed : first.IsTyped) (all : ∀ other ∈ others, other.2.IsTyped)
    (named : lower first.value ∉ ["it".toList, "a".toList, "an".toList])
    (other : ¬(lower first.value = "the".toList ∧ lower first.color = "chart".toList)) :
    (∀ made, plan (recolored first others) names = .ok made → ∃ colors,
      made.operations.filter (fun operation => operation.kind = .setSeriesColors) =
          [.setSeriesColors colors] ∧
        colors.map (·.1) = ((first :: others.map (·.2)).map Entry.name).eraseDups ∧
        ∀ name, colors.lookup name = ((first :: others.map (·.2)).map fun entry =>
          (entry.name, entry.shade)).reverse.lookup name) ∧
    ((∃ made, plan (recolored first others) names = .ok made) ↔
      ∀ digits ∈ Phrase.numerals (wordingOf (recolored first others) names).lowered,
        digits.length ≤ Numeral.digitLimit) ∧
    ((recolored first others).toList.countP isDigit ≤ Numeral.digitLimit →
      ∃ made, plan (recolored first others) names = .ok made) := by
  refine ⟨fun made planned => ?_, plan_made_iff _ names, fun few => plan_of_few_digits few names⟩
  have split : Phrase.kinds = Phrase.kinds.take 2 ++
      (.setSeriesColors, Phrase.ofReader Phrase.seriesColors) :: Phrase.kinds.drop 3 := rfl
  obtain ⟨operation, found, alone⟩ :=
    plan_alone split (by decide) (by decide) (by decide) (by decide) planned
  have colors := Except.ok.inj found
  rw [recolored, made_colors typed all named other] at colors
  obtain ⟨keys, last⟩ := put_all (colorsOf first others)
  refine ⟨_, by rw [alone, ← colors]; rfl, ?_, last⟩
  rw [keys, colorsOf, List.map_map]
  rfl

def west : Entry := ⟨"West".toList, "blue".toList⟩

/-- East in some color, and west in another one. -/
def eastAndWest : Others :=
  [(.comma, ⟨"east".toList, "#abcd".toList⟩), (.and, ⟨"WEST".toList, "teal".toList⟩)]

theorem west_recolored :
    west.IsTyped ∧ (∀ other ∈ eastAndWest, other.2.IsTyped) ∧
      lower west.value ∉ ["it".toList, "a".toList, "an".toList] ∧
      ¬(lower west.value = "the".toList ∧ lower west.color = "chart".toList) ∧
      ∃ made colors, plan "make West blue, east #abcd and WEST teal" ["Region"] = .ok made ∧
        made.operations.filter (fun operation => operation.kind = .setSeriesColors) =
          [.setSeriesColors colors] ∧
        colors.map (·.1) = ["West", "East"] ∧ colors.lookup "West" = some "teal" ∧
        colors.lookup "East" = some "#abcd" := by
  have item {text : List Char} (some_ : text ≠ []) (plain : text.all isPlain = true)
      (other : lower text ≠ ['a', 'n', 'd']) : IsItem text :=
    ⟨some_, List.all_eq_true.mp plain, other⟩
  have typed : west.IsTyped :=
    ⟨item (by decide) (by decide) (by decide), .inl (item (by decide) (by decide) (by decide))⟩
  have code : IsCode "abcd".toList :=
    ⟨List.all_eq_true.mp (by decide), by decide, by decide⟩
  have all : ∀ other ∈ eastAndWest, other.2.IsTyped := by
    refine List.forall_mem_cons.mpr ⟨⟨item (by decide) (by decide) (by decide), .inr ?_⟩,
      List.forall_mem_singleton.mpr ⟨item (by decide) (by decide) (by decide),
        .inl (item (by decide) (by decide) (by decide))⟩⟩
    exact ⟨_, by decide, code⟩
  have named : lower west.value ∉ ["it".toList, "a".toList, "an".toList] := by decide
  have other : ¬(lower west.value = "the".toList ∧ lower west.color = "chart".toList) := by decide
  have words : recolored west eastAndWest = "make West blue, east #abcd and WEST teal" := by decide
  obtain ⟨colored, -, planned⟩ := series_colored west eastAndWest ["Region"] typed all named other
  rw [words] at colored planned
  obtain ⟨made, planned⟩ := planned (by decide)
  obtain ⟨colors, alone, keys, last⟩ := colored made planned
  exact ⟨typed, all, named, other, made, colors, planned, alone, keys.trans (by decide),
    (last _).trans (by decide), (last _).trans (by decide)⟩

/-- The value "top" with a number for its color. -/
def ranked (digits : List Char) : Entry := ⟨['t', 'o', 'p'], digits⟩

section Ranked
variable {digits : List Char} (numeric : ∀ c ∈ digits, c ∈ digitChars) (some_ : digits ≠ [])
include numeric

theorem numeric_lower : lower digits = digits := by
  refine rank_lower fun c inside => ?_
  simp only [rankChars, rankText, List.mem_cons]
  simp [numeric c inside]

include some_

theorem ranked_typed : (ranked digits).IsTyped := by
  have plain : ∀ c ∈ digitChars, isPlain c = true := List.all_eq_true.mp (by decide)
  have other : lower digits ≠ ['a', 'n', 'd'] := by
    rw [numeric_lower numeric]
    rintro rfl
    exact absurd (numeric 'a' List.mem_cons_self) (by decide)
  have top : IsItem ['t', 'o', 'p'] := ⟨by decide, List.all_eq_true.mp (by decide), by decide⟩
  exact ⟨top, .inl ⟨some_, fun c inside => plain c (numeric c inside), other⟩⟩

/-- Its color is taken for a number of rows. -/
theorem ranked_counted (names : List String) :
    digits ∈ Phrase.numerals (wordingOf (recolored (ranked digits) []) names).lowered := by
  -- No letter of "make" begins a rank, so the search reaches the value.
  have vain (behind : Option Char) (ahead : List Char)
      (suffix : ahead <:+ ['m', 'a', 'k', 'e', ' ']) (more : ahead ≠ []) :
      first? Phrase.topPattern ⟨behind, ahead ++ rankText digits⟩ = none := by
    refine first?_none_iff.mpr fun value after found => ?_
    obtain ⟨_, edge, here, found⟩ := bind_finds.mp found
    obtain ⟨-, rfl⟩ := here_finds.mp here
    obtain ⟨side, between, sided, _⟩ := bind_finds.mp found
    obtain ⟨listed, split⟩ := one_of_finds sided
    obtain ⟨c, later, rfl⟩ := List.exists_cons_of_ne_nil more
    have inside : c ∈ ['m', 'a', 'k', 'e', ' '] := suffix.subset List.mem_cons_self
    have words : "top".toList = ['t', 'o', 'p'] ∧
        "bottom".toList = ['b', 'o', 't', 't', 'o', 'm'] := by decide
    simp only [List.mem_cons, List.not_mem_nil, or_false] at listed
    rcases listed with rfl | rfl
    · rw [words.1] at split
      exact absurd ((List.cons.inj split).1 ▸ inside) (by decide)
    · rw [words.2] at split
      exact absurd ((List.cons.inj split).1 ▸ inside) (by decide)
  have lowered : (wordingOf (recolored (ranked digits) []) names).lowered =
      ['m', 'a', 'k', 'e', ' '] ++ rankText digits := by
    have top : lower ['t', 'o', 'p'] = ['t', 'o', 'p'] := by decide
    rw [recolored, made_wording (ranked_typed numeric some_) (by simp)]
    simp [making, listing_eq, Entry.text, Entry.lower, ranked, lowerOthers, following, top,
      numeric_lower numeric, rankText]
  obtain ⟨c, others, rfl⟩ := List.exists_cons_of_ne_nil some_
  have edge : (some ' ').any isWordChar = false := by decide
  obtain ⟨after, first⟩ := rank_first numeric edge
  have found : search Phrase.topPattern (['m', 'a', 'k', 'e', ' '] ++ rankText (c :: others)) = _ :=
    search_from_reaches vain none first
  have counted : Phrase.count? (['m', 'a', 'k', 'e', ' '] ++ rankText (c :: others)) =
      some (c :: others) := by
    rw [Phrase.count?, find?, found]
    rfl
  rw [lowered, Phrase.numerals, counted]
  simp

end Ranked

/-- It is not so that every list is read: the color of a value "top" may be taken for a number of
rows, and have too many digits for one. -/
theorem padded_shade_unplanned :
    ¬∀ (first : Entry) (others : Others) (names : List String), first.IsTyped →
      (∀ other ∈ others, other.2.IsTyped) →
      lower first.value ∉ ["it".toList, "a".toList, "an".toList] →
      ¬(lower first.value = "the".toList ∧ lower first.color = "chart".toList) →
        ∃ made colors, plan (recolored first others) names = .ok made ∧
          made.operations.filter (fun operation => operation.kind = .setSeriesColors) =
            [.setSeriesColors colors] := by
  intro always
  have numeric : ∀ c ∈ paddedFive, c ∈ digitChars := by
    refine List.forall_mem_append.mpr
      ⟨fun c padding => ?_, List.forall_mem_singleton.mpr (by decide)⟩
    rw [List.eq_of_mem_replicate padding]
    decide
  have some_ : paddedFive ≠ [] := by simp [paddedFive]
  have long : Numeral.digitLimit < paddedFive.length := by simp [paddedFive]
  have top : lower ['t', 'o', 'p'] = ['t', 'o', 'p'] := by decide
  obtain ⟨made, colors, planned, -⟩ := always (ranked paddedFive) [] [] (ranked_typed numeric some_)
    (by simp) (by decide) (by simp [ranked, top])
  have few := (plan_made_iff _ []).mp ⟨made, planned⟩ _ (ranked_counted numeric some_ [])
  exact absurd few (Nat.not_le.mpr long)

end Command
end Chartwright
