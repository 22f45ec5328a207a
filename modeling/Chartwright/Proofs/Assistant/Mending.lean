import Chartwright.Proofs.Assistant.Trailing

/-!
What mending does to a reply that would be JSON but for commas in front of closing brackets. It
takes these commas away and so comes back to the text without them. Whatever else it does, it does
without regard to strings: the document comes out only if the text without the commas stands for the
same when it is mended. A text that holds nothing to be mended is spared.
-/

namespace Chartwright
open Json Json.Reading Text

namespace Recovery

/-! Commas. -/

/-- Whether a closing bracket comes next, apart from blanks. -/
def closesNext (text : List Char) : Bool := (text.dropWhile isBlank).head?.any isClosing

theorem closes_next_blank {c : Char} (blank : isBlank c = true) (text : List Char) :
    closesNext (c :: text) = closesNext text := by
  simp [closesNext, blank]

theorem closes_next_shown {c : Char} (shown : ¬isBlank c = true) (text : List Char) :
    closesNext (c :: text) = isClosing c := by
  simp [closesNext, shown]

theorem closes_next_split {text : List Char} (closes : closesNext text = true) :
    ∃ blanks c rest, text = blanks ++ c :: rest ∧ (∀ b ∈ blanks, isBlank b = true) ∧
      isClosing c = true := by
  obtain ⟨c, first, closing⟩ := (Option.any_eq_true _ _).mp closes
  obtain ⟨rest, ends⟩ := List.head?_eq_some_iff.mp first
  refine ⟨text.takeWhile isBlank, c, rest, ?_, ?_, closing⟩
  · rw [← ends, List.takeWhile_append_dropWhile]
  · exact fun b member => List.mem_takeWhile_imp member

theorem blank_after {c : Char} (blank : isBlank c = true) {place : Inside} :
    place.after c = .nothing ↔ place = .nothing := by
  have noQuote : c ≠ '"' := by
    rintro rfl
    cases blank
  cases place with
  | nothing => simp [Inside.after, noQuote]
  | string => by_cases backslash : c = '\\' <;> simp [Inside.after, noQuote, backslash]
  | escape => simp [Inside.after]

/-- Within a string nothing is put in front of what comes next. -/
theorem closes_next_within {place : Inside} {text trailed : List Char}
    (more : Trailed place text trailed) (within : place ≠ .nothing) :
    closesNext trailed = closesNext text := by
  induction more with
  | done => rfl
  | kept c rest ih =>
      by_cases blank : isBlank c = true
      · rw [closes_next_blank blank, closes_next_blank blank,
          ih fun outside => within ((blank_after blank).mp outside)]
      · rw [closes_next_shown blank, closes_next_shown blank]
  | comma => exact absurd rfl within

theorem closes_next_outside {place : Inside} {text trailed : List Char}
    (more : Trailed place text trailed) (further : closesNext text = false) :
    closesNext trailed = false := by
  induction more with
  | done => exact further
  | kept c rest ih =>
      by_cases blank : isBlank c = true
      · rw [closes_next_blank blank] at further ⊢
        exact ih further
      · rwa [closes_next_shown blank] at further ⊢
  | comma => rw [closes_next_shown (by decide)]; rfl

theorem last_commas_pass {front : List Char} (plain : ∀ c ∈ front, c ≠ ',') (text : List Char) :
    withoutLastCommas (front ++ text) = front ++ withoutLastCommas text := by
  induction front with
  | nil => rfl
  | cons c rest ih =>
      have noComma := plain c (by simp)
      simp only [List.cons_append, withoutLastCommas, noComma, false_and, if_false]
      rw [ih fun d member => plain d (by simp [member])]

theorem last_comma_dropped {text : List Char} (closes : closesNext text = true) :
    withoutLastCommas (',' :: text) = withoutLastCommas text := by
  rw [withoutLastCommas, if_pos ⟨rfl, closes⟩]

theorem last_comma_kept {c : Char} {text : List Char}
    (kept : ¬(c = ',' ∧ closesNext text = true)) :
    withoutLastCommas (c :: text) = c :: withoutLastCommas text := if_neg kept

theorem last_commas_cons {c : Char} {text other : List Char}
    (same : withoutLastCommas text = withoutLastCommas other)
    (alike : c = ',' → closesNext text = closesNext other) :
    withoutLastCommas (c :: text) = withoutLastCommas (c :: other) := by
  by_cases comma : c = ','
  · have ahead := alike comma
    unfold closesNext at ahead
    simp only [withoutLastCommas, same, ahead]
  · simp only [withoutLastCommas, same, comma, false_and, if_false]

-- A comma outside of strings has no bracket behind it, or nothing would be read. One within a
-- string has the same behind it in both texts.
theorem commas_taken_away [Json.Stack] {reading : Reading} {text trailed : List Char}
    {document : Json} {place : Inside} (regular : reading.Regular) (inside : reading.inside = place)
    (more : Trailed place text trailed) (whole : reading.after text = ⟨.done document, []⟩) :
    withoutLastCommas trailed = withoutLastCommas text := by
  induction more generalizing reading with
  | done => rfl
  | @kept place text trailed c rest ih =>
      have alive := alive_of_whole whole
      have broken := whole ▸ done_unbroken document
      rw [after_cons] at whole
      have moved := step_inside regular whole
      refine last_commas_cons (ih (step_regular regular 0 c) (by rw [moved, inside]) whole) ?_
      rintro rfl
      cases place with
      | nothing =>
          have further : closesNext text = false := by
            by_contra closes
            obtain ⟨blanks, c, behind, rfl, blank, closing⟩ :=
              closes_next_split (Bool.not_eq_false _ ▸ closes)
            exact broken (last_comma_broken regular inside alive blank closing behind)
          rw [further, closes_next_outside rest further]
      | string => exact closes_next_within rest Inside.noConfusion
      | escape => exact closes_next_within rest Inside.noConfusion
  | @comma text trailed blanks c blank closing rest ih =>
      have noComma : ∀ d ∈ blanks ++ [c], d ≠ ',' := by
        intro d member
        rcases List.mem_append.mp member with space | bracket
        · rintro rfl
          cases blank _ space
        · rw [List.mem_singleton.mp bracket]
          rintro rfl
          cases closing
      have pass (text : List Char) : withoutLastCommas (blanks ++ c :: text) =
          blanks ++ c :: withoutLastCommas text := by
        simpa using last_commas_pass noComma text
      have closes : closesNext (blanks ++ c :: trailed) = true := by
        rw [closesNext, List.dropWhile_append_of_pos fun b member => space_blank (blank b member)]
        simp [(no_bracket (.inr closing)).2, closing]
      rw [last_comma_dropped closes, pass, pass]
      rw [after_append, after_cons] at whole
      have outside := blanks_outside regular inside blank
      have regular' := after_regular regular blanks
      have moved := step_inside regular' whole
      rw [ih (step_regular regular' 0 c) (by rw [moved, outside, closing_after closing]) whole]

theorem mended_trailed [Json.Stack] {text trailed : List Char} {document : Json}
    (more : Trailed .nothing text trailed) (whole : start.after text = ⟨.done document, []⟩) :
    mended trailed = mended text := by
  unfold mended
  rw [commas_taken_away start_regular rfl more whole]

/-! Texts that hold nothing to be mended. -/

/-- The text holds nothing that is taken for a fault: no comma in front of a closing bracket, no
capitalized constant as a word, no three dots and no two single quotes. -/
structure Spared (text : List Char) : Prop where
  commas : ∀ rest, ',' :: rest <:+ text → closesNext rest = false
  words : Pattern.occurs constants text = false
  dots : occursIn "...".toList text = false
  quotes : text.count '\'' ≤ 1

theorem commas_spared {text : List Char}
    (none : ∀ rest, ',' :: rest <:+ text → closesNext rest = false) :
    withoutLastCommas text = text := by
  induction text with
  | nil => rfl
  | cons c rest ih =>
      have later := ih fun others ends => none others (ends.trans (List.suffix_cons c rest))
      have kept : ¬(c = ',' ∧ closesNext rest = true) := by
        rintro ⟨rfl, closes⟩
        rw [none rest (List.suffix_refl _)] at closes
        cases closes
      rw [last_comma_kept kept, later]

theorem dots_spared {text : List Char} (none : occursIn "...".toList text = false) :
    withoutEllipses text = text := by
  induction text using withoutEllipses.induct with
  | case1 rest ih => cases none
  | case2 c rest other ih =>
      simp only [occursIn, Bool.or_eq_false_iff] at none
      rw [withoutEllipses, ih none.2]
      exact other
  | case3 => rfl

theorem quoted_body_none {text : List Char} (unquoted : '\'' ∉ text) : quotedBody text = none := by
  fun_induction quotedBody text with
  | case1 => rfl
  | case2 rest => exact absurd List.mem_cons_self unquoted
  | case3 rest => rfl
  | case4 c rest line ih =>
      rw [ih fun quote => unquoted (by simp [quote])]
      rfl
  | case5 => rfl
  | case6 c rest _ _ _ ih =>
      rw [ih fun quote => unquoted (by simp [quote])]
      rfl

theorem requoted_from_spared {text : List Char} (few : text.count '\'' ≤ 1) (count : Nat) :
    requotedFrom text count = text := by
  induction count generalizing text with
  | zero => rfl
  | succ count ih =>
      cases text with
      | nil => rfl
      | cons c rest =>
          rw [List.count_cons] at few
          have later : requotedFrom rest count = rest := ih (by omega)
          by_cases quote : c = '\''
          · have unquoted : '\'' ∉ rest := by
              rw [quote] at few
              simpa [List.count_eq_zero] using few
            simp [requotedFrom, quote, quoted_body_none unquoted, later]
          · simp [requotedFrom, quote, later]

theorem mended_spared {text : List Char} (spared : Spared text) : mended text = text := by
  unfold mended
  rw [commas_spared spared.commas, Pattern.substitute_unfound spared.words, dots_spared spared.dots]
  exact requoted_from_spared spared.quotes text.length

/-! The whole. -/

theorem readOr_ok_iff [Json.Stack] {text : List Char} {cause : SyntaxError → Cause}
    {document : Json} :
    (readOr text fun error => .error (cause error)) = .ok document ↔
      Json.read text = .ok document := by
  unfold readOr
  split
  · next read => simp [read]
  · next read => simp [read]
  · next read => simp [read]

theorem spaced_accepted [Json.Stack] {text spaced : List Char} {document : Json}
    (accepted : Json.read text = .ok document) (compound : document.compound?.isSome)
    (blanks : Spaced .nothing text spaced) : Json.read spaced = .ok document := by
  have whole := spaced_read start_regular rfl blanks (accepted_whole accepted compound)
  have unmarked : spaced.head? ≠ some byteOrderMark := by
    intro mark
    obtain ⟨rest, rfl⟩ := List.head?_eq_some_iff.mp mark
    have fails : start.step 0 byteOrderMark = fail .value 0 := by
      rfl
    rw [after_cons, fails] at whole
    exact done_unbroken document
      (whole ▸ broken_after (fail_broken 0 fun _ => SyntaxCause.noConfusion) rest)
  unfold Json.read
  rw [if_neg unmarked]
  exact readBare_done whole

/-- A reply with commas is what its text stands for when it is mended. -/
theorem trailed_read_iff [Json.Stack] {text : List Char} {reply : String} {document : Json}
    (accepted : Json.read text = .ok document) (compound : document.compound?.isSome)
    (commas : Trailed .nothing text reply.toList) (differ : reply.toList ≠ text) (other : Json) :
    Recovery.read reply = .ok other ↔ Json.read (mended (trim text)) = .ok other := by
  obtain ⟨holds, core, within, ⟨same, -⟩ | ⟨-, read⟩⟩ := read_trailed accepted compound commas
  · exact absurd same differ
  · rw [read, mended_trailed within holds.whole, readOr_ok_iff]

theorem trailed_spared [Json.Stack] {text : List Char} {reply : String} {document : Json}
    (accepted : Json.read text = .ok document) (compound : document.compound?.isSome)
    (commas : Trailed .nothing text reply.toList) (spared : Spared (trim text)) :
    Recovery.read reply = .ok document := by
  obtain ⟨holds, core, within, ⟨-, read⟩ | ⟨-, read⟩⟩ := read_trailed accepted compound commas
  · exact read
  · rw [read, mended_trailed within holds.whole, readOr_ok_iff, mended_spared spared]
    exact read_core holds

/-- A list or an object with commas in front of closing brackets is recovered as it is if its text
holds nothing else to be mended. In any case it comes out as what its text, without the commas,
stands for when it is mended. -/
theorem trailing_commas_read [Json.Stack] (text spaced reply : String) (document : Json)
    (accepted : Json.read text.toList = .ok document) (compound : document.compound?.isSome)
    (blanks : Spaced .nothing text.toList spaced.toList)
    (commas : Trailed .nothing spaced.toList reply.toList) :
    (Spared (trim spaced.toList) → Recovery.read reply = .ok document) ∧
      (reply ≠ spaced → ∀ other, Recovery.read reply = .ok other ↔
        Json.read (mended (trim spaced.toList)) = .ok other) := by
  have accepted' := spaced_accepted accepted compound blanks
  refine ⟨trailed_spared accepted' compound commas, fun differ => ?_⟩
  exact trailed_read_iff accepted' compound commas fun same => differ (String.toList_inj.mp same)

/-- Commas behind the last item of a list and the last member of an object. -/
theorem list_in_object_read :
    Json.read "\x7b\"a\": [1]\x7d".toList = .ok (.object [("a", .list [.int 1])]) ∧
      Recovery.read "\x7b\"a\": [1, ],\x7d" = .ok (.object [("a", .list [.int 1])]) := by
  have accepted : Json.read "\x7b\"a\": [1]\x7d".toList =
      .ok (.object [("a", .list [.int 1])]) := rfl
  have blanks : Spaced .nothing "\x7b\"a\": [1]\x7d".toList "\x7b\"a\": [1 ]\x7d".toList :=
    .kept '\x7b' <| .kept '"' <| .kept 'a' <| .kept '"' <| .kept ':' <| .kept ' ' <| .kept '[' <|
      .kept '1' <| .blanks [' '] ']' (by simp [Reading.isSpace]) rfl <| .kept '\x7d' .done
  have commas : Trailed .nothing "\x7b\"a\": [1 ]\x7d".toList "\x7b\"a\": [1, ],\x7d".toList :=
    .kept '\x7b' <| .kept '"' <| .kept 'a' <| .kept '"' <| .kept ':' <| .kept ' ' <| .kept '[' <|
      .kept '1' <| .comma [' '] ']' (by simp [Reading.isSpace]) rfl <|
      .comma [] '\x7d' (by simp) rfl .done
  have spared : Spared (trim "\x7b\"a\": [1 ]\x7d".toList) := by
    have trimmed : trim "\x7b\"a\": [1 ]\x7d".toList =
        ['\x7b', '"', 'a', '"', ':', ' ', '[', '1', ' ', ']', '\x7d'] := by decide +kernel
    rw [trimmed]
    refine ⟨?_, by decide +kernel, by decide +kernel, by decide⟩
    intro rest ends
    simp [List.suffix_cons_iff] at ends
  exact ⟨accepted, (trailing_commas_read _ _ _ _ accepted rfl blanks commas).1 spared⟩

/-- A constant among the words of a title is mended as if it stood by itself. -/
theorem constant_in_title_lost :
    Json.read "\x7b\"title\": \"None\"\x7d".toList = .ok (.object [("title", .text "None")]) ∧
      Trailed .nothing "\x7b\"title\": \"None\"\x7d".toList
        "\x7b\"title\": \"None\",\x7d".toList ∧
      Recovery.read "\x7b\"title\": \"None\",\x7d" = .ok (.object [("title", .text "null")]) := by
  have accepted : Json.read "\x7b\"title\": \"None\"\x7d".toList =
      .ok (.object [("title", .text "None")]) := rfl
  have commas : Trailed .nothing "\x7b\"title\": \"None\"\x7d".toList
      "\x7b\"title\": \"None\",\x7d".toList :=
    .kept '\x7b' <| .kept '"' <| .kept 't' <| .kept 'i' <| .kept 't' <| .kept 'l' <| .kept 'e' <|
      .kept '"' <| .kept ':' <| .kept ' ' <| .kept '"' <| .kept 'N' <| .kept 'o' <| .kept 'n' <|
      .kept 'e' <| .kept '"' <| .comma [] '\x7d' (by simp) rfl .done
  have null : mended (trim "\x7b\"title\": \"None\"\x7d".toList) =
      "\x7b\"title\": \"null\"\x7d".toList := by decide +kernel
  refine ⟨accepted, commas, (trailed_read_iff accepted rfl commas (by decide) _).mpr ?_⟩
  rw [null]
  rfl

end Recovery
end Chartwright
