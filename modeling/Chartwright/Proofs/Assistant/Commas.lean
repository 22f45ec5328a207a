import Chartwright.Proofs.Assistant.Block

/-!
Blanks and commas in front of closing brackets, as the reader of JSON text takes them. Blanks change
nothing. Behind a comma an item or a name has to come, so no text is read in which a bracket does.
-/

namespace Chartwright
open Json

namespace Recovery

def Inside.after : Inside → Char → Inside
  | .nothing, c => if c = '"' then .string else .nothing
  | .string, c => if c = '\\' then .escape else if c = '"' then .nothing else .string
  | .escape, _ => .string

/-- The second text is the first with more blanks in front of closing brackets. Brackets within
strings are none. -/
inductive Spaced : Inside → List Char → List Char → Prop where
  | done {inside} : Spaced inside [] []
  | kept {inside text spaced} (c : Char) (rest : Spaced (inside.after c) text spaced) :
    Spaced inside (c :: text) (c :: spaced)
  | blanks {text spaced} (blanks : List Char) (c : Char)
    (blank : ∀ b ∈ blanks, Reading.isSpace b = true) (closing : isClosing c = true)
    (rest : Spaced .nothing text spaced) : Spaced .nothing (c :: text) (blanks ++ c :: spaced)

/-- The second text is the first with commas in front of closing brackets, one for each bracket at
most. Blanks may stand between the comma and its bracket. -/
inductive Trailed : Inside → List Char → List Char → Prop where
  | done {inside} : Trailed inside [] []
  | kept {inside text trailed} (c : Char) (rest : Trailed (inside.after c) text trailed) :
    Trailed inside (c :: text) (c :: trailed)
  | comma {text trailed} (blanks : List Char) (c : Char)
    (blank : ∀ b ∈ blanks, Reading.isSpace b = true) (closing : isClosing c = true)
    (rest : Trailed .nothing text trailed) :
    Trailed .nothing (blanks ++ c :: text) (',' :: (blanks ++ c :: trailed))

theorem closing_no_blank {c : Char} (closing : isClosing c = true) : Reading.isSpace c = false := by
  simp only [isClosing, Bool.or_eq_true, beq_iff_eq] at closing
  rcases closing with rfl | rfl <;> rfl

theorem space_no_bracket {c : Char} (space : Reading.isSpace c = true) :
    isOpening c = false ∧ isClosing c = false := by
  simp only [Reading.isSpace, Bool.or_eq_true, beq_iff_eq] at space
  rcases space with ((rfl | rfl) | rfl) | rfl <;> decide

theorem closing_after {c : Char} (closing : isClosing c = true) :
    Inside.nothing.after c = .nothing := by
  have noQuote : c ≠ '"' := by
    rintro rfl
    cases closing
  rw [Inside.after, if_neg noQuote]

end Recovery

namespace Json.Reading
open Recovery

/-! The reader. -/

theorem inside_after {c : Char} {reading next : Reading} (moves : Moves c reading next)
    (alive : ∀ error, next.phase ≠ .failed error) : next.inside = reading.inside.after c := by
  cases moves with
  | fails => exact absurd rfl (alive _)
  | plain unmarked count before after =>
      have noQuote : c ≠ '"' := by
        rintro rfl
        exact unmarked (by decide)
      rw [before, after, Inside.after, if_neg noQuote]
  | opens opening count before after =>
      have noQuote : c ≠ '"' := by
        rintro rfl
        cases opening
      rw [before, after, Inside.after, if_neg noQuote]
  | closes closing count before =>
      have noQuote : c ≠ '"' := by
        rintro rfl
        cases closing
      rw [before, complete_inside, Inside.after, if_neg noQuote]
  | quotes quote count before after => rw [before, after, quote]; rfl
  | unquotes quote count before after => rw [before, after, quote]; rfl
  | escapes backslash count before after => rw [before, after, backslash]; rfl
  | escaped onLine count before after => rw [before, after]; rfl
  | text noQuote noBackslash onLine count before after =>
      rw [before, after, Inside.after, if_neg noBackslash, if_neg noQuote]

theorem step_inside [Stack] {reading : Reading} {c : Char} {text : List Char} {document : Json}
    (regular : reading.Regular)
    (whole : (reading.step 0 c).after text = ⟨.done document, []⟩) :
    (reading.step 0 c).inside = reading.inside.after c :=
  inside_after (step_moves regular 0 c) (alive_of_whole whole)

/-- The reader has failed, and not because of the depth. -/
def Broken (reading : Reading) : Prop :=
  ∃ error, reading = ⟨.failed error, []⟩ ∧ ∀ compound, error.cause ≠ .tooDeep compound

theorem broken_after [Stack] {reading : Reading} (broken : reading.Broken) (text : List Char) :
    (reading.after text).Broken := by
  obtain ⟨error, rfl, shallow⟩ := broken
  exact ⟨error, after_failed _ _ _, shallow⟩

theorem done_unbroken (value : Json) : ¬Broken ⟨.done value, []⟩ := by
  rintro ⟨error, failed, -⟩
  cases failed

theorem fail_broken {cause : SyntaxCause} (position : Nat)
    (shallow : ∀ compound, cause ≠ .tooDeep compound) : (fail cause position).Broken :=
  ⟨_, rfl, shallow⟩

def endsNumeral (c : Char) : Bool := isSpace c || c == ',' || isClosing c

theorem ends_no_letter {c : Char} (ends : endsNumeral c = true) : c.isAlpha = false := by
  simp only [endsNumeral, isSpace, isClosing, Bool.or_eq_true, beq_iff_eq] at ends
  rcases ends with (((((rfl | rfl) | rfl) | rfl) | rfl) | rfl | rfl) <;> decide

theorem numeral_closes (digits : List Char) (around : List Frame) (part : NumeralPart) :
    (∃ cause, (∀ compound, cause ≠ .tooDeep compound) ∧
      ∀ c, closeNumeral 0 c part digits around = fail cause 0) ∨
    ∃ value, ∀ c, closeNumeral 0 c part digits around = stepAfter 0 c (complete value around) := by
  cases read : numeralValue part digits with
  | ok value => exact .inr ⟨value, fun c => by simp only [closeNumeral, read]⟩
  | error cause =>
      exact .inl ⟨cause, numeralValue_error read, fun c => by simp only [closeNumeral, read]⟩

/-- What ends a numeral is told apart only when the numeral is complete. -/
theorem numeral_ends (start : Nat) (digits : List Char) (around : List Frame) (part : NumeralPart) :
    (∃ cause position, (∀ compound, cause ≠ .tooDeep compound) ∧ ∀ c, endsNumeral c = true →
      stepNumeral 0 c start digits around part = fail cause position) ∨
    ∃ value, ∀ c, endsNumeral c = true →
      stepNumeral 0 c start digits around part = stepAfter 0 c (complete value around) := by
  have other {c : Char} (ends : endsNumeral c = true) :
      Text.isAsciiDigit c = false ∧ c ≠ '0' ∧ c ≠ '.' ∧ c ≠ 'e' ∧ c ≠ 'E' ∧ c ≠ 'I' ∧ c ≠ '+' ∧
        c ≠ '-' := by
    simp only [endsNumeral, isSpace, isClosing, Bool.or_eq_true, beq_iff_eq] at ends
    rcases ends with (((((rfl | rfl) | rfl) | rfl) | rfl) | rfl | rfl) <;> decide
  have closes := numeral_closes digits around part
  cases part with
  | sign =>
      exact .inl ⟨.value, start, fun _ => SyntaxCause.noConfusion, fun c ends => by
        simp [stepNumeral, other ends]⟩
  | point cut | mark cut | markSign cut =>
      exact .inl ⟨_, cut, cutCause_shallow digits around, fun c ends => by
        simp [stepNumeral, other ends]⟩
  | _ =>
      rcases closes with ⟨cause, shallow, fails⟩ | ⟨value, completes⟩
      · exact .inl ⟨cause, 0, shallow, fun c ends => by simp [stepNumeral, other ends, fails]⟩
      · exact .inr ⟨value, fun c ends => by simp [stepNumeral, other ends, completes]⟩

theorem word_broken [Stack] {start : Nat} {left : List Char} {value : Json}
    {around : List Frame} {c : Char} (regular : Regular ⟨.word start left value, around⟩)
    (other : c.isAlpha = false) :
    Reading.step ⟨.word start left value, around⟩ 0 c = fail .value start := by
  obtain ⟨more, letters⟩ := regular
  cases left with
  | nil => exact absurd rfl more
  | cons expected left =>
      have apart : c ≠ expected := by
        rintro rfl
        rw [letters c (by simp)] at other
        cases other
      simp only [step, if_neg apart]

theorem after_complete [Stack] (position : Nat) (c : Char) (value : Json) (around : List Frame) :
    (complete value around).step position c = stepAfter position c (complete value around) := by
  rcases around with _ | ⟨_ | _, around⟩ <;> rfl

theorem blank_skipped [Stack] {reading : Reading} (regular : reading.Regular)
    (outside : reading.inside = .nothing) {b c : Char} (blank : isSpace b = true)
    (closing : isClosing c = true) : (reading.step 0 b).step 0 c = reading.step 0 c := by
  rcases reading with ⟨phase, around⟩
  have ends : endsNumeral b = true ∧ endsNumeral c = true := by
    simp [endsNumeral, blank, closing]
  cases phase with
  | word start left value =>
      rw [word_broken regular (ends_no_letter ends.1), word_broken regular (ends_no_letter ends.2)]
      rfl
  | numeral start part digits =>
      simp only [step]
      rcases numeral_ends start digits around part with ⟨cause, position, -, fails⟩ |
        ⟨value, closes⟩
      · rw [fails b ends.1, fails c ends.2]
        rfl
      · rw [closes b ends.1, closes c ends.2, stepAfter, if_pos blank]
        exact after_complete 0 c value around
  | string start role part before => cases part <;> cases outside
  | failed error => rfl
  | _ => simp [step, stepAfter, blank]

theorem space_outside {reading next : Reading} {b : Char} (moves : Moves b reading next)
    (blank : isSpace b = true) (outside : reading.inside = .nothing) : next.inside = .nothing := by
  have unmarked := space_unmarked blank
  cases moves with
  | fails => rfl
  | plain _ _ _ after => exact after
  | opens _ _ _ after => exact after
  | closes => exact complete_inside _ _
  | quotes quote => exact absurd (quote ▸ by decide) unmarked
  | unquotes _ _ _ after => exact after
  | _ => simp_all

theorem blanks_outside [Stack] {reading : Reading} (regular : reading.Regular)
    (outside : reading.inside = .nothing) {blanks : List Char}
    (blank : ∀ b ∈ blanks, isSpace b = true) : (reading.after blanks).inside = .nothing := by
  induction blanks generalizing reading with
  | nil => exact outside
  | cons b rest ih =>
      exact ih (step_regular regular 0 b)
        (space_outside (step_moves regular 0 b) (blank b (by simp)) outside)
        fun d member => blank d (by simp [member])

theorem blanks_skipped [Stack] {reading : Reading} (regular : reading.Regular)
    (outside : reading.inside = .nothing) {blanks : List Char} {c : Char}
    (blank : ∀ b ∈ blanks, isSpace b = true) (closing : isClosing c = true) :
    (reading.after blanks).step 0 c = reading.step 0 c := by
  induction blanks generalizing reading with
  | nil => rfl
  | cons b rest ih =>
      have first := blank b (by simp)
      rw [after_cons, ih (step_regular regular 0 b)
        (space_outside (step_moves regular 0 b) first outside)
        (fun d member => blank d (by simp [member])), blank_skipped regular outside first closing]

theorem spaced_read [Stack] {reading : Reading} {text spaced : List Char} {document : Json}
    {place : Inside} (regular : reading.Regular) (inside : reading.inside = place)
    (same : Spaced place text spaced) (whole : reading.after text = ⟨.done document, []⟩) :
    reading.after spaced = ⟨.done document, []⟩ := by
  induction same generalizing reading with
  | done => exact whole
  | kept c rest ih =>
      rw [after_cons] at whole ⊢
      have moved := step_inside regular whole
      exact ih (step_regular regular 0 c) (by rw [moved, inside]) whole
  | blanks blanks c blank closing rest ih =>
      rw [after_cons] at whole
      rw [after_append, after_cons, blanks_skipped regular inside blank closing]
      have moved := step_inside regular whole
      exact ih (step_regular regular 0 c) (by rw [moved, inside, closing_after closing]) whole

/-- An item or a name has to come. -/
inductive Awaits : Reading → Prop where
  | item {around} : Awaits ⟨.item false, around⟩
  | name {before around} : Awaits ⟨.name before false, around⟩

theorem complete_comma (value : Json) (around : List Frame) :
    Awaits (stepAfter 0 ',' (complete value around)) ∨
      Broken (stepAfter 0 ',' (complete value around)) := by
  rcases around with _ | ⟨_ | _, around⟩
  · exact .inr (fail_broken _ fun _ => SyntaxCause.noConfusion)
  · exact .inl .item
  · exact .inl .name

theorem comma_awaits [Stack] {reading : Reading} (regular : reading.Regular)
    (outside : reading.inside = .nothing) (alive : ∀ error, reading.phase ≠ .failed error) :
    Awaits (reading.step 0 ',') ∨ Broken (reading.step 0 ',') := by
  rcases reading with ⟨phase, around⟩
  cases phase with
  | item closable =>
      have fails : Reading.step ⟨.item closable, around⟩ 0 ',' = fail .value 0 := by
        cases closable <;> rfl
      exact .inr (fails ▸ fail_broken _ fun _ => SyntaxCause.noConfusion)
  | name before closable =>
      have fails : Reading.step ⟨.name before closable, around⟩ 0 ',' = fail .name 0 := by
        cases closable <;> rfl
      exact .inr (fails ▸ fail_broken _ fun _ => SyntaxCause.noConfusion)
  | colon before name =>
      have fails : Reading.step ⟨.colon before name, around⟩ 0 ',' = fail .colon 0 := rfl
      exact .inr (fails ▸ fail_broken _ fun _ => SyntaxCause.noConfusion)
  | word start left value =>
      rw [word_broken regular rfl]
      exact .inr (fail_broken _ fun _ => SyntaxCause.noConfusion)
  | numeral start part digits =>
      simp only [step]
      rcases numeral_ends start digits around part with ⟨cause, position, shallow, fails⟩ |
        ⟨value, closes⟩
      · rw [fails ',' rfl]
        exact .inr (fail_broken _ shallow)
      · rw [closes ',' rfl]
        exact complete_comma value around
  | string start role part before => cases part <;> cases outside
  | afterItem before => exact .inl .item
  | afterMember before => exact .inl .name
  | done value =>
      have fails : Reading.step ⟨.done value, around⟩ 0 ',' = fail .extra 0 := rfl
      exact .inr (fails ▸ fail_broken _ fun _ => SyntaxCause.noConfusion)
  | failed error => exact absurd rfl (alive error)

theorem digit_shown {c : Char} (digit : '1' ≤ c ∧ c ≤ '9') :
    Text.isBlank c = false ∧ isClosing c = false := by
  have low : 49 ≤ c.toNat := digit.1
  have high : c.toNat ≤ 57 := digit.2
  have apart (first last : Char) (outside : last.toNat < 49 ∨ 57 < first.toNat)
      (least : first ≤ c) : last < c := by
    have least' : first.toNat ≤ c.toNat := least
    change last.toNat < c.toNat
    omega
  have other (d : Char) (outside : d.toNat < 49 ∨ 57 < d.toNat) : c ≠ d := by
    rintro rfl
    omega
  have ascii : c.toNat < 128 := by omega
  constructor
  · have blank : Text.isAsciiBlank c = false := by
      simpa [Text.isAsciiBlank, other ' ' (by decide)] using apart '\t' '\r' (by decide)
    have separator : Text.isSeparator c = false := by
      simpa [Text.isSeparator] using apart '\x1c' '\x1f' (by decide)
    simp [Text.isBlank, ascii, blank, separator]
  · simp [isClosing, other ']' (by decide), other '\x7d' (by decide)]

/-- Neither white space of another kind nor a closing bracket begins an item or a name. -/
theorem awaits_other [Stack] {reading : Reading} (awaits : reading.Awaits) {c : Char}
    (other : Text.isBlank c = true ∨ isClosing c = true) (shown : ¬isSpace c = true) :
    (reading.step 0 c).Broken := by
  have apart (d : Char) (plain : (Text.isBlank d || isClosing d) = false) : c ≠ d := by
    rintro rfl
    rw [Bool.or_eq_false_iff] at plain
    simp [plain] at other
  cases awaits with
  | item =>
      have noDigit : ¬('1' ≤ c ∧ c ≤ '9') := by
        intro digit
        simp [digit_shown digit] at other
      have fails {around} : Reading.step ⟨.item false, around⟩ 0 c = fail .value 0 := by
        simp [step, shown, startValue, noDigit, apart '"' (by decide), apart '[' (by decide),
          apart '\x7b' (by decide), apart 'n' (by decide), apart 't' (by decide),
          apart 'f' (by decide), apart 'N' (by decide), apart 'I' (by decide),
          apart '-' (by decide), apart '0' (by decide)]
      exact fails ▸ fail_broken _ fun _ => SyntaxCause.noConfusion
  | name =>
      have fails {before around} :
          Reading.step ⟨.name before false, around⟩ 0 c = fail .name 0 := by
        simp [step, shown, apart '"' (by decide)]
      exact fails ▸ fail_broken _ fun _ => SyntaxCause.noConfusion

theorem awaits_blank [Stack] {reading : Reading} (awaits : reading.Awaits) {c : Char}
    (blank : isSpace c = true) : reading.step 0 c = reading := by
  cases awaits <;> simp [step, blank]

theorem awaits_closing [Stack] {reading : Reading} (awaits : reading.Awaits)
    {blanks : List Char} {c : Char} (blank : ∀ b ∈ blanks, Text.isBlank b = true)
    (closing : isClosing c = true) (rest : List Char) :
    (reading.after (blanks ++ c :: rest)).Broken := by
  induction blanks with
  | nil =>
      have shown : ¬isSpace c = true := by simp [closing_no_blank closing]
      exact broken_after (awaits_other awaits (.inr closing) shown) rest
  | cons b others ih =>
      rw [List.cons_append, after_cons]
      by_cases space : isSpace b = true
      · rw [awaits_blank awaits space]
        exact ih fun d member => blank d (by simp [member])
      · exact broken_after (awaits_other awaits (.inl (blank b (by simp))) space) _

/-- No text is read in which a comma outside of strings stands in front of a closing bracket. -/
theorem last_comma_broken [Stack] {reading : Reading} (regular : reading.Regular)
    (outside : reading.inside = .nothing) (alive : ∀ error, reading.phase ≠ .failed error)
    {blanks : List Char} {c : Char} (blank : ∀ b ∈ blanks, Text.isBlank b = true)
    (closing : isClosing c = true) (rest : List Char) :
    (reading.after (',' :: (blanks ++ c :: rest))).Broken := by
  rw [after_cons]
  rcases comma_awaits regular outside alive with awaits | broken
  · exact awaits_closing awaits blank closing rest
  · exact broken_after broken _

theorem space_blank {c : Char} (space : isSpace c = true) : Text.isBlank c = true := by
  simp only [isSpace, Bool.or_eq_true, beq_iff_eq] at space
  rcases space with ((rfl | rfl) | rfl) | rfl <;> decide

/-- A text that is read is not read any more with commas in front of closing brackets. -/
theorem trailed_broken [Stack] {reading : Reading} {text trailed : List Char} {document : Json}
    {place : Inside} (regular : reading.Regular) (inside : reading.inside = place)
    (more : Trailed place text trailed) (whole : reading.after text = ⟨.done document, []⟩) :
    trailed = text ∨ (reading.after trailed).Broken := by
  induction more generalizing reading with
  | done => exact .inl rfl
  | kept c rest ih =>
      rw [after_cons] at whole ⊢
      have moved := step_inside regular whole
      rcases ih (step_regular regular 0 c) (by rw [moved, inside]) whole with same | broken
      · exact .inl (by rw [same])
      · exact .inr broken
  | comma blanks c blank closing rest ih =>
      -- A failure stays, so what comes behind the first comma does not matter.
      exact .inr (last_comma_broken regular inside (alive_of_whole whole)
        (fun b member => space_blank (blank b member)) closing _)

end Json.Reading

end Chartwright
