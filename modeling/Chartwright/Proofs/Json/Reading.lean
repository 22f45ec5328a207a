import Chartwright.Proofs.Json.Places

/-!
How a text is read. A failure stays, and after a whole document nothing but spaces may follow. A
text that has opened no list and no object is never read as one, and when one follows, the whole is
not read. So prose in front of a list or an object hides it or is blank.
-/

namespace Chartwright.Json
namespace Reading

/-! What stays. -/

theorem after_failed [Stack] (error : SyntaxError) (around : List Frame) (text : List Char) :
    after ⟨.failed error, around⟩ text = ⟨.failed error, around⟩ := by
  induction text with
  | nil => rfl
  | cons c rest ih => exact ih

theorem after_blank [Stack] (closable : Bool) (around : List Frame) (text : List Char)
    (blank : ∀ c ∈ text, isSpace c) :
    after ⟨.item closable, around⟩ text = ⟨.item closable, around⟩ := by
  induction text with
  | nil => rfl
  | cons c rest ih =>
      have first : isSpace c = true := blank c (by simp)
      simp only [after_cons, step, first, if_true]
      exact ih fun d member => blank d (by simp [member])

theorem after_whole [Stack] (value : Json) (text : List Char) :
    (∀ c ∈ text, isSpace c) ∧ after ⟨.done value, []⟩ text = ⟨.done value, []⟩ ∨
      after ⟨.done value, []⟩ text = fail .extra 0 := by
  induction text with
  | nil => exact .inl ⟨by simp, rfl⟩
  | cons c rest ih =>
      by_cases blank : isSpace c
      · simp only [after_cons, step, stepAfter, blank, if_true, List.mem_cons, forall_eq_or_imp,
          true_and]
        exact ih
      · right
        simp only [after_cons, step, stepAfter, blank]
        exact after_failed _ _ _

/-- Each bracket opens another list, until there are too many. -/
theorem brackets_too_deep [Stack] (count : Nat) (closable : Bool) (around : List Frame)
    (within : around.length ≤ Stack.depth) (beyond : Stack.depth < count + around.length) :
    after ⟨.item closable, around⟩ (List.replicate count '[') = fail (.tooDeep .list) 0 := by
  induction count generalizing closable around with
  | zero => omega
  | succ count ih =>
      have bracket : step ⟨.item closable, around⟩ 0 '[' = opened 0 .list around := by
        simp [step, isSpace, startValue]
      rw [List.replicate_succ, after_cons, bracket, opened]
      by_cases full : Stack.depth ≤ around.length
      · rw [if_pos full]
        exact after_failed _ _ _
      · rw [if_neg full]
        exact ih true (.list [] :: around) (by rw [List.length_cons]; omega)
          (by rw [List.length_cons]; omega)

/-! What holds of every reading. -/

/-- A word that has begun goes on with letters, a list that may close is open, and a document is
whole only when nothing is open. -/
def Regular (reading : Reading) : Prop :=
  match reading.phase with
  | .item closable => closable = true → reading.around ≠ []
  | .word _ left _ => left ≠ [] ∧ ∀ c ∈ left, c.isAlpha = true
  | .done _ => reading.around = []
  | _ => True

theorem complete_regular (value : Json) (around : List Frame) :
    (complete value around).Regular := by
  rcases around with _ | ⟨_ | _, around⟩
  · rfl
  · trivial
  · trivial

theorem word_regular (position : Nat) (left : String) (value : Json) (around : List Frame)
    (more : left.toList ≠ []) (letters : left.toList.all Char.isAlpha = true) :
    Regular ⟨.word position left.toList value, around⟩ :=
  ⟨more, List.all_eq_true.mp letters⟩

theorem opened_regular [Stack] (position : Nat) (compound : Compound) (around : List Frame) :
    (opened position compound around).Regular := by
  unfold opened
  split
  · trivial
  · cases compound with
    | list =>
        intro _
        exact List.cons_ne_nil _ _
    | object => trivial

theorem startValue_regular [Stack] (position : Nat) (c : Char) (around : List Frame) :
    (startValue position c around).Regular := by
  simp only [startValue]
  split
  · trivial
  split
  · exact opened_regular _ _ _
  split
  · exact opened_regular _ _ _
  iterate 5
    split
    · exact word_regular _ _ _ _ (by decide) rfl
  split_ifs <;> trivial

theorem stepAfter_regular (position : Nat) (c : Char) {reading : Reading}
    (regular : reading.Regular) : (stepAfter position c reading).Regular := by
  unfold stepAfter
  split
  · exact regular
  · split
    · split_ifs
      · intro closable
        cases closable
      · exact complete_regular _ _
      · trivial
    · split_ifs
      · trivial
      · exact complete_regular _ _
      · trivial
    · trivial
    · exact regular

theorem closeNumeral_regular (position : Nat) (c : Char) (part : NumeralPart)
    (digits : List Char) (around : List Frame) :
    (closeNumeral position c part digits around).Regular := by
  unfold closeNumeral
  split
  · exact stepAfter_regular _ _ (complete_regular _ _)
  · trivial

theorem stepNumeral_regular (position : Nat) (c : Char) (start : Nat) (digits : List Char)
    (around : List Frame) (part : NumeralPart) :
    (stepNumeral position c start digits around part).Regular := by
  unfold stepNumeral
  cases part <;> dsimp only <;> split_ifs <;> first
    | exact closeNumeral_regular _ _ _ _ _
    | exact word_regular _ _ _ _ (by decide) rfl
    | trivial

theorem closeString_regular (around : List Frame) (role : Role) (before : List Char) :
    (closeString around role before).Regular := by
  cases role with
  | value => exact complete_regular _ _
  | name members => trivial

theorem stepString_regular (position : Nat) (c : Char) (start : Nat) (role : Role)
    (around : List Frame) (before : List Char) (part : StringPart) :
    (stepString position c start role around before part).Regular := by
  cases part with
  | plain high unit =>
      simp only [stepString]
      split_ifs
      · exact closeString_regular _ _ _
      all_goals trivial
  | backslash high place =>
      simp only [stepString]
      split_ifs
      · trivial
      · cases escaped? c <;> trivial
  | hex high place count code =>
      simp only [stepString]
      cases hexValue? c with
      | none => trivial
      | some digit =>
          simp only [closeUnit]
          cases high <;> dsimp only <;> split_ifs <;> trivial

theorem step_regular [Stack] {reading : Reading} (regular : reading.Regular) (position : Nat)
    (c : Char) : (reading.step position c).Regular := by
  rcases reading with ⟨phase, around⟩
  cases phase with
  | item closable =>
      simp only [step]
      split_ifs
      · exact regular
      · exact complete_regular _ _
      · exact startValue_regular _ _ _
  | name before closable =>
      simp only [step]
      split_ifs
      · trivial
      · trivial
      · exact complete_regular _ _
      · trivial
  | colon before name =>
      simp only [step]
      split_ifs
      · trivial
      · intro closable
        cases closable
      · trivial
  | word start left value =>
      cases left with
      | nil => exact absurd rfl regular.1
      | cons expected left =>
          simp only [step]
          split_ifs with _ last
          · exact complete_regular _ _
          · refine ⟨by simpa using last, ?_⟩
            intro d member
            exact regular.2 d (List.mem_cons_of_mem _ member)
          · trivial
  | numeral start part digits => exact stepNumeral_regular _ _ _ _ _ _
  | string start role part before => exact stepString_regular _ _ _ _ _ _ _
  | failed error => trivial
  | _ => exact stepAfter_regular _ _ regular

theorem after_regular [Stack] {reading : Reading} (regular : reading.Regular) (text : List Char) :
    (reading.after text).Regular := by
  induction text generalizing reading with
  | nil => exact regular
  | cons c rest ih => exact ih (step_regular regular 0 c)

theorem start_regular : start.Regular := by
  intro closable
  cases closable

/-! Texts that open no list and no object. -/

theorem wholeValue_ok {digits : List Char} {value : Json} (whole : wholeValue digits = .ok value) :
    value.compound? = none := by
  unfold wholeValue at whole
  split at whole <;> cases whole
  rfl

theorem wholeValue_error {digits : List Char} {cause : SyntaxCause}
    (failed : wholeValue digits = .error cause) (compound : Compound) :
    cause ≠ .tooDeep compound := by
  unfold wholeValue at failed
  split at failed <;> cases failed <;> exact SyntaxCause.noConfusion

theorem numeralValue_ok {part : NumeralPart} {digits : List Char} {value : Json}
    (read : numeralValue part digits = .ok value) : value.compound? = none := by
  cases part with
  | fraction => cases read; rfl
  | exponent => cases read; rfl
  | _ => exact wholeValue_ok read

theorem numeralValue_error {part : NumeralPart} {digits : List Char} {cause : SyntaxCause}
    (failed : numeralValue part digits = .error cause) (compound : Compound) :
    cause ≠ .tooDeep compound := by
  cases part with
  | fraction => cases failed
  | exponent => cases failed
  | _ => exact wholeValue_error failed compound

theorem cutCause_shallow (digits : List Char) (around : List Frame) (compound : Compound) :
    cutCause digits around ≠ .tooDeep compound := by
  unfold cutCause
  split
  · exact SyntaxCause.noConfusion
  · split <;> exact SyntaxCause.noConfusion

/-- Nothing is open, and what has begun or ended is no list and no object. It is a string only if
`quoted`. -/
inductive Bare (quoted : Bool) : Reading → Prop where
  | word {start left value} (simple : value.compound? = none) :
    Bare quoted ⟨.word start left value, []⟩
  | numeral {start part digits} : Bare quoted ⟨.numeral start part digits, []⟩
  | string {start part before} (isString : quoted = true) :
    Bare quoted ⟨.string start .value part before, []⟩
  | done {value} (simple : value.compound? = none) : Bare quoted ⟨.done value, []⟩
  | failed {error} (shallow : ∀ compound, error.cause ≠ .tooDeep compound) :
    Bare quoted ⟨.failed error, []⟩

variable {quoted : Bool}

theorem fail_bare {cause : SyntaxCause} (position : Nat)
    (shallow : ∀ compound, cause ≠ .tooDeep compound) : Bare quoted (fail cause position) :=
  .failed shallow

theorem stepAfter_bare (position : Nat) (c : Char) {value : Json}
    (simple : value.compound? = none) :
    Bare quoted (stepAfter position c ⟨.done value, []⟩) := by
  unfold stepAfter
  split
  · exact .done simple
  · exact fail_bare _ fun _ => SyntaxCause.noConfusion

theorem stepNumeral_bare (position : Nat) (c : Char) (start : Nat) (digits : List Char)
    (part : NumeralPart) : Bare quoted (stepNumeral position c start digits [] part) := by
  have closes : ∀ part, Bare quoted (closeNumeral position c part digits []) := by
    intro part
    unfold closeNumeral
    cases read : numeralValue part digits with
    | ok value => exact stepAfter_bare _ _ (numeralValue_ok read)
    | error cause => exact fail_bare _ (numeralValue_error read)
  have ends : ∀ cut, Bare quoted (fail (cutCause digits []) cut) :=
    fun cut => fail_bare _ (cutCause_shallow _ _)
  unfold stepNumeral
  cases part <;> dsimp only <;> split_ifs <;>
    first
      | exact .numeral
      | exact .word rfl
      | exact closes _
      | exact ends _
      | exact fail_bare _ fun _ => SyntaxCause.noConfusion

theorem stepString_bare (position : Nat) (c : Char) (start : Nat) (before : List Char)
    (part : StringPart) (isString : quoted = true) :
    Bare quoted (stepString position c start .value [] before part) := by
  cases part with
  | plain high unit =>
      simp only [stepString]
      split_ifs
      · exact .done rfl
      · exact .string isString
      · exact fail_bare _ fun _ => SyntaxCause.noConfusion
      · exact .string isString
  | backslash high place =>
      simp only [stepString]
      split_ifs
      · exact .string isString
      · cases escaped? c with
        | none => exact fail_bare _ fun _ => SyntaxCause.noConfusion
        | some d => exact .string isString
  | hex high place count code =>
      simp only [stepString]
      cases hexValue? c with
      | none => exact fail_bare _ fun _ => SyntaxCause.noConfusion
      | some digit =>
          simp only [closeUnit]
          cases high <;> dsimp only <;> split_ifs <;> exact .string isString

theorem step_bare [Stack] {reading : Reading} (bare : Bare quoted reading) (position : Nat)
    (c : Char) : Bare quoted (reading.step position c) := by
  cases bare with
  | @word start left value simple =>
      cases left with
      | nil => exact .word simple
      | cons expected left =>
          simp only [step]
          split_ifs
          · exact .done simple
          · exact .word simple
          · exact fail_bare _ fun _ => SyntaxCause.noConfusion
  | numeral => exact stepNumeral_bare _ _ _ _ _
  | string isString => exact stepString_bare _ _ _ _ _ isString
  | done simple => exact stepAfter_bare _ _ simple
  | failed shallow => exact .failed shallow

theorem after_bare [Stack] {reading : Reading} (bare : Bare quoted reading) (text : List Char) :
    Bare quoted (reading.after text) := by
  induction text generalizing reading with
  | nil => exact bare
  | cons c rest ih => exact ih (step_bare bare 0 c)

theorem startValue_bare [Stack] (position : Nat) (c : Char) (isNoList : c ≠ '[')
    (isNoObject : c ≠ '\x7b') (isString : c = '"' → quoted = true) :
    Bare quoted (startValue position c []) := by
  simp only [startValue, if_neg isNoList, if_neg isNoObject]
  split_ifs with isQuote
  · exact .string (isString isQuote)
  all_goals first
    | exact .word rfl
    | exact .numeral
    | exact fail_bare _ fun _ => SyntaxCause.noConfusion

/-- Behind such a text, an opening bracket can only be wrong. -/
theorem bare_opening [Stack] {reading : Reading} (bare : Bare false reading)
    (regular : reading.Regular) {c : Char} (opening : c = '[' ∨ c = '\x7b') :
    ∃ error, reading.step 0 c = ⟨.failed error, []⟩ := by
  cases bare with
  | @word start left value simple =>
      obtain ⟨more, letters⟩ := regular
      cases left with
      | nil => exact absurd rfl more
      | cons expected left =>
          have other : c ≠ expected := by
            rintro rfl
            have letter := letters c (by simp)
            rcases opening with rfl | rfl <;> revert letter <;> decide
          simp only [step, if_neg other]
          exact ⟨_, rfl⟩
  | @numeral start part digits =>
      have closes : ∀ part, ∃ error, closeNumeral 0 c part digits [] = ⟨.failed error, []⟩ := by
        intro part
        unfold closeNumeral
        cases numeralValue part digits with
        | ok value => rcases opening with rfl | rfl <;> exact ⟨_, rfl⟩
        | error cause => exact ⟨_, rfl⟩
      rcases opening with rfl | rfl <;> cases part <;> first
        | exact closes _
        | exact ⟨_, rfl⟩
  | string isString => cases isString
  | done simple => rcases opening with rfl | rfl <;> exact ⟨_, rfl⟩
  | failed shallow => exact ⟨_, rfl⟩

theorem start_blank [Stack] {c : Char} (blank : isSpace c = true) : start.step 0 c = start := by
  simp [step, start, blank]

theorem start_shown [Stack] {c : Char} (shown : ¬ isSpace c = true) :
    start.step 0 c = startValue 0 c [] := by
  simp [step, start, shown]

/-- Text without an opening bracket and without a quote. -/
def Prose (text : List Char) : Prop := ∀ c ∈ text, c ≠ '[' ∧ c ≠ '\x7b' ∧ c ≠ '"'

/-- Prose is blank, or the reader does not get over a list or an object behind it. -/
theorem after_prose [Stack] {prose : List Char} (plain : Prose prose) :
    start.after prose = start ∨ Bare false (start.after prose) := by
  induction prose with
  | nil => exact .inl rfl
  | cons c rest ih =>
      by_cases blank : isSpace c = true
      · rw [after_cons, start_blank blank]
        exact ih fun d member => plain d (by simp [member])
      · right
        obtain ⟨isNoList, isNoObject, isNoString⟩ := plain c (by simp)
        rw [after_cons, start_shown blank]
        exact after_bare (startValue_bare 0 c isNoList isNoObject fun h => absurd h isNoString) rest

end Reading

/-! The whole. -/

open Reading

theorem readBare_done [Stack] {text : List Char} {document : Json}
    (whole : start.after text = ⟨.done document, []⟩) : readBare text = .ok document := by
  have outcome := readBare_unplaced text
  rw [whole] at outcome
  cases read : readBare text with
  | ok other =>
      rw [read] at outcome
      cases outcome
      rfl
  | error error =>
      rw [read] at outcome
      cases outcome

theorem readBare_failed [Stack] {text : List Char} {error : SyntaxError}
    (failed : start.after text = ⟨.failed error, []⟩) :
    ∃ placed, readBare text = .error placed ∧ placed.cause = error.cause := by
  have outcome := readBare_unplaced text
  rw [failed] at outcome
  cases read : readBare text with
  | ok document =>
      rw [read] at outcome
      cases outcome
  | error placed =>
      rw [read] at outcome
      cases outcome
      exact ⟨placed, rfl, rfl⟩

theorem endNumeral_ok {start position : Nat} {around : List Frame} {digits : List Char}
    {part : NumeralPart} {value : Json}
    (read : endNumeral start position around digits part = .ok value) :
    value.compound? = none := by
  cases part with
  | sign => cases read
  | point cut => cases read
  | mark cut => cases read
  | markSign cut => cases read
  | _ =>
      simp only [endNumeral] at read
      split at read
      · cases read
      · next number =>
          split at read
          · cases read
            exact numeralValue_ok number
          · cases read

/-- What ends a text as a list or an object has been closed before. -/
theorem result_compound {reading : Reading} {position : Nat} {document : Json}
    (regular : reading.Regular) (accepted : reading.result position = .ok document)
    (compound : document.compound?.isSome) : reading = ⟨.done document, []⟩ := by
  rcases reading with ⟨phase, around⟩
  cases phase with
  | done value =>
      cases accepted
      have closed : around = [] := regular
      rw [closed]
  | numeral start part digits =>
      have simple : document.compound? = none := endNumeral_ok accepted
      rw [simple] at compound
      cases compound
  | string start role part before =>
      cases part with
      | plain high unit => cases unit <;> cases accepted
      | _ => cases accepted
  | _ => cases accepted

theorem after_compound [Stack] {text : List Char} {document : Json}
    (accepted : readBare text = .ok document) (compound : document.compound?.isSome) :
    start.after text = ⟨.done document, []⟩ := by
  have outcome := readBare_unplaced text
  rw [accepted] at outcome
  exact result_compound (after_regular start_regular text) outcome.symm compound

/-- The text of a list or an object begins with its bracket. -/
theorem compound_opens [Stack] {text : List Char} {document : Json}
    (whole : start.after text = ⟨.done document, []⟩) (compound : document.compound?.isSome) :
    ∃ blanks c rest, text = blanks ++ c :: rest ∧ (∀ d ∈ blanks, isSpace d = true) ∧
      (c = '[' ∨ c = '\x7b') := by
  induction text with
  | nil => cases whole
  | cons c rest ih =>
      by_cases blank : isSpace c = true
      · rw [after_cons, start_blank blank] at whole
        obtain ⟨blanks, d, others, same, allBlank, opening⟩ := ih whole
        refine ⟨c :: blanks, d, others, by rw [same]; rfl, ?_, opening⟩
        simpa [blank] using allBlank
      · refine ⟨[], c, rest, rfl, by simp, ?_⟩
        by_contra other
        rw [not_or] at other
        have bare : Bare true (start.after (c :: rest)) := by
          rw [after_cons, start_shown blank]
          exact after_bare (startValue_bare 0 c other.1 other.2 fun _ => rfl) rest
        rw [whole] at bare
        cases bare with
        | done simple =>
            rw [simple] at compound
            cases compound

/-- Nothing but the document is read; a failure is not about the depth. -/
def ReadsOnly (document : Json) (outcome : Except SyntaxError Json) : Prop :=
  outcome = .ok document ∨
    ∃ error, outcome = .error error ∧ ∀ compound, error.cause ≠ .tooDeep compound

theorem readBare_shallow [Stack] {text : List Char} {error : SyntaxError}
    (failed : start.after text = ⟨.failed error, []⟩)
    (shallow : ∀ compound, error.cause ≠ .tooDeep compound) (document : Json) :
    ReadsOnly document (readBare text) := by
  obtain ⟨placed, read, same⟩ := readBare_failed failed
  right
  refine ⟨placed, read, ?_⟩
  rw [same]
  exact shallow

/-- A list or an object in prose is read as it is, or the whole is not read. -/
theorem reads_in_prose [Stack] {prose rest : List Char} {c : Char} {document : Json}
    (plain : Prose prose) (opening : c = '[' ∨ c = '\x7b')
    (whole : start.after (c :: rest) = ⟨.done document, []⟩) (following : List Char) :
    ReadsOnly document (read (prose ++ c :: rest ++ following)) := by
  unfold read
  split
  · right
    exact ⟨_, rfl, fun _ => SyntaxCause.noConfusion⟩
  · rcases after_prose plain with blank | bare
    · have reached : start.after (prose ++ c :: rest) = ⟨.done document, []⟩ := by
        rw [after_append, blank, whole]
      rcases after_whole document following with ⟨-, stays⟩ | extra
      · left
        apply readBare_done
        rw [after_append, reached, stays]
      · have failed : start.after (prose ++ c :: rest ++ following) =
            ⟨.failed ⟨.extra, 0⟩, []⟩ := by
          rw [after_append, reached, extra]
          rfl
        exact readBare_shallow failed (fun _ => SyntaxCause.noConfusion) document
    · have regular := after_regular start_regular prose
      obtain ⟨error, failed⟩ := bare_opening bare regular opening
      have stays := step_bare bare 0 c
      rw [failed] at stays
      cases stays with
      | failed shallow =>
          refine readBare_shallow ?_ shallow document
          rw [List.append_assoc, after_append, List.cons_append, after_cons, failed]
          exact after_failed _ _ _

end Chartwright.Json
