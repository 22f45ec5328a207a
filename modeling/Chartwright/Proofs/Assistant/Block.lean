import Chartwright.Assistant.Recovery
import Chartwright.Proofs.Json.Reading

/-!
The scan for the bracket that closes a block, against the reader of JSON text. The scan counts
brackets of both sorts together and knows strings and escapes only. On text that the reader accepts
its count is the number of lists and objects the reader has open, so it stops where the outermost
one is closed, whatever follows.
-/

namespace Chartwright.Json.Reading
open Recovery

/-- How many lists and objects are open. An object that waits for a name or for what comes after a
member is not on the stack, nor is a list that waits for what comes after an item. -/
def openCount (reading : Reading) : Nat :=
  reading.around.length +
    match reading.phase with
    | .name .. | .colon .. | .afterItem _ | .afterMember _ | .string _ (.name _) .. => 1
    | _ => 0

/-- Where the scan has to stand with respect to strings. -/
def inside (reading : Reading) : Inside :=
  match reading.phase with
  | .string _ _ (.backslash ..) _ => .escape
  | .string .. => .string
  | _ => .nothing

theorem complete_openCount (value : Json) (around : List Frame) :
    (complete value around).openCount = around.length := by
  rcases around with _ | ⟨_ | _, around⟩ <;> rfl

theorem complete_inside (value : Json) (around : List Frame) :
    (complete value around).inside = .nothing := by
  rcases around with _ | ⟨_ | _, around⟩ <;> rfl

/-- The characters that mean something to the scan or to a fence. -/
def marks : List Char := ['"', '[', '\x7b', ']', '\x7d', '\x60']

/-- What one character does to the count and to the place within strings. -/
inductive Moves (c : Char) (reading : Reading) : Reading → Prop where
  | fails {error around} : Moves c reading ⟨.failed error, around⟩
  | plain {next} (unmarked : c ∉ marks) (count : next.openCount = reading.openCount)
    (before : reading.inside = .nothing) (after : next.inside = .nothing) : Moves c reading next
  | opens {next} (opening : isOpening c = true) (count : next.openCount = reading.openCount + 1)
    (before : reading.inside = .nothing) (after : next.inside = .nothing) : Moves c reading next
  | closes {value around} (closing : isClosing c = true)
    (count : reading.openCount = around.length + 1) (before : reading.inside = .nothing) :
    Moves c reading (complete value around)
  | quotes {next} (quote : c = '"') (count : next.openCount = reading.openCount)
    (before : reading.inside = .nothing) (after : next.inside = .string) : Moves c reading next
  | unquotes {next} (quote : c = '"') (count : next.openCount = reading.openCount)
    (before : reading.inside = .string) (after : next.inside = .nothing) : Moves c reading next
  | escapes {next} (backslash : c = '\\') (count : next.openCount = reading.openCount)
    (before : reading.inside = .string) (after : next.inside = .escape) : Moves c reading next
  | escaped {next} (onLine : c ≠ '\n') (count : next.openCount = reading.openCount)
    (before : reading.inside = .escape) (after : next.inside = .string) : Moves c reading next
  | text {next} (noQuote : c ≠ '"') (noBackslash : c ≠ '\\') (onLine : c ≠ '\n')
    (count : next.openCount = reading.openCount) (before : reading.inside = .string)
    (after : next.inside = .string) : Moves c reading next

/-! One character. -/

theorem unmarked_of {c : Char} (test : Char → Bool) (none : marks.any test = false)
    (holds : test c = true) : c ∉ marks := by
  intro member
  have some : marks.any test = true := List.any_eq_true.mpr ⟨c, member, holds⟩
  rw [none] at some
  cases some

theorem space_unmarked {c : Char} (blank : isSpace c = true) : c ∉ marks :=
  unmarked_of isSpace rfl blank

theorem digit_unmarked {c : Char} (digit : Text.isAsciiDigit c = true) : c ∉ marks :=
  unmarked_of Text.isAsciiDigit rfl digit

theorem letter_unmarked {c : Char} (letter : c.isAlpha = true) : c ∉ marks :=
  unmarked_of Char.isAlpha rfl letter

theorem opened_moves [Stack] (position : Nat) {c : Char} (compound : Compound) (closable : Bool)
    (around : List Frame) (opening : isOpening c = true) :
    Moves c ⟨.item closable, around⟩ (opened position compound around) := by
  unfold opened
  split
  · exact .fails
  · cases compound <;> exact .opens opening rfl rfl rfl

theorem startValue_moves [Stack] (position : Nat) (c : Char) (closable : Bool)
    (around : List Frame) : Moves c ⟨.item closable, around⟩ (startValue position c around) := by
  simp only [startValue]
  split
  · next quote => exact .quotes quote rfl rfl rfl
  split
  · next bracket => exact opened_moves _ _ _ _ (by rw [bracket]; rfl)
  split
  · next brace => exact opened_moves _ _ _ _ (by rw [brace]; rfl)
  iterate 7
    split
    · next written => exact .plain (by rw [written]; decide) rfl rfl rfl
  split
  · next digit =>
      have unmarked : c ∉ marks :=
        unmarked_of (fun d => decide ('1' ≤ d ∧ d ≤ '9')) rfl (by simpa using digit)
      exact .plain unmarked rfl rfl rfl
  · exact .fails

theorem afterItem_moves (position : Nat) (c : Char) (before : List Json) (around : List Frame) :
    Moves c ⟨.afterItem before, around⟩ (stepAfter position c ⟨.afterItem before, around⟩) := by
  unfold stepAfter
  split
  · next blank => exact .plain (space_unmarked blank) rfl rfl rfl
  · dsimp only
    split
    · next comma => exact .plain (by rw [comma]; decide) rfl rfl rfl
    split
    · next bracket => exact .closes (by rw [bracket]; rfl) rfl rfl
    · exact .fails

theorem afterMember_moves (position : Nat) (c : Char) (before : Members) (around : List Frame) :
    Moves c ⟨.afterMember before, around⟩ (stepAfter position c ⟨.afterMember before, around⟩) := by
  unfold stepAfter
  split
  · next blank => exact .plain (space_unmarked blank) rfl rfl rfl
  · dsimp only
    split
    · next comma => exact .plain (by rw [comma]; decide) rfl rfl rfl
    split
    · next brace => exact .closes (by rw [brace]; rfl) rfl rfl
    · exact .fails

theorem whole_moves (position : Nat) (c : Char) (value : Json) (around : List Frame) :
    Moves c ⟨.done value, around⟩ (stepAfter position c ⟨.done value, around⟩) := by
  unfold stepAfter
  split
  · next blank => exact .plain (space_unmarked blank) rfl rfl rfl
  · exact .fails

theorem complete_moves (position : Nat) (c : Char) (value : Json) (around : List Frame) :
    Moves c (complete value around) (stepAfter position c (complete value around)) := by
  rcases around with _ | ⟨_ | _, around⟩
  · exact whole_moves _ _ _ _
  · exact afterItem_moves _ _ _ _
  · exact afterMember_moves _ _ _ _

theorem Moves.of_alike {c : Char} {reading other next : Reading} (moves : Moves c reading next)
    (count : other.openCount = reading.openCount) (place : other.inside = reading.inside) :
    Moves c other next := by
  cases moves with
  | fails => exact .fails
  | plain unmarked same before after =>
      exact .plain unmarked (same.trans count.symm) (place.trans before) after
  | opens opening same before after =>
      exact .opens opening (by rw [same, count]) (place.trans before) after
  | closes closing same before => exact .closes closing (count.trans same) (place.trans before)
  | quotes quote same before after =>
      exact .quotes quote (same.trans count.symm) (place.trans before) after
  | unquotes quote same before after =>
      exact .unquotes quote (same.trans count.symm) (place.trans before) after
  | escapes backslash same before after =>
      exact .escapes backslash (same.trans count.symm) (place.trans before) after
  | escaped onLine same before after =>
      exact .escaped onLine (same.trans count.symm) (place.trans before) after
  | text noQuote noBackslash onLine same before after =>
      exact .text noQuote noBackslash onLine (same.trans count.symm) (place.trans before) after

theorem stepNumeral_moves (position : Nat) (c : Char) (start : Nat) (digits : List Char)
    (around : List Frame) (part : NumeralPart) :
    Moves c ⟨.numeral start part digits, around⟩
      (stepNumeral position c start digits around part) := by
  have closes : Moves c ⟨.numeral start part digits, around⟩
      (closeNumeral position c part digits around) := by
    unfold closeNumeral
    split
    · next value _ =>
        apply (complete_moves position c value around).of_alike
        · exact (complete_openCount value around).symm
        · exact (complete_inside value around).symm
    · exact .fails
  have goes : c ∉ marks → ∀ next, Moves c ⟨.numeral start part digits, around⟩
      ⟨.numeral start next (c :: digits), around⟩ :=
    fun unmarked next => .plain unmarked rfl rfl rfl
  have digit : Text.isAsciiDigit c = true → c ∉ marks := digit_unmarked
  have point : c = '.' → c ∉ marks := by
    rintro rfl
    decide
  have mark : (c == 'e' || c == 'E') = true → c ∉ marks :=
    unmarked_of (fun c => c == 'e' || c == 'E') rfl
  have sign : c = '+' ∨ c = '-' → c ∉ marks := by
    rintro (rfl | rfl) <;> decide
  cases part with
  | sign =>
      simp only [stepNumeral]
      split
      · next zero => exact goes (by rw [zero]; decide) _
      split
      · next isDigit => exact goes (digit isDigit) _
      split
      · next infinite => exact .plain (by rw [infinite]; decide) rfl rfl rfl
      · exact .fails
  | _ =>
      simp only [stepNumeral]
      split_ifs <;> first
        | exact closes
        | exact .fails
        | exact goes (digit (by assumption)) _
        | exact goes (point (by assumption)) _
        | exact goes (mark (by assumption)) _
        | exact goes (sign (by assumption)) _

theorem closeString_moves (start : Nat) (role : Role) (around : List Frame) (before : List Char)
    (high unit : Option Nat) (settled : List Char) :
    Moves '"' ⟨.string start role (.plain high unit) before, around⟩
      (closeString around role settled) := by
  cases role with
  | value =>
      apply Moves.unquotes rfl
      · exact complete_openCount _ _
      · rfl
      · exact complete_inside _ _
  | name members => exact .unquotes rfl rfl rfl rfl

theorem closeUnit_plain (start : Nat) (role : Role) (around : List Frame) (high : Option Nat)
    (place code : Nat) (before : List Char) :
    ∃ waiting text, closeUnit start role around high place code before =
      ⟨.string start role (.plain waiting (some place)) text, around⟩ := by
  unfold closeUnit
  cases high <;> dsimp only <;> split_ifs <;> exact ⟨_, _, rfl⟩

theorem stepString_moves (position : Nat) (c : Char) (start : Nat) (role : Role)
    (around : List Frame) (before : List Char) (part : StringPart) :
    Moves c ⟨.string start role part before, around⟩
      (stepString position c start role around before part) := by
  cases part with
  | plain high unit =>
      simp only [stepString]
      split
      · next quote =>
          rw [quote]
          exact closeString_moves _ _ _ _ _ _ _
      next noQuote =>
      split
      · next backslash => exact .escapes backslash (by cases role <;> rfl) rfl rfl
      next noBackslash =>
      split
      · exact .fails
      next shown =>
      have onLine : c ≠ '\n' := by
        rintro rfl
        exact shown (by decide)
      exact .text noQuote noBackslash onLine (by cases role <;> rfl) rfl rfl
  | backslash high place =>
      simp only [stepString]
      split
      · next unit => exact .escaped (by rw [unit]; decide) (by cases role <;> rfl) rfl rfl
      · cases known : escaped? c with
        | none => exact .fails
        | some d =>
            have onLine : c ≠ '\n' := by
              rintro rfl
              cases known
            exact .escaped onLine (by cases role <;> rfl) rfl rfl
  | hex high place count code =>
      simp only [stepString]
      cases known : hexValue? c with
      | none => exact .fails
      | some digit =>
          have other : ∀ d, hexValue? d = none → c ≠ d := by
            rintro d unknown rfl
            rw [unknown] at known
            cases known
          have goes : ∀ part before', inside ⟨.string start role part before', around⟩ = .string →
              Moves c ⟨.string start role (.hex high place count code) before, around⟩
                ⟨.string start role part before', around⟩ := by
            intro part before' within
            apply Moves.text (other _ rfl) (other _ rfl) (other _ rfl) _ rfl within
            cases role <;> rfl
          dsimp only
          split
          · obtain ⟨waiting, text, same⟩ := closeUnit_plain start role around high place
              (16 * code + digit) before
            rw [same]
            exact goes _ _ rfl
          · exact goes _ _ rfl

/-- The reader's step, as the scan sees it. -/
theorem step_moves [Stack] {reading : Reading} (regular : reading.Regular) (position : Nat)
    (c : Char) : Moves c reading (reading.step position c) := by
  rcases reading with ⟨phase, around⟩
  cases phase with
  | item closable =>
      simp only [step]
      split
      · next blank => exact .plain (space_unmarked blank) rfl rfl rfl
      split
      · next closing =>
          obtain ⟨isClosable, bracket⟩ := closing
          obtain ⟨frame, outer, rfl⟩ := List.exists_cons_of_ne_nil (regular isClosable)
          exact .closes (by rw [bracket]; rfl) rfl rfl
      · exact startValue_moves _ _ _ _
  | name before closable =>
      simp only [step]
      split
      · next blank => exact .plain (space_unmarked blank) rfl rfl rfl
      split
      · next quote => exact .quotes quote rfl rfl rfl
      split
      · next closing => exact .closes (by rw [closing.2]; rfl) rfl rfl
      · exact .fails
  | colon before name =>
      simp only [step]
      split
      · next blank => exact .plain (space_unmarked blank) rfl rfl rfl
      split
      · next colon => exact .plain (by rw [colon]; decide) rfl rfl rfl
      · exact .fails
  | word start left value =>
      obtain ⟨more, letters⟩ := regular
      cases left with
      | nil => exact absurd rfl more
      | cons expected left =>
          have unmarked := letter_unmarked (letters expected (by simp))
          simp only [step]
          split
          · next same =>
              rw [same]
              split
              · exact .plain unmarked (complete_openCount _ _) rfl (complete_inside _ _)
              · exact .plain unmarked rfl rfl rfl
          · exact .fails
  | numeral start part digits => exact stepNumeral_moves _ _ _ _ _ _
  | string start role part before => exact stepString_moves _ _ _ _ _ _ _
  | afterItem before => exact afterItem_moves _ _ _ _
  | afterMember before => exact afterMember_moves _ _ _ _
  | done value => exact whole_moves _ _ _ _
  | failed error => exact .fails

/-! The scan. -/

theorem scan_unmarked {c : Char} (unmarked : c ∉ marks) (depth : Nat) (rest : List Char) :
    upToClosing depth .nothing (c :: rest) =
      (upToClosing depth .nothing rest).map (c :: ·) := by
  simp only [marks, List.mem_cons, List.not_mem_nil, or_false, not_or] at unmarked
  simp [upToClosing, isOpening, isClosing, unmarked]

theorem scan_opening {c : Char} (opening : isOpening c = true) (depth : Nat) (rest : List Char) :
    upToClosing depth .nothing (c :: rest) =
      (upToClosing (depth + 1) .nothing rest).map (c :: ·) := by
  have noQuote : c ≠ '"' := by
    rintro rfl
    cases opening
  simp [upToClosing, opening, noQuote]

theorem scan_closing {c : Char} (closing : isClosing c = true) (depth : Nat) (rest : List Char) :
    upToClosing depth .nothing (c :: rest) =
      match depth with
      | 0 => some [c]
      | depth + 1 => (upToClosing depth .nothing rest).map (c :: ·) := by
  have noQuote : c ≠ '"' := by
    rintro rfl
    cases closing
  have noOpening : isOpening c = false := by
    simp only [isClosing, Bool.or_eq_true, beq_iff_eq] at closing
    rcases closing with rfl | rfl <;> rfl
  cases depth <;> simp [upToClosing, closing, noQuote, noOpening]

section
variable {c : Char} {reading next : Reading} (moves : Moves c reading next)
  (alive : ∀ error, next.phase ≠ .failed error)
include moves alive

/-- As long as something is open, the scan goes on as the reader does. -/
theorem scan_goes_on {depth depth' : Nat} (deep : reading.openCount = depth + 1)
    (deepNext : next.openCount = depth' + 1) (rest : List Char) :
    upToClosing depth reading.inside (c :: rest) =
      (upToClosing depth' next.inside rest).map (c :: ·) := by
  cases moves with
  | fails => exact absurd rfl (alive _)
  | plain unmarked count before after =>
      obtain rfl : depth = depth' := by omega
      rw [before, after, scan_unmarked unmarked]
  | opens opening count before after =>
      obtain rfl : depth + 1 = depth' := by omega
      rw [before, after, scan_opening opening]
  | closes closing count before =>
      rw [complete_openCount] at deepNext
      obtain rfl : depth = depth' + 1 := by omega
      rw [before, complete_inside, scan_closing closing]
  | quotes quote count before after =>
      obtain rfl : depth = depth' := by omega
      rw [before, after, quote]
      rfl
  | unquotes quote count before after =>
      obtain rfl : depth = depth' := by omega
      rw [before, after, quote]
      rfl
  | escapes backslash count before after =>
      obtain rfl : depth = depth' := by omega
      rw [before, after, backslash]
      rfl
  | escaped onLine count before after =>
      obtain rfl : depth = depth' := by omega
      rw [before, after]
      rfl
  | text noQuote noBackslash onLine count before after =>
      obtain rfl : depth = depth' := by omega
      simp [before, after, upToClosing, noQuote, noBackslash]

theorem scan_stops {depth : Nat} (deep : reading.openCount = depth + 1)
    (closed : next.openCount = 0) :
    depth = 0 ∧ isClosing c = true ∧ reading.inside = .nothing ∧
      ∃ value, next = ⟨.done value, []⟩ := by
  cases moves with
  | fails => exact absurd rfl (alive _)
  | @closes value around closing count before =>
      rw [complete_openCount] at closed
      obtain rfl : around = [] := List.length_eq_zero_iff.mp closed
      exact ⟨by rw [deep] at count; simpa using count, closing, before, value, rfl⟩
  | _ => omega

end

theorem alive_of_whole [Stack] {reading : Reading} {text : List Char} {document : Json}
    (whole : reading.after text = ⟨.done document, []⟩) (error : SyntaxError) :
    reading.phase ≠ .failed error := by
  intro failed
  rcases reading with ⟨phase, around⟩
  subst failed
  rw [after_failed] at whole
  cases whole

theorem first_opens [Stack] {c : Char} {rest : List Char} {document : Json}
    (opening : c = '[' ∨ c = '\x7b') (whole : start.after (c :: rest) = ⟨.done document, []⟩) :
    (start.step 0 c).openCount = 1 ∧ (start.step 0 c).inside = .nothing := by
  rw [after_cons] at whole
  by_cases full : Stack.depth ≤ 0
  · -- Without any room the first bracket cannot be read.
    have stuck : ∃ error, (start.step 0 c).phase = .failed error := by
      rcases opening with rfl | rfl <;>
        exact ⟨_, by simp [start, step, isSpace, startValue, opened, full, fail]; rfl⟩
    obtain ⟨error, failed⟩ := stuck
    exact absurd failed (alive_of_whole whole error)
  · rcases opening with rfl | rfl <;>
      simp [start, step, isSpace, startValue, opened, full, openCount, inside]

/-- The scan stops where the reader has the whole document, and what comes after does not matter. -/
theorem scan_follows [Stack] {reading : Reading} {text : List Char} {document : Json} {depth : Nat}
    (regular : reading.Regular) (deep : reading.openCount = depth + 1)
    (whole : reading.after text = ⟨.done document, []⟩) :
    ∃ inner last rest, text = inner ++ last :: rest ∧ isClosing last = true ∧
      reading.after (inner ++ [last]) = ⟨.done document, []⟩ ∧
      ∀ following, upToClosing depth reading.inside (inner ++ last :: following) =
        some (inner ++ [last]) := by
  induction text generalizing reading depth with
  | nil =>
      rw [after_nil] at whole
      rw [whole] at deep
      cases deep
  | cons c text ih =>
      have moves := step_moves regular 0 c
      rw [after_cons] at whole
      have alive := alive_of_whole whole
      cases left : (reading.step 0 c).openCount with
      | zero =>
          obtain ⟨rfl, closing, before, value, stopped⟩ := scan_stops moves alive deep left
          refine ⟨[], c, text, rfl, closing, ?_, ?_⟩
          · rcases after_whole value text with ⟨-, stays⟩ | extra
            · rw [stopped, stays] at whole
              rw [List.nil_append, after_cons, stopped, after_nil, whole]
            · rw [stopped, extra] at whole
              cases whole
          · intro following
            rw [before, List.nil_append, scan_closing closing]
            rfl
      | succ depth' =>
          obtain ⟨inner, last, rest, rfl, closing, read, taken⟩ :=
            ih (step_regular regular 0 c) left whole
          refine ⟨c :: inner, last, rest, rfl, closing, read, ?_⟩
          intro following
          rw [List.cons_append, scan_goes_on moves alive deep left, taken following]
          rfl

/-! Newlines and backticks. -/

theorem newline_outside {reading next : Reading} (moves : Moves '\n' reading next) :
    reading.inside = .nothing ∧ next.inside = .nothing ∨ ∃ error, next.phase = .failed error := by
  cases moves with
  | fails => exact .inr ⟨_, rfl⟩
  | plain unmarked count before after => exact .inl ⟨before, after⟩
  | opens opening => cases opening
  | closes closing => cases closing
  | quotes quote => cases quote
  | unquotes quote => cases quote
  | escapes backslash => cases backslash
  | escaped onLine => exact absurd rfl onLine
  | text noQuote noBackslash onLine => exact absurd rfl onLine

theorem backtick_inside {reading next : Reading} (moves : Moves '\x60' reading next) :
    reading.inside ≠ .nothing ∧ next.inside = .string ∨ ∃ error, next.phase = .failed error := by
  cases moves with
  | fails => exact .inr ⟨_, rfl⟩
  | plain unmarked => exact absurd (by decide) unmarked
  | opens opening => cases opening
  | closes closing => cases closing
  | quotes quote => cases quote
  | unquotes quote => cases quote
  | escapes backslash => cases backslash
  | escaped onLine count before after =>
      left
      rw [before]
      exact ⟨Inside.noConfusion, after⟩
  | text noQuote noBackslash onLine count before after =>
      left
      rw [before]
      exact ⟨Inside.noConfusion, after⟩

/-- A backtick stands within a line of the document: it is in a string, which has no newline, and
neither begins nor ends the document. -/
theorem backtick_surrounded [Stack] {before behind : List Char} {document : Json}
    (whole : start.after (before ++ '\x60' :: behind) = ⟨.done document, []⟩) :
    (∃ earlier d, before = earlier ++ [d] ∧ d ≠ '\n') ∧
      ∃ e later, behind = e :: later ∧ e ≠ '\n' := by
  have regular := after_regular start_regular before
  rw [after_append, after_cons] at whole
  obtain ⟨within, stays⟩ | ⟨error, failed⟩ := backtick_inside (step_moves regular 0 '\x60')
  · constructor
    · rcases List.eq_nil_or_concat' before with rfl | ⟨earlier, d, rfl⟩
      · exact absurd rfl within
      · refine ⟨earlier, d, rfl, ?_⟩
        rintro rfl
        rw [after_append, after_cons, after_nil] at within
        have regularBefore := after_regular start_regular earlier
        rcases newline_outside (step_moves regularBefore 0 '\n') with ⟨-, out⟩ | ⟨error, failed⟩
        · exact within out
        · apply within
          simp only [inside, failed]
    · cases behind with
      | nil =>
          rw [after_nil] at whole
          rw [whole] at stays
          cases stays
      | cons e later =>
          refine ⟨e, later, rfl, ?_⟩
          rintro rfl
          have regularNext := step_regular regular 0 '\x60'
          rcases newline_outside (step_moves regularNext 0 '\n') with ⟨out, -⟩ | ⟨error, failed⟩
          · rw [stays] at out
            cases out
          · rw [after_cons] at whole
            exact absurd failed (alive_of_whole whole error)
  · exact absurd failed (alive_of_whole whole error)

end Chartwright.Json.Reading
