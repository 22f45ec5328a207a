import Chartwright.Text.Words
import Mathlib.Data.List.Basic

/-!
Letter case. Lower case makes no digit of what was none, and neither makes nor loses a separator; a
text of ASCII has as many characters in lower case as before.
-/

namespace Chartwright.Text
open CaseTable Alphabet

/-! The letters that a table of runs gives are away from the intervals that its images avoid. -/

/-- None of the intervals has a code point between the two. -/
def isApart (intervals : List (Nat × Nat)) (first last : Nat) : Bool :=
  intervals.all fun interval => last.blt interval.1 || interval.2.blt first

theorem apart_uncovered {intervals : List (Nat × Nat)} {first last code : Nat}
    (apart : isApart intervals first last = true) (lower : first ≤ code) (upper : code ≤ last) :
    covers intervals code = false := by
  refine List.any_eq_false.mpr fun interval inside => ?_
  have beside := List.all_eq_true.mp apart interval inside
  simp only [Bool.or_eq_true, Nat.blt_eq, Bool.and_eq_true, decide_eq_true_eq] at beside ⊢
  omega

-- A number that is no code point stands for the first character.
theorem code_of_number (n : Nat) : (Char.ofNat n).toNat = n ∨ (Char.ofNat n).toNat = 0 := by
  unfold Char.ofNat
  by_cases valid : n.isValidChar
  · rw [dif_pos valid]
    exact .inl rfl
  · rw [dif_neg valid]
    exact .inr rfl

section Runs
variable {intervals : List (Nat × Nat)} {runs : List (Nat × Nat × Nat × Int)} {code : Nat}
  {letter : Char} (found : inRuns? runs code = some letter)
include found

theorem source_uncovered
    (apart : runs.all (fun (first, last, _, _) => isApart intervals first last) = true) :
    covers intervals code = false := by
  obtain ⟨⟨first, last, step, shift⟩, inside, rfl⟩ := Option.map_eq_some_iff.mp found
  have within := List.find?_some inside
  simp only [Bool.and_eq_true, decide_eq_true_eq] at within
  have beside := List.all_eq_true.mp apart _ (List.mem_of_find?_eq_some inside)
  exact apart_uncovered beside within.1.1 within.1.2

theorem image_uncovered (none_ : covers intervals 0 = false)
    (apart : runs.all (fun (first, last, _, shift) =>
      isApart intervals (first + shift).toNat (last + shift).toNat) = true) :
    covers intervals letter.toNat = false := by
  obtain ⟨⟨first, last, step, shift⟩, inside, rfl⟩ := Option.map_eq_some_iff.mp found
  have within := List.find?_some inside
  simp only [Bool.and_eq_true, decide_eq_true_eq] at within
  have beside := List.all_eq_true.mp apart _ (List.mem_of_find?_eq_some inside)
  rcases code_of_number (code + shift).toNat with same | zero
  · rw [same]
    exact apart_uncovered beside (by omega) (by omega)
  · rwa [zero]

end Runs

/-! Digits. -/

theorem digit_covered {c : Char} (digit : isDigit c = true) :
    covers (zeros.map fun start => (start, start + 9)) c.toNat = true := by
  rw [covers, List.any_map]
  unfold isDigit digitValue? at digit
  split at digit
  · rename_i ascii
    simp only [isAsciiDigit, Bool.and_eq_true, decide_eq_true_eq] at ascii
    refine List.any_eq_true.mpr ⟨'0'.toNat, by decide, ?_⟩
    simp only [Function.comp_apply, Bool.and_eq_true, decide_eq_true_eq]
    exact ascii
  · split at digit
    · cases digit
    · rw [Option.isSome_map, List.find?_isSome] at digit
      simpa using digit

/-- There is no digit between two code points. -/
def isDigitless (first last : Nat) : Bool :=
  zeros.all fun start => last.blt start || (start + 9).blt first

theorem digitless_eq (first last : Nat) :
    isDigitless first last = isApart (zeros.map fun start => (start, start + 9)) first last := by
  simp [isDigitless, isApart, List.all_map, Function.comp_def]

/-- The runs of letters in lower case and those of digits have nothing in common. -/
theorem runs_digitless :
    lowerRuns.all (fun (first, last, _, shift) =>
      isDigitless (first + shift).toNat (last + shift).toNat) = true := by
  decide +kernel

theorem run_digitless {code : Nat} {letter : Char} (found : inRuns? lowerRuns code = some letter) :
    isDigit letter = false := by
  have uncovered : covers (zeros.map fun start => (start, start + 9)) letter.toNat = false := by
    refine image_uncovered found (by decide) ?_
    simpa only [digitless_eq] using runs_digitless
  rw [Bool.eq_false_iff]
  intro digit
  rw [digit_covered digit] at uncovered
  cases uncovered

theorem ascii_digits :
    ∀ code < 128, isDigit (Char.ofNat code).toLower = isDigit (Char.ofNat code) := by
  decide +kernel

theorem char_digits (c : Char) : (lowerChar c).countP isDigit ≤ [c].countP isDigit := by
  unfold lowerChar
  split
  · rename_i ascii
    have same := ascii_digits c.toNat ascii
    rw [Char.ofNat_toNat] at same
    simp [List.countP_singleton, same]
  · split
    · exact (by decide : ['i', Char.ofNat 0x307].countP isDigit = 0) ▸ Nat.zero_le _
    · cases found : inRuns? lowerRuns c.toNat with
      | none => simp
      | some letter => simp [List.countP_singleton, run_digitless found]

theorem lower_from_digits (inWord : Bool) (text : List Char) :
    (lowerFrom inWord text).countP isDigit ≤ text.countP isDigit := by
  induction text generalizing inWord with
  | nil => exact Nat.le_refl _
  | cons c rest ih =>
      have later := ih (if isSkipped c then inWord else isCased c)
      have here : (if c == capitalSigma then
          [if inWord && !startsCased rest then finalSigma else smallSigma] else lowerChar c).countP
          isDigit ≤ [c].countP isDigit := by
        split
        · have sigma : isDigit smallSigma = false ∧ isDigit finalSigma = false := by decide
          split <;> simp [List.countP_singleton, sigma]
        · exact char_digits c
      rw [lowerFrom, List.countP_append, List.countP_cons]
      rw [List.countP_singleton] at here
      omega

theorem lower_digits (text : List Char) : (lower text).countP isDigit ≤ text.countP isDigit :=
  lower_from_digits false text

/-! Other classes of characters, and texts of ASCII. -/

theorem lower_char_some (c : Char) : lowerChar c ≠ [] := by
  unfold lowerChar
  split
  · exact List.cons_ne_nil _ _
  · split <;> exact List.cons_ne_nil _ _

theorem lower_some {text : List Char} (some_ : text ≠ []) : lower text ≠ [] := by
  obtain ⟨c, rest, rfl⟩ := List.exists_cons_of_ne_nil some_
  refine List.append_ne_nil_of_left_ne_nil ?_ _
  split
  · exact List.cons_ne_nil _ _
  · exact lower_char_some c

/-- A class of characters to which the sigmas do not belong, and a letter just if its lower case
does, is that of whole texts. -/
theorem lower_all {test : Char → Bool} (each : ∀ c, (lowerChar c).all test = test c)
    (sigmas : ∀ c ∈ [capitalSigma, smallSigma, finalSigma], test c = false) (text : List Char) :
    (lower text).all test = text.all test := by
  suffices inside : ∀ inWord, (lowerFrom inWord text).all test = text.all test from inside false
  induction text with
  | nil => exact fun _ => rfl
  | cons c rest ih =>
      intro inWord
      rw [lowerFrom, List.all_append, ih, List.all_cons]
      congr 1
      split
      · rename_i sigma
        rw [beq_iff_eq.mp sigma, sigmas capitalSigma (by simp), List.all_cons]
        split <;> simp [sigmas]
      · exact each c

theorem lower_ascii {text : List Char} (ascii : ∀ c ∈ text, c.toNat < 128) :
    lower text = text.map Char.toLower := by
  suffices inside : ∀ inWord, lowerFrom inWord text = text.map Char.toLower from inside false
  induction text with
  | nil => exact fun _ => rfl
  | cons c rest ih =>
      intro inWord
      have small := ascii c List.mem_cons_self
      have other : (c == capitalSigma) = false := by
        rw [beq_eq_false_iff_ne]
        rintro rfl
        exact absurd small (by decide)
      simp [lowerFrom, other, lowerChar, small,
        ih fun d inside => ascii d (List.mem_cons_of_mem c inside)]

end Chartwright.Text
