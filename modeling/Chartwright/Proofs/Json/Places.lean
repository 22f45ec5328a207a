import Chartwright.Json.Reader
import Mathlib.Data.List.Basic

/-!
The places that the reader of JSON text notes down tell where a text is wrong. What it understands
of a text does not depend on them, so a document is the same wherever in a text it stands.
-/

namespace Chartwright.Json

def NumeralPart.unplaced : NumeralPart → NumeralPart
  | .point _ => .point 0
  | .mark _ => .mark 0
  | .markSign _ => .markSign 0
  | part => part

def StringPart.unplaced : StringPart → StringPart
  | .plain high unit => .plain high (unit.map fun _ => 0)
  | .backslash high _ => .backslash high 0
  | .hex high _ count code => .hex high 0 count code

def SyntaxError.unplaced (error : SyntaxError) : SyntaxError := { error with position := 0 }

def Phase.unplaced : Phase → Phase
  | .word _ left value => .word 0 left value
  | .numeral _ part digits => .numeral 0 part.unplaced digits
  | .string _ role part before => .string 0 role part.unplaced before
  | .failed error => .failed error.unplaced
  | phase => phase

namespace Reading

/-- What has been understood, without the places noted down. -/
def unplaced (reading : Reading) : Reading := { reading with phase := reading.phase.unplaced }

theorem complete_unplaced (value : Json) (around : List Frame) :
    (complete value around).unplaced = complete value around := by
  rcases around with _ | ⟨_ | _, around⟩ <;> rfl

theorem fail_unplaced (cause : SyntaxCause) (position : Nat) :
    (fail cause position).unplaced = fail cause 0 := rfl

theorem opened_unplaced [Stack] (position : Nat) (compound : Compound) (around : List Frame) :
    (opened position compound around).unplaced = opened 0 compound around := by
  unfold opened
  split
  · rfl
  · cases compound <;> rfl

theorem startValue_unplaced [Stack] (position : Nat) (c : Char) (around : List Frame) :
    (startValue position c around).unplaced = startValue 0 c around := by
  simp only [startValue, apply_ite unplaced, opened_unplaced, fail_unplaced]
  rfl

theorem stepAfter_unplaced (position : Nat) (c : Char) (reading : Reading) :
    (stepAfter position c reading).unplaced = stepAfter 0 c reading.unplaced := by
  rcases reading with ⟨phase, around⟩
  unfold stepAfter
  by_cases blank : isSpace c
  · rw [if_pos blank, if_pos blank]
  · rw [if_neg blank, if_neg blank]
    cases phase with
    | afterItem before =>
        simp only [apply_ite unplaced, complete_unplaced, fail_unplaced]
        rfl
    | afterMember before =>
        simp only [apply_ite unplaced, complete_unplaced, fail_unplaced]
        rfl
    | _ => rfl

theorem closeNumeral_unplaced (position : Nat) (c : Char) (part : NumeralPart)
    (digits : List Char) (around : List Frame) :
    (closeNumeral position c part digits around).unplaced =
      closeNumeral 0 c part digits around := by
  unfold closeNumeral
  cases numeralValue part digits with
  | ok value =>
      simp only [stepAfter_unplaced, complete_unplaced]
  | error cause => rfl

theorem stepNumeral_unplaced (position : Nat) (c : Char) (start : Nat) (digits : List Char)
    (around : List Frame) (part : NumeralPart) :
    (stepNumeral position c start digits around part).unplaced =
      stepNumeral 0 c 0 digits around part.unplaced := by
  cases part <;>
    simp only [stepNumeral, NumeralPart.unplaced, apply_ite unplaced, closeNumeral_unplaced,
      fail_unplaced] <;>
    rfl

theorem closeString_unplaced (around : List Frame) (role : Role) (before : List Char) :
    (closeString around role before).unplaced = closeString around role before := by
  cases role with
  | value => exact complete_unplaced _ _
  | name members => rfl

theorem closeUnit_unplaced (start : Nat) (role : Role) (around : List Frame) (high : Option Nat)
    (place code : Nat) (before : List Char) :
    (closeUnit start role around high place code before).unplaced =
      closeUnit 0 role around high 0 code before := by
  cases high <;> simp only [closeUnit, apply_ite unplaced] <;> rfl

theorem stepString_unplaced (position : Nat) (c : Char) (start : Nat) (role : Role)
    (around : List Frame) (before : List Char) (part : StringPart) :
    (stepString position c start role around before part).unplaced =
      stepString 0 c 0 role around before part.unplaced := by
  cases part with
  | plain high unit =>
      simp only [stepString, StringPart.unplaced, apply_ite unplaced, closeString_unplaced,
        fail_unplaced]
      rfl
  | backslash high place =>
      simp only [stepString, StringPart.unplaced, apply_ite unplaced]
      cases escaped? c <;> rfl
  | hex high place count code =>
      simp only [stepString, StringPart.unplaced]
      cases hexValue? c with
      | none => rfl
      | some digit =>
          simp only [apply_ite unplaced, closeUnit_unplaced]
          rfl

theorem step_unplaced [Stack] (reading : Reading) (position : Nat) (c : Char) :
    (reading.step position c).unplaced = reading.unplaced.step 0 c := by
  rcases reading with ⟨phase, around⟩
  cases phase with
  | item closable =>
      simp only [step, apply_ite unplaced, complete_unplaced, startValue_unplaced]
      rfl
  | name before closable =>
      simp only [step, apply_ite unplaced, complete_unplaced, fail_unplaced]
      rfl
  | colon before name =>
      simp only [step, apply_ite unplaced, fail_unplaced]
      rfl
  | word start left value =>
      cases left with
      | nil => rfl
      | cons expected left =>
          simp only [step, apply_ite unplaced, complete_unplaced, fail_unplaced]
          rfl
  | numeral start part digits => exact stepNumeral_unplaced _ _ _ _ _ _
  | string start role part before => exact stepString_unplaced _ _ _ _ _ _ _
  | failed error => rfl
  | _ => exact stepAfter_unplaced _ _ _

/-- What is understood when a text follows, without the places. -/
def after [Stack] (reading : Reading) (text : List Char) : Reading :=
  text.foldl (fun reading c => reading.step 0 c) reading

@[simp] theorem after_nil [Stack] (reading : Reading) : reading.after [] = reading := rfl

@[simp] theorem after_cons [Stack] (reading : Reading) (c : Char) (text : List Char) :
    reading.after (c :: text) = (reading.step 0 c).after text := rfl

theorem after_append [Stack] (reading : Reading) (first second : List Char) :
    reading.after (first ++ second) = (reading.after first).after second :=
  List.foldl_append

theorem steps_unplaced [Stack] (reading : Reading) (position : Nat) (text : List Char) :
    (reading.steps position text).unplaced = reading.unplaced.after text := by
  induction text generalizing reading position with
  | nil => rfl
  | cons c rest ih =>
      simp only [steps, after_cons]
      rw [ih, step_unplaced]

theorem endNumeral_unplaced (start position : Nat) (around : List Frame) (digits : List Char)
    (part : NumeralPart) :
    (endNumeral start position around digits part).mapError SyntaxError.unplaced =
      endNumeral 0 0 around digits part.unplaced := by
  cases part with
  | sign => rfl
  | point cut => rfl
  | mark cut => rfl
  | markSign cut => rfl
  | _ =>
      simp only [endNumeral, NumeralPart.unplaced]
      generalize numeralValue _ digits = value
      cases value with
      | error cause => rfl
      | ok value =>
          by_cases lone : around.isEmpty
          · simp only [if_pos lone]
            rfl
          · simp only [if_neg lone]
            rfl

theorem result_unplaced (reading : Reading) (position : Nat) :
    (reading.result position).mapError SyntaxError.unplaced = reading.unplaced.result 0 := by
  rcases reading with ⟨phase, around⟩
  cases phase with
  | numeral start part digits => exact endNumeral_unplaced _ _ _ _ _
  | string start role part before =>
      cases part with
      | plain high unit => cases unit <;> rfl
      | _ => rfl
  | _ => rfl

end Reading

theorem readBare_unplaced [Stack] (text : List Char) :
    (readBare text).mapError SyntaxError.unplaced = (Reading.start.after text).result 0 := by
  unfold readBare
  rw [Reading.result_unplaced, Reading.steps_unplaced]
  rfl

end Chartwright.Json
