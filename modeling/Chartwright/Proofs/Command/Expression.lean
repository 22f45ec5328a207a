import Chartwright.Command.Phrase
import Chartwright.Proofs.Text.Pattern
import Mathlib.Data.List.Basic

/-!
Literals in the expressions of filters, and the names of fields in them. A literal is read by the
rules of the language in which the expressions are evaluated, where a backslash does not stand for
itself and the end of a line is not allowed.
-/

namespace Chartwright
open Text Pattern

namespace Expression

/-- The rest of a literal, behind its opening quote. A backslash takes the next character with it
and stands for the `meaning` of that, if it has one. The literal ends with its quote and its line.
-/
def literalRest? (meaning : Char → Option Char) : List Char → Option (List Char)
  | [] => none
  | '\'' :: rest => if rest.isEmpty then some [] else none
  | ['\\'] => none
  | '\\' :: c :: rest => (literalRest? meaning rest).map ((meaning c).toList ++ ·)
  | c :: rest => if c = '\n' ∨ c = '\r' then none else (literalRest? meaning rest).map (c :: ·)

/-- The text that a literal in single quotes stands for, if all of it is one. -/
def literalText? (meaning : Char → Option Char) : List Char → Option (List Char)
  | '\'' :: rest => literalRest? meaning rest
  | _ => none

variable {meaning : Char → Option Char}

theorem literal_rest_shorter {text value : List Char}
    (read : literalRest? meaning text = some value) : value.length < text.length := by
  fun_induction literalRest? meaning text generalizing value with
  | case1 => cases read
  | case2 rest ends =>
      cases read
      exact Nat.succ_pos _
  | case3 => cases read
  | case4 => cases read
  | case5 c rest ih =>
      obtain ⟨later, reads, rfl⟩ := Option.map_eq_some_iff.mp read
      have shorter := ih reads
      cases meaning c <;> simp <;> omega
  | case6 => cases read
  | case7 c rest _ _ _ _ ih =>
      obtain ⟨later, reads, rfl⟩ := Option.map_eq_some_iff.mp read
      exact Nat.succ_lt_succ (ih reads)

theorem literal_rest_plain {c : Char} (unquoted : c ≠ '\'') (unescaped : c ≠ '\\')
    (rest : List Char) :
    literalRest? meaning (c :: rest) =
      if c = '\n' ∨ c = '\r' then none else (literalRest? meaning rest).map (c :: ·) := by
  rw [literalRest?.eq_def]
  split <;> simp_all

/-- Between quotes a text stands for itself unless a backslash or the end of a line is in it. -/
theorem literal_rest_iff {value : List Char} (unquoted : '\'' ∉ value) :
    literalRest? meaning (value ++ ['\'']) = some value ↔
      ∀ c ∈ value, c ≠ '\\' ∧ c ≠ '\n' ∧ c ≠ '\r' := by
  induction value with
  | nil => simp [literalRest?]
  | cons c rest ih =>
      obtain ⟨here, later⟩ := not_or.mp (mt List.mem_cons.mpr unquoted)
      rw [List.forall_mem_cons, ← ih later, List.cons_append]
      by_cases escape : c = '\\'
      · subst escape
        refine iff_of_false (fun read => ?_) (fun plain => plain.1.1 rfl)
        -- What a backslash takes with it makes at most one character of two.
        obtain ⟨d, more, split⟩ := List.exists_cons_of_ne_nil (List.append_ne_nil_of_right_ne_nil
          rest (List.cons_ne_nil '\'' []))
        have lengths := congrArg List.length split
        rw [split, literalRest?] at read
        obtain ⟨value, reads, same⟩ := Option.map_eq_some_iff.mp read
        have shorter := literal_rest_shorter reads
        have total := congrArg List.length same
        have meant : (meaning d).toList.length ≤ 1 := by cases meaning d <;> simp
        simp only [List.length_append, List.length_cons, List.length_nil] at total lengths
        omega
      · rw [literal_rest_plain (Ne.symm here) escape]
        by_cases ends : c = '\n' ∨ c = '\r'
        · rw [if_pos ends]
          refine iff_of_false nofun fun plain => ?_
          exact ends.elim plain.1.2.1 plain.1.2.2
        · obtain ⟨line, back⟩ := not_or.mp ends
          simp [escape, line, back]

theorem literal_text_iff {value : List Char} (unquoted : '\'' ∉ value) :
    literalText? meaning ('\'' :: value ++ ['\'']) = some value ↔
      ∀ c ∈ value, c ≠ '\\' ∧ c ≠ '\n' ∧ c ≠ '\r' := literal_rest_iff unquoted

/-- A text without quotes that is no number is put between quotes as it is. -/
theorem quoted_value {value : String} (tight : Tight value.toList)
    (unquoted : ∀ c ∈ value.toList, isQuote c = false)
    (text : Numeral.real? value.toList = none) :
    ofValue value.toList = "'" ++ value ++ "'" := by
  have kept : Expression.unquoted (trim value.toList) = value.toList := by
    rw [trim_tight tight]
    exact trimmed_eq (fun c first => unquoted c (List.mem_of_mem_head? first))
      (fun c last => unquoted c (List.mem_of_mem_getLast? last))
  have same : replaceChar '\'' ['\\', '\''] value.toList = value.toList := by
    have each : ∀ c ∈ value.toList, (if c = '\'' then ['\\', '\''] else [c]) = [c] := by
      intro c inside
      refine if_neg fun quote => ?_
      have marked := unquoted c inside
      rw [quote] at marked
      cases marked
    rw [replaceChar, List.flatMap_congr each, List.flatMap_singleton']
  apply String.toList_injective
  rw [ofValue, kept, text, same]
  simp

theorem same_literal_iff (field value literal : String) :
    ofField field ++ " == " ++ literal = ofField field ++ " == '" ++ value ++ "'" ↔
      literal = "'" ++ value ++ "'" := by
  have opened : " == '".toList = " == ".toList ++ "'".toList := by decide
  rw [← String.toList_inj, ← String.toList_inj]
  simp only [String.toList_append, opened, List.append_assoc, List.append_cancel_left_eq]

end Expression

/-! Names of fields as they are typed: letters, digits and underscores. -/

theorem letter_ascii {c : Char} (letter : (isAsciiLower c || isAsciiUpper c || c == '_' ||
    isAsciiDigit c) = true) : c.toNat < 128 := by
  simp only [isAsciiLower, isAsciiUpper, isAsciiDigit, Bool.or_eq_true, Bool.and_eq_true,
    decide_eq_true_eq, beq_iff_eq] at letter
  rcases letter with ((⟨_, last⟩ | ⟨_, last⟩) | rfl) | ⟨_, last⟩
  · exact Nat.lt_of_le_of_lt last (by decide)
  · exact Nat.lt_of_le_of_lt last (by decide)
  · decide
  · exact Nat.lt_of_le_of_lt last (by decide)

theorem Phrase.name_solid {c : Char} (named : isNameChar (plainLetter c) = true) :
    isBlank c = false := by
  by_contra spaced
  rw [Bool.not_eq_false] at spaced
  rw [plain_blank spaced] at named
  have letter : (isAsciiLower c || isAsciiUpper c || c == '_' || isAsciiDigit c) = true := by
    simp only [isNameChar, Bool.or_eq_true] at named ⊢
    exact named.elim (fun either => either.elim (fun lower => .inl (.inl (.inl lower)))
      fun digit => .inr digit) fun line => .inl (.inr line)
  have apart : ∀ code < 128, isNameChar (Char.ofNat code) = true →
      isBlank (Char.ofNat code) = false := by decide +kernel
  have solid := @of_ascii (fun c => isNameChar c = true → isBlank c = false) apart c
    (letter_ascii letter) named
  rw [spaced] at solid
  cases solid

theorem Expression.identifier_named {name : List Char} (identifier : isIdentifier name = true) :
    name ≠ [] ∧ ∀ c ∈ name, Phrase.isNameChar (plainLetter c) = true := by
  have ascii : ∀ code < 128, (isAsciiLower (Char.ofNat code) || isAsciiUpper (Char.ofNat code) ||
      Char.ofNat code == '_' || isAsciiDigit (Char.ofNat code)) = true →
      Phrase.isNameChar (plainLetter (Char.ofNat code)) = true := by decide +kernel
  have each {c : Char} (letter : (isAsciiLower c || isAsciiUpper c || c == '_' ||
      isAsciiDigit c) = true) : Phrase.isNameChar (plainLetter c) = true :=
    @of_ascii (fun c => (isAsciiLower c || isAsciiUpper c || c == '_' || isAsciiDigit c) = true →
      Phrase.isNameChar (plainLetter c) = true) ascii c (letter_ascii letter) letter
  cases name with
  | nil => cases identifier
  | cons c rest =>
      simp only [isIdentifier, Bool.and_eq_true, List.all_eq_true] at identifier
      refine ⟨by simp, List.forall_mem_cons.mpr ⟨each (by simp [identifier.1]), ?_⟩⟩
      exact fun d inside => each (identifier.2 d inside)

end Chartwright
