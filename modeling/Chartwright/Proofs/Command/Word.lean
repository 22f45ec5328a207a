import Chartwright.Proofs.Command.Expression
import Chartwright.Proofs.Text.Case
import Chartwright.Proofs.Text.Words

/-!
Plain words in commands: letters and digits of ASCII and underscores. In lower case they are made of
the characters that the phrases read as names.
-/

namespace Chartwright
open Text Pattern

/-- A letter or digit of ASCII, or an underscore. -/
def isPlain (c : Char) : Bool := isAsciiLower c || isAsciiUpper c || c == '_' || isAsciiDigit c

namespace Phrase

theorem name_char_plain {c : Char} (named : isNameChar c = true) : isPlain c = true := by
  simp only [isNameChar, isPlain, Bool.or_eq_true] at named ⊢
  rcases named with (lower | digit) | line
  · exact .inl (.inl (.inl lower))
  · exact .inr digit
  · exact .inl (.inr line)

/-- What a plain character is, and what its lower case is. -/
structure PlainChar (c : Char) : Prop where
  ascii : c.toNat < 128
  solid : isBlank c = false
  word : isWordChar c = true
  lowered : isNameChar c.toLower = true
  settled : c.toLower.toLower = c.toLower
  raised : upperChar c.toLower = upperChar c

theorem plain_char {c : Char} (plain : isPlain c = true) : PlainChar c := by
  have each : ∀ code < 128, isPlain (Char.ofNat code) = true →
      isBlank (Char.ofNat code) = false ∧ isWordChar (Char.ofNat code) = true ∧
        isNameChar (Char.ofNat code).toLower = true ∧
        (Char.ofNat code).toLower.toLower = (Char.ofNat code).toLower ∧
        upperChar (Char.ofNat code).toLower = upperChar (Char.ofNat code) := by decide +kernel
  have small := letter_ascii plain
  obtain ⟨solid, word, lowered, settled, raised⟩ := @of_ascii (fun c => isPlain c = true →
    isBlank c = false ∧ isWordChar c = true ∧ isNameChar c.toLower = true ∧
      c.toLower.toLower = c.toLower ∧ upperChar c.toLower = upperChar c) each c small plain
  exact ⟨small, solid, word, lowered, settled, raised⟩

theorem name_char {c : Char} (named : isNameChar c = true) : PlainChar c :=
  plain_char (name_char_plain named)

section Lowered
variable {text : List Char} (plain : ∀ c ∈ text, isPlain c = true)
include plain

theorem plain_lower : lower text = text.map Char.toLower :=
  lower_ascii fun c inside => (plain_char (plain c inside)).ascii

theorem lower_named : ∀ c ∈ lower text, isNameChar c = true := by
  rw [plain_lower plain]
  intro c inside
  obtain ⟨d, there, rfl⟩ := List.mem_map.mp inside
  exact (plain_char (plain d there)).lowered

theorem lower_again : lower (lower text) = lower text := by
  have named := lower_named plain
  rw [plain_lower fun c inside => name_char_plain (named c inside), plain_lower plain, List.map_map]
  exact List.map_congr_left fun c inside => (plain_char (plain c inside)).settled

theorem title_again (some_ : text ≠ []) : titleCase (lower text) = titleCase text := by
  have solid {word : List Char} (plain : ∀ c ∈ word, isPlain c = true) :
      ∀ c ∈ word, isBlank c = false := fun c inside => (plain_char (plain c inside)).solid
  have lowPlain : ∀ c ∈ lower text, isPlain c = true :=
    fun c inside => name_char_plain (lower_named plain c inside)
  rw [titleCase, titleCase, words_solid (solid lowPlain) (lower_some some_),
    words_solid (solid plain) some_]
  obtain ⟨c, rest, rfl⟩ := List.exists_cons_of_ne_nil some_
  obtain ⟨here, later⟩ := List.forall_mem_cons.mp plain
  have split : lower (c :: rest) = c.toLower :: lower rest := by
    rw [plain_lower plain, plain_lower later, List.map_cons]
  rw [split, List.map_singleton, List.map_singleton, capitalized, capitalized,
    (plain_char here).raised, lower_again later]

end Lowered
end Phrase
end Chartwright
