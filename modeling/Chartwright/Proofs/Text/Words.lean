import Chartwright.Text.Words
import Mathlib.Data.List.TakeWhile

/-!
Words and the white space between them. Trimming leaves a text alone that neither begins nor ends
with white space.
-/

namespace Chartwright.Text

def Tight (text : List Char) : Prop :=
  (∀ c ∈ text.head?, isBlank c = false) ∧ ∀ c ∈ text.getLast?, isBlank c = false

/-- What holds of the characters below code point 128 one by one holds of all of them. -/
theorem of_ascii {holds : Char → Prop} (each : ∀ code < 128, holds (Char.ofNat code)) {c : Char}
    (small : c.toNat < 128) : holds c := by
  have here := each c.toNat small
  rwa [Char.ofNat_toNat] at here

section Trimming
variable {test : Char → Bool} {text : List Char}

theorem drop_none (first : ∀ c ∈ text.head?, test c = false) : text.dropWhile test = text := by
  cases text with
  | nil => rfl
  | cons c rest => simp [first c rfl]

theorem trimmed_eq (first : ∀ c ∈ text.head?, test c = false)
    (last : ∀ c ∈ text.getLast?, test c = false) : trimmedOf test text = text := by
  rw [← List.head?_reverse] at last
  rw [trimmedOf, drop_none first, drop_none last, List.reverse_reverse]

theorem trim_tight (tight : Tight text) : trim text = text := trimmed_eq tight.1 tight.2

theorem trim_padded {c : Char} (tight : Tight text) (some_ : text ≠ [])
    (blank : isBlank c = true) : trim (text ++ [c]) = text := by
  have first : ∀ d ∈ (text ++ [c]).head?, isBlank d = false := by
    obtain ⟨d, others, rfl⟩ := List.exists_cons_of_ne_nil some_
    exact tight.1
  have last : ∀ d ∈ text.reverse.head?, isBlank d = false := by
    rw [List.head?_reverse]
    exact tight.2
  rw [trim, trimmedOf, drop_none first, List.reverse_append, List.reverse_singleton,
    List.singleton_append, List.dropWhile_cons_of_pos blank, drop_none last, List.reverse_reverse]

end Trimming

theorem trim_sublist (text : List Char) : (trim text).Sublist text := by
  have back := (List.dropWhile_sublist isBlank (l := (text.dropWhile isBlank).reverse)).reverse
  rw [List.reverse_reverse] at back
  exact back.trans (List.dropWhile_sublist isBlank)

theorem mem_dropWhile {test : Char → Bool} {c : Char} {text : List Char} (inside : c ∈ text)
    (kept : test c = false) : c ∈ text.dropWhile test := by
  rw [← List.takeWhile_append_dropWhile (p := test) (l := text)] at inside
  rcases List.mem_append.mp inside with taken | left
  · have dropped := List.mem_takeWhile_imp taken
    rw [kept] at dropped
    cases dropped
  · exact left

theorem mem_trim {c : Char} {text : List Char} (inside : c ∈ text)
    (solid : isBlank c = false) : c ∈ trim text :=
  List.mem_reverse.mpr
    (mem_dropWhile (List.mem_reverse.mpr (mem_dropWhile inside solid)) solid)

theorem occursIn_iff {piece text : List Char} : occursIn piece text = true ↔ piece <:+: text := by
  induction text with
  | nil => simp [occursIn]
  | cons c rest ih =>
      rw [occursIn, Bool.or_eq_true, ih, List.isPrefixOf_iff_prefix, List.infix_cons_iff]

/-- What a text holds up to its first white space. -/
def firstWord (text : List Char) : List Char := text.takeWhile fun c => !isBlank c

theorem firstWord_append {word : List Char} (solid : ∀ c ∈ word, isBlank c = false)
    (rest : List Char) : firstWord (word ++ rest) = word ++ firstWord rest :=
  List.takeWhile_append_of_pos (by simpa using solid)

def nextWord (text : List Char) : List Char :=
  (text.dropWhile fun c => !isBlank c).dropWhile isBlank

theorem nextWord_solid {text : List Char} (solid : ∀ c ∈ text, isBlank c = false) :
    nextWord text = [] := by
  have none_ : text.dropWhile (fun c => !isBlank c) = [] :=
    List.dropWhile_eq_nil_iff.mpr (by simpa using solid)
  rw [nextWord, none_, List.dropWhile_nil]

theorem nextWord_append {word gap rest : List Char} (solid : ∀ c ∈ word, isBlank c = false)
    (blank : ∀ c ∈ gap, isBlank c = true) (stops : ∀ c ∈ rest.head?, isBlank c = false)
    (some_ : gap ≠ []) : nextWord (word ++ (gap ++ rest)) = rest := by
  obtain ⟨c, others, rfl⟩ := List.exists_cons_of_ne_nil some_
  have first : isBlank c = true := blank c List.mem_cons_self
  rw [nextWord, List.dropWhile_append_of_pos (by simpa using solid), List.cons_append,
    List.dropWhile_cons_of_neg (by simp [first]), ← List.cons_append,
    List.dropWhile_append_of_pos blank, drop_none stops]

/-- The first word of a text and what comes behind the white space that follows it. -/
theorem words_append {word gap rest : List Char} {c : Char} (solid : ∀ d ∈ word, isBlank d = false)
    (blank : isBlank c = true) (blanks : ∀ d ∈ gap, isBlank d = true)
    (stops : ∀ d ∈ rest.head?, isBlank d = false) :
    firstWord (word ++ (c :: gap ++ rest)) = word ∧
      nextWord (word ++ (c :: gap ++ rest)) = rest := by
  refine ⟨?_, nextWord_append solid (List.forall_mem_cons.mpr ⟨blank, blanks⟩) stops (by simp)⟩
  rw [firstWord_append solid]
  simp [firstWord, blank]

theorem words_solid {word : List Char} (solid : ∀ c ∈ word, isBlank c = false) (some_ : word ≠ []) :
    words word = [word] := by
  induction word with
  | nil => exact absurd rfl some_
  | cons c rest ih =>
      have here := solid c List.mem_cons_self
      cases rest with
      | nil => simp [words, here]
      | cons d others =>
          have next := solid d (by simp)
          have later := ih (fun e inside => solid e (List.mem_cons_of_mem c inside)) (by simp)
          unfold words
          simp only [here, later, next, Bool.false_eq_true, if_false]

end Chartwright.Text
