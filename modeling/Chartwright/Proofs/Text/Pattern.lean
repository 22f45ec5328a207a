import Chartwright.Proofs.Text.Words
import Chartwright.Text.Pattern

/-!
What the matches of a pattern are, one law for each way to build one. The laws are about all
matches, the preferred one and the others, so that they hold for the parts of a pattern as well.
-/

namespace Chartwright.Text

/-- A place lies beyond another one by the characters that are taken between them. -/
structure Place.Beyond (place : Place) (taken : List Char) (after : Place) : Prop where
  ahead : place.ahead = taken ++ after.ahead
  behind : after.behind = taken.getLast?.or place.behind

namespace Place.Beyond
variable {place middle after : Place}

theorem here (place : Place) : place.Beyond [] place := ⟨rfl, rfl⟩

theorem one (behind : Option Char) (c : Char) (rest : List Char) :
    Place.Beyond ⟨behind, c :: rest⟩ [c] ⟨some c, rest⟩ := ⟨rfl, rfl⟩

theorem of_nil (beyond : place.Beyond [] after) : after = place := by
  obtain ⟨behind, ahead⟩ := after
  obtain ⟨rfl, rfl⟩ := beyond
  rfl

theorem trans {front back : List Char} (first : place.Beyond front middle)
    (second : middle.Beyond back after) : place.Beyond (front ++ back) after where
  ahead := by rw [first.ahead, second.ahead, List.append_assoc]
  behind := by rw [second.behind, first.behind, List.getLast?_append, Option.or_assoc]

/-- What lies behind a place is forgotten with the first character taken. -/
theorem elsewhere {taken : List Char} (beyond : place.Beyond taken after) (some_ : taken ≠ [])
    (behind : Option Char) : Place.Beyond ⟨behind, place.ahead⟩ taken after where
  ahead := beyond.ahead
  behind := by
    rw [beyond.behind, List.getLast?_eq_some_getLast some_]
    rfl

end Place.Beyond

namespace Pattern
variable {α β : Type} {place after : Place}

/-- A match of the pattern at a place, with its value and the place where it ends. -/
def Finds (pattern : Pattern α) (place : Place) (value : α) (after : Place) : Prop :=
  (value, after) ∈ (pattern place).toList

theorem first?_finds {pattern : Pattern α} {value : α}
    (found : first? pattern place = some (value, after)) : Finds pattern place value after := by
  unfold first? at found
  rw [← Matches.head?_toList] at found
  exact List.mem_of_head? found

theorem pure_finds {given value : α} :
    Finds (pure given) place value after ↔ value = given ∧ after = place := by
  change (value, after) ∈ [(given, place)] ↔ _
  simp

theorem toList_bind (first : Pattern α) (next : α → Pattern β) (place : Place) :
    ((first >>= next) place).toList =
      (first place).toList.flatMap fun found => (next found.1 found.2).toList :=
  Matches.toList_flatMap (fun middle between => next middle between) (first place)

theorem bind_finds {first : Pattern α} {next : α → Pattern β} {value : β} :
    Finds (first >>= next) place value after ↔
      ∃ middle between, Finds first place middle between ∧
        Finds (next middle) between value after := by
  unfold Finds
  rw [toList_bind, List.mem_flatMap]
  constructor
  · rintro ⟨⟨middle, between⟩, found, rest⟩
    exact ⟨middle, between, found, rest⟩
  · rintro ⟨middle, between, found, rest⟩
    exact ⟨(middle, between), found, rest⟩

theorem either_finds {first second : Pattern α} {value : α} :
    Finds (either first second) place value after ↔
      Finds first place value after ∨ Finds second place value after := by
  change (value, after) ∈ ((first place).append fun _ => second place).toList ↔ _
  rw [Matches.toList_append, List.mem_append]
  rfl

theorem here_finds {test : Place → Bool} {value : Unit} :
    Finds (here test) place value after ↔ test place = true ∧ after = place := by
  unfold Finds here
  by_cases holds : test place = true
  · rw [if_pos holds]
    change (value, after) ∈ [((), place)] ↔ _
    simp [holds]
  · rw [if_neg holds]
    change (value, after) ∈ [] ↔ _
    simp [holds]

/-- A word whose end is the edge of a word is the whole run of word characters there. -/
theorem word_at_edge {word run rest : List Char} (beyond : place.Beyond word after)
    (edge : Finds boundary after () after) (some_ : word ≠ [])
    (letters : ∀ c ∈ word, isWordChar c = true) (ahead : place.ahead = run ++ rest)
    (all : ∀ c ∈ run, isWordChar c = true) (stops : ∀ c ∈ rest.head?, isWordChar c = false) :
    word = run := by
  have behind : after.behind.any isWordChar = true := by
    rw [beyond.behind, List.getLast?_eq_some_getLast some_, Option.some_or, Option.any_some]
    exact letters _ (List.getLast_mem some_)
  have ends : after.ahead.head?.any isWordChar = false := by
    simpa [behind] using (here_finds.mp edge).1
  have whole {front back : List Char} (all : ∀ c ∈ front, isWordChar c = true)
      (stops : back.head?.any isWordChar = false) :
      (front ++ back).takeWhile isWordChar = front := by
    rw [List.takeWhile_append_of_pos all]
    cases back with
    | nil => simp
    | cons c back => simp_all
  have stops : rest.head?.any isWordChar = false := by
    cases first : rest.head? with
    | none => rfl
    | some c => exact stops c first
  rw [← whole letters ends, ← beyond.ahead, ahead, whole all stops]

theorem one_beyond {test : Char → Bool} {c : Char} (found : Finds (one test) place c after) :
    test c = true ∧ place.Beyond [c] after := by
  rcases place with ⟨behind, _ | ⟨d, rest⟩⟩
  · cases found
  · simp only [Finds, one] at found
    by_cases holds : test d = true
    · rw [if_pos holds] at found
      cases found with
      | head => exact ⟨holds, .one behind c rest⟩
      | tail _ other => cases other
    · rw [if_neg holds] at found
      cases found

theorem one_finds {test : Char → Bool} {c : Char} (found : Finds (one test) place c after) :
    test c = true ∧ place.ahead = c :: after.ahead :=
  ⟨(one_beyond found).1, (one_beyond found).2.ahead⟩

theorem folded_beyond {fold : Char → Char} {text : List Char} {value : Unit}
    (found : Finds (folded fold text) place value after) :
    ∃ taken, place.Beyond taken after ∧ taken.map fold = text := by
  induction text generalizing place with
  | nil =>
      obtain ⟨-, rfl⟩ := pure_finds.mp found
      exact ⟨[], .here _, rfl⟩
  | cons c rest ih =>
      obtain ⟨d, between, first, others⟩ := bind_finds.mp found
      obtain ⟨same, front⟩ := one_beyond first
      obtain ⟨taken, back, looks⟩ := ih others
      exact ⟨d :: taken, front.trans back, by rw [List.map_cons, looks, beq_iff_eq.mp same]⟩

theorem folded_finds {fold : Char → Char} {text : List Char} {value : Unit}
    (found : Finds (folded fold text) place value after) :
    ∃ taken, place.ahead = taken ++ after.ahead ∧ taken.map fold = text := by
  obtain ⟨taken, beyond, looks⟩ := folded_beyond found
  exact ⟨taken, beyond.ahead, looks⟩

theorem exactly_beyond {text : String} {value : Unit}
    (found : Finds (exactly text) place value after) : place.Beyond text.toList after := by
  obtain ⟨taken, beyond, looks⟩ := folded_beyond found
  rw [List.map_id] at looks
  rwa [looks] at beyond

theorem exactly_finds {text : String} {value : Unit}
    (found : Finds (exactly text) place value after) :
    place.ahead = text.toList ++ after.ahead := (exactly_beyond found).ahead

theorem passed_takes (test : Char → Bool) (behind : Option Char) (text : List Char) :
    ∃ taken, Place.Beyond ⟨behind, text⟩ taken (passed test behind text) ∧
      (∀ c ∈ taken, test c = true) ∧
        ∀ c ∈ (passed test behind text).ahead.head?, test c = false := by
  induction text generalizing behind with
  | nil => exact ⟨[], .here _, by simp, by simp [passed]⟩
  | cons c rest ih =>
      unfold passed
      by_cases holds : test c = true
      · rw [if_pos holds]
        obtain ⟨taken, beyond, all, stops⟩ := ih (some c)
        refine ⟨c :: taken, (Place.Beyond.one behind c rest).trans beyond, ?_, stops⟩
        simpa [holds] using all
      · rw [if_neg holds]
        refine ⟨[], .here _, by simp, ?_⟩
        simpa using holds

theorem skip_finds {test : Char → Bool} {value : Unit}
    (found : Finds (skip test) place value after) :
    ∃ taken, place.Beyond taken after ∧ (∀ c ∈ taken, test c = true) ∧
      ∀ c ∈ after.ahead.head?, test c = false := by
  obtain same : after = passed test place.behind place.ahead := by
    have only : (value, after) ∈ [((), passed test place.behind place.ahead)] := found
    simpa using only
  rw [same]
  exact passed_takes test place.behind place.ahead

theorem optional_finds {pattern : Pattern α} {value : Option α}
    (found : Finds (optional pattern) place value after) :
    (∃ given, Finds pattern place given after) ∨ after = place := by
  rcases either_finds.mp found with given | left
  · obtain ⟨middle, between, first, rest⟩ := bind_finds.mp given
    obtain ⟨-, rfl⟩ := pure_finds.mp rest
    exact .inl ⟨middle, first⟩
  · exact .inr (pure_finds.mp left).2

theorem runs_from_take {test : Char → Bool} (behind : Option Char) (taken : List Char)
    (text : List Char) :
    ∀ found ∈ runsFrom test behind taken text, ∃ run, found.1 = run.reverse ++ taken ∧
      Place.Beyond ⟨behind, text⟩ run found.2 ∧ ∀ c ∈ run, test c = true := by
  induction text generalizing behind taken with
  | nil =>
      intro found inside
      rw [List.mem_singleton.mp inside]
      exact ⟨[], rfl, .here _, by simp⟩
  | cons c rest ih =>
      intro found inside
      unfold runsFrom at inside
      rcases List.mem_cons.mp inside with rfl | longer
      · exact ⟨[], rfl, .here _, by simp⟩
      · split at longer
        · rename_i holds
          obtain ⟨run, value, beyond, all⟩ := ih (some c) (c :: taken) found longer
          refine ⟨c :: run, by simp [value], (Place.Beyond.one behind c rest).trans beyond, ?_⟩
          simpa [holds] using all
        · cases longer

theorem runs_take {test : Char → Bool} {found : List Char × Place}
    (inside : found ∈ runs test place) :
    place.Beyond found.1.reverse found.2 ∧ ∀ c ∈ found.1, test c = true := by
  obtain ⟨run, value, beyond, all⟩ := runs_from_take place.behind [] place.ahead found inside
  rw [List.append_nil] at value
  rw [value, List.reverse_reverse]
  exact ⟨beyond, fun c inside => all c (List.mem_reverse.mp inside)⟩

theorem runs_nonempty {test : Char → Bool} {found : List Char × Place}
    (inside : found ∈ (runs test place).drop 1) : found.1 ≠ [] := by
  rcases place with ⟨behind, _ | ⟨c, rest⟩⟩
  · cases inside
  · unfold runs runsFrom at inside
    rw [List.drop_one, List.tail_cons] at inside
    split at inside
    · obtain ⟨run, value, _⟩ := runs_from_take _ _ _ found inside
      rw [value]
      simp
    · cases inside

theorem run1_finds {test : Char → Bool} {value : List Char}
    (found : Finds (run1 test) place value after) :
    place.Beyond value after ∧ (∀ c ∈ value, test c = true) ∧ value ≠ [] := by
  unfold Finds run1 taking at found
  rw [Matches.toList_map, Matches.toList_ofList] at found
  obtain ⟨⟨taken, after'⟩, inside, same⟩ := List.mem_map.mp found
  obtain ⟨rfl, rfl⟩ := Prod.mk.inj same
  have longer := List.mem_reverse.mp inside
  obtain ⟨beyond, all⟩ := runs_take (List.mem_of_mem_drop longer)
  exact ⟨beyond, fun c there => all c (List.mem_reverse.mp there),
    List.reverse_ne_nil_iff.mpr (runs_nonempty longer)⟩

theorem runs_from_hold {test : Char → Bool} {run : List Char} {behind : Option Char}
    {text : List Char} (taken : List Char) (beyond : Place.Beyond ⟨behind, text⟩ run after)
    (all : ∀ c ∈ run, test c = true) :
    (run.reverse ++ taken, after) ∈ runsFrom test behind taken text := by
  induction run generalizing behind text taken with
  | nil =>
      obtain rfl := beyond.of_nil
      cases text <;> simp [runsFrom]
  | cons c run ih =>
      obtain ⟨here, later⟩ := List.forall_mem_cons.mp all
      obtain ⟨rfl, last⟩ := beyond
      have rest : Place.Beyond ⟨some c, run ++ after.ahead⟩ run after := by
        refine ⟨rfl, ?_⟩
        rw [last, List.getLast?_cons]
        cases run.getLast? <;> rfl
      have longer := ih (c :: taken) rest later
      rw [List.cons_append, runsFrom, if_pos here, List.reverse_cons, List.append_assoc]
      exact List.mem_cons_of_mem _ longer

/-- Any characters of the class are a run, if there are some. -/
theorem run1_finds_iff {test : Char → Bool} {value : List Char} :
    Finds (run1 test) place value after ↔
      place.Beyond value after ∧ (∀ c ∈ value, test c = true) ∧ value ≠ [] := by
  refine ⟨run1_finds, ?_⟩
  rintro ⟨beyond, all, some_⟩
  unfold Finds run1 taking
  rw [Matches.toList_map, Matches.toList_ofList]
  refine List.mem_map.mpr ⟨(value.reverse, after), List.mem_reverse.mpr ?_, by simp⟩
  obtain ⟨c, run, rfl⟩ := List.exists_cons_of_ne_nil some_
  have held := runs_from_hold [] beyond all
  rw [List.append_nil] at held
  obtain ⟨ahead, -⟩ := beyond
  unfold runs
  rw [ahead, List.cons_append, runsFrom] at held ⊢
  rcases List.mem_cons.mp held with first | later
  · simp at first
  · exact later

/-- A reluctant run differs from another one in what it prefers only. -/
theorem reluctant1_finds_iff {test : Char → Bool} {value : List Char} :
    Finds (reluctant1 test) place value after ↔ Finds (run1 test) place value after := by
  simp only [Finds, reluctant1, run1, taking, Matches.toList_map, Matches.toList_ofList,
    List.map_reverse, List.mem_reverse]

theorem one_of_finds {texts : List String} {text : String}
    (found : Finds (oneOf texts) place text after) :
    text ∈ texts ∧ place.ahead = text.toList ++ after.ahead := by
  induction texts with
  | nil => cases found
  | cons first rest ih =>
      rcases either_finds.mp found with here | later
      · obtain ⟨_, _, taken, rest⟩ := bind_finds.mp here
        obtain ⟨rfl, rfl⟩ := pure_finds.mp rest
        exact ⟨List.mem_cons_self, exactly_finds taken⟩
      · exact ⟨List.mem_cons_of_mem _ (ih later).1, (ih later).2⟩

theorem blanks1_finds {value : Unit} (found : Finds blanks1 place value after) :
    ∃ c gap, place.ahead = c :: gap ++ after.ahead ∧ isBlank c = true ∧
      (∀ d ∈ gap, isBlank d = true) ∧ ∀ d ∈ after.ahead.head?, isBlank d = false := by
  obtain ⟨c, between, first, rest⟩ := bind_finds.mp found
  obtain ⟨blank, ahead⟩ := one_finds first
  obtain ⟨gap, beyond, all, stops⟩ := skip_finds rest
  exact ⟨c, gap, by rw [ahead, beyond.ahead, List.cons_append], blank, all, stops⟩

theorem plain_blank {c : Char} (blank : isBlank c = true) : plainLetter c = c := by
  have ascii : ∀ code < 128, isBlank (Char.ofNat code) = true →
      plainLetter (Char.ofNat code) = Char.ofNat code := by decide +kernel
  by_cases small : c.toNat < 128
  · exact @of_ascii (fun c => isBlank c = true → plainLetter c = c) ascii c small blank
  · unfold plainLetter
    split
    · rename_i upper
      simp only [isAsciiUpper, Bool.and_eq_true, decide_eq_true_eq] at upper
      have last : c.toNat ≤ 'Z'.toNat := upper.2
      exact absurd (Nat.lt_of_le_of_lt last (by decide)) small
    · have unlike : ∀ d ∈ ['\u017f', '\u212a', '\u0131', '\u0130'], c ≠ d := by
        rintro d inside rfl
        revert blank
        simp only [List.mem_cons, List.not_mem_nil, or_false] at inside
        rcases inside with rfl | rfl | rfl | rfl <;> decide
      simp only [List.mem_cons, List.not_mem_nil, or_false, forall_eq_or_imp, forall_eq] at unlike
      simp [unlike]

/-- A word and the white space behind it are the first word of the text, up to case, and end where
the next one begins. -/
theorem any_step_words {word : String} {value : Unit}
    (solid : word.toList.any isBlank = false) (found : Finds (anyStep word) place value after) :
    (firstWord place.ahead).map plainLetter = word.toList ∧
      after.ahead = nextWord place.ahead := by
  obtain ⟨_, between, worded, gapped⟩ := bind_finds.mp found
  obtain ⟨taken, ahead, looks⟩ := folded_finds worded
  obtain ⟨c, gap, split, blank, blanks, stops⟩ := blanks1_finds gapped
  have unblank : ∀ d ∈ taken, isBlank d = false := by
    intro d inside
    by_contra spaced
    rw [Bool.not_eq_false] at spaced
    have listed : plainLetter d ∈ word.toList := looks ▸ List.mem_map_of_mem inside
    rw [plain_blank spaced] at listed
    exact List.any_eq_false.mp solid d listed spaced
  obtain ⟨first, next⟩ := words_append unblank blank blanks stops
  rw [ahead, split, first, next]
  exact ⟨looks, rfl⟩

theorem step_words {word : String} {value : Unit}
    (solid : word.toList.any isBlank = false) (found : Finds (step word) place value after) :
    firstWord place.ahead = word.toList ∧ after.ahead = nextWord place.ahead := by
  obtain ⟨_, between, worded, gapped⟩ := bind_finds.mp found
  obtain ⟨c, gap, split, blank, blanks, stops⟩ := blanks1_finds gapped
  have unblank : ∀ d ∈ word.toList, isBlank d = false := by simpa using solid
  obtain ⟨first, next⟩ := words_append unblank blank blanks stops
  rw [exactly_finds worded, split, first, next]
  exact ⟨rfl, rfl⟩

theorem any_step_ends {word : String} {value : Unit}
    (solid : word.toList.any isBlank = false) (found : Finds (anyStep word) place value after) :
    after.ahead = nextWord place.ahead := (any_step_words solid found).2

theorem any_step_head {word : String} {value : Unit} (some_ : word.toList ≠ [])
    (found : Finds (anyStep word) place value after) :
    place.ahead.head?.map plainLetter = word.toList.head? := by
  obtain ⟨_, between, worded, -⟩ := bind_finds.mp found
  obtain ⟨taken, ahead, looks⟩ := folded_finds worded
  cases taken with
  | nil => exact absurd looks.symm some_
  | cons c taken =>
      rw [ahead, ← looks]
      rfl

/-! Patterns go forward: what lies ahead of a match is an end of what lay ahead before it. -/

/-- Every match of the pattern ends further on, or where it began. -/
def Advances (pattern : Pattern α) : Prop :=
  ∀ place value after, Finds pattern place value after → after.ahead <:+ place.ahead

theorem rest_finds {front : Pattern α} {next : α → Pattern β} {value : β}
    (advances : Advances front) (found : Finds (front >>= next) place value after) :
    ∃ middle between, between.ahead <:+ place.ahead ∧ Finds (next middle) between value after := by
  obtain ⟨middle, between, first, rest⟩ := bind_finds.mp found
  exact ⟨middle, between, advances place middle between first, rest⟩

theorem pure_advances (value : α) : Advances (pure value) := by
  intro place found after finds
  obtain ⟨-, rfl⟩ := pure_finds.mp finds
  exact List.suffix_refl _

theorem bind_advances {first : Pattern α} {next : α → Pattern β} (front : Advances first)
    (rest : ∀ value, Advances (next value)) : Advances (first >>= next) := by
  intro place found after finds
  obtain ⟨middle, between, here, there⟩ := bind_finds.mp finds
  exact (rest middle between found after there).trans (front place middle between here)

theorem either_advances {first second : Pattern α} (left : Advances first)
    (right : Advances second) : Advances (either first second) := by
  intro place found after finds
  rcases either_finds.mp finds with here | there
  · exact left place found after here
  · exact right place found after there

theorem here_advances (test : Place → Bool) : Advances (here test) := by
  intro place found after finds
  obtain ⟨-, rfl⟩ := here_finds.mp finds
  exact List.suffix_refl _

theorem one_advances (test : Char → Bool) : Advances (one test) := by
  intro place found after finds
  rw [(one_finds finds).2]
  exact List.suffix_cons _ _

theorem folded_advances (fold : Char → Char) (text : List Char) : Advances (folded fold text) := by
  intro place found after finds
  obtain ⟨taken, ahead, -⟩ := folded_finds finds
  exact ⟨taken, ahead.symm⟩

theorem skip_advances (test : Char → Bool) : Advances (skip test) := by
  intro place found after finds
  obtain ⟨taken, beyond, -⟩ := skip_finds finds
  exact ⟨taken, beyond.ahead.symm⟩

theorem run1_advances (test : Char → Bool) : Advances (run1 test) := by
  intro place found after finds
  exact ⟨found, (run1_finds finds).1.ahead.symm⟩

theorem optional_advances {pattern : Pattern α} (advances : Advances pattern) :
    Advances (optional pattern) := by
  intro place found after finds
  rcases optional_finds finds with ⟨given, here⟩ | rfl
  · exact advances place given after here
  · exact List.suffix_refl _

theorem one_of_advances (texts : List String) : Advances (oneOf texts) := by
  induction texts with
  | nil =>
      intro place found after finds
      cases finds
  | cons text rest ih =>
      exact either_advances
        (bind_advances (folded_advances id text.toList) fun _ => pure_advances text) ih

theorem blanks1_advances : Advances blanks1 :=
  bind_advances (one_advances isBlank) fun _ => skip_advances isBlank

theorem step_advances (word : String) : Advances (step word) :=
  bind_advances (folded_advances id word.toList) fun _ => blanks1_advances

theorem maybe_advances (word : String) : Advances (maybe word) :=
  bind_advances (optional_advances (step_advances word)) fun _ => pure_advances ()

theorem any_step_advances (word : String) : Advances (anyStep word) :=
  bind_advances (folded_advances plainLetter word.toList) fun _ => blanks1_advances

theorem yielding_blanks_advances : Advances yieldingBlanks := by
  intro place found after finds
  unfold Finds yieldingBlanks at finds
  rw [Matches.toList_map, Matches.toList_ofList] at finds
  obtain ⟨⟨taken, after'⟩, inside, same⟩ := List.mem_map.mp finds
  obtain ⟨rfl, rfl⟩ := Prod.mk.inj same
  exact ⟨_, (runs_take (List.mem_reverse.mp inside)).1.ahead.symm⟩

theorem after_all_advances {pattern : Pattern Unit} (advances : Advances pattern) (count : Nat)
    (place : Place) : (afterAll pattern place count).ahead <:+ place.ahead := by
  induction count generalizing place with
  | zero => exact List.suffix_refl _
  | succ count ih =>
      unfold afterAll
      cases first : (pattern place).head? with
      | none => exact List.suffix_refl _
      | some found =>
          obtain ⟨⟨⟩, later⟩ := found
          exact (ih later).trans (advances place () later (first?_finds first))

theorem repeated_advances {pattern : Pattern Unit} (advances : Advances pattern) :
    Advances (repeated pattern) := by
  refine bind_advances advances fun _ place found after finds => ?_
  obtain rfl : after = afterAll pattern place place.ahead.length := by
    have only : (found, after) ∈ [((), afterAll pattern place place.ahead.length)] := finds
    simpa using only
  exact after_all_advances advances _ place

/-! The preferred match. -/

theorem first?_toList (pattern : Pattern α) (place : Place) :
    first? pattern place = (pattern place).toList.head? := (Matches.head?_toList _).symm

/-- Nothing is preferred just if there is no match. -/
theorem first?_none_iff {pattern : Pattern α} :
    first? pattern place = none ↔ ∀ value after, ¬Finds pattern place value after := by
  rw [first?_toList, List.head?_eq_none_iff, List.eq_nil_iff_forall_not_mem]
  exact ⟨fun vain value after => vain (value, after), fun vain found => vain found.1 found.2⟩

/-- A sequence prefers what its first part prefers, if the rest can follow. -/
theorem first?_bind {front : Pattern α} {next : α → Pattern β} {middle : α} {between : Place}
    {result : β × Place} (head : first? front place = some (middle, between))
    (rest : first? (next middle) between = some result) :
    first? (front >>= next) place = some result := by
  rw [first?_toList] at head rest ⊢
  obtain ⟨others, list⟩ := List.head?_eq_some_iff.mp head
  rw [toList_bind, list, List.flatMap_cons, List.head?_append, rest, Option.some_or]

theorem first?_one {test : Char → Bool} {c : Char} (holds : test c = true) (behind : Option Char)
    (rest : List Char) :
    first? (one test) ⟨behind, c :: rest⟩ = some (c, ⟨some c, rest⟩) := by
  simp [first?, one, holds, Matches.single, Matches.head?]

theorem first?_folded {fold : Char → Char} {word text : List Char} (looks : text.map fold = word)
    (behind : Option Char) (rest : List Char) :
    first? (folded fold word) ⟨behind, text ++ rest⟩ =
      some ((), ⟨text.getLast?.or behind, rest⟩) := by
  subst looks
  induction text generalizing behind with
  | nil => rfl
  | cons c text ih =>
      rw [List.map_cons, List.getLast?_cons]
      refine first?_bind (first?_one (by simp) behind _) ((ih (some c)).trans ?_)
      cases text.getLast? <;> rfl

theorem first?_either {first second : Pattern α} {value : α}
    (found : first? first place = some (value, after)) :
    first? (either first second) place = some (value, after) := by
  have list : (either first second place).toList = (first place).toList ++ (second place).toList :=
    Matches.toList_append _ _
  rw [first?_toList] at found ⊢
  rw [list, List.head?_append, found, Option.some_or]

theorem first?_boundary
    (edge : (place.behind.any isWordChar != place.ahead.head?.any isWordChar) = true) :
    first? boundary place = some ((), place) := by
  simp only [first?, boundary, here, edge, if_true]
  rfl

theorem first?_optional {pattern : Pattern α} {given : α}
    (found : first? pattern place = some (given, after)) :
    first? (optional pattern) place = some (some given, after) := by
  have chosen : first? (some <$> pattern : Pattern (Option α)) place = some (some given, after) :=
    first?_bind found rfl
  exact first?_either chosen

theorem first?_second {first second : Pattern α} (vain : first? first place = none) :
    first? (either first second) place = first? second place := by
  have list : (either first second place).toList = (first place).toList ++ (second place).toList :=
    Matches.toList_append _ _
  rw [first?_toList] at vain ⊢
  rw [list, List.head?_eq_none_iff.mp vain, List.nil_append, first?_toList]

theorem first?_notAhead {pattern : Pattern α}
    (vain : ∀ value after, ¬Finds pattern place value after) :
    first? (notAhead pattern) place = some ((), place) := by
  have nothing : pattern place = .nothing := by
    have none_ := first?_none_iff.mpr vain
    cases found : pattern place with
    | nothing => rfl
    | found value after others => simp [first?, found, Matches.head?] at none_
  simp only [first?, notAhead, here, nothing, Matches.isEmpty, if_true]
  rfl

/-- If all matches have one value, so has the preferred one. -/
theorem first?_only {pattern : Pattern α} {value : α} (found : Finds pattern place value after)
    (only : ∀ other later, Finds pattern place other later → other = value) :
    ∃ later, first? pattern place = some (value, later) := by
  cases first : first? pattern place with
  | none => exact absurd found (first?_none_iff.mp first _ _)
  | some preferred =>
      obtain ⟨other, later⟩ := preferred
      exact ⟨later, by rw [only other later (first?_finds first)]⟩

/-- What may be left out is left out if nothing can follow it. -/
theorem first?_optional_without {pattern : Pattern α} {next : Option α → Pattern β}
    (lost : ∀ given between, Finds pattern place given between →
      first? (next (some given)) between = none) :
    first? (optional pattern >>= next) place = first? (next none) place := by
  have list : (optional pattern place).toList =
      ((some <$> pattern : Pattern (Option α)) place).toList ++ [(none, place)] :=
    Matches.toList_append _ _
  rw [first?_toList, first?_toList, toList_bind, list, List.flatMap_append,
    List.flatMap_eq_nil_iff.mpr, List.nil_append, List.flatMap_singleton]
  rintro ⟨chosen, between⟩ inside
  obtain ⟨given, _, finds, rest⟩ := bind_finds.mp inside
  obtain ⟨rfl, rfl⟩ := pure_finds.mp rest
  exact List.head?_eq_none_iff.mp ((first?_toList _ _).symm.trans (lost given _ finds))

section Runs
variable {test : Char → Bool} {text rest : List Char} (all : ∀ c ∈ text, test c = true)
  (stops : ∀ c ∈ rest.head?, test c = false) (behind : Option Char)
include all stops

theorem runs_from_last (taken : List Char) :
    (runsFrom test behind taken (text ++ rest)).getLast? =
      some (text.reverse ++ taken, ⟨text.getLast?.or behind, rest⟩) := by
  induction text generalizing behind taken with
  | nil =>
      cases rest with
      | nil => rfl
      | cons c rest => simp [runsFrom, stops c rfl]
  | cons c text ih =>
      have longest :=
        ih (fun d inside => all d (List.mem_cons_of_mem c inside)) (some c) (c :: taken)
      rw [List.cons_append, runsFrom, if_pos (all c List.mem_cons_self), List.getLast?_cons,
        longest, List.getLast?_cons]
      cases text.getLast? <;> simp

theorem first?_run1 (some_ : text ≠ []) :
    first? (run1 test) ⟨behind, text ++ rest⟩ = some (text, ⟨text.getLast?.or behind, rest⟩) := by
  obtain ⟨c, others, rfl⟩ := List.exists_cons_of_ne_nil some_
  have longest :=
    runs_from_last (fun d inside => all d (List.mem_cons_of_mem c inside)) stops (some c) [c]
  have longer : (runs test ⟨behind, c :: others ++ rest⟩).drop 1 =
      runsFrom test (some c) [c] (others ++ rest) := by
    rw [runs, List.cons_append, runsFrom, if_pos (all c List.mem_cons_self), List.drop_one,
      List.tail_cons]
  rw [first?_toList, run1, taking, Matches.toList_map, Matches.toList_ofList, longer,
    List.head?_map, List.head?_reverse, longest, List.getLast?_cons]
  cases others.getLast? <;> simp

theorem first?_skip :
    first? (skip test) ⟨behind, text ++ rest⟩ = some ((), ⟨text.getLast?.or behind, rest⟩) := by
  have place : passed test behind (text ++ rest) = ⟨text.getLast?.or behind, rest⟩ := by
    induction text generalizing behind with
    | nil =>
        cases rest with
        | nil => rfl
        | cons c rest => simp [passed, stops c rfl]
    | cons c text ih =>
        rw [List.cons_append, passed, if_pos (all c List.mem_cons_self),
          ih (fun d inside => all d (List.mem_cons_of_mem c inside)) (some c), List.getLast?_cons]
        cases text.getLast? <;> rfl
  exact congrArg (fun after => some ((), after)) place

end Runs

theorem first?_blanks1 {c : Char} {rest : List Char} (blank : isBlank c = true)
    (stops : ∀ d ∈ rest.head?, isBlank d = false) (behind : Option Char) :
    first? blanks1 ⟨behind, c :: rest⟩ = some ((), ⟨some c, rest⟩) := by
  have none_ : ∀ d ∈ [], isBlank d = true := by simp
  exact first?_bind (first?_one blank behind rest) (first?_skip none_ stops (some c))

theorem first?_anyStep {word : String} {rest : List Char}
    (plain : word.toList.map plainLetter = word.toList)
    (stops : ∀ c ∈ rest.head?, isBlank c = false) (behind : Option Char) :
    first? (anyStep word) ⟨behind, word.toList ++ ' ' :: rest⟩ = some ((), ⟨some ' ', rest⟩) :=
  first?_bind (first?_folded plain behind _) (first?_blanks1 (by decide) stops _)

theorem first?_yieldingBlanks {gap rest : List Char} (all : ∀ c ∈ gap, isBlank c = true)
    (stops : ∀ c ∈ rest.head?, isBlank c = false) (behind : Option Char) :
    first? yieldingBlanks ⟨behind, gap ++ rest⟩ =
      some ((), ⟨gap.getLast?.or behind, rest⟩) := by
  rw [first?_toList, yieldingBlanks, Matches.toList_map, Matches.toList_ofList, List.head?_map,
    List.head?_reverse, runs, runs_from_last all stops]
  rfl

/-! What lies behind a place matters to the edge of a word only. -/

section Elsewhere
variable {behind other : Option Char}

theorem folded_elsewhere (fold : Char → Char) (c : Char) (word text : List Char) :
    folded fold (c :: word) ⟨behind, text⟩ = folded fold (c :: word) ⟨other, text⟩ := by
  cases text <;> rfl

theorem edged_elsewhere {next : Unit → Pattern α} {text : List Char}
    (same : behind.any isWordChar = other.any isWordChar)
    (rest : next () ⟨behind, text⟩ = next () ⟨other, text⟩) :
    (boundary >>= next) ⟨behind, text⟩ = (boundary >>= next) ⟨other, text⟩ := by
  change (boundary ⟨behind, text⟩).flatMap next = (boundary ⟨other, text⟩).flatMap next
  simp only [boundary, here, same]
  split
  · simp only [Matches.single, Matches.flatMap, rest]
  · rfl

theorem search_from_elsewhere {pattern : Pattern α}
    (same : ∀ text, pattern ⟨behind, text⟩ = pattern ⟨other, text⟩) (text : List Char) :
    searchFrom pattern behind text = searchFrom pattern other text := by
  cases text <;> simp only [searchFrom, first?, same]

end Elsewhere

/-! Searches. -/

theorem search_from_finds {pattern : Pattern α} {behind : Option Char} {text : List Char}
    {found : Found α} (finds : searchFrom pattern behind text = some found) :
    ∃ place, Finds pattern place found.value found.after ∧ text = found.before ++ place.ahead := by
  induction text generalizing behind found with
  | nil =>
      obtain ⟨⟨value, after⟩, first, rfl⟩ := Option.map_eq_some_iff.mp finds
      exact ⟨⟨behind, []⟩, first?_finds first, rfl⟩
  | cons c rest ih =>
      unfold searchFrom at finds
      cases first : first? pattern ⟨behind, c :: rest⟩ with
      | some matched =>
          obtain ⟨value, after⟩ := matched
          simp only [first, Option.some.injEq] at finds
          subst finds
          exact ⟨⟨behind, c :: rest⟩, first?_finds first, rfl⟩
      | none =>
          simp only [first] at finds
          obtain ⟨later, there, rfl⟩ := Option.map_eq_some_iff.mp finds
          obtain ⟨place, here, split⟩ := ih there
          exact ⟨place, here, by rw [split, List.cons_append]⟩

/-- A search is in vain just if there is no match at any place beyond. -/
theorem search_from_none_iff {pattern : Pattern α} {behind : Option Char} {text : List Char} :
    searchFrom pattern behind text = none ↔
      ∀ taken after, Place.Beyond ⟨behind, text⟩ taken after → first? pattern after = none := by
  induction text generalizing behind with
  | nil =>
      rw [searchFrom, Option.map_eq_none_iff]
      constructor
      · rintro vain taken ⟨_, ahead⟩ ⟨split, rfl⟩
        obtain ⟨rfl, rfl⟩ := List.append_eq_nil_iff.mp split.symm
        exact vain
      · exact fun vain => vain [] _ (.here _)
  | cons c rest ih =>
      unfold searchFrom
      cases first : first? pattern ⟨behind, c :: rest⟩ with
      | some found =>
          refine ⟨nofun, fun vain => ?_⟩
          rw [vain [] _ (.here _)] at first
          cases first
      | none =>
          simp only [Option.map_eq_none_iff, ih]
          constructor
          · intro later taken after beyond
            cases taken with
            | nil =>
                obtain rfl := beyond.of_nil
                exact first
            | cons d taken =>
                obtain ⟨split, last⟩ := beyond
                obtain ⟨rfl, same⟩ := List.cons.inj split
                refine later taken after ⟨same, ?_⟩
                rw [last, List.getLast?_cons]
                cases taken.getLast? <;> rfl
          · exact fun vain taken after beyond => vain (c :: taken) after
              ((Place.Beyond.one behind c rest).trans beyond)

theorem occurs_eq_false {pattern : Pattern α} {text : List Char} :
    occurs pattern text = false ↔ search pattern text = none :=
  Option.isSome_eq_false_iff.trans Option.isNone_iff_eq_none

section Passing
variable {pattern : Pattern α} {front rest : List Char}
  (vain : ∀ behind ahead, ahead <:+ front → ahead ≠ [] →
    first? pattern ⟨behind, ahead ++ rest⟩ = none) (behind : Option Char)
include vain

/-- A search passes a piece of text in which no match begins. -/
theorem search_from_append :
    searchFrom pattern behind (front ++ rest) =
      (searchFrom pattern (front.getLast?.or behind) rest).map fun found =>
        { found with before := front ++ found.before } := by
  induction front generalizing behind with
  | nil => simp
  | cons c front ih =>
      have here := vain behind (c :: front) (List.suffix_refl _) (by simp)
      rw [List.cons_append] at here
      have later := ih (fun behind ahead suffix => vain behind ahead
        (suffix.trans (List.suffix_cons _ _))) (some c)
      have last : (c :: front).getLast?.or behind = front.getLast?.or (some c) := by
        rw [List.getLast?_cons]
        cases front.getLast? <;> rfl
      rw [List.cons_append, searchFrom, here, last]
      simp only [later, Option.map_map]
      rfl

theorem search_from_passes (later : searchFrom pattern (front.getLast?.or behind) rest = none) :
    searchFrom pattern behind (front ++ rest) = none := by
  rw [search_from_append vain, later]
  rfl

/-- Behind such a piece it finds the match that begins there. -/
theorem search_from_reaches {value : α}
    (found : first? pattern ⟨front.getLast?.or behind, rest⟩ = some (value, after)) :
    searchFrom pattern behind (front ++ rest) = some ⟨front, value, after⟩ := by
  have here : searchFrom pattern (front.getLast?.or behind) rest = some ⟨[], value, after⟩ := by
    cases rest with
    | nil => rw [searchFrom, found, Option.map_some]
    | cons c rest => rw [searchFrom, found]
  rw [search_from_append vain, here, Option.map_some, List.append_nil]

end Passing

theorem find?_finds {pattern : Pattern α} {text : List Char} {value : α}
    (finds : find? pattern text = some value) :
    ∃ place after, Finds pattern place value after ∧ place.ahead <:+ text := by
  obtain ⟨found, searched, rfl⟩ := Option.map_eq_some_iff.mp finds
  obtain ⟨place, here, split⟩ := search_from_finds searched
  exact ⟨place, found.after, here, found.before, split.symm⟩

theorem find?_none {pattern : Pattern α} {text : List Char}
    (vain : ∀ place value after, Finds pattern place value after → ¬place.ahead <:+ text) :
    find? pattern text = none := by
  cases finds : find? pattern text with
  | none => rfl
  | some value =>
      obtain ⟨place, after, here, within⟩ := find?_finds finds
      exact absurd within (vain place value after here)

/-- A match at the start of a text is the one that is found. -/
theorem search_start {pattern : Pattern α} {text : List Char} {value : α}
    (found : first? pattern (.start text) = some (value, after)) :
    search pattern text = some ⟨[], value, after⟩ :=
  @search_from_reaches _ _ pattern [] text (by simp) none value found

theorem find?_start {pattern : Pattern α} {text : List Char} {value : α}
    (found : first? pattern (.start text) = some (value, after)) :
    find? pattern text = some value := by
  rw [find?, search_start found]
  rfl

/-- Cutting a match out of a text only takes something away. -/
theorem search_from_sublist {pattern : Pattern α} (advances : Advances pattern)
    {behind : Option Char} {text : List Char} {found : Found α}
    (finds : searchFrom pattern behind text = some found) :
    (found.before ++ found.after.ahead).Sublist text := by
  obtain ⟨place, here, split⟩ := search_from_finds finds
  rw [split]
  exact (List.Sublist.refl _).append (advances place _ _ here).sublist

theorem search_from_nowhere {pattern : Pattern (List Char)} {behind : Option Char}
    {text : List Char} (nowhere : searchFrom pattern behind text = none) (count : Nat) :
    substituteFrom pattern ⟨behind, text⟩ count = text := by
  induction text generalizing behind count with
  | nil =>
      have none : first? pattern ⟨behind, []⟩ = none := Option.map_eq_none_iff.mp nowhere
      cases count with
      | zero => rfl
      | succ count => simp only [substituteFrom, none]
  | cons c rest ih =>
      unfold searchFrom at nowhere
      cases first : first? pattern ⟨behind, c :: rest⟩ with
      | some found => simp [first] at nowhere
      | none =>
          simp only [first, Option.map_eq_none_iff] at nowhere
          cases count with
          | zero => rfl
          | succ count => simp only [substituteFrom, first, ih nowhere]

/-- Nothing is put in a text in which the pattern does not occur. -/
theorem substitute_unfound {pattern : Pattern (List Char)} {text : List Char}
    (unfound : occurs pattern text = false) : substitute pattern text = text :=
  search_from_nowhere (occurs_eq_false.mp unfound) _

end Pattern
end Chartwright.Text
