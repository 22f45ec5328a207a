import Chartwright.Assistant.Recovery
import Chartwright.Proofs.Text.Pattern
import Mathlib.Data.List.Basic

/-!
Code fences around a block. A fence takes backticks, blanks and the name of the language, so it
takes nothing of a block that begins and ends with a bracket, and within the block none is found
when its backticks stand in the middle of a line. What is left of a reply is the block between parts
of what stood around it.
-/

namespace Chartwright.Recovery
open Text Pattern

def isFence (c : Char) : Bool :=
  isBlank c || c == '\x60' || "json".toList.contains (plainLetter c)

theorem tick_fence : ∀ c ∈ "```".toList, isFence c = true := List.all_eq_true.mp rfl

theorem no_bracket {c : Char} (bracket : isOpening c = true ∨ isClosing c = true) :
    isFence c = false ∧ isBlank c = false := by
  simp only [isOpening, isClosing, Bool.or_eq_true, beq_iff_eq] at bracket
  rcases bracket with (rfl | rfl) | rfl | rfl <;> decide

theorem dropWhile_before {test : Char → Bool} (front behind : List Char) {c : Char}
    (kept : test c = false) :
    (front ++ c :: behind).dropWhile test = front.dropWhile test ++ c :: behind := by
  induction front with
  | nil => simp [kept]
  | cons d front ih =>
      by_cases dropped : test d = true
      · simp only [List.cons_append, List.dropWhile_cons, dropped, if_true]
        exact ih
      · simp [dropped]

theorem openingFence_finds {place after : Place} {value : Unit}
    (found : Finds openingFence place value after) :
    (∀ d, place.behind = some d → d = '\n') ∧
      ∃ taken, place.ahead = "```".toList ++ taken ++ after.ahead ∧
        ∀ c ∈ taken, isFence c = true := by
  obtain ⟨_, edge, atEdge, fromEdge⟩ := bind_finds.mp found
  obtain ⟨atStart, rfl⟩ := here_finds.mp atEdge
  obtain ⟨_, ticked, ticks, fromTicks⟩ := bind_finds.mp fromEdge
  obtain ⟨_, named, name, blanks⟩ := bind_finds.mp fromTicks
  have ahead := exactly_finds ticks
  obtain ⟨spaces, ⟨aheadOfSpaces, -⟩, allBlank, -⟩ := skip_finds blanks
  have blankFence : ∀ c ∈ spaces, isFence c = true := by
    intro c member
    simp [isFence, allBlank c member]
  constructor
  · intro d behind
    rw [behind] at atStart
    simpa using atStart
  · rcases optional_finds name with ⟨_, found⟩ | left
    · obtain ⟨letters, aheadOfName, looks⟩ := folded_finds found
      refine ⟨letters ++ spaces, ?_, ?_⟩
      · rw [ahead, aheadOfName, aheadOfSpaces, List.append_assoc, List.append_assoc]
      · intro c member
        rcases List.mem_append.mp member with letter | blank
        · have named : plainLetter c ∈ "json".toList := by
            rw [← looks]
            exact List.mem_map_of_mem letter
          simp only [isFence, List.contains_iff_mem.mpr named, Bool.or_true]
        · exact blankFence c blank
    · refine ⟨spaces, ?_, blankFence⟩
      rw [ahead, ← left, aheadOfSpaces, List.append_assoc]

theorem closingFence_finds {place after : Place} {value : Unit}
    (found : Finds closingFence place value after) :
    (∀ d rest, after.ahead = d :: rest → d = '\n') ∧
      ∃ spaces, place.ahead = spaces ++ "```".toList ++ after.ahead ∧
        ∀ c ∈ spaces, isFence c = true := by
  obtain ⟨_, spaced, blanks, fromTicks⟩ := bind_finds.mp found
  obtain ⟨_, ticked, ticks, atEdge⟩ := bind_finds.mp fromTicks
  obtain ⟨atEnd, rfl⟩ := here_finds.mp atEdge
  obtain ⟨spaces, ⟨aheadOfSpaces, -⟩, allBlank, -⟩ := skip_finds blanks
  constructor
  · intro d rest ahead
    rw [ahead] at atEnd
    simpa using atEnd
  · refine ⟨spaces, ?_, ?_⟩
    · rw [aheadOfSpaces, exactly_finds ticks, List.append_assoc]
    · intro c member
      simp [isFence, allBlank c member]

/-- Either fence, which is left out. -/
def fence : Pattern (List Char) := do
  openingFence <|> closingFence
  return []

theorem fence_finds {place after : Place} {value : List Char}
    (found : Finds fence place value after) :
    value = [] ∧ (Finds openingFence place () after ∨ Finds closingFence place () after) := by
  obtain ⟨_, between, one, rest⟩ := bind_finds.mp found
  obtain ⟨rfl, rfl⟩ := pure_finds.mp rest
  exact ⟨rfl, either_finds.mp one⟩

theorem fence_takes {place after : Place} {value : List Char}
    (found : Finds fence place value after) :
    ∃ taken, taken ≠ [] ∧ place.ahead = taken ++ after.ahead ∧ ∀ c ∈ taken, isFence c = true := by
  rcases (fence_finds found).2 with opening | closing
  · obtain ⟨-, taken, ahead, all⟩ := openingFence_finds opening
    refine ⟨"```".toList ++ taken, by simp, ahead, ?_⟩
    intro c member
    rcases List.mem_append.mp member with tick | rest
    · exact tick_fence c tick
    · exact all c rest
  · obtain ⟨-, spaces, ahead, all⟩ := closingFence_finds closing
    refine ⟨spaces ++ "```".toList, by simp, ahead, ?_⟩
    intro c member
    rcases List.mem_append.mp member with blank | tick
    · exact all c blank
    · exact tick_fence c tick

/-- What is taken in front of a character that is never taken ends before it. -/
theorem taken_before {test : Char → Bool} {taken after front behind : List Char} {c : Char}
    (all : ∀ d ∈ taken, test d = true) (other : test c = false)
    (same : front ++ c :: behind = taken ++ after) :
    ∃ left, front = taken ++ left ∧ after = left ++ c :: behind := by
  induction taken generalizing front with
  | nil => exact ⟨front, rfl, same.symm⟩
  | cons d taken ih =>
      cases front with
      | nil =>
          obtain ⟨rfl, -⟩ := List.cons.inj same
          rw [all c (by simp)] at other
          cases other
      | cons e front =>
          obtain ⟨rfl, rest⟩ := List.cons.inj same
          obtain ⟨left, rfl, ahead⟩ := ih (fun d member => all d (by simp [member])) rest
          exact ⟨left, rfl, ahead⟩

/-- A text between brackets whose backticks stand in the middle of a line. -/
structure Enclosed (core : List Char) : Prop where
  opens : ∃ first rest, core = first :: rest ∧ isOpening first = true
  closes : ∃ before last, core = before ++ [last] ∧ isClosing last = true
  ticks : ∀ before behind, core = before ++ '\x60' :: behind →
    (∃ earlier d, before = earlier ++ [d] ∧ d ≠ '\n') ∧ ∃ e later, behind = e :: later ∧ e ≠ '\n'

section
variable {core : List Char} (enclosed : Enclosed core)
include enclosed

theorem no_opening_within {before rest following : List Char} {place after : Place}
    (same : core = before ++ rest) (more : rest ≠ []) (ahead : place.ahead = rest ++ following)
    (behind : ∀ earlier d, before = earlier ++ [d] → place.behind = some d) :
    ¬ Finds openingFence place () after := by
  intro found
  obtain ⟨atStart, taken, ticked, -⟩ := openingFence_finds found
  cases rest with
  | nil => exact more rfl
  | cons c rest =>
      rw [ahead] at ticked
      obtain ⟨rfl, -⟩ := List.cons.inj ticked
      obtain ⟨⟨earlier, d, split, onLine⟩, -⟩ := enclosed.ticks before rest same
      exact onLine (atStart d (behind earlier d split))

theorem no_closing_within {before rest following : List Char} {place after : Place}
    (same : core = before ++ rest) (more : rest ≠ []) (ahead : place.ahead = rest ++ following) :
    ¬ Finds closingFence place () after := by
  intro found
  obtain ⟨atEnd, spaces, ticked, allFence⟩ := closingFence_finds found
  obtain ⟨init, last, ends, closing⟩ := enclosed.closes
  -- The block goes on behind the backticks, because it ends with a bracket.
  obtain ⟨front, rfl⟩ : ∃ front, rest = front ++ [last] := by
    rcases List.eq_nil_or_concat' rest with none | ⟨front, d, rfl⟩
    · exact absurd none more
    · rw [ends, ← List.append_assoc] at same
      obtain ⟨-, single⟩ := List.append_inj' same rfl
      exact ⟨front, by rw [single]⟩
  have all : ∀ c ∈ spaces ++ "```".toList, isFence c = true := by
    intro c member
    rcases List.mem_append.mp member with blank | tick
    · exact allFence c blank
    · exact tick_fence c tick
  rw [ahead, List.append_assoc, List.singleton_append] at ticked
  obtain ⟨left, rfl, onward⟩ := taken_before all (no_bracket (.inr closing)).1 ticked
  obtain ⟨-, e, later, begins, onLine⟩ := enclosed.ticks (before ++ spaces ++ ['\x60', '\x60'])
    (left ++ [last]) (by rw [same]; simp)
  have next : after.ahead = e :: (later ++ following) := by
    rw [onward, ← List.singleton_append, ← List.append_assoc, begins]
    rfl
  exact onLine (atEnd e _ next)

/-- No fence is found within the block. `before` is the part of it that has been passed. -/
theorem no_fence_within {before rest following : List Char} {place : Place}
    (same : core = before ++ rest) (more : rest ≠ []) (ahead : place.ahead = rest ++ following)
    (behind : ∀ earlier d, before = earlier ++ [d] → place.behind = some d) :
    first? fence place = none := by
  cases found : first? fence place with
  | none => rfl
  | some result =>
      obtain ⟨value, after⟩ := result
      rcases (fence_finds (first?_finds found)).2 with opening | closing
      · exact absurd opening (no_opening_within enclosed same more ahead behind)
      · exact absurd closing (no_closing_within enclosed same more ahead)

theorem substitute_within {before rest following : List Char} {place : Place} (count : Nat)
    (same : core = before ++ rest) (ahead : place.ahead = rest ++ following)
    (behind : ∀ earlier d, before = earlier ++ [d] → place.behind = some d) :
    ∃ following', substituteFrom fence place count = rest ++ following' := by
  induction count generalizing before rest place with
  | zero => exact ⟨following, ahead⟩
  | succ count ih =>
      cases rest with
      | nil => exact ⟨_, rfl⟩
      | cons c rest =>
          have none := no_fence_within enclosed same (List.cons_ne_nil c rest) ahead behind
          have step : substituteFrom fence place (count + 1) =
              c :: substituteFrom fence ⟨some c, rest ++ following⟩ count := by
            simp only [substituteFrom, none, ahead, List.cons_append]
          have behind' : ∀ earlier d, before ++ [c] = earlier ++ [d] → some c = some d := by
            intro earlier d split
            obtain ⟨-, single⟩ := List.append_inj' split rfl
            rw [List.singleton_inj.mp single]
          have same' : core = (before ++ [c]) ++ rest := by
            rw [same, List.append_assoc, List.singleton_append]
          have ahead' : (⟨some c, rest ++ following⟩ : Place).ahead = rest ++ following := rfl
          obtain ⟨following', left⟩ := ih same' ahead' behind'
          exact ⟨following', by rw [step, left]; rfl⟩

/-- Fences are taken from what stands around the block, and the block is left. -/
theorem substitute_around {front following : List Char} {place : Place} (count : Nat)
    (ahead : place.ahead = front ++ core ++ following) :
    ∃ front' following', substituteFrom fence place count = front' ++ core ++ following' ∧
      ∀ c ∈ front', c ∈ front := by
  induction count generalizing front place with
  | zero => exact ⟨front, following, ahead, fun c member => member⟩
  | succ count ih =>
      obtain ⟨first, rest, begins, opening⟩ := enclosed.opens
      cases found : first? fence place with
      | some result =>
          obtain ⟨value, after⟩ := result
          have finds := first?_finds found
          obtain ⟨rfl, -⟩ := fence_finds finds
          obtain ⟨taken, -, split, all⟩ := fence_takes finds
          rw [ahead, begins, List.append_assoc, List.cons_append] at split
          obtain ⟨left, rfl, onward⟩ := taken_before all (no_bracket (.inl opening)).1 split
          have ahead' : after.ahead = left ++ core ++ following := by
            rw [onward, begins, List.append_assoc, List.cons_append]
          obtain ⟨front', following', done, within⟩ := ih ahead'
          refine ⟨front', following', ?_, ?_⟩
          · simp only [substituteFrom, found, List.nil_append]
            exact done
          · intro c member
            exact List.mem_append_right taken (within c member)
      | none =>
          cases front with
          | nil =>
              have same : core = [] ++ core := rfl
              obtain ⟨following', left⟩ :=
                substitute_within enclosed (count + 1) same ahead (by simp)
              exact ⟨[], following', left, by simp⟩
          | cons c front =>
              have ahead' : (⟨some c, front ++ core ++ following⟩ : Place).ahead =
                front ++ core ++ following := rfl
              obtain ⟨front', following', done, within⟩ := ih ahead'
              refine ⟨c :: front', following', ?_, ?_⟩
              · simp only [substituteFrom, found, ahead, List.cons_append]
                rw [done]
              · intro d member
                rcases List.mem_cons.mp member with rfl | later
                · simp
                · exact List.mem_cons_of_mem c (within d later)

theorem trim_around (front following : List Char) :
    trim (front ++ core ++ following) =
      front.dropWhile isBlank ++ core ++ (following.reverse.dropWhile isBlank).reverse := by
  obtain ⟨first, rest, begins, opening⟩ := enclosed.opens
  obtain ⟨before, last, ends, closing⟩ := enclosed.closes
  have left : (front ++ core ++ following).dropWhile isBlank =
      front.dropWhile isBlank ++ core ++ following := by
    rw [begins, List.append_assoc, List.cons_append,
      dropWhile_before _ _ (no_bracket (.inl opening)).2, List.append_assoc, List.cons_append]
  have right : (front.dropWhile isBlank ++ core ++ following).reverse =
      following.reverse ++ last :: (front.dropWhile isBlank ++ before).reverse := by
    rw [ends]
    simp
  unfold trim trimmedOf
  rw [left, right, dropWhile_before _ _ (no_bracket (.inr closing)).2, ends]
  simp

/-- A reply without its fences still has the block, between parts of what stood around it. -/
theorem unfenced_around (front following : List Char) :
    ∃ front' following', unfenced (front ++ core ++ following) = front' ++ core ++ following' ∧
      ∀ c ∈ front', c ∈ front := by
  have same : unfenced (front ++ core ++ following) =
      substitute fence (trim (front ++ core ++ following)) := rfl
  have ahead : (Place.start (trim (front ++ core ++ following))).ahead =
      front.dropWhile isBlank ++ core ++ (following.reverse.dropWhile isBlank).reverse :=
    trim_around enclosed front following
  obtain ⟨front', following', done, within⟩ :=
    substitute_around enclosed (trim (front ++ core ++ following)).length ahead
  rw [same]
  refine ⟨front', following', done, ?_⟩
  intro c member
  exact (List.dropWhile_sublist isBlank).subset (within c member)

end

end Chartwright.Recovery
