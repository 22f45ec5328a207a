import Chartwright.Proofs.Assistant.Commas
import Chartwright.Proofs.Assistant.Recovery
import Mathlib.Data.List.Chain

/-!
A reply that would be JSON but for commas in front of closing brackets. It is cut out as one block,
since commas mean nothing to the count of brackets, to strings and to fences. The block cannot be
read and is mended.
-/

namespace Chartwright
open Json

namespace Recovery
open Json.Reading

/-! The scan for the block. -/

/-- How many brackets are open behind a character, besides the outermost one. -/
def depthAfter (depth : Nat) : Inside → Char → Nat
  | .nothing, c => if isOpening c then depth + 1 else if isClosing c then depth - 1 else depth
  | _, _ => depth

def isLast (depth : Nat) (place : Inside) (c : Char) : Bool :=
  place = .nothing && depth == 0 && isClosing c

theorem scan_step (depth : Nat) (place : Inside) (c : Char) (rest : List Char) :
    upToClosing depth place (c :: rest) =
      if isLast depth place c then some [c]
      else (upToClosing (depthAfter depth place c) (place.after c) rest).map (c :: ·) := by
  cases place with
  | nothing =>
      by_cases closing : isClosing c = true
      · have noQuote : c ≠ '"' := by
          rintro rfl
          cases closing
        have noOpening : isOpening c = false := by
          simp only [isClosing, Bool.or_eq_true, beq_iff_eq] at closing
          rcases closing with rfl | rfl <;> rfl
        cases depth <;>
          simp [upToClosing, isLast, depthAfter, Inside.after, closing, noQuote, noOpening]
      · by_cases quote : c = '"'
        · subst quote
          simp [upToClosing, isLast, depthAfter, Inside.after, isOpening, isClosing]
        · by_cases opening : isOpening c = true <;>
            simp [upToClosing, isLast, depthAfter, Inside.after, closing, quote, opening]
  | string => simp [upToClosing, isLast, depthAfter, Inside.after]
  | escape => simp [upToClosing, isLast, depthAfter, Inside.after]

theorem scan_blanks (depth : Nat) {blanks : List Char}
    (blank : ∀ b ∈ blanks, Reading.isSpace b = true) (rest : List Char) :
    upToClosing depth .nothing (blanks ++ rest) =
      (upToClosing depth .nothing rest).map (blanks ++ ·) := by
  induction blanks with
  | nil => simp
  | cons b others ih =>
      rw [List.cons_append, scan_unmarked (space_unmarked (blank b (by simp))),
        ih fun d member => blank d (by simp [member]), Option.map_map]
      rfl

/-- What the scan takes does not depend on what follows, and its last character is a bracket. -/
theorem scan_takes {text inner : List Char} {depth : Nat} {place : Inside}
    (taken : upToClosing depth place text = some inner) :
    (∀ following, upToClosing depth place (inner ++ following) = some inner) ∧
      ∃ front last, inner = front ++ [last] ∧ isClosing last = true := by
  induction text generalizing depth place inner with
  | nil => cases taken
  | cons c rest ih =>
      rw [scan_step] at taken
      by_cases last : isLast depth place c = true
      · rw [if_pos last] at taken
        cases taken
        refine ⟨fun following => ?_, [], c, rfl, ?_⟩
        · rw [List.singleton_append, scan_step, if_pos last]
        · simp only [isLast, Bool.and_eq_true] at last
          exact last.2
      · rw [if_neg last] at taken
        obtain ⟨later, there, rfl⟩ := Option.map_eq_some_iff.mp taken
        obtain ⟨again, front, final, ends, closing⟩ := ih there
        refine ⟨fun following => ?_, c :: front, final, by rw [ends]; rfl, closing⟩
        rw [List.cons_append, scan_step, if_neg last, again following]
        rfl

/-- The scan takes one text where it takes the other, up to commas. -/
def TakenAlike (place : Inside) (text trailed : List Char) : Prop :=
  ∀ depth inner, upToClosing depth place text = some inner →
    ∃ inner' following following', text = inner ++ following ∧ trailed = inner' ++ following' ∧
      upToClosing depth place trailed = some inner' ∧ Trailed place inner inner' ∧
      Trailed .nothing following following'

theorem taken_alike_cons {c : Char} {depth : Nat} {place : Inside} {text trailed inner : List Char}
    (rest : Trailed (place.after c) text trailed) (alike : TakenAlike (place.after c) text trailed)
    (taken : upToClosing depth place (c :: text) = some inner) :
    ∃ front front' following following', inner = c :: front ∧ text = front ++ following ∧
      trailed = front' ++ following' ∧
      upToClosing depth place (c :: trailed) = some (c :: front') ∧
      Trailed (place.after c) front front' ∧ Trailed .nothing following following' := by
  rw [scan_step] at taken
  by_cases last : isLast depth place c = true
  · rw [if_pos last] at taken
    cases taken
    have closing : place = .nothing ∧ isClosing c = true := by
      simp only [isLast, Bool.and_eq_true, decide_eq_true_eq] at last
      exact ⟨last.1.1, last.2⟩
    refine ⟨[], [], text, trailed, rfl, rfl, rfl, ?_, .done, ?_⟩
    · rw [scan_step, if_pos last]
    · rwa [closing.1, closing_after closing.2] at rest
  · rw [if_neg last] at taken
    obtain ⟨front, there, rfl⟩ := Option.map_eq_some_iff.mp taken
    obtain ⟨front', following, following', split, split', takenToo, more, after⟩ := alike _ _ there
    refine ⟨front, front', following, following', rfl, split, split', ?_, more, after⟩
    rw [scan_step, if_neg last, takenToo]
    rfl

theorem scan_trailed {text trailed : List Char} {place : Inside}
    (more : Trailed place text trailed) : TakenAlike place text trailed := by
  induction more with
  | done =>
      intro depth inner taken
      cases taken
  | kept c rest alike =>
      intro depth inner taken
      obtain ⟨front, front', following, following', rfl, split, split', takenToo, more, after⟩ :=
        taken_alike_cons rest alike taken
      exact ⟨c :: front', following, following', by rw [split]; rfl, by rw [split']; rfl, takenToo,
        .kept c more, after⟩
  | comma blanks c blank closing rest alike =>
      intro depth inner taken
      rw [scan_blanks depth blank] at taken
      obtain ⟨later, there, rfl⟩ := Option.map_eq_some_iff.mp taken
      rw [← closing_after closing] at rest alike
      obtain ⟨front, front', following, following', rfl, split, split', takenToo, more, after⟩ :=
        taken_alike_cons rest alike there
      rw [closing_after closing] at more
      refine ⟨',' :: (blanks ++ c :: front'), following, following', by rw [split]; simp,
        by rw [split']; simp, ?_, .comma blanks c blank closing more, after⟩
      rw [scan_unmarked (by decide), scan_blanks depth blank, takenToo]
      rfl

theorem trailed_unclosed {text trailed : List Char} {place : Inside}
    (more : Trailed place text trailed) (unclosed : ∀ c ∈ text, isClosing c = false) :
    trailed = text := by
  induction more with
  | done => rfl
  | kept c rest ih => rw [ih fun d member => unclosed d (by simp [member])]
  | comma blanks c blank closing rest ih =>
      rw [unclosed c (by simp)] at closing
      cases closing

/-! Fences. -/

/-- Neither of two neighbours is a backtick with the end of a line for the other. -/
def Neighbours (c d : Char) : Prop := (c = '\x60' → d ≠ '\n') ∧ (d = '\x60' → c ≠ '\n')

theorem enclosed_neighbours {core : List Char} (enclosed : Enclosed core) :
    core.IsChain Neighbours := by
  rw [List.isChain_iff_forall_rel_of_append_cons_cons]
  intro c d before behind split
  constructor
  · rintro rfl
    obtain ⟨-, e, later, same, onLine⟩ := enclosed.ticks before (d :: behind) split
    rwa [(List.cons.inj same).1]
  · rintro rfl
    obtain ⟨⟨earlier, e, same, onLine⟩, -⟩ :=
      enclosed.ticks (before ++ [c]) behind (by simp [split])
    rwa [List.singleton_inj.mp (List.append_inj' same rfl).2]

theorem enclosed_of_neighbours {core : List Char}
    (opens : ∃ first rest, core = first :: rest ∧ isOpening first = true)
    (closes : ∃ before last, core = before ++ [last] ∧ isClosing last = true)
    (chain : core.IsChain Neighbours) : Enclosed core := by
  rw [List.isChain_iff_forall_rel_of_append_cons_cons] at chain
  refine ⟨opens, closes, fun before behind split => ⟨?_, ?_⟩⟩
  · rcases List.eq_nil_or_concat' before with rfl | ⟨earlier, d, rfl⟩
    · obtain ⟨first, rest, begins, opening⟩ := opens
      obtain ⟨rfl, -⟩ := List.cons.inj (begins.symm.trans split)
      cases opening
    · exact ⟨earlier, d, rfl, (@chain d '\x60' earlier behind (by rw [split]; simp)).2 rfl⟩
  · cases behind with
    | nil =>
        obtain ⟨front, last, ends, closing⟩ := closes
        have same := List.singleton_inj.mp (List.append_inj' (ends.symm.trans split) rfl).2
        subst same
        cases closing
    | cons e later => exact ⟨e, later, rfl, (chain split).1 rfl⟩

theorem comma_neighbour (c : Char) : Neighbours c ',' ∧ Neighbours ',' c := by
  refine ⟨⟨fun _ => by decide, ?_⟩, ⟨?_, fun _ => by decide⟩⟩ <;>
    intro tick <;> cases tick

theorem trailed_neighbours {text trailed : List Char} {place : Inside}
    (more : Trailed place text trailed) (d : Char) (chain : (d :: text).IsChain Neighbours) :
    (d :: trailed).IsChain Neighbours := by
  induction more generalizing d with
  | done => exact chain
  | kept c rest ih =>
      obtain ⟨here, later⟩ := List.isChain_cons_cons.mp chain
      exact List.isChain_cons_cons.mpr ⟨here, ih c later⟩
  | comma blanks c blank closing rest ih =>
      obtain ⟨front, back⟩ := List.isChain_split.mp chain.tail
      have onward := List.isChain_split.mpr ⟨front, ih c back⟩
      refine List.isChain_cons_cons.mpr ⟨(comma_neighbour d).1, onward.cons ?_⟩
      exact fun e _ => (comma_neighbour e).2

/-! The whole. -/

theorem opening_shown {c : Char} (opening : isOpening c = true) :
    Reading.isSpace c = false ∧ isClosing c = false ∧ c ≠ '"' := by
  simp only [isOpening, Bool.or_eq_true, beq_iff_eq] at opening
  rcases opening with rfl | rfl <;> decide

theorem trailed_opens {blanks rest trailed : List Char} {first : Char}
    (blank : ∀ b ∈ blanks, Reading.isSpace b = true) (opening : isOpening first = true)
    (more : Trailed .nothing (blanks ++ first :: rest) trailed) :
    ∃ rest', trailed = blanks ++ first :: rest' ∧ Trailed .nothing rest rest' := by
  obtain ⟨shown, noClosing, noQuote⟩ := opening_shown opening
  generalize same : blanks ++ first :: rest = text at more
  generalize outside : Inside.nothing = place at more
  induction more generalizing blanks with
  | done => simp at same
  | kept c later ih =>
      subst outside
      cases blanks with
      | nil =>
          obtain ⟨rfl, rfl⟩ := List.cons.inj same
          rw [Inside.after, if_neg noQuote] at later
          exact ⟨_, rfl, later⟩
      | cons b blanks =>
          obtain ⟨rfl, onward⟩ := List.cons.inj same
          have space := blank b (by simp)
          have stays : Inside.nothing = Inside.nothing.after b := by
            rw [Inside.after, if_neg]
            rintro rfl
            cases space
          obtain ⟨rest', rfl, more⟩ :=
            ih (fun d member => blank d (List.mem_cons_of_mem b member)) onward stays
          rw [← stays] at more
          exact ⟨rest', rfl, more⟩
  | comma others c blank' closing later ih =>
      -- The first character that is no blank would be an opening bracket and a closing one.
      have both : ((blanks ++ first :: rest).dropWhile Reading.isSpace).head? =
          ((others ++ c :: _).dropWhile Reading.isSpace).head? := congrArg _ (congrArg _ same)
      rw [List.dropWhile_append_of_pos blank, List.dropWhile_append_of_pos blank'] at both
      simp [shown, closing_no_blank closing] at both
      subst both
      rw [noClosing] at closing
      cases closing

/-- A block with commas in it is cut out as one without them. -/
theorem cut_trailed {first : Char} {inner inner' text : List Char}
    (opening : isOpening first = true) (enclosed : Enclosed (first :: inner))
    (more : Trailed .nothing inner inner') (taken : upToClosing 0 .nothing text = some inner') :
    Cut (first :: inner') := by
  obtain ⟨again, front, last, ends, closing⟩ := scan_takes taken
  refine ⟨enclosed_of_neighbours ⟨first, inner', rfl, opening⟩
    ⟨first :: front, last, by rw [ends]; rfl, closing⟩ ?_, first, inner', rfl, opening, again⟩
  exact trailed_neighbours more first (enclosed_neighbours enclosed)

/-- The block of a text with commas stands where that of the text does, and in the same blanks. -/
theorem trailed_block [Json.Stack] {text trailed : List Char} {document : Json}
    (accepted : Json.read text = .ok document) (compound : document.compound?.isSome)
    (more : Trailed .nothing text trailed) :
    ∃ blanks core core' following, text = blanks ++ core ++ following ∧
      trailed = blanks ++ core' ++ following ∧ Holds core document ∧ Cut core' ∧
      Trailed .nothing core core' ∧ ∀ c ∈ blanks ++ following, Reading.isSpace c = true := by
  have whole := accepted_whole accepted compound
  obtain ⟨blanks, core, following, rfl, holds, allBlank⟩ := accepted_holds accepted compound
  obtain ⟨first, inner, rfl, opening, taken⟩ := holds.scanned
  have blankBehind : ∀ c ∈ following, Reading.isSpace c = true := by
    rw [after_append, after_append, start, after_blank false [] blanks allBlank] at whole
    rw [← start, holds.whole] at whole
    rcases after_whole document following with ⟨all, -⟩ | extra
    · exact all
    · rw [extra] at whole
      cases whole
  rw [List.append_assoc, List.cons_append] at more
  obtain ⟨rest, rfl, later⟩ := trailed_opens allBlank opening more
  obtain ⟨inner', behind, behind', split, rfl, takenToo, within, after⟩ :=
    scan_trailed later 0 inner (taken following)
  obtain rfl := List.append_cancel_left split
  obtain rfl :=
    trailed_unclosed after fun c member => (space_no_bracket (blankBehind c member)).2
  refine ⟨blanks, _, first :: inner', _, rfl, by simp, holds,
    cut_trailed opening holds.enclosed within takenToo, .kept first ?_, ?_⟩
  · rwa [Inside.after, if_neg (opening_shown opening).2.2]
  · intro c member
    rcases List.mem_append.mp member with front | back
    · exact allBlank c front
    · exact blankBehind c back

theorem broken_readOr [Json.Stack] {text : List Char} (broken : (start.after text).Broken)
    (otherwise : SyntaxError → Except Cause Json) :
    ∃ error, readOr text otherwise = otherwise error := by
  obtain ⟨cause, failed, shallow⟩ := broken
  obtain ⟨placed, read, same⟩ := readBare_failed failed
  have fails : ∃ error, Json.read text = .error error ∧
      ∀ opened, error.cause ≠ .tooDeep opened := by
    unfold Json.read
    split
    · exact ⟨_, rfl, fun _ => SyntaxCause.noConfusion⟩
    · exact ⟨placed, read, same ▸ shallow⟩
  obtain ⟨⟨cause, position⟩, read, shallow⟩ := fails
  refine ⟨⟨cause, position⟩, ?_⟩
  unfold readOr
  rw [read]
  cases cause with
  | tooDeep opened => exact absurd rfl (shallow opened)
  | _ => rfl

/-- A reply whose block cannot be read is what the mended block stands for. -/
theorem read_broken [Json.Stack] {core blanks following : List Char} (cut : Cut core)
    (broken : (start.after core).Broken) (blank : ∀ c ∈ blanks, Reading.isSpace c = true)
    {reply : String} (same : reply.toList = blanks ++ core ++ following) :
    Recovery.read reply =
      readOr (mended core) fun error => .error (.beyondRepair error (mended core) core) := by
  obtain ⟨front, behind, left, within⟩ := unfenced_around cut.enclosed blanks following
  have blank' : ∀ c ∈ front, Reading.isSpace c = true := fun c member => blank c (within c member)
  have noOpening : ∀ c ∈ front, isOpening c = false :=
    fun c member => (space_no_bracket (blank' c member)).1
  have brokenAll : (start.after (front ++ core ++ behind)).Broken := by
    rw [after_append, after_append, start, after_blank false [] front blank']
    exact broken_after broken behind
  obtain ⟨_, goesOn⟩ := broken_readOr brokenAll fun _ =>
    block (front ++ core ++ behind) >>= readBlock
  obtain ⟨_, mends⟩ := broken_readOr broken fun _ =>
    readOr (mended core) fun error => .error (.beyondRepair error (mended core) core)
  unfold Recovery.read
  rw [same, left]
  simp only [around_shown cut.enclosed, Bool.false_eq_true, if_false]
  rw [goesOn, block_around cut noOpening]
  exact mends

/-- A reply that is a text with commas in it is read as the text if there are none, and as its
block comes out mended if there are. -/
theorem read_trailed [Json.Stack] {text : List Char} {reply : String} {document : Json}
    (accepted : Json.read text = .ok document) (compound : document.compound?.isSome)
    (more : Trailed .nothing text reply.toList) :
    Holds (Text.trim text) document ∧ ∃ core, Trailed .nothing (Text.trim text) core ∧
      (reply.toList = text ∧ Recovery.read reply = .ok document ∨
        reply.toList ≠ text ∧ Recovery.read reply =
          readOr (mended core) fun error => .error (.beyondRepair error (mended core) core)) := by
  obtain ⟨blanks, core, core', following, rfl, same, holds, cut, within, blank⟩ :=
    trailed_block accepted compound more
  have trimmed : Text.trim (blanks ++ core ++ following) = core := by
    rw [trim_around holds.enclosed, List.dropWhile_eq_nil_iff.mpr, List.dropWhile_eq_nil_iff.mpr]
    · simp
    · exact fun c member => space_blank (blank c (by simpa using .inr (List.mem_reverse.mp member)))
    · exact fun c member => space_blank (blank c (List.mem_append_left _ member))
  rw [trimmed]
  refine ⟨holds, core', within, ?_⟩
  rcases trailed_broken start_regular rfl within holds.whole with rfl | broken
  · left
    refine ⟨same, read_around holds (fun c member => ?_) same⟩
    have space := blank c (List.mem_append_left _ member)
    refine ⟨?_, ?_, ?_⟩ <;> rintro rfl <;> cases space
  · right
    refine ⟨?_, read_broken cut broken (fun c member => blank c (by simp [member])) same⟩
    intro equal
    rw [equal] at same
    obtain rfl := List.append_cancel_left (List.append_cancel_right same)
    rw [holds.whole] at broken
    exact done_unbroken document broken

end Recovery
end Chartwright
