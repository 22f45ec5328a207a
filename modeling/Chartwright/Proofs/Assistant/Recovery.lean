import Chartwright.Proofs.Assistant.Block
import Chartwright.Proofs.Assistant.Fence
import Mathlib.Data.List.TakeWhile

/-!
A list or an object is recovered from a reply whatever stands around it. The text that the reader
accepts has one block from its first bracket to the last, which no fence and no count of brackets
takes apart. The reply as a whole is that document or cannot be read, and then the block is cut out.
-/

namespace Chartwright.Recovery
open Text Json Json.Reading

/-- A block of text that is cut out as it is, whatever follows. -/
structure Cut (core : List Char) : Prop where
  enclosed : Enclosed core
  scanned : ∃ first inner, core = first :: inner ∧ isOpening first = true ∧
    ∀ following, upToClosing 0 .nothing (inner ++ following) = some inner

structure Holds [Stack] (core : List Char) (document : Json) : Prop extends Cut core where
  whole : start.after core = ⟨.done document, []⟩

theorem holds_of_opening [Stack] {c : Char} {rest : List Char} {document : Json}
    (opening : c = '[' ∨ c = '\x7b') (whole : start.after (c :: rest) = ⟨.done document, []⟩) :
    ∃ core following, c :: rest = core ++ following ∧ Holds core document := by
  have bracket : isOpening c = true := by
    rcases opening with rfl | rfl <;> rfl
  obtain ⟨deep, outside⟩ := first_opens opening whole
  rw [after_cons] at whole
  obtain ⟨inner, last, following, rfl, closing, read, taken⟩ :=
    scan_follows (step_regular start_regular 0 c) deep whole
  rw [outside] at taken
  have read' : start.after (c :: (inner ++ [last])) = ⟨.done document, []⟩ := read
  refine ⟨c :: (inner ++ [last]), following, by simp, ⟨⟨⟨?_, ?_, ?_⟩, ?_⟩, read'⟩⟩
  · exact ⟨c, _, rfl, bracket⟩
  · exact ⟨c :: inner, last, rfl, closing⟩
  · intro before behind split
    rw [split] at read'
    exact backtick_surrounded read'
  · refine ⟨c, inner ++ [last], rfl, bracket, ?_⟩
    intro following
    rw [List.append_assoc]
    exact taken following

theorem accepted_whole [Stack] {text : List Char} {document : Json}
    (accepted : Json.read text = .ok document) (compound : document.compound?.isSome) :
    start.after text = ⟨.done document, []⟩ := by
  have bare : readBare text = .ok document := by
    unfold Json.read at accepted
    split at accepted
    · cases accepted
    · exact accepted
  exact after_compound bare compound

theorem accepted_holds [Stack] {text : List Char} {document : Json}
    (accepted : Json.read text = .ok document) (compound : document.compound?.isSome) :
    ∃ blanks core following, text = blanks ++ core ++ following ∧ Holds core document ∧
      ∀ c ∈ blanks, Reading.isSpace c = true := by
  have whole := accepted_whole accepted compound
  obtain ⟨blanks, c, rest, rfl, allBlank, opening⟩ := compound_opens whole compound
  rw [after_append, start, after_blank false [] blanks allBlank] at whole
  obtain ⟨core, following, same, holds⟩ := holds_of_opening opening whole
  exact ⟨blanks, core, following, by rw [same, List.append_assoc], holds, allBlank⟩

theorem around_shown {core : List Char} (enclosed : Enclosed core) (front following : List Char) :
    (trim (front ++ core ++ following)).isEmpty = false := by
  obtain ⟨first, rest, begins, -⟩ := enclosed.opens
  rw [trim_around enclosed, begins]
  simp

theorem block_around {core front following : List Char} (cut : Cut core)
    (plain : ∀ c ∈ front, isOpening c = false) : block (front ++ core ++ following) = .ok core := by
  obtain ⟨first, inner, begins, opening, taken⟩ := cut.scanned
  obtain ⟨front', following', left, within⟩ := unfenced_around cut.enclosed front following
  have skipped : (front' ++ core ++ following').dropWhile (fun c => !isOpening c) =
      first :: (inner ++ following') := by
    have none : front'.dropWhile (fun c => !isOpening c) = [] := by
      rw [List.dropWhile_eq_nil_iff]
      intro c member
      simp [plain c (within c member)]
    rw [begins, List.append_assoc, List.cons_append, dropWhile_before _ _ (by simp [opening]),
      none, List.nil_append]
  unfold block
  rw [left, skipped]
  simp only [taken following', begins]

section
variable [Stack] {core : List Char} {document : Json} (holds : Holds core document)
include holds

theorem read_core : Json.read core = .ok document := by
  obtain ⟨first, inner, begins, opening, -⟩ := holds.scanned
  have unmarked : core.head? ≠ some byteOrderMark := by
    rw [begins]
    intro same
    cases same
    exact absurd opening (by decide)
  unfold Json.read
  rw [if_neg unmarked]
  exact readBare_done holds.whole

theorem readBlock_core : readBlock core = .ok document := by
  unfold readBlock readOr
  rw [read_core holds]

/-- The reply as a whole is the document, or it cannot be read and something else is tried. -/
theorem readOr_around {front following : List Char} (plain : Prose front)
    (otherwise : SyntaxError → Except Cause Json) :
    readOr (front ++ core ++ following) otherwise = .ok document ∨
      ∃ error, readOr (front ++ core ++ following) otherwise = otherwise error := by
  obtain ⟨first, inner, begins, opening, -⟩ := holds.scanned
  have bracket : first = '[' ∨ first = '\x7b' := by
    simpa [isOpening, or_comm] using opening
  have whole := holds.whole
  rw [begins] at whole ⊢
  unfold readOr
  rcases reads_in_prose plain bracket whole following with read | ⟨error, failed, shallow⟩
  · left
    rw [read]
  · right
    refine ⟨error, ?_⟩
    rw [failed]
    rcases error with ⟨cause, position⟩
    cases cause with
    | tooDeep opened => exact absurd rfl (shallow opened)
    | _ => rfl

theorem read_around {front following : List Char} (plain : Prose front) {reply : String}
    (same : reply.toList = front ++ core ++ following) : Recovery.read reply = .ok document := by
  obtain ⟨front', following', left, within⟩ := unfenced_around holds.enclosed front following
  have plain' : Prose front' := fun c member => plain c (within c member)
  have noOpening : ∀ c ∈ front', isOpening c = false := by
    intro c member
    simp [isOpening, plain' c member]
  have more := around_shown holds.enclosed front' following'
  unfold Recovery.read
  rw [same, left]
  simp only [more, Bool.false_eq_true, if_false]
  rcases readOr_around holds plain' (fun _ => block (front' ++ core ++ following') >>= readBlock)
    with whole | ⟨error, cut⟩
  · exact whole
  · rw [cut, block_around holds.toCut noOpening]
    exact readBlock_core holds

end

/-- A list or an object is read out of a reply, whatever text follows it and whatever prose stands
in front that has no opening bracket and no double quote. -/
theorem read_out_of_prose [Stack] (prose text rest : String) (document : Json)
    (accepted : Json.read text.toList = .ok document) (compound : document.compound?.isSome)
    (plain : ∀ c ∈ prose.toList, c ≠ '{' ∧ c ≠ '[' ∧ c ≠ '"') :
    Recovery.read (prose ++ text ++ rest) = .ok document := by
  obtain ⟨blanks, core, following, same, holds, allBlank⟩ := accepted_holds accepted compound
  have reply : (prose ++ text ++ rest).toList =
      prose.toList ++ blanks ++ core ++ (following ++ rest.toList) := by
    simp only [String.toList_append, same, List.append_assoc]
  refine read_around holds ?_ reply
  intro c member
  rcases List.mem_append.mp member with written | blank
  · obtain ⟨noObject, noList, noQuote⟩ := plain c written
    exact ⟨noList, noObject, noQuote⟩
  · have space := allBlank c blank
    refine ⟨?_, ?_, ?_⟩ <;> rintro rfl <;> cases space

/-- A reply in a fence, whose text holds a fence, brackets and an escaped quote in a string. -/
theorem fenced_reply_read :
    Recovery.read ("Sure, 1 edit:\n```json\n" ++
        " [\x7b\"a\": [1, \"]```json\\n\\\"\x7d\"]\x7d] \n" ++ "```\nThat was [it].") =
      .ok (.list [.object [("a", .list [.int 1, .text "]```json\n\"\x7d"])]]) :=
  read_out_of_prose _ _ _ _ rfl rfl (by simp)

end Chartwright.Recovery
