import Chartwright.Proofs.Assistant.Planning
import Chartwright.Proofs.Edit.Writing

/-!
Operations on the wire. A model may put other things between the operations of its reply, and the
operations that were written out come back all the same, each once and in order. An entry that is of
a known kind but cannot be read stops the reading instead.
-/

namespace Chartwright
open Form

instance : LawfulNamed OperationKind := ⟨by intro value; cases value <;> rfl⟩

namespace Assistant

/-- An entry that is passed over: it is no object, it says nothing of its kind, or the kind that it
names is unknown or that of an edit of a whole specification. -/
inductive Ignored : Json → Prop where
  | shapeless (entry : Json) (bare : entry.asObject? = none) : Ignored entry
  | untold (members : Members) (missing : members.has "op" = false) : Ignored (.object members)
  | foreign (members : Members) (name : String) (told : members.getD "op" = .text name)
      (other : ∀ kind : OperationKind, Named.name kind = name → kind = .directEdit) :
      Ignored (.object members)

def Tells (kind : OperationKind) (entry : Json) : Prop :=
  kind ≠ .directEdit ∧
    ∃ members : Members, entry = .object members ∧ members.getD "op" = .text (Named.name kind)

def Malformed (kind : OperationKind) (faults : List Fault) (entry : Json) : Prop :=
  Tells kind entry ∧ Operation.read entry = .faulty faults

/-- The entries written for some operations, in order, among others that are passed over. -/
inductive Amid (style : Style) : List Operation → List Json → Prop where
  | nothing : Amid style [] []
  | noise {operations : List Operation} {entries : List Json} (entry : Json)
      (ignored : Ignored entry) (rest : Amid style operations entries) :
      Amid style operations (entry :: entries)
  | written {operations : List Operation} {entries : List Json} (operation : Operation)
      (valid : operation.Valid) (planned : operation.kind ≠ .directEdit)
      (rest : Amid style operations entries) :
      Amid style (operation :: operations) (operation.write style :: entries)

/-- The documents that hold a list of entries: the list itself, an object with the list as its
`operations`, and a single entry on its own. -/
inductive Holds : Json → List Json → Prop where
  | list (entries : List Json) : Holds (.list entries) entries
  | listed (members : Members) (entries : List Json)
      (told : members.getD "operations" = .list entries) : Holds (.object members) entries
  | single (members : Members) (unlisted : (members.getD "operations").asList? = none)
      (told : members.has "op" = true) : Holds (.object members) [.object members]

theorem holds_entries {document : Json} {entries : List Json} (holds : Holds document entries) :
    entriesOf document = .ok entries := by
  cases holds with
  | list => rfl
  | listed members _ told => simp [entriesOf, told]
  | single members unlisted told =>
      cases listed : members.getD "operations" with
      | list items => simp [listed, Json.asList?] at unlisted
      | _ => simp [entriesOf, listed, told]

theorem holds_read {document : Json} {entries : List Json} (holds : Holds document entries) :
    operationsOf document = operationsIn entries := by
  simp [operationsOf, holds_entries holds]

/-! Single entries. -/

theorem told_object (members : Members) : toldKind (.object members) = members.getD "op" := rfl

theorem ignored_simple {entry : Json} (ignored : Ignored entry) :
    (toldKind entry).compound? = none := by
  cases ignored with
  | shapeless _ bare => simp [toldKind, bare, Members.getD, Json.compound?]
  | untold members missing =>
      have absent : members.lookup "op" = none := by simpa [Members.has] using missing
      simp [told_object, Members.getD, absent, Json.compound?]
  | foreign members name told other => simp [told_object, told, Json.compound?]

theorem ignored_unplanned {entry : Json} (ignored : Ignored entry) : plannable? entry = none := by
  cases ignored with
  | shapeless _ bare => simp [plannable?, toldKind, bare, Members.getD, Json.asText?]
  | untold members missing =>
      have absent : members.lookup "op" = none := by simpa [Members.has] using missing
      simp [plannable?, told_object, Members.getD, absent, Json.asText?]
  | foreign members name told other =>
      cases found : Named.ofName? (α := OperationKind) name with
      | none => simp [plannable?, told_object, told, Json.asText?, found]
      | some kind =>
          have named : Named.name kind = name := by simpa using List.find?_some found
          simp [plannable?, told_object, told, Json.asText?, found, other kind named]

theorem tells_simple {kind : OperationKind} {entry : Json} (tells : Tells kind entry) :
    (toldKind entry).compound? = none := by
  obtain ⟨-, members, rfl, told⟩ := tells
  simp [told_object, told, Json.compound?]

theorem tells_planned {kind : OperationKind} {entry : Json} (tells : Tells kind entry) :
    plannable? entry = some kind := by
  obtain ⟨planned, members, rfl, told⟩ := tells
  simp [plannable?, told_object, told, Json.asText?, LawfulNamed.ofName_name, planned]

theorem written_kind (style : Style) (operation : Operation) :
    (writtenMembers style
      ((word "op", writeName operation.kind) :: operation.entries style)).lookup "op" =
        some (.text (Named.name operation.kind)) := by
  have spelled (naming : Naming) : (word "op").name naming = "op" := by cases naming <;> rfl
  simp [written_lookup_cons, spelled, writeName, Json.isNull]

theorem written_tells (style : Style) {operation : Operation}
    (planned : operation.kind ≠ .directEdit) : Tells operation.kind (operation.write style) := by
  refine ⟨planned, _, rfl, ?_⟩
  rw [Members.getD, written_kind]
  rfl

theorem written_single (style : Style) (operation : Operation) :
    Holds (operation.write style) [operation.write style] := by
  refine .single _ ?_ ?_
  · have foreign : ∀ entry ∈ (word "op", writeName operation.kind) :: operation.entries style,
        "operations" ≠ entry.1.camel ∧ "operations" ≠ entry.1.snake := by
      cases operation <;>
        simp [Operation.entries, word, Transform.byFieldAttr, Operation.targetAttr]
    rw [Members.getD, written_lookup_foreign style _ "operations" foreign]
    rfl
  · rw [Members.has, written_kind]
    rfl

/-! Lists of entries. -/

theorem amid_simple {style : Style} {operations : List Operation} {entries : List Json}
    (amid : Amid style operations entries) :
    ∀ entry ∈ entries, (toldKind entry).compound? = none := by
  induction amid with
  | nothing => simp
  | noise entry ignored rest ih => exact List.forall_mem_cons.mpr ⟨ignored_simple ignored, ih⟩
  | written operation valid planned rest ih =>
      exact List.forall_mem_cons.mpr ⟨tells_simple (written_tells style planned), ih⟩

theorem amid_plans {style : Style} {operations : List Operation} {entries : List Json}
    (amid : Amid style operations entries) : Plans entries operations := by
  unfold Plans
  induction amid with
  | nothing => exact .nil
  | noise entry ignored rest ih =>
      rwa [List.filter_cons_of_neg (by simp [ignored_unplanned ignored])]
  | written operation valid planned rest ih =>
      rw [List.filter_cons_of_pos (by simp [tells_planned (written_tells style planned)])]
      exact .cons (Operation.operation_read style operation valid) ih

theorem amid_read {style : Style} {operations : List Operation} {entries : List Json}
    (amid : Amid style operations entries) : operationsIn entries = .ok operations :=
  (operations_ok_iff entries operations).mpr ⟨amid_simple amid, amid_plans amid⟩

theorem passes_of_readable {entry : Json} (known : Ignored entry ∨ ∃ kind, Tells kind entry)
    (readable : ¬∃ kind faults, Malformed kind faults entry) : Passes entry := by
  rcases known with ignored | ⟨kind, tells⟩
  · exact ⟨ignored_simple ignored, by simp [ignored_unplanned ignored]⟩
  · refine ⟨tells_simple tells, fun _ => ?_⟩
    cases read : Operation.read entry with
    | valid operation => exact ⟨operation, rfl⟩
    | faulty faults => exact absurd ⟨kind, faults, tells, read⟩ readable

theorem malformed_reported {entries : List Json}
    (known : ∀ entry ∈ entries, Ignored entry ∨ ∃ kind, Tells kind entry)
    (found : ∃ entry ∈ entries, ∃ kind faults, Malformed kind faults entry) :
    ∃ before entry after kind faults, entries = before ++ entry :: after ∧
      (∀ other ∈ before, ¬∃ kind faults, Malformed kind faults other) ∧
      Malformed kind faults entry ∧
      operationsIn entries = .error (.reported (.badOperation kind faults)) := by
  classical
  obtain ⟨entry, first⟩ := Option.isSome_iff_exists.mp (List.find?_isSome
    (p := fun entry => decide (∃ kind faults, Malformed kind faults entry)) |>.mpr
      (by simpa using found))
  obtain ⟨holds, before, after, rfl, others⟩ := List.find?_eq_some_iff_append.mp first
  obtain ⟨kind, faults, malformed⟩ := of_decide_eq_true holds
  have readable : ∀ other ∈ before, ¬∃ kind faults, Malformed kind faults other :=
    fun other inside => by simpa using others other inside
  refine ⟨before, entry, after, kind, faults, rfl, readable, malformed, ?_⟩
  have passed : ∀ other ∈ before, Passes other := fun other inside =>
    passes_of_readable (known other (List.mem_append_left _ inside)) (readable other inside)
  have stops := Stops.malformed kind (tells_planned malformed.1) faults malformed.2
  exact (operations_error_iff _ _).mpr ⟨before, entry, after, rfl, passed, stops⟩

/-- Operations survive the wire. Written out, in either spelling and with or without nulls, and put
among entries that are passed over, they are read again, all of them, in order and nothing else,
whether the entries are sent as a list or in an object; and a single operation may be sent on its
own. If an entry of a known kind cannot be read, the first such entry is reported instead. -/
theorem operations_survive_noise (style : Style) :
    (∀ document entries operations, Holds document entries → Amid style operations entries →
      operationsOf document = .ok operations) ∧
    (∀ operation : Operation, operation.Valid → operation.kind ≠ .directEdit →
      operationsOf (operation.write style) = .ok [operation]) ∧
    ∀ document entries, Holds document entries →
      (∀ entry ∈ entries, Ignored entry ∨ ∃ kind, Tells kind entry) →
      (∃ entry ∈ entries, ∃ kind faults, Malformed kind faults entry) →
      ∃ before entry after kind faults, entries = before ++ entry :: after ∧
        (∀ other ∈ before, ¬∃ kind faults, Malformed kind faults other) ∧
        Malformed kind faults entry ∧
        operationsOf document = .error (.reported (.badOperation kind faults)) := by
  refine ⟨?_, ?_, ?_⟩
  · intro document entries operations holds amid
    rw [holds_read holds, amid_read amid]
  · intro operation valid planned
    rw [holds_read (written_single style operation)]
    exact amid_read (.written operation valid planned .nothing)
  · intro document entries holds known found
    rw [holds_read holds]
    exact malformed_reported known found

def bestThree : List Operation :=
  [.setTitle "Best regions", .setTopN 3 (some "Sales") .descending]

def talkativeReply : List Json :=
  [.text "Sure:", (Operation.setTitle "Best regions").write .full,
   .object [("title", .text "Best regions")], .object [("op", .text "paint")],
   (Operation.setTopN 3 (some "Sales") .descending).write .full,
   .object [("op", .text "direct_spec_edit")], .null]

def emptyRanking : Json := .object [("op", .text "set_top_n"), ("n", .int 0)]

theorem talkative_amid : Amid .full bestThree talkativeReply := by
  refine .noise _ (.shapeless _ rfl) (.written _ trivial (by decide) ?_)
  refine .noise _ (.untold _ rfl) (.noise _ (.foreign _ "paint" rfl ?_) ?_)
  · intro kind named
    cases kind <;> exact absurd named (by decide)
  refine .written _ (by simp [Operation.Valid]) (by decide) ?_
  refine .noise _ (.foreign _ "direct_spec_edit" rfl ?_) (.noise _ (.shapeless _ rfl) .nothing)
  intro kind named
  cases kind with
  | directEdit => rfl
  | _ => exact absurd named (by decide)

theorem empty_ranking_malformed : ∃ faults, Malformed .setTopN faults emptyRanking :=
  ⟨_, ⟨by decide, _, rfl, rfl⟩, rfl⟩

/-- The talkative reply is understood, and a reply with an empty ranking is reported. -/
theorem talkative_reply_understood :
    Amid .full bestThree talkativeReply ∧
      operationsOf (.object [("operations", .list talkativeReply)]) = .ok bestThree ∧
      ∃ kind faults, operationsOf (.list [.text "Sure:", emptyRanking]) =
        .error (.reported (.badOperation kind faults)) := by
  obtain ⟨survive, -, report⟩ := operations_survive_noise .full
  obtain ⟨faults, malformed⟩ := empty_ranking_malformed
  refine ⟨talkative_amid, survive _ _ _ (.listed _ _ rfl) talkative_amid, ?_⟩
  have known : ∀ entry ∈ [.text "Sure:", emptyRanking],
      Ignored entry ∨ ∃ kind, Tells kind entry :=
    List.forall_mem_cons.mpr ⟨.inl (.shapeless _ rfl),
      List.forall_mem_singleton.mpr (.inr ⟨_, malformed.1⟩)⟩
  obtain ⟨_, _, _, kind, faults, -, -, -, reported⟩ :=
    report _ _ (.list _) known ⟨emptyRanking, by simp, _, faults, malformed⟩
  exact ⟨kind, faults, reported⟩

end Assistant
end Chartwright
