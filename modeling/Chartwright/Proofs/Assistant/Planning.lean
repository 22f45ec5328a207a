import Chartwright.Assistant.Planner
import Mathlib.Data.List.Forall2

/-!
How the planning by a language model ends. Whatever the model answers, there is a plan or an error
that planners report, with two exceptions: a reply whose lists and objects stand too deep, and a
list of operations in which the kind of an entry is itself a list or an object. The operations of a
plan are those of the entries that a model may plan, in order.
-/

namespace Chartwright
open Form

namespace Assistant

/-- What an entry of a reply says of its kind; null if it is no object or says nothing. -/
def toldKind (entry : Json) : Json := (entry.asObject?.getD []).getD "op"

/-- The kind of an entry that a model may plan: any but the edit of a whole specification. -/
def plannable? (entry : Json) : Option OperationKind :=
  ((toldKind entry).asText?.bind Named.ofName?).filter fun kind => kind != .directEdit

/-- An entry that the reading goes on after: its kind is neither a list nor an object, and it can be
read if it is of a kind that may be planned. -/
def Passes (entry : Json) : Prop :=
  (toldKind entry).compound? = none ∧
    ((plannable? entry).isSome → ∃ operation, Operation.read entry = .valid operation)

/-- Why the reading breaks off at an entry. -/
inductive Stops (entry : Json) : PlanFailure → Prop where
  | compound (kind : Json.Compound) (told : (toldKind entry).compound? = some kind) :
      Stops entry (.compoundKind kind)
  | malformed (kind : OperationKind) (planned : plannable? entry = some kind) (faults : List Fault)
      (refused : Operation.read entry = .faulty faults) :
      Stops entry (.reported (.badOperation kind faults))

theorem planned_kind (entry : Json) :
    plannedKind? entry =
      match (toldKind entry).compound? with
      | some kind => .error (.compoundKind kind)
      | none => .ok (plannable? entry) := by
  unfold plannedKind? plannable? toldKind
  generalize (entry.asObject?.getD []).getD "op" = told
  cases told <;> simp [Json.compound?, Json.asText?]

/-- What becomes of an entry: it is left out, it is read, or it stops the reading. -/
theorem entry_cases (entry : Json) :
    ((toldKind entry).compound? = none ∧ plannable? entry = none ∧
        operationOf? entry = .ok none) ∨
      (∃ operation, (toldKind entry).compound? = none ∧ (plannable? entry).isSome ∧
        Operation.read entry = .valid operation ∧ operationOf? entry = .ok (some operation)) ∨
      ∃ failure, Stops entry failure ∧ operationOf? entry = .error failure := by
  have kind := planned_kind entry
  cases compound : (toldKind entry).compound? with
  | some shape =>
      rw [compound] at kind
      refine .inr (.inr ⟨_, .compound shape compound, ?_⟩)
      simp [operationOf?, kind, bind, Except.bind]
  | none =>
      rw [compound] at kind
      cases planned : plannable? entry with
      | none =>
          refine .inl ⟨rfl, rfl, ?_⟩
          simp [operationOf?, kind, planned, bind, Except.bind, pure, Except.pure]
      | some known =>
          cases read : Operation.read entry with
          | valid operation =>
              refine .inr (.inl ⟨operation, rfl, rfl, rfl, ?_⟩)
              simp [operationOf?, kind, planned, read, bind, Except.bind, pure, Except.pure]
          | faulty faults =>
              refine .inr (.inr ⟨_, .malformed known planned faults read, ?_⟩)
              simp [operationOf?, kind, planned, read, bind, Except.bind]

theorem plannable_simple {entry : Json} {kind : OperationKind}
    (planned : plannable? entry = some kind) : (toldKind entry).compound? = none := by
  unfold plannable? at planned
  cases told : toldKind entry <;> simp_all [Json.compound?, Json.asText?]

theorem stops_iff (entry : Json) (failure : PlanFailure) :
    Stops entry failure ↔ operationOf? entry = .error failure := by
  constructor
  · intro stops
    have kind := planned_kind entry
    cases stops with
    | compound shape told =>
        rw [told] at kind
        simp [operationOf?, kind, bind, Except.bind]
    | malformed known planned faults refused =>
        rw [plannable_simple planned] at kind
        simp [operationOf?, kind, planned, refused, bind, Except.bind]
  · intro ends
    rcases entry_cases entry with ⟨_, _, left⟩ | ⟨_, _, _, _, read⟩ | ⟨other, stops, same⟩
    · simp [left] at ends
    · simp [read] at ends
    · rw [same, Except.error.injEq] at ends
      exact ends ▸ stops

theorem passes_iff (entry : Json) :
    Passes entry ↔ ∃ operation, operationOf? entry = .ok operation := by
  rcases entry_cases entry with ⟨simple, unplanned, left⟩ | ⟨operation, simple, _, read, taken⟩ |
    ⟨failure, stops, ends⟩
  · simp [Passes, simple, unplanned, left]
  · simp [Passes, simple, read, taken]
  · simp only [ends, reduceCtorEq, exists_false, iff_false]
    rintro ⟨simple, readable⟩
    cases stops with
    | compound kind told => simp [simple] at told
    | malformed kind planned faults refused =>
        obtain ⟨operation, read⟩ := readable (by simp [planned])
        simp [refused] at read

/-! Lists of entries. -/

/-- The operations are those of the entries that may be planned, in the order of the entries. -/
def Plans (entries : List Json) (operations : List Operation) : Prop :=
  List.Forall₂ (fun entry operation => Operation.read entry = .valid operation)
    (entries.filter fun entry => (plannable? entry).isSome) operations

theorem operations_cons (entry : Json) (rest : List Json) :
    operationsIn (entry :: rest) =
      match operationOf? entry with
      | .ok operation => (operationsIn rest).map (operation.toList ++ ·)
      | .error failure => .error failure := by
  rw [operationsIn]
  cases operationOf? entry with
  | error failure => rfl
  | ok operation => cases operationsIn rest <;> rfl

theorem operations_ok_iff (entries : List Json) (operations : List Operation) :
    operationsIn entries = .ok operations ↔
      (∀ entry ∈ entries, (toldKind entry).compound? = none) ∧ Plans entries operations := by
  induction entries generalizing operations with
  | nil => simp [operationsIn, Plans, eq_comm]
  | cons entry rest ih =>
      rw [operations_cons]
      rcases entry_cases entry with ⟨simple, unplanned, left⟩ |
        ⟨operation, simple, planned, read, taken⟩ | ⟨failure, stops, ends⟩
      · have same : (operationsIn rest).map (([] : List Operation) ++ ·) = operationsIn rest := by
          cases operationsIn rest <;> rfl
        simp only [left, Option.toList_none, same, ih]
        simp [Plans, simple, unplanned]
      · have plans : Plans (entry :: rest) operations ↔
            ∃ others, Plans rest others ∧ operations = operation :: others := by
          simp [Plans, planned, List.forall₂_cons_left_iff, read, eq_comm]
        rw [plans]
        simp only [taken, Option.toList_some, List.singleton_append, List.forall_mem_cons, simple,
          true_and]
        constructor
        · intro made
          cases later : operationsIn rest with
          | error failure => simp [later, Except.map] at made
          | ok others =>
              obtain ⟨kinds, follow⟩ := (ih others).mp later
              simp only [later, Except.map, Except.ok.injEq] at made
              exact ⟨kinds, others, follow, made.symm⟩
        · rintro ⟨kinds, others, follow, rfl⟩
          rw [(ih others).mpr ⟨kinds, follow⟩]
          rfl
      · simp only [ends, reduceCtorEq, false_iff, not_and, List.forall_mem_cons]
        rintro ⟨simple, _⟩ plans
        cases stops with
        | compound kind told => simp [simple] at told
        | malformed kind planned faults refused =>
            simp [Plans, planned, List.forall₂_cons_left_iff, refused] at plans

theorem operations_error_iff (entries : List Json) (failure : PlanFailure) :
    operationsIn entries = .error failure ↔
      ∃ before entry after, entries = before ++ entry :: after ∧
        (∀ other ∈ before, Passes other) ∧ Stops entry failure := by
  induction entries with
  | nil => simp [operationsIn]
  | cons entry rest ih =>
      rw [operations_cons]
      cases outcome : operationOf? entry with
      | error first =>
          have stops := (stops_iff entry first).mpr outcome
          constructor
          · rintro ⟨⟩
            exact ⟨[], entry, rest, rfl, by simp, stops⟩
          · rintro ⟨before, stop, after, split, passed, stopped⟩
            cases before with
            | nil =>
                obtain ⟨rfl, rfl⟩ := List.cons.inj split
                rw [(stops_iff entry failure).mp stopped] at outcome
                simpa using outcome.symm
            | cons other before =>
                obtain ⟨rfl, rfl⟩ := List.cons.inj split
                obtain ⟨operation, passes⟩ :=
                  (passes_iff entry).mp (passed entry List.mem_cons_self)
                simp [passes] at outcome
      | ok operation =>
          have passes := (passes_iff entry).mpr ⟨operation, outcome⟩
          have goes : (operationsIn rest).map (operation.toList ++ ·) = .error failure ↔
              operationsIn rest = .error failure := by
            cases operationsIn rest <;> simp [Except.map]
          simp only [goes, ih]
          constructor
          · rintro ⟨before, stop, after, rfl, passed, stopped⟩
            have all := List.forall_mem_cons.mpr ⟨passes, passed⟩
            exact ⟨entry :: before, stop, after, rfl, all, stopped⟩
          · rintro ⟨before, stop, after, split, passed, stopped⟩
            cases before with
            | nil =>
                obtain ⟨rfl, rfl⟩ := List.cons.inj split
                simp [(stops_iff entry failure).mp stopped] at outcome
            | cons other before =>
                obtain ⟨rfl, rfl⟩ := List.cons.inj split
                exact ⟨before, stop, after, rfl,
                  fun other inside => passed other (List.mem_cons_of_mem _ inside), stopped⟩

/-! Replies. -/

def Gives [Json.Stack] (text : String) (entries : List Json) : Prop :=
  ∃ document, Recovery.read text = .ok document ∧ entriesOf document = .ok entries

/-- Why the planning ends without a plan, given what the model answered. -/
inductive Unplanned [Json.Stack] (answered : Except PlannerError String) : PlanFailure → Prop where
  | unanswered (cause : PlannerError) (failed : answered = .error cause) :
      Unplanned answered (.reported cause)
  | unreadable (text : String) (told : answered = .ok text) (cause : Recovery.Cause)
      (failed : Recovery.read text = .error cause) : Unplanned answered (.ofRecovery cause)
  | unlisted (text : String) (told : answered = .ok text) (document : Json)
      (read : Recovery.read text = .ok document) (cause : PlannerError)
      (failed : entriesOf document = .error cause) : Unplanned answered (.reported cause)
  | stopped (text : String) (told : answered = .ok text) (before : List Json) (entry : Json)
      (after : List Json) (gives : Gives text (before ++ entry :: after))
      (passed : ∀ other ∈ before, Passes other) (failure : PlanFailure)
      (stops : Stops entry failure) : Unplanned answered failure

def planAnswer (assistant : Assistant) (command : String) (names : List String)
    (state : BuilderState) (fields : List DataField) : Except PlannerError String :=
  assistant.answer Prompt.planInstructions (Prompt.planRequest command names state fields)

section Request
variable [Json.Stack]
variable {assistant : Assistant} {command : String} {names : List String} {state : BuilderState}
  {fields : List DataField}

theorem plan_ok_iff (plan : Plan) :
    assistant.plan command names state fields = .ok plan ↔
      ∃ text entries, assistant.planAnswer command names state fields = .ok text ∧
        Gives text entries ∧ operationsIn entries = .ok plan.operations ∧
        plan.intent = command ∧ plan.confidence = confidence := by
  unfold Assistant.plan planAnswer
  cases answered : assistant.answer Prompt.planInstructions
      (Prompt.planRequest command names state fields) with
  | error cause => simp
  | ok text =>
      simp only [planOf, operationsOf, Gives]
      cases read : Recovery.read text with
      | error cause => simp [read]
      | ok document =>
          cases listed : entriesOf document with
          | error cause => simp [read, listed, Except.map]
          | ok entries =>
              cases made : operationsIn entries with
              | error failure => simp [read, listed, made, Except.map]
              | ok operations =>
                  obtain ⟨intent, sureness, others⟩ := plan
                  simp only [listed, made, Except.map, Except.ok.injEq, Plan.mk.injEq]
                  constructor
                  · rintro ⟨rfl, rfl, rfl⟩
                    exact ⟨text, entries, rfl, ⟨document, read, listed⟩, made, rfl, rfl⟩
                  · rintro ⟨_, _, rfl, ⟨_, again, relisted⟩, remade, rfl, rfl⟩
                    simp_all

theorem unplanned_of_error {failure : PlanFailure}
    (ends : assistant.plan command names state fields = .error failure) :
    Unplanned (assistant.planAnswer command names state fields) failure := by
  unfold Assistant.plan at ends
  cases answered : assistant.answer Prompt.planInstructions
      (Prompt.planRequest command names state fields) with
  | error cause =>
      simp only [answered, Except.error.injEq] at ends
      exact ends ▸ .unanswered cause answered
  | ok text =>
      simp only [answered, planOf, operationsOf] at ends
      cases read : Recovery.read text with
      | error cause =>
          simp only [read, Except.error.injEq] at ends
          exact ends ▸ .unreadable text answered cause read
      | ok document =>
          cases listed : entriesOf document with
          | error cause =>
              simp only [read, listed, Except.map, Except.error.injEq] at ends
              exact ends ▸ .unlisted text answered document read cause listed
          | ok entries =>
              cases made : operationsIn entries with
              | ok operations => simp [read, listed, made, Except.map] at ends
              | error first =>
                  simp only [read, listed, made, Except.map, Except.error.injEq] at ends
                  obtain ⟨before, entry, after, rfl, passed, stops⟩ :=
                    (operations_error_iff entries first).mp made
                  exact ends ▸ .stopped text answered before entry after
                    ⟨document, read, listed⟩ passed first stops

theorem error_of_unplanned {failure : PlanFailure}
    (unplanned : Unplanned (assistant.planAnswer command names state fields) failure) :
    assistant.plan command names state fields = .error failure := by
  unfold planAnswer at unplanned
  unfold Assistant.plan
  cases unplanned with
  | unanswered cause failed => rw [failed]
  | unreadable text told cause failed => simp only [told, planOf, failed]
  | unlisted text told document read cause failed =>
      simp only [told, planOf, read, operationsOf, failed, Except.map]
  | stopped text told before entry after gives passed failure stops =>
      obtain ⟨document, read, listed⟩ := gives
      have breaks := (operations_error_iff _ failure).mpr ⟨before, entry, after, rfl, passed, stops⟩
      simp only [told, planOf, read, operationsOf, listed, breaks, Except.map]

theorem compound_kind_iff (kind : Json.Compound) :
    assistant.plan command names state fields = .error (.compoundKind kind) ↔
      ∃ text before entry after, assistant.planAnswer command names state fields = .ok text ∧
        Gives text (before ++ entry :: after) ∧ (∀ other ∈ before, Passes other) ∧
        (toldKind entry).compound? = some kind := by
  constructor
  · intro ends
    generalize same : PlanFailure.compoundKind kind = failure at ends
    cases unplanned_of_error ends with
    | unanswered | unlisted => cases same
    | unreadable text told cause failed => cases cause <;> cases same
    | stopped text told before entry after gives passed failure stops =>
        cases stops with
        | malformed => cases same
        | compound other found =>
            cases same
            exact ⟨text, before, entry, after, told, gives, passed, found⟩
  · rintro ⟨text, before, entry, after, told, gives, passed, found⟩
    exact error_of_unplanned
      (.stopped text told before entry after gives passed _ (.compound kind found))

theorem too_deep_iff (opened : Json.Compound) :
    assistant.plan command names state fields = .error (.tooDeep opened) ↔
      ∃ text, assistant.planAnswer command names state fields = .ok text ∧
        Recovery.read text = .error (.tooDeep opened) := by
  constructor
  · intro ends
    generalize same : PlanFailure.tooDeep opened = failure at ends
    cases unplanned_of_error ends with
    | unanswered | unlisted => cases same
    | unreadable text told cause failed =>
        cases cause <;> cases same
        exact ⟨text, told, failed⟩
    | stopped text told before entry after gives passed failure stops =>
        cases stops <;> cases same
  · rintro ⟨text, told, failed⟩
    exact error_of_unplanned (.unreadable text told (.tooDeep opened) failed)

theorem reported_or_broken_off {failure : PlanFailure}
    (ends : assistant.plan command names state fields = .error failure) :
    (∃ cause, failure = .reported cause) ∨ (∃ kind, failure = .compoundKind kind) ∨
      ∃ opened, failure = .tooDeep opened := by
  cases unplanned_of_error ends with
  | unanswered cause | unlisted _ _ _ _ cause => exact .inl ⟨cause, rfl⟩
  | unreadable text told cause failed =>
      cases cause with
      | tooDeep opened => exact .inr (.inr ⟨opened, rfl⟩)
      | _ => exact .inl ⟨_, rfl⟩
  | stopped text told before entry after gives passed failure stops =>
      cases stops with
      | compound kind => exact .inr (.inl ⟨kind, rfl⟩)
      | malformed => exact .inl ⟨_, rfl⟩

end Request

/-- How the planning for a command ends, whatever the model answers. There is a plan exactly if the
reply gives a list of operations that can be read and in which no kind is a list or an object; the
plan then has the operations of the entries that may be planned, in order. The planning breaks off
without a report exactly if the first entry that stops the reading has such a kind, or if the lists
and objects of the reply stand too deep. In all other cases an error is reported. -/
theorem plan_ends [Json.Stack] (assistant : Assistant) (command : String) (names : List String)
    (state : BuilderState) (fields : List DataField) :
    (∀ plan, assistant.plan command names state fields = .ok plan ↔
      ∃ text entries, assistant.planAnswer command names state fields = .ok text ∧
        Gives text entries ∧ (∀ entry ∈ entries, (toldKind entry).compound? = none) ∧
        Plans entries plan.operations ∧ plan.intent = command ∧ plan.confidence = confidence) ∧
    (∀ kind, assistant.plan command names state fields = .error (.compoundKind kind) ↔
      ∃ text before entry after, assistant.planAnswer command names state fields = .ok text ∧
        Gives text (before ++ entry :: after) ∧ (∀ other ∈ before, Passes other) ∧
        (toldKind entry).compound? = some kind) ∧
    (∀ opened, assistant.plan command names state fields = .error (.tooDeep opened) ↔
      ∃ text, assistant.planAnswer command names state fields = .ok text ∧
        Recovery.read text = .error (.tooDeep opened)) ∧
    ∀ failure, assistant.plan command names state fields = .error failure →
      (∃ cause, failure = .reported cause) ∨ (∃ kind, failure = .compoundKind kind) ∨
        ∃ opened, failure = .tooDeep opened := by
  refine ⟨?_, compound_kind_iff, too_deep_iff, fun failure => reported_or_broken_off⟩
  intro plan
  simp only [plan_ok_iff, operations_ok_iff, and_assoc]

def replying (text : String) : Assistant := .ok fun _ _ => .ok (.bare (.text text))

def listedKind : String := "[\x7b\"op\": []\x7d]"

def isListedKind : Json → Bool
  | .list [.object [(name, .list [])]] => name == "op"
  | _ => false

theorem listed_kind_given : Gives listedKind [.object [("op", .list [])]] := by
  have shown : (Recovery.read listedKind).toOption.any isListedKind = true := by decide +kernel
  cases read : Recovery.read listedKind with
  | error cause => simp [read, Except.toOption] at shown
  | ok document =>
      replace shown : isListedKind document = true := by
        simpa [read, Except.toOption] using shown
      unfold isListedKind at shown
      split at shown
      · obtain rfl := beq_iff_eq.mp shown
        exact ⟨_, read, rfl⟩
      · cases shown

/-- Such a reply breaks the planning off: there is neither a plan nor a report. -/
theorem listed_kind_breaks_off :
    (replying listedKind).plan "line chart" [] {} [] = .error (.compoundKind .list) := by
  have spoken : Reply.isBlankText listedKind = false := by decide +kernel
  have told : (replying listedKind).planAnswer "line chart" [] {} [] = .ok listedKind := by
    simp [planAnswer, answer, replying, Reply.text, spoken]
  refine ((plan_ends (replying listedKind) "line chart" [] {} []).2.1 .list).mpr ?_
  exact ⟨listedKind, [], _, [], told, listed_kind_given, by simp, rfl⟩

end Assistant
end Chartwright
