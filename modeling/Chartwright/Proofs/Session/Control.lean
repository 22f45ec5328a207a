import Chartwright.Proofs.Session.Lock
import Chartwright.Proofs.Session.Validity

/-!
The builder's controls. An update either raises and changes nothing at all, or it changes just what
it names: the attributes given, the specification compiled for them, and one snapshot of the chart
before. The latter may be broken off by a copy that there is no room for.
-/

namespace Chartwright
open Form

namespace Session

/-- What updates that are let through and accepted leave. -/
structure Controlled (before after : Session) (entries : Members) (description : Option String) :
    Prop where
  attributes : ∀ attr : StateAttribute, attr.Updated entries before.chart.state after.chart.state
  spec : after.chart.spec = Spec.compile after.chart.state before.fields
  rows : after.rows = before.rows
  fields : after.fields = before.fields
  plan : after.lastPlan = before.lastPlan
  history : after.history = before.captured (describedAs "Builder change" description)

/-- Why updates are refused: by themselves, or as part of the state that they are laid over. -/
inductive Refused (state : BuilderState) (entries : Members) (faults : List Fault) : Prop where
  | alone (read : PartialState.read (.object entries) = .faulty faults)
  | merged (part : PartialState) (read : PartialState.read (.object entries) = .valid part)
      (whole : BuilderState.read (.object (state.laidOver part)) = .faulty faults)

/-- How an update by the controls ends, and what it leaves. -/
structure ControlEnds (fits : Copy → Bool) (before : Session) (entries : Members)
    (description : Option String) (result : EStateM.Result (Halt EditError) Session Unit) :
    Prop where
  locked : result = .error (.raised .customSpec) before ↔ before.isCustom = true
  refused : ∀ faults, result = .error (.raised (.faulty faults)) before ↔
    before.isCustom = false ∧ Refused before.chart.state entries faults
  named : (∃ faults, Refused before.chart.state entries faults) ↔
    ∃ attr : StateAttribute, ∃ document faults, entries.lookup attr.name = some document ∧
      attr.read document = .faulty faults
  either : result = .error (.raised .customSpec) before ∨
    (∃ faults, result = .error (.raised (.faulty faults)) before) ∨
    ∃ after, before.Controlled after entries description ∧
      Limited fits (before.changeCopies after.chart) before after () result

theorem refused_iff {state : BuilderState} (valid : state.Valid) (entries : Members)
    (faults : List Fault) :
    Refused state entries faults ↔
      (PartialState.read (.object entries)).andThen state.merge = .faulty faults := by
  constructor
  · intro refused
    cases refused with
    | alone read =>
        rw [read]
        rfl
    | merged part read whole =>
        rw [read, ← whole]
        exact BuilderState.merge_reads valid (PartialState.part_yields _ part read)
  · intro both
    cases read : PartialState.read (.object entries) with
    | faulty causes =>
        rw [read] at both
        cases both
        exact .alone read
    | valid part =>
        rw [read] at both
        refine .merged part read ?_
        rw [← BuilderState.merge_reads valid (PartialState.part_yields _ part read)]
        exact both

/-- The controls are atomic: they raise for one of two causes and leave the session as it was, or
they replace the attributes that are named by what is read of them. The latter may be broken off by
one of the copies that it takes. -/
theorem control_all_or_nothing {rows : List Row} {limit : Int} {session : Session}
    (reached : LegallyReached rows limit session) (fits : Copy → Bool) (entries : Members)
    (description : Option String) :
    session.ControlEnds fits entries description
      (Work.updateBuilder fits (.object entries) description session) := by
  have valid := (legally_reached_valid reached).live
  have refusal := refused_iff valid entries
  have named : (∃ faults, Refused session.chart.state entries faults) ↔
      ∃ attr : StateAttribute, ∃ document faults, entries.lookup attr.name = some document ∧
        attr.read document = .faulty faults := by
    simp only [refusal]
    exact BuilderState.refused_iff valid.2.2 entries
  cases custom : session.isCustom with
  | true =>
      -- A custom specification is refused before the updates are looked at.
      have locked : Work.updateBuilder fits (.object entries) description session =
          .error (.raised .customSpec) session := by simp [Work.updateBuilder, custom]
      rw [locked]
      exact
        { locked := by simp [custom]
          refused := by simp [custom]
          named
          either := .inl rfl }
  | false =>
      have unlocked : Work.updateBuilder fits (.object entries) description session =
          Work.update fits (.object entries) description session := by
        simp [Work.updateBuilder, custom]
      rw [unlocked, Work.update_read_run description session rfl]
      cases both : (PartialState.read (.object entries)).andThen session.chart.state.merge with
      | faulty faults =>
          exact
            { locked := by simp [custom]
              refused := by simp [custom, refusal, both]
              named
              either := .inr (.inl ⟨faults, rfl⟩) }
      | valid state =>
          have controlled : session.Controlled (session.replaceState state
              (describedAs "Builder change" description)) entries description :=
            { attributes := (BuilderState.updated_iff valid.2.2 entries state).mp both
              spec := rfl
              rows := rfl
              fields := rfl
              plan := rfl
              history := rfl }
          have limited : Limited fits (session.changeCopies (session.compiled state)) session _ ()
              ((Work.mutate fits (fun _ => state) (describedAs "Builder change" description) :
                Work EditError Unit) session) := Work.mutate_limited (fun _ => state) _ session
          simp only
          generalize (Work.mutate fits (fun _ => state) (describedAs "Builder change" description) :
            Work EditError Unit) session = result at limited ⊢
          exact
            { locked := by cases limited <;> simp [custom]
              refused := by cases limited <;> simp [refusal, both]
              named
              either := .inr (.inr ⟨_, controlled, limited⟩) }

def titledUnmarked : Members := [("title", .text "Sales"), ("mark", .null)]

theorem titled_unmarked_refused :
    LegallyReached [] 2 blank ∧
      (∃ part, PartialState.read (.object titledUnmarked) = .valid part) ∧
      (∃ faults, Work.updateBuilder Copy.isMade (.object titledUnmarked) none blank =
        .error (.raised (.faulty faults)) blank) ∧
      ∃ after, Work.updateBuilder Copy.isMade (.object [("title", .text "Sales")]) none blank =
          .ok () after ∧
        blank.Controlled after [("title", .text "Sales")] none := by
  have reached : LegallyReached [] 2 blank := .start blank blank_starts
  have ends := control_all_or_nothing reached Copy.isMade titledUnmarked none
  have titled := control_all_or_nothing reached Copy.isMade [("title", .text "Sales")] none
  obtain ⟨faults, refused⟩ := ends.named.mpr ⟨.mark, .null, _, rfl, rfl⟩
  refine ⟨reached, ⟨_, rfl⟩, ⟨faults, (ends.refused faults).mpr ⟨rfl, refused⟩⟩, ?_⟩
  have returned : (match Work.updateBuilder Copy.isMade (.object [("title", .text "Sales")]) none
      blank with
    | .ok _ _ => true
    | .error _ _ => false) = true := by decide +kernel
  rcases titled.either with locked | ⟨faults, refused⟩ | ⟨after, controlled, limited⟩
  · rw [locked] at returned
    cases returned
  · rw [refused] at returned
    cases returned
  · generalize Work.updateBuilder Copy.isMade (.object [("title", .text "Sales")]) none blank =
      result at limited returned ⊢
    cases limited with
    | returned roomy => exact ⟨after, rfl, controlled⟩
    | brokenOff copy made left off => cases returned

def deepUpdates : Json :=
  .object [("encodings", .object [("color", .object
    [("field", .text "Region"), ("type", .text "nominal"),
     ("scale", .object [("domain", .list [Operation.nested 600])])])])]

theorem deep_state_breaks_off :
    ¬∀ (rows : List Row) (limit : Int) (session : Session), LegallyReached rows limit session →
      ∀ entries description,
        (∃ after, Work.updateBuilder Copy.isMade (.object entries) description session =
          .ok () after) ∨
        ∃ cause, Work.updateBuilder Copy.isMade (.object entries) description session =
          .error (.raised cause) session := by
  intro always
  let deep := left ((Call.update deepUpdates none).work Copy.isMade blank)
  have reached : LegallyReached [] 2 deep :=
    .call blank (.start blank blank_starts) (.update deepUpdates none) trivial Copy.isMade
  have breaks : (match Work.updateBuilder Copy.isMade (.object []) none deep with
      | .error (.outOfStack _) _ => true
      | _ => false) = true := by decide +kernel
  rcases always [] 2 deep reached [] none with ⟨after, returned⟩ | ⟨cause, raised⟩
  · rw [returned] at breaks
    cases breaks
  · rw [raised] at breaks
    cases breaks

end Session
end Chartwright
