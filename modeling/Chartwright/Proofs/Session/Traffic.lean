import Chartwright.Proofs.Session.Flags
import Chartwright.Proofs.Session.Loading
import Chartwright.Proofs.Session.Outcome
import Mathlib.Logic.Relation

/-!
Several commands on one session at a time. A command reads the session when it asks its planner, and
changes the session when the answer has come; in between others may change it. What the command read
is not looked at again then, so an answer can take the place of a chart it was not made for. The
chart that gives way is on the list of snapshots, one undo away, if there is room for it.
-/

namespace Chartwright
open Form

namespace History
variable {α : Type} {same : α → α → Bool}

theorem capture_taken (alike : Alike same) (history : History α) (content : α)
    (description : Option String) (positive : 0 < history.limit) :
    ∃ newest older, (history.capture same content description).1 =
      { history with taken := newest :: older, undone := [] } ∧
        same newest.content content = true := by
  unfold capture
  cases list : history.taken with
  | nil => exact ⟨_, _, rfl, alike.refl content⟩
  | cons newest older =>
      cases known : same newest.content content with
      | true => exact ⟨newest, older, by simp [known], known⟩
      | false =>
          obtain ⟨room, limit⟩ := Nat.exists_eq_succ_of_ne_zero positive.ne'
          refine ⟨⟨content, description⟩, (newest :: older).take room, ?_, alike.refl content⟩
          simp [known, limit]

theorem replaced_behind (alike : Alike same) {history : History α} {live target : α}
    (description : Option String) (positive : 0 < history.limit)
    (moved : same live target = false) :
    (history.capture same live description).1.isBehind same target = true := by
  obtain ⟨newest, older, taken, held⟩ := capture_taken alike history live description positive
  have apart : same newest.content target = false := by
    rw [Bool.eq_false_iff] at moved ⊢
    exact fun met => moved (alike.trans _ _ _ (alike.symm _ _ held) met)
  rw [taken]
  simp [isBehind, holds, apart]

theorem undo_replaced (alike : Alike same) {history : History α} {live target : α}
    (description : Option String) (room : 1 < history.limit) (moved : same live target = false) :
    ∃ content, ((history.capture same live description).1.undo same (some target)).2 =
      some content ∧ same content live = true := by
  have positive := Nat.lt_of_succ_lt room
  have behind := replaced_behind alike description positive moved
  obtain ⟨newest, older, taken, held⟩ := capture_taken alike history live description positive
  refine ⟨newest.content, ?_, held⟩
  -- The target goes on top first, and there is room for the snapshot below it.
  obtain ⟨more, limit⟩ : ∃ more, history.limit = more + 2 := ⟨history.limit - 2, by omega⟩
  rw [taken] at behind ⊢
  simp only [undo, if_pos behind, capture_behind _ behind]
  rw [limit]
  rfl

end History

namespace Session
variable {session after : Session} {description : Option String}

theorem by_hand_reached {rows : List Row} {limit : Int} {session : Session}
    (reached : Reached rows limit session) (document : Json) :
    Reached rows limit (session.setSpecByHand document).1 := by
  have ends := by_hand_ends session document
  generalize session.setSpecByHand document = result at *
  have performed {spec : Members} {part : Option PartialState} {edited : Session}
      (set : session.setSpec spec part (some "Manual spec edit") = .valid edited) :
      Reached rows limit edited := by
    have call := Reached.call session reached (.setSpec spec part (some "Manual spec edit"))
    rwa [Call.perform, set] at call
  cases ends with
  | refused cause => exact reached
  | bare part edited absent set => exact performed set
  | filled part edited others inline set =>
      have call := Reached.call edited (performed set) (.setDataOnly others none)
      rwa [Call.perform, loaded_session] at call

/-- What gave way after a snapshot is one undo away, if there is room for it. -/
theorem replaced_undone (history : after.history = session.captured description)
    (moved : session.chart.same after.chart = false) (room : 1 < session.history.limit) :
    after.undo.2 = true ∧ after.undo.1.chart.same session.chart = true := by
  obtain ⟨content, leads, back⟩ :=
    History.undo_replaced same_chart_alike description room moved
  have undone : (after.history.undo Chart.same (some after.chart)).2 = some content := by
    rw [history]
    exact leads
  simp [undo, undone, back]

theorem replaced_lost (history : after.history = session.captured description)
    (moved : session.chart.same after.chart = false) (room : session.history.limit = 1) :
    after.undo.2 = false ∧ after.undo.1.chart = after.chart := by
  have positive : 0 < session.history.limit := room ▸ Nat.one_pos
  have behind := History.replaced_behind same_chart_alike description positive moved
  have loses := History.undo_behind_loses (by rw [History.capture_limit, room]) behind
  have undone : (after.history.undo Chart.same (some after.chart)).2 = none := by
    rw [history, captured, loses]
  simp [undo, undone]

end Session

/-- A command that has asked its planner, and what it read of the session then. -/
structure Inquiry where
  asked : Session
  command : String
  revises : Bool
  allow : Bool

namespace Inquiry

def task (inquiry : Inquiry) : Task :=
  inquiry.asked.task inquiry.command inquiry.revises inquiry.allow

theorem task_asked (session : Session) (command : String) (revises allow : Bool) :
    task ⟨session, command, revises, allow⟩ = session.task command revises allow := rfl

/-- What an answer does to the session that there is when it comes. -/
inductive Finishes (inquiry : Inquiry) (session : Session) : Session → Prop where
  | planned (command : String) (task : inquiry.task = .plan command)
      (answer : Except PlannerError Plan) :
      Finishes inquiry session (session.finishPlan command answer).1
  | revised (command : String) (sent : Members) (task : inquiry.task = .revise command sent)
      (answer : SpecEdit) : Finishes inquiry session (session.finishRevision command answer).1

/-- An answer replaces no more than it was asked for: a plan no custom specification, unless that
is allowed, and a revision only the specification that was sent. -/
structure Fair (inquiry : Inquiry) (before after : Session) : Prop where
  planned : ∀ command, inquiry.task = .plan command → inquiry.allow = false →
    before.isCustom = true → after.chart = before.chart
  revised : ∀ command sent, inquiry.task = .revise command sent →
    after.chart.spec ≠ before.chart.spec → before.chart.spec = sent

theorem finish_ends {inquiry : Inquiry} {session after : Session}
    (finishes : inquiry.Finishes session after) :
    ∃ plan, after = { session with lastPlan := plan } ∨
      ∃ call : Call, call.IsEdit ∧ (call.perform { session with lastPlan := plan }).2 = .done ∧
        after = (call.perform { session with lastPlan := plan }).1 := by
  cases finishes with
  | planned command task answer =>
      cases answer with
      | error cause => exact ⟨session.lastPlan, .inl rfl⟩
      | ok plan =>
          rcases (session.finish_plan_ends command plan).2 with kept | applied
          · exact ⟨some plan, .inl kept⟩
          · exact ⟨session.lastPlan,
              .inr ⟨.applyPlan plan (Session.commandText command), trivial, rfl, applied⟩⟩
  | revised command sent task answer =>
      unfold Session.finishRevision
      split
      · rename_i spec _ _
        refine ⟨some (Session.revisionPlan command),
          .inr ⟨.setSpec spec none (Session.commandText command), trivial, rfl, ?_⟩⟩
        simp [Call.perform, Session.ended, Session.setSpec, Checked.map, Session.command_described]
      · exact ⟨session.lastPlan, .inl rfl⟩

theorem finish_replaces {inquiry : Inquiry} {session after : Session}
    (finishes : inquiry.Finishes session after) :
    after.chart.same session.chart = true ∨
      session.chart.same after.chart = false ∧
        ∃ description, after.history = session.captured description := by
  cases moved : session.chart.same after.chart with
  | true => exact .inl (same_chart_alike.symm _ _ moved)
  | false =>
      obtain ⟨plan, rfl | ⟨call, edits, returned, rfl⟩⟩ := finish_ends finishes
      · exact .inl (same_chart_alike.refl _)
      · exact .inr ⟨rfl, (Call.edit_returns _ call edits returned).history⟩

/-! What was read when the planner was asked. -/

theorem planned_allowed {inquiry : Inquiry} {command : String}
    (task : inquiry.task = .plan command) (refused : inquiry.allow = false) :
    inquiry.asked.isCustom = false := by
  unfold Inquiry.task Session.task at task
  cases custom : inquiry.asked.isCustom with
  | false => rfl
  | true =>
      simp only [custom, refused, Bool.true_and, Bool.not_false, ↓reduceIte] at task
      split at task
      · cases task
      · split at task <;> cases task

theorem revised_sent {inquiry : Inquiry} {command : String} {sent : Members}
    (task : inquiry.task = .revise command sent) : sent = inquiry.asked.chart.spec := by
  unfold Inquiry.task Session.task at task
  simp only at task
  split at task
  · cases task
  · split at task
    · cases task
      rfl
    · split at task <;> cases task

theorem fair_of_unchanged {inquiry : Inquiry} {session : Session} (after : Session)
    (unchanged : session.chart.spec = inquiry.asked.chart.spec) : inquiry.Fair session after where
  planned command task refused custom := by
    have built := planned_allowed task refused
    rw [Session.isCustom, unchanged] at custom
    rw [Session.isCustom, custom] at built
    cases built
  revised command sent task replaced := by
    rw [unchanged, revised_sent task]

end Inquiry

/-- A session and the commands that wait for an answer. -/
structure Traffic where
  session : Session
  waiting : List Inquiry := []

namespace Traffic

/-- What can happen next. A command asks its planner, an answer comes, or a command goes without
one: because there is nothing to ask, or because it was broken off. All other edits are done at
once. -/
inductive Step : Traffic → Traffic → Prop where
  | ask (session : Session) (waiting : List Inquiry) (command : String) (revises allow : Bool) :
      Step ⟨session, waiting⟩ ⟨session, ⟨session, command, revises, allow⟩ :: waiting⟩
  | finish (session after : Session) (front back : List Inquiry) (inquiry : Inquiry)
      (finishes : inquiry.Finishes session after) :
      Step ⟨session, front ++ inquiry :: back⟩ ⟨after, front ++ back⟩
  | leave (session : Session) (front back : List Inquiry) (inquiry : Inquiry) :
      Step ⟨session, front ++ inquiry :: back⟩ ⟨session, front ++ back⟩
  | byHand (session : Session) (waiting : List Inquiry) (document : Json) :
      Step ⟨session, waiting⟩ ⟨(session.setSpecByHand document).1, waiting⟩
  | control (session next : Session) (waiting : List Inquiry) (updates : Json)
      (description : Option String)
      (returned : session.updateBuilder updates description = .ok next) :
      Step ⟨session, waiting⟩ ⟨next, waiting⟩
  | call (session : Session) (waiting : List Inquiry) (call : Call) :
      Step ⟨session, waiting⟩ ⟨(call.perform session).1, waiting⟩

abbrev Leads : Traffic → Traffic → Prop := Relation.ReflTransGen Step

theorem run_leads {Failure : Type} {planner : AnyPlanner Failure} {session after : Session}
    {command : String} {allow : Bool} {outcome : Outcome} (waiting : List Inquiry)
    (returned : session.runBy planner command allow = .ok (after, outcome)) :
    Leads ⟨session, waiting⟩ ⟨after, waiting⟩ := by
  have asks := Step.ask session waiting command planner.revise.isSome allow
  have ends {next : Session} (finishes : Inquiry.Finishes
      ⟨session, command, planner.revise.isSome, allow⟩ session next) :
      Leads ⟨session, waiting⟩ ⟨next, waiting⟩ :=
    .tail (.single asks) (.finish session next [] waiting _ finishes)
  unfold Session.runBy at returned
  rw [← Inquiry.task_asked] at returned
  split at returned
  · rw [← (Prod.mk.inj (Except.ok.inj returned)).1]
  · rename_i text sent asked
    cases answered : planner.revised text sent session.fields with
    | error failure =>
        rw [answered] at returned
        cases returned
    | ok edit =>
        rw [answered, Except.map, Except.ok.injEq] at returned
        rw [show after = (session.finishRevision text edit).1 by rw [returned]]
        exact ends (.revised text sent asked edit)
  · rename_i text asked
    split at returned
    · rename_i plan planned
      rw [show after = (session.finishPlan text (.ok plan)).1 by rw [Except.ok.inj returned]]
      exact ends (.planned text asked (.ok plan))
    · split at returned
      · cases returned
        exact .refl
      · cases returned

theorem mem_put_back {front back : List Inquiry} {inquiry other : Inquiry}
    (inside : inquiry ∈ front ++ back) : inquiry ∈ front ++ other :: back := by
  rcases List.mem_append.mp inside with there | there
  · exact List.mem_append_left _ there
  · exact List.mem_append_right _ (List.mem_cons_of_mem other there)

theorem step_waits {before after : Traffic} (step : Step before after) {inquiry : Inquiry}
    (waits : inquiry ∈ after.waiting) :
    inquiry ∈ before.waiting ∨
      inquiry.asked = before.session ∧ after = ⟨before.session, inquiry :: before.waiting⟩ := by
  cases step with
  | ask session waiting command revises allow =>
      rcases List.mem_cons.mp waits with rfl | old
      · exact .inr ⟨rfl, rfl⟩
      · exact .inl old
  | finish session after front back other finishes => exact .inl (mem_put_back waits)
  | leave session front back other => exact .inl (mem_put_back waits)
  | byHand session waiting document => exact .inl waits
  | control session next waiting updates description returned => exact .inl waits
  | call session waiting call => exact .inl waits

theorem waiting_asked {start traffic : Traffic} (fresh : start.waiting = [])
    (run : Leads start traffic) {inquiry : Inquiry} (waits : inquiry ∈ traffic.waiting) :
    ∃ waiting, Leads start ⟨inquiry.asked, waiting⟩ ∧
      Leads ⟨inquiry.asked, inquiry :: waiting⟩ traffic := by
  induction run with
  | refl =>
      rw [fresh] at waits
      cases waits
  | @tail before after earlier step ih =>
      rcases step_waits step waits with old | ⟨asked, rfl⟩
      · obtain ⟨waiting, asks, since⟩ := ih old
        exact ⟨waiting, asks, since.tail step⟩
      · refine ⟨before.waiting, asked ▸ earlier, ?_⟩
        rw [asked]

theorem changed_between {before after : Traffic} (run : Leads before after)
    (changed : after.session.chart.spec ≠ before.session.chart.spec) :
    ∃ old new, Leads before old ∧ Step old new ∧
      new.session.chart.spec ≠ old.session.chart.spec ∧ Leads new after := by
  induction run with
  | refl => exact absurd rfl changed
  | @tail middle last earlier step ih =>
      by_cases still : last.session.chart.spec = middle.session.chart.spec
      · rw [still] at changed
        obtain ⟨old, new, first, here, differ, later⟩ := ih changed
        exact ⟨old, new, first, here, differ, later.tail step⟩
      · exact ⟨middle, last, earlier, step, still, .refl⟩

/-! Every session in traffic is one that calls lead to. -/

theorem finish_reached {rows : List Row} {limit : Int} {session after : Session}
    {inquiry : Inquiry} (reached : Session.Reached rows limit session)
    (finishes : inquiry.Finishes session after) : Session.Reached rows limit after := by
  obtain ⟨plan, rfl | ⟨call, _, _, rfl⟩⟩ := Inquiry.finish_ends finishes
  · exact .remember session reached plan
  · exact .call _ (.remember session reached plan) call

theorem step_reached {rows : List Row} {limit : Int} {before after : Traffic}
    (step : Step before after) (reached : Session.Reached rows limit before.session) :
    Session.Reached rows limit after.session := by
  cases step with
  | ask session waiting command revises allow => exact reached
  | finish session after front back inquiry finishes => exact finish_reached reached finishes
  | leave session front back inquiry => exact reached
  | byHand session waiting document => exact Session.by_hand_reached reached document
  | control session next waiting updates description returned =>
      rw [(Session.control_returns returned).2]
      exact .call session reached _
  | call session waiting call => exact .call session reached call

theorem run_reached {rows : List Row} {limit : Int} {start traffic : Traffic}
    (begins : Session.Reached rows limit start.session) (run : Leads start traffic) :
    Session.Reached rows limit traffic.session := by
  induction run with
  | refl => exact begins
  | tail earlier step ih => exact step_reached step ih

/-- Answers are fair but for changes of the specification that were made since their planner was
asked. An answer that replaces a custom specification without leave, or another specification than
the one it revises, comes after a step that changed the specification while it was on its way. The
chart that gives way to an answer comes back with the next undo, unless the history has room for one
chart only: then it is gone. -/
theorem unfair_only_after_change (rows : List Row) (limit : Int) (first session after : Session)
    (front back : List Inquiry) (inquiry : Inquiry)
    (started : Session.start rows limit = .ok first)
    (run : Leads ⟨first, []⟩ ⟨session, front ++ inquiry :: back⟩)
    (finishes : inquiry.Finishes session after) :
    (inquiry.Fair session after ∨ ∃ waiting old new,
      Leads ⟨first, []⟩ ⟨inquiry.asked, waiting⟩ ∧ Leads ⟨inquiry.asked, inquiry :: waiting⟩ old ∧
        Step old new ∧ new.session.chart.spec ≠ old.session.chart.spec ∧
        Leads new ⟨session, front ++ inquiry :: back⟩) ∧
    (after.chart.same session.chart = true ∨
      (1 < limit → after.undo.2 = true ∧ after.undo.1.chart.same session.chart = true) ∧
      (limit = 1 → after.undo.2 = false ∧ after.undo.1.chart = after.chart)) := by
  constructor
  · have waits : inquiry ∈ front ++ inquiry :: back := by simp
    obtain ⟨waiting, asks, since⟩ := waiting_asked rfl run waits
    by_cases unchanged : session.chart.spec = inquiry.asked.chart.spec
    · exact .inl (Inquiry.fair_of_unchanged after unchanged)
    · obtain ⟨old, new, earlier, step, changed, later⟩ := changed_between since unchanged
      exact .inr ⟨waiting, old, new, asks, earlier, step, changed, later⟩
  · have reached := run_reached (.start first started) run
    obtain ⟨positive, space, _⟩ := Session.reached_keeps_room reached
    change session.history.limit = Session.room limit at space
    rcases Inquiry.finish_replaces finishes with same | ⟨moved, description, history⟩
    · exact .inl same
    · refine .inr ⟨fun wide => ?_, fun narrow => ?_⟩
      · have room : 1 < session.history.limit := by
          rw [space]
          unfold Session.room History.maximum
          omega
        exact Session.replaced_undone history moved room
      · have room : session.history.limit = 1 := by
          rw [space, narrow]
          rfl
        exact Session.replaced_lost history moved room

def layers (mark : String) : Json :=
  .object [("layer", .list [.object [("mark", .text mark)]])]

def layered (mark : String) (session : Session) : Session :=
  (session.setSpecByHand (layers mark)).1

/-- A command to draw lines, for which the planner was asked before there were layers. -/
def drawLines : Inquiry := ⟨Session.blank, "line chart", true, false⟩

def linesPlan : Plan := { intent := "line chart", operations := [.setMark .line none] }

def drawn : Session := ((layered "bar" Session.blank).finishPlan "line chart" (.ok linesPlan)).1

theorem lines_task : drawLines.task = .plan "line chart" := rfl

theorem lines_finish : drawLines.Finishes (layered "bar" Session.blank) drawn :=
  .planned "line chart" lines_task (.ok linesPlan)

theorem lines_wait : Leads ⟨Session.blank, []⟩ ⟨layered "bar" Session.blank, [] ++ [drawLines]⟩ :=
  .tail (.single (.ask Session.blank [] "line chart" true false)) (.byHand _ _ (layers "bar"))

theorem lines_unfair : ¬drawLines.Fair (layered "bar" Session.blank) drawn := by
  intro fair
  have custom : (layered "bar" Session.blank).isCustom = true := by decide +kernel
  have kept := congrArg (fun chart => decide (chart.state.mark.kind = .line))
    (fair.planned _ lines_task rfl custom)
  revert kept
  decide +kernel

/-- Layers that were put in place while the planner was at work give way to lines that were asked
for before, and the next undo brings them back. -/
theorem overwritten_layers_undone :
    Session.start [] 2 = .ok Session.blank ∧
      Leads ⟨Session.blank, []⟩ ⟨layered "bar" Session.blank, [] ++ [drawLines]⟩ ∧
      drawLines.Finishes (layered "bar" Session.blank) drawn ∧
      ¬drawLines.Fair (layered "bar" Session.blank) drawn ∧ drawn.undo.2 = true ∧
      drawn.undo.1.chart.same (layered "bar" Session.blank).chart = true := by
  obtain ⟨_, gone⟩ := unfair_only_after_change [] 2 Session.blank _ drawn [] [] drawLines
    Session.blank_starts lines_wait lines_finish
  have moved : drawn.chart.same (layered "bar" Session.blank).chart = false := by decide +kernel
  obtain ⟨undone, back⟩ := (gone.resolve_left (by simp [moved])).1 (by decide)
  exact ⟨Session.blank_starts, lines_wait, lines_finish, lines_unfair, undone, back⟩

/-- A command to entitle layers of bars, which have given way to areas when the answer comes. -/
def entitle : Inquiry := ⟨layered "bar" Session.blank, "add a title", true, false⟩

def relayered : Session := layered "area" (layered "bar" Session.blank)

def barsSpec : Members := entitle.asked.chart.spec

def entitled : Session :=
  (relayered.finishRevision "add a title"
    { success := true, spec := some (barsSpec.set "title" (.text "Bars")) }).1

theorem title_task : entitle.task = .revise "add a title" barsSpec := rfl

theorem title_finish : entitle.Finishes relayered entitled :=
  .revised "add a title" barsSpec title_task _

theorem title_wait : Leads ⟨Session.blank, []⟩ ⟨relayered, [] ++ [entitle]⟩ :=
  .tail (.tail (.single (.byHand Session.blank [] (layers "bar")))
    (.ask _ [] "add a title" true false)) (.byHand _ _ (layers "area"))

theorem title_unfair : ¬entitle.Fair relayered entitled := by
  intro fair
  have differ {a b : Members} (apart : (Json.object a).same (.object b) = false) : a ≠ b := by
    rintro rfl
    rw [Json.same_refl] at apart
    cases apart
  have answered : entitled.chart.spec ≠ relayered.chart.spec := differ (by decide +kernel)
  have changed : relayered.chart.spec ≠ barsSpec := differ (by decide +kernel)
  exact changed (fair.revised _ _ title_task answered)

/-- It is not so that answers are always fair: neither plans nor revisions are. -/
theorem answers_not_always_fair :
    (¬∀ (rows : List Row) (limit : Int) (first session after : Session)
        (front back : List Inquiry) (inquiry : Inquiry),
      Session.start rows limit = .ok first →
        Leads ⟨first, []⟩ ⟨session, front ++ inquiry :: back⟩ →
          inquiry.Finishes session after → (∃ command, inquiry.task = .plan command) →
            inquiry.Fair session after) ∧
    ¬∀ (rows : List Row) (limit : Int) (first session after : Session)
        (front back : List Inquiry) (inquiry : Inquiry),
      Session.start rows limit = .ok first →
        Leads ⟨first, []⟩ ⟨session, front ++ inquiry :: back⟩ →
          inquiry.Finishes session after →
            (∃ command sent, inquiry.task = .revise command sent) →
              inquiry.Fair session after := by
  constructor
  · intro always
    exact lines_unfair (always [] 2 _ _ _ [] [] drawLines Session.blank_starts lines_wait
      lines_finish ⟨_, lines_task⟩)
  · intro always
    exact title_unfair (always [] 2 _ _ _ [] [] entitle Session.blank_starts title_wait
      title_finish ⟨_, _, title_task⟩)

end Traffic
end Chartwright
