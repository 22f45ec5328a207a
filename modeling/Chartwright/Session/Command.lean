import Chartwright.Assistant.Planner
import Chartwright.Command.Planner
import Chartwright.Edit.Updates
import Chartwright.Session.Basic
import Chartwright.Spec.Recover

/-!
The three ways to edit the chart of a session: by a typed command, by a specification, and by the
builder's controls. A command is first planned and then applied in one step, so that a planner that
fails leaves the session as it was. As in the edits that they use, there is room for all copies.
-/

namespace Chartwright
open Form

structure Outcome where
  changed : Bool := false
  message : String := ""
  plan : Option Plan := none
  error : Option String := none
  usedDirectEdit : Bool := false

namespace Outcome

def usedDirectEditAttr : Attribute := ⟨"usedDirectEdit", "used_direct_edit"⟩

def read : Json → Checked Outcome :=
  record "CommandOutcome" fun entries =>
    Outcome.mk <$> withDefault entries (word "changed") false truth <*>
      withDefault entries (word "message") "" Form.text <*>
      optionally entries (word "plan") Plan.read <*>
      optionally entries (word "error") Form.text <*>
      withDefault entries usedDirectEditAttr false truth

def write (style : Style) (outcome : Outcome) : Json :=
  written style
    [(word "changed", .bool outcome.changed), (word "message", .text outcome.message),
     (word "plan", orNull (Plan.write style) outcome.plan),
     (word "error", orNull .text outcome.error),
     (usedDirectEditAttr, .bool outcome.usedDirectEdit)]

end Outcome

inductive Planner where
  | phrases
  | assistant (assistant : Assistant)

def Planner.revises : Planner → Bool
  | .phrases => false
  | .assistant _ => true

/-- A planner of any kind: how it plans, how it changes a whole specification if it can, and what it
says of a failure that it reports. Other failures break off the command. The state and the fields
are there for it to look at, and it does not change them. -/
structure AnyPlanner (Failure : Type) where
  plan : String → List String → BuilderState → List DataField → Except Failure Plan
  revise : Option (String → Members → List DataField → Except Failure SpecEdit)
  report : Failure → Option String

namespace AnyPlanner
variable {Failure : Type}

def revised (planner : AnyPlanner Failure) (command : String) (spec : Members)
    (fields : List DataField) : Except Failure SpecEdit :=
  match planner.revise with
  | some revise => revise command spec fields
  | none => .ok (.failed "edit failed")

end AnyPlanner

def PlanFailure.report : PlanFailure → Option String
  | .reported cause => some cause.message
  | _ => none

def Planner.general : Planner → AnyPlanner PlanFailure
  | .phrases =>
    { plan := fun command names _ _ => (Command.plan command names).mapError PlanFailure.number
      revise := none
      report := PlanFailure.report }
  | .assistant model =>
    { plan := model.plan
      revise := some fun command spec fields => model.editSpec command (.object spec) fields
      report := PlanFailure.report }

inductive EditError where
  | table (cause : TableError)
  | updates (cause : UpdatesError)
  | faulty (faults : List Fault)
  | customSpec
  | invalidSpec (verdict : Verdict)

inductive Task where
  | settled (outcome : Outcome)
  | plan (command : String)
  | revise (command : String) (spec : Members)

namespace Session

/-! Commands. -/

def emptyOutcome : Outcome := { message := "Nothing to do: empty command." }

def refusedOutcome : Outcome :=
  { message := "This chart uses a custom spec. Use the AI planner or edit the spec directly, " ++
      "or allow regenerating it from the builder."
    error := some "custom_spec" }

/-- What is to be done for a command. A custom specification is revised, if the planner can; else
it gives way to one compiled from the builder, if that is allowed. -/
def task (command : String) (revises allowRegenerate : Bool) (session : Session) : Task :=
  let command := String.ofList (Text.trim command.toList)
  if command.isEmpty then .settled emptyOutcome
  else if session.isCustom && revises then .revise command session.chart.spec
  else if session.isCustom && !allowRegenerate then .settled refusedOutcome
  else .plan command

def commandText (command : String) : Option String := some ("AI: " ++ command)

def unplannedOutcome (text : String) : Outcome :=
  { message := "The AI planner could not handle that command.", error := some text }

def unmatchedOutcome (plan : Plan) : Outcome :=
  { plan := some plan, message := "Nothing changed: the command matched no known edit." }

def appliedOutcome (plan : Plan) : Outcome :=
  { changed := true
    plan := some plan
    message := "Applied " ++ toString plan.operations.length ++ " operation(s)." }

def finishPlan (command : String) (planned : Except PlannerError Plan) (session : Session) :
    Session × Outcome :=
  match planned with
  | .error cause => (session, unplannedOutcome cause.message)
  | .ok plan =>
    if plan.operations.isEmpty then
      ({ session with lastPlan := some plan }, unmatchedOutcome plan)
    else (session.applyPlan plan (commandText command), appliedOutcome plan)

def revisionConfidence : Binary64 := .ofRatio false 9 10

def revisionPlan (command : String) : Plan :=
  { intent := command
    confidence := revisionConfidence
    operations := [.directEdit Operation.directEditText] }

def revisedOutcome (command : String) : Outcome :=
  { changed := true
    plan := some (revisionPlan command)
    message := "Spec edited directly."
    usedDirectEdit := true }

def unrevisedOutcome (error : Option String) : Outcome :=
  { message := "The AI could not edit this spec."
    error := some ((filled? error).getD "edit failed") }

def finishRevision (command : String) (edit : SpecEdit) (session : Session) : Session × Outcome :=
  match edit.success, edit.spec with
  | true, some spec =>
    let session := { session with lastPlan := some (revisionPlan command) }
    ({ session.capture (commandText command) with chart := { session.chart with spec } }.notify,
      revisedOutcome command)
  | _, _ => (session, unrevisedOutcome edit.error)

def planWith (planner : Planner) (command : String) (session : Session) : Except PlanFailure Plan :=
  match planner with
  | .phrases => (Command.plan command session.fieldNames).mapError PlanFailure.number
  | .assistant assistant =>
    assistant.plan command session.fieldNames session.chart.state session.fields

def reviseWith (planner : Planner) (command : String) (spec : Members) (session : Session) :
    Except PlanFailure SpecEdit :=
  match planner with
  | .phrases => .ok (.failed "edit failed")
  | .assistant assistant => assistant.editSpec command (.object spec) session.fields

/-- Plans a command and applies it. Errors that planners report are part of the outcome; what breaks
off the planning breaks off the command. -/
def run (command : String) (planner : Planner) (allowRegenerate : Bool) (session : Session) :
    Except PlanFailure (Session × Outcome) :=
  match session.task command planner.revises allowRegenerate with
  | .settled outcome => .ok (session, outcome)
  | .revise command spec =>
    (session.reviseWith planner command spec).map fun edit => session.finishRevision command edit
  | .plan command =>
    match session.planWith planner command with
    | .ok plan => .ok (session.finishPlan command (.ok plan))
    | .error (.reported cause) => .ok (session.finishPlan command (.error cause))
    | .error failure => .error failure

/-! Specifications. -/

/-- The rows that a specification carries in its data: the records among its values. -/
def inlineRows? (spec : Members) : Option (List Row) :=
  ((spec.getD "data").asObject?.bind fun data => (data.getD "values").asList?).map fun values =>
    (values.filter fun value => value.asObject?.isSome).map Row.ofJson

def rebound (spec : Members) : Members :=
  spec.set "data" (.object [("name", .text Spec.datasetName)])

/-- Accepts a specification that was edited by hand. Rows in its data become those of the session,
and the builder follows the specification unless that is a custom one. -/
def setSpecByHand (document : Json) (session : Session) : Session × Option EditError :=
  let verdict := Spec.check document
  if !verdict.valid then (session, some (.invalidSpec verdict))
  else
    let given := document.asObject?.getD []
    let rows := inlineRows? given
    let spec := if rows.isSome then rebound given else given
    let part := if Spec.isCustomMembers spec then none else some (Spec.recover (.object spec))
    match session.setSpec spec part (some "Manual spec edit") with
    | .faulty faults => (session, some (.faulty faults))
    | .valid session =>
      match rows with
      | none => (session, none)
      | some rows =>
        let (session, cause) := session.setDataOnly rows none
        (session, cause.map .table)

/-! Controls. -/

def update (updates : Json) (description : Option String) (session : Session) :
    Except EditError Session :=
  match Updates.entries updates with
  | .error cause => .error (.updates cause)
  | .ok entries =>
    match (PartialState.read (.object entries)).andThen fun part =>
        session.setBuilderState part description with
    | .valid session => .ok session
    | .faulty faults => .error (.faulty faults)

/-- An edit by the builder's controls, which are off while a custom specification is there. -/
def updateBuilder (updates : Json) (description : Option String) (session : Session) :
    Except EditError Session :=
  if session.isCustom then .error .customSpec else session.update updates description

end Session

def EditError.message : EditError → String
  | .table cause => cause.message
  | .updates cause => cause.message
  | .faulty _ => "the builder state would not be valid"
  | .customSpec => "builder controls are disabled while a custom spec is active"
  | .invalidSpec verdict => verdict.summary

end Chartwright
