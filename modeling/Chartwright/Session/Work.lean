import Chartwright.Session.Command

/-!
The calls of a session with the deep copies that they make. A copy is the same value again, but
making it takes the more of the interpreter's stack the deeper lists and objects stand in the value,
and one that does not fit breaks off the call. What the call has done by then stays: there may be a
snapshot for an edit that never came. The calls of `Session` are these calls without that limit.
-/

namespace Chartwright
open Form

/-- A deep copy that a call makes, told by what is copied and what for: to apply a plan to it, to
hand it to a change, to take it as a snapshot, to hand out a snapshot or go back to it, to show it,
to send it to a planner, to edit it, and to put it in place. -/
inductive Copy where
  | planned (state : BuilderState)
  | changed (state : BuilderState)
  | taken (chart : Chart)
  | handedOut (chart : Chart)
  | restored (chart : Chart)
  | shown (chart : Chart)
  | sent (spec : Members)
  | edited (spec : Members)
  | placed (spec : Members)
  | loaded (rows : List Row)

namespace Copy

def documents : Copy → List Json
  | .planned state | .changed state => [state.write .full]
  | .taken chart | .handedOut chart | .restored chart | .shown chart =>
    [chart.state.write .full, .object chart.spec]
  | .sent spec | .edited spec | .placed spec => [.object spec]
  | .loaded rows =>
    rows.flatMap fun
      | .stray => []
      | .record cells => cells.map fun
        | (_, .value document) => document
        | _ => .null

def isMade [Json.Stack] (copy : Copy) : Bool := copy.documents.all Json.isCopied

end Copy

/-- Why a call breaks off: a copy does not fit on the stack, or something is wrong. -/
inductive Halt (Cause : Type) where
  | outOfStack (copy : Copy)
  | raised (cause : Cause)

/-- Work on a session, of which everything stays that was done before it broke off. -/
abbrev Work (Cause α : Type) := EStateM (Halt Cause) Session α

namespace Work
variable {Cause : Type} (fits : Copy → Bool)

def raise {α : Type} (cause : Cause) : Work Cause α := throw (.raised cause)

def checked {α : Type} : Checked α → Work EditError α
  | .valid value => pure value
  | .faulty faults => raise (.faulty faults)

def make (copy : Copy) : Work Cause Unit := unless fits copy do throw (.outOfStack copy)

def makeIf (needed : Bool) (copy : Copy) : Work Cause Unit :=
  if needed then make fits copy else pure ()

def notify : Work Cause Unit := do
  let session ← get
  makeIf fits (session.listeners.any (·.isActive)) (.shown session.chart)
  set session.notify

def held (session : Session) : Chart :=
  (session.history.capture Chart.same session.chart none).2.content

/-- What was undone goes first, then the snapshot is taken, and last a copy of it is handed out. -/
def capture (description : Option String) : Work Cause Unit := do
  let session ← get
  set { session with history := session.history.branched }
  makeIf fits (!session.history.holds Chart.same session.chart) (.taken session.chart)
  set (session.capture description)
  make fits (.handedOut (held session))

def put (chart : Chart) : Work Cause Unit := do
  modify fun session => { session with chart }
  notify fits

def mutate (change : BuilderState → BuilderState) (description : Option String) :
    Work Cause Unit := do
  let session ← get
  make fits (.changed session.chart.state)
  let state := change session.chart.state
  capture fits description
  put fits { state, spec := Spec.compile state session.fields }

def replaceRows (rows : List Row) : Work EditError Unit := do
  make fits (.loaded rows)
  let replaced := (← get).replaceRows rows
  set replaced.1
  match replaced.2 with
  | none => pure ()
  | some cause => raise (.table cause)

def setData (rows : List Row) (description : String) : Work EditError Unit := do
  capture fits (some description)
  replaceRows fits rows
  let session ← get
  put fits { session.chart with spec := Spec.compile session.chart.state session.fields }

def setDataOnly (rows : List Row) (description : Option String) : Work EditError Unit := do
  if (filled? description).isSome then capture fits description
  replaceRows fits rows
  notify fits

def setBuilderState (part : PartialState) (description : Option String) : Work EditError Unit := do
  let state ← checked ((← get).chart.state.merge part)
  mutate fits (fun _ => state) (Session.describedAs "Builder change" description)

def place (spec : Members) (state : BuilderState) (description : Option String) :
    Work Cause Unit := do
  capture fits (Session.describedAs "Spec edit" description)
  make fits (.placed spec)
  put fits { state, spec }

def setSpec (spec : Members) (part : Option PartialState) (description : Option String) :
    Work EditError Unit := do
  let old := (← get).chart.state
  let state ← checked ((part.map old.merge).getD (.valid old))
  place fits spec state description

def applyPlan (plan : Plan) (description : Option String) : Work Cause Unit := do
  let session ← get
  let old := session.chart.state
  match Operation.applyPlan (fun state => fits (.planned state)) session.fields old
      plan.operations with
  | none => throw (.outOfStack (.planned old))
  | some state =>
    set { session with lastPlan := some plan }
    mutate fits (fun _ => state) (Session.describedAs ("AI: " ++ plan.intent) description)

/-- Goes where a step through the history leads, if it leads anywhere. -/
def restore (step : History Chart × Option Chart) : Work Cause Bool := do
  modify fun session => { session with history := step.1 }
  match step.2 with
  | none => return false
  | some chart =>
    make fits (.restored chart)
    put fits chart
    return true

def undo : Work Cause Bool := do
  if (← get).isBehind then capture fits (some History.tipDescription)
  restore fits (← get).history.stepBack

def redo : Work Cause Bool := do restore fits (← get).history.redo

def reset : Work Cause Unit := do
  modify fun session => { session with lastPlan := none }
  mutate fits (fun _ => {}) (some "Reset")

/-! Commands. -/

def finishPlan (command : String) (plan : Plan) : Work Cause Outcome := do
  if plan.operations.isEmpty then
    modify fun session => { session with lastPlan := some plan }
    return Session.unmatchedOutcome plan
  else
    applyPlan fits plan (Session.commandText command)
    return Session.appliedOutcome plan

def finishRevision (command : String) (edit : SpecEdit) : Work Cause Outcome := do
  match edit.success, edit.spec with
  | true, some spec =>
    modify fun session => { session with lastPlan := some (Session.revisionPlan command) }
    place fits spec (← get).chart.state (Session.commandText command)
    return Session.revisedOutcome command
  | _, _ => return Session.unrevisedOutcome edit.error

/-- Plans a command with a planner of any kind and applies it. A planner that changes a whole
specification is sent a copy of it. -/
def run (planner : AnyPlanner Cause) (command : String) (allowRegenerate : Bool) :
    Work Cause Outcome := do
  let session ← get
  match session.task command planner.revise.isSome allowRegenerate with
  | .settled outcome => return outcome
  | .revise command spec =>
    make fits (.sent spec)
    match planner.revised command spec session.fields with
    | .ok edit => finishRevision fits command edit
    | .error failure => raise failure
  | .plan command =>
    match planner.plan command session.fieldNames session.chart.state session.fields with
    | .ok plan => finishPlan fits command plan
    | .error failure =>
      match planner.report failure with
      | some text => return Session.unplannedOutcome text
      | none => raise failure

/-! Specifications and controls. -/

def setSpecByHand (document : Json) : Work EditError Unit := do
  let verdict := Spec.check document
  if !verdict.valid then raise (.invalidSpec verdict)
  let given := document.asObject?.getD []
  make fits (.edited given)
  let rows := Session.inlineRows? given
  let spec := if rows.isSome then Session.rebound given else given
  let part := if Spec.isCustomMembers spec then none else some (Spec.recover (.object spec))
  setSpec fits spec part (some "Manual spec edit")
  match rows with
  | none => pure ()
  | some rows => setDataOnly fits rows none

def update (updates : Json) (description : Option String) : Work EditError Unit := do
  match Updates.entries updates with
  | .error cause => raise (.updates cause)
  | .ok entries =>
    let part ← checked (PartialState.read (.object entries))
    setBuilderState fits part description

def updateBuilder (updates : Json) (description : Option String) : Work EditError Unit := do
  if (← get).isCustom then raise .customSpec
  update fits updates description

end Work
end Chartwright
