import Chartwright.Edit.Apply
import Chartwright.Edit.Plan
import Chartwright.Session.History
import Chartwright.Spec.Check
import Chartwright.Spec.Compile
import Chartwright.Table.Inference

/-!
Chart sessions: the rows of one chart with their fields, the builder state, the specification, the
undo history and the listeners. Every edit takes a snapshot of what it replaces. The edits here have
room for all copies that they make; those of `Work` may be broken off by one.
-/

namespace Chartwright
open Form

structure Chart where
  state : BuilderState := {}
  spec : Members

def Chart.same (a b : Chart) : Bool :=
  a.state.same b.state && (Json.object a.spec).same (.object b.spec)

/-- A chart as it was at a time, which is told in seconds. -/
structure ChartRecord where
  state : BuilderState
  spec : Members
  time : Binary64 := .zero false
  description : Option String := none

def stateAttr : Attribute := ⟨"builderState", "builder_state"⟩

namespace ChartRecord

def read : Json → Checked ChartRecord :=
  record "Snapshot" fun entries =>
    ChartRecord.mk <$> required entries stateAttr BuilderState.read <*>
      required entries (word "spec") (members any) <*>
      withDefault entries (word "timestamp") (.zero false) number <*>
      optionally entries (word "description") Form.text

def write (style : Style) (chart : ChartRecord) : Json :=
  written style
    [(stateAttr, chart.state.write style), (word "spec", .object chart.spec),
     (word "timestamp", .float chart.time), (word "description", orNull .text chart.description)]

end ChartRecord

structure SessionView where
  state : BuilderState
  spec : Members
  fields : List DataField := []
  rowCount : Int := 0
  isCustom : Bool := false
  canUndo : Bool := false
  canRedo : Bool := false
  historyIndex : Int := -1
  historySize : Int := 0
  lastPlan : Option Plan := none
  verdict : Verdict := {}

namespace SessionView

def rowCountAttr : Attribute := ⟨"rowCount", "row_count"⟩
def isCustomAttr : Attribute := ⟨"isCustom", "is_custom"⟩
def canUndoAttr : Attribute := ⟨"canUndo", "can_undo"⟩
def canRedoAttr : Attribute := ⟨"canRedo", "can_redo"⟩
def historyIndexAttr : Attribute := ⟨"historyIndex", "history_index"⟩
def historySizeAttr : Attribute := ⟨"historySize", "history_size"⟩
def lastPlanAttr : Attribute := ⟨"lastPlan", "last_plan"⟩

def read : Json → Checked SessionView :=
  record "SessionState" fun entries =>
    SessionView.mk <$> required entries stateAttr BuilderState.read <*>
      required entries (word "spec") (members any) <*>
      withDefault entries (word "fields") [] (list DataField.read) <*>
      withDefault entries rowCountAttr 0 integer <*>
      withDefault entries isCustomAttr false truth <*>
      withDefault entries canUndoAttr false truth <*>
      withDefault entries canRedoAttr false truth <*>
      withDefault entries historyIndexAttr (-1) integer <*>
      withDefault entries historySizeAttr 0 integer <*>
      optionally entries lastPlanAttr Plan.read <*>
      withDefault entries (word "validation") {} Verdict.read

def write (style : Style) (view : SessionView) : Json :=
  written style
    [(stateAttr, view.state.write style), (word "spec", .object view.spec),
     (word "fields", .list (view.fields.map (DataField.write style))),
     (rowCountAttr, .int view.rowCount), (isCustomAttr, .bool view.isCustom),
     (canUndoAttr, .bool view.canUndo), (canRedoAttr, .bool view.canRedo),
     (historyIndexAttr, .int view.historyIndex), (historySizeAttr, .int view.historySize),
     (lastPlanAttr, orNull (Plan.write style) view.lastPlan),
     (word "validation", view.verdict.write style)]

end SessionView

/-- Someone who is told of every change as long as the subscription lasts. One that is meant to be
told `once` ends the subscription of its id when it is told. -/
structure Listener where
  id : String
  once : Bool := false
  isActive : Bool := true

structure Notice where
  listener : String
  view : SessionView

structure Session where
  rows : List Row
  fields : List DataField
  chart : Chart
  history : History Chart
  lastPlan : Option Plan := none
  listeners : List Listener := []
  notices : List Notice := []

inductive StartError where
  | table (cause : TableError)
  | history (cause : HistoryError)
  deriving DecidableEq, Repr

namespace Session

def text (value : String) : Cell := .value (.text value)

def saleRow (category date : String) (sales profit : Int) (region : String) : Row :=
  .record
    [("Category", text category), ("Date", text date), ("Sales", .value (.int sales)),
     ("Profit", .value (.int profit)), ("Region", text region)]

def sampleRows : List Row :=
  [saleRow "A" "2024-01-01" 120 35 "West", saleRow "B" "2024-01-01" 90 22 "East",
   saleRow "A" "2024-02-01" 150 40 "West", saleRow "B" "2024-02-01" 110 28 "East",
   saleRow "C" "2024-02-01" 70 15 "North"]

def start (rows : List Row) (limit : Int) : Except StartError Session :=
  match Table.inferFields rows with
  | .error cause => .error (.table cause)
  | .ok fields =>
    match History.ofLimit limit with
    | .error cause => .error (.history cause)
    | .ok history => .ok { rows, fields, chart := { spec := Spec.compile {} fields }, history }

def isCustom (session : Session) : Bool := Spec.isCustomMembers session.chart.spec

def isBehind (session : Session) : Bool := session.history.isBehind Chart.same session.chart

def view (session : Session) : SessionView :=
  { state := session.chart.state
    spec := session.chart.spec
    fields := session.fields
    rowCount := session.rows.length
    isCustom := session.isCustom
    canUndo := session.history.canUndo || session.isBehind
    canRedo := session.history.canRedo
    historyIndex := session.history.cursor
    historySize := session.history.size
    lastPlan := session.lastPlan
    verdict := session.chart.state.check session.fields }

def fieldNames (session : Session) : List String := session.fields.map (·.name)

/-! Listeners. -/

def subscribe (listener : Listener) (session : Session) : Session :=
  { session with listeners := session.listeners ++ [listener] }

def endFirst (id : String) : List Listener → List Listener
  | [] => []
  | listener :: rest =>
    if listener.id = id then { listener with isActive := false } :: rest
    else listener :: endFirst id rest

def endNewest (id : String) (listeners : List Listener) : List Listener :=
  (endFirst id listeners.reverse).reverse

def unsubscribe (id : String) (session : Session) : Session :=
  { session with listeners := endNewest id session.listeners }

/-- Tells all listeners what the session looks like now. Those who are told are settled before the
first of them is. -/
def notify (session : Session) : Session :=
  let told := session.listeners.filter (·.isActive)
  let view := session.view
  { session with
    listeners := (told.filter (·.once)).foldl (fun all listener => endNewest listener.id all)
      session.listeners
    notices := session.notices ++ told.map fun listener => ⟨listener.id, view⟩ }

/-! Edits. -/

def capture (description : Option String) (session : Session) : Session :=
  { session with history := (session.history.capture Chart.same session.chart description).1 }

def describedAs (usual : String) (description : Option String) : Option String :=
  some ((filled? description).getD usual)

def replaceState (state : BuilderState) (description : Option String) (session : Session) :
    Session :=
  let session := session.capture description
  { session with chart := { state, spec := Spec.compile state session.fields } }.notify

/-- Puts other rows in place. If their fields cannot be inferred, those of the old rows stay. -/
def replaceRows (rows : List Row) (session : Session) : Session × Option TableError :=
  match Table.inferFields rows with
  | .ok fields => ({ session with rows, fields }, none)
  | .error cause => ({ session with rows }, some cause)

def setData (rows : List Row) (description : String) (session : Session) :
    Session × Option TableError :=
  match (session.capture (some description)).replaceRows rows with
  | (session, some cause) => (session, some cause)
  | (session, none) =>
    let spec := Spec.compile session.chart.state session.fields
    ({ session with chart := { session.chart with spec } }.notify, none)

/-- Other rows under the same specification. There is a snapshot only if it is described. -/
def setDataOnly (rows : List Row) (description : Option String) (session : Session) :
    Session × Option TableError :=
  let session := if (filled? description).isSome then session.capture description else session
  match session.replaceRows rows with
  | (session, some cause) => (session, some cause)
  | (session, none) => (session.notify, none)

/-- Lays attributes over the builder state, if the whole is valid. -/
def setBuilderState (part : PartialState) (description : Option String) (session : Session) :
    Checked Session :=
  (session.chart.state.merge part).map fun state =>
    session.replaceState state (describedAs "Builder change" description)

def setSpec (spec : Members) (part : Option PartialState) (description : Option String)
    (session : Session) : Checked Session :=
  let state :=
    match part with
    | some part => session.chart.state.merge part
    | none => .valid session.chart.state
  state.map fun state =>
    { session.capture (describedAs "Spec edit" description) with chart := { state, spec } }.notify

def applyPlan (plan : Plan) (description : Option String) (session : Session) : Session :=
  let state := Operation.applyAll session.fields session.chart.state plan.operations
  { session with lastPlan := some plan }.replaceState state
    (describedAs ("AI: " ++ plan.intent) description)

/-- A session after a step through its history, which changes the chart if it leads anywhere. -/
def restored (session : Session) (step : History Chart × Option Chart) : Session × Bool :=
  match step with
  | (history, some chart) => ({ session with history, chart }.notify, true)
  | (history, none) => ({ session with history }, false)

def undo (session : Session) : Session × Bool :=
  session.restored (session.history.undo Chart.same (some session.chart))

def redo (session : Session) : Session × Bool := session.restored session.history.redo

def reset (session : Session) : Session :=
  { session with lastPlan := none }.replaceState {} (some "Reset")

end Session
end Chartwright
