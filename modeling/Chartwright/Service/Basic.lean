import Chartwright.Service.Body
import Chartwright.Session.Work

/-!
The chart service: requests of clients, each to the session that it names, and the responses to
them. A session begins with the first request that names it.
-/

namespace Chartwright
open Form

structure Request where
  method : String
  path : String
  session : Option String := none
  body : String := ""

inductive Content where
  | document (value : Json)
  | text (value : String)

structure Response where
  status : Nat
  content : Content

abbrev Sessions := List (String × Session)

inductive Route where
  | health
  | state
  | data
  | builder
  | spec
  | plan
  | command
  | undo
  | redo
  | reset
  deriving DecidableEq, Repr, Inhabited

namespace Route

def all : List Route :=
  [.health, .state, .data, .builder, .spec, .plan, .command, .undo, .redo, .reset]

def path : Route → String
  | .health => "/health"
  | .state => "/api/state"
  | .data => "/api/data"
  | .builder => "/api/builder"
  | .spec => "/api/spec"
  | .plan => "/api/plan"
  | .command => "/api/command"
  | .undo => "/api/undo"
  | .redo => "/api/redo"
  | .reset => "/api/reset"

def method : Route → String
  | .health | .state => "GET"
  | .builder => "PATCH"
  | .spec => "PUT"
  | .data | .plan | .command | .undo | .redo | .reset => "POST"

def ofPath? (path : String) : Option Route := all.find? fun route => route.path = path

end Route

def guidePages : List String := ["/openapi.json", "/docs", "/docs/oauth2-redirect", "/redoc"]

namespace Request

def methodName (request : Request) : String :=
  String.ofList (request.method.toList.map Char.toUpper)

/-- The path with a slash at its start and none at its end, without a query or a fragment. -/
def barePath (request : Request) : String :=
  let bare := request.path.toList.takeWhile fun c => c != '?' && c != '#'
  let trimmed := (bare.reverse.dropWhile (· == '/')).reverse
  String.ofList (if trimmed.head? = some '/' then trimmed else '/' :: trimmed)

end Request

namespace Response

def detail (status : Nat) (value : Json) : Response :=
  { status, content := .document (.object [("detail", value)]) }

def failure (status : Nat) (message : String) : Response := detail status (.text message)

def depthLimit : Nat := 256

mutual

def isFinite : Json → Bool
  | .float value => value.isFinite
  | .list items => areFinite items
  | .object entries => membersFinite entries
  | _ => true

def areFinite : List Json → Bool
  | [] => true
  | item :: rest => isFinite item && areFinite rest

def membersFinite : List (String × Json) → Bool
  | [] => true
  | (_, value) :: rest => isFinite value && membersFinite rest

end

mutual

def finitePart : Json → Json
  | .float value => if value.isFinite then .float value else .null
  | .list items => .list (finiteParts items)
  | .object entries => .object (finiteMembers entries)
  | other => other

def finiteParts : List Json → List Json
  | [] => []
  | item :: rest => finitePart item :: finiteParts rest

def finiteMembers : List (String × Json) → List (String × Json)
  | [] => []
  | (name, value) :: rest => (name, finitePart value) :: finiteMembers rest

end

def crashed : Response := { status := 500, content := .text "Internal Server Error" }

def sent (response : Response) : Response :=
  match response.content with
  | .document value => if isFinite value then response else crashed
  | .text _ => response

def okay (value : Json) : Response :=
  if value.isDeeper depthLimit then crashed
  else { status := 200, content := .document (finitePart value) }

def bare (response : Response) : Response := { response with content := .text "" }

def ofSession (session : Session) : Response := okay (session.view.write .full)

def faultEntries (fault : Fault) : Members :=
  [("type", .text fault.cause.kind), ("loc", .list (fault.path.map PathStep.toJson)),
   ("msg", .text fault.cause.message), ("input", fault.found)]

def fullFaultEntries (fault : Fault) : Members :=
  let particulars := fault.cause.particulars
  faultEntries fault ++ if particulars.isEmpty then [] else [("ctx", .object particulars)]

def refused : Body.Refusal → Response
  | .unreadable => failure 400 "There was an error parsing the body"
  | .faulty faults => detail 422 (.list (faults.map fun fault => .object (fullFaultEntries fault)))
  | .notJson error =>
    detail 422 <| .list
      [.object
        [("type", .text "json_invalid"), ("loc", .list [.text "body", .int error.position]),
         ("msg", .text "JSON decode error"), ("input", .object []),
         ("ctx", .object [("error", .text error.cause.message)])]]

def ofEditError : EditError → Response
  | .table _ | .updates _ => crashed
  | .faulty faults => detail 422 (.list (faults.map fun fault => .object (faultEntries fault)))
  | .customSpec => failure 409 EditError.customSpec.message
  | .invalidSpec verdict => failure 400 verdict.summary

end Response

namespace Service

/-- The session of an id, begun now if there is none. -/
def sessionOf (sessions : Sessions) (limit : Int) (id : String) : Except StartError Session :=
  match sessions.lookup id with
  | some session => .ok session
  | none => Session.start Session.sampleRows limit

def putSession (sessions : Sessions) (id : String) (session : Session) : Sessions :=
  match sessions with
  | [] => [(id, session)]
  | (other, old) :: rest =>
    if other = id then (id, session) :: rest else (other, old) :: putSession rest id session

abbrev Handler := Session → Session × Response

def shown : Handler := fun session =>
  if Copy.isMade (.shown session.chart) then (session, .ofSession session)
  else (session, .crashed)

/-- The response to work on a session: the session as it is then, or why the work broke off. -/
def finish {α : Type} (work : Work EditError α) : Handler := fun session =>
  match work session with
  | .ok _ session => shown session
  | .error (.raised cause) session => (session, .ofEditError cause)
  | .error (.outOfStack _) session => (session, .crashed)

def load (request : DataRequest) : Handler :=
  let rows := request.rows.map fun entries => Row.ofJson (.object entries)
  if request.regenerate then finish (Work.setData Copy.isMade rows "Load data")
  else finish (Work.setDataOnly Copy.isMade rows (some "Load data"))

def build (request : BuilderRequest) : Handler :=
  finish (Work.updateBuilder Copy.isMade (.object request.updates) request.description)

def putSpec (request : SpecRequest) : Handler :=
  finish (Work.setSpecByHand Copy.isMade (.object request.spec))

/-- The planner of a mode; `assistant` is the one that asks a language model. -/
def plannerOf (assistant : Assistant) : PlanMode → Planner
  | .pattern => .phrases
  | .model => .assistant assistant

def preview (assistant : Assistant) (request : CommandRequest) : Handler := fun session =>
  match session.planWith (plannerOf assistant request.mode) request.command with
  | .ok plan => (session, .okay (plan.write .full))
  | .error (.reported cause) => (session, .failure 502 cause.message)
  | .error _ => (session, .crashed)

def runCommand (assistant : Assistant) (request : CommandRequest) : Handler := fun session =>
  let planner := (plannerOf assistant request.mode).general
  match Work.run Copy.isMade planner request.command request.allowRegenerate session with
  | .ok outcome session => (session, .okay (outcome.write .full))
  | .error _ session => (session, .crashed)

/-- What a request to a route does to its session, unless its body is refused. The health of the
service is no matter of a session. -/
def handlerOf? (assistant : Assistant) (body : String) :
    Route → Option (Except Body.Refusal Handler)
  | .health => none
  | .state => some (.ok shown)
  | .data => some ((Body.read DataRequest.readMembers body).map load)
  | .builder => some ((Body.read BuilderRequest.readMembers body).map build)
  | .spec => some ((Body.read SpecRequest.readMembers body).map putSpec)
  | .plan => some ((Body.read CommandRequest.readMembers body).map (preview assistant))
  | .command => some ((Body.read CommandRequest.readMembers body).map (runCommand assistant))
  | .undo => some (.ok (finish (Work.undo Copy.isMade)))
  | .redo => some (.ok (finish (Work.redo Copy.isMade)))
  | .reset => some (.ok (finish (Work.reset Copy.isMade)))

def healthy : Response := .okay (.object [("ok", .bool true)])

def inSession (sessions : Sessions) (limit : Int) (id : Option String) (handler : Handler) :
    Sessions × Response :=
  match filled? id with
  | none => (sessions, .failure 400 "Missing X-Session-Id header.")
  | some id =>
    match sessionOf sessions limit id with
    | .error _ => (sessions, .crashed)
    | .ok session =>
      let (session, response) := handler session
      (putSession sessions id session, response)

def notFound : Response := .failure 404 "Not Found"

def notAllowed : Response := .failure 405 "Method Not Allowed"

def elsewhere (request : Request) : Response :=
  if request.barePath ∈ guidePages then
    if request.methodName ∈ ["GET", "HEAD"] then { status := 200, content := .text "" }
    else notAllowed
  else notFound

/-- The sessions after a request to a route, and the response to it. -/
def onRoute (assistant : Assistant) (limit : Int) (sessions : Sessions) (request : Request)
    (route : Route) : Sessions × Response :=
  if request.methodName ≠ route.method then (sessions, notAllowed)
  else
    match handlerOf? assistant request.body route with
    | none => (sessions, healthy)
    | some (.error refusal) => (sessions, (Response.refused refusal).sent)
    | some (.ok handler) =>
      let (sessions, response) := inSession sessions limit request.session handler
      (sessions, response.sent)

/-- The sessions after a request, and the response to it. Who asks for the head of a response alone
is told its status. -/
def respond (assistant : Assistant) (limit : Int) (sessions : Sessions) (request : Request) :
    Sessions × Response :=
  let (sessions, response) :=
    match Route.ofPath? request.barePath with
    | none => (sessions, elsewhere request)
    | some route => onRoute assistant limit sessions request route
  (sessions, if request.methodName = "HEAD" then response.bare else response)

end Service
end Chartwright
