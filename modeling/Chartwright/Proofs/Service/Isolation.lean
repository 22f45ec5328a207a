import Chartwright.Service.Basic

/-!
Sessions are apart from each other. What the requests of one session are answered, and what becomes
of that session, is the same whatever requests to other sessions come between them.
-/

namespace Chartwright
namespace Service

/-! The part of the registry that belongs to one id. -/

def own (id : String) (sessions : Sessions) : Sessions := sessions.filter fun entry => entry.1 = id

theorem own_lookup (id : String) (sessions : Sessions) :
    (own id sessions).lookup id = sessions.lookup id := by
  induction sessions with
  | nil => rfl
  | cons entry rest ih =>
      rcases entry with ⟨other, session⟩
      by_cases same : other = id
      · simp [own, same]
      · have apart : (id == other) = false := by simpa using Ne.symm same
        simpa [own, same, List.lookup_cons, apart] using ih

theorem own_put (id : String) (sessions : Sessions) (session : Session) :
    own id (putSession sessions id session) = putSession (own id sessions) id session := by
  induction sessions with
  | nil => simp [own, putSession]
  | cons entry rest ih =>
      rcases entry with ⟨other, old⟩
      by_cases same : other = id
      · simp [own, putSession, same]
      · simpa [own, putSession, same] using ih

theorem own_put_other (id other : String) (sessions : Sessions) (session : Session)
    (apart : other ≠ id) : own id (putSession sessions other session) = own id sessions := by
  induction sessions with
  | nil => simp [own, putSession, apart]
  | cons entry rest ih =>
      rcases entry with ⟨first, old⟩
      by_cases here : first = other
      · simp [own, putSession, here, apart]
      · by_cases mine : first = id <;> simpa [own, putSession, here, mine, apart.symm] using ih

/-! One request. -/

/-- What a request does to the registry keeps an id apart: a request of that id sees and changes
nothing but its part, and any other leaves that part alone. -/
structure Separate (id : String) (mine : Prop) (work : Sessions → Sessions × Response) : Prop where
  within : mine → ∀ sessions,
    work (own id sessions) = (own id (work sessions).1, (work sessions).2)
  outside : ¬mine → ∀ sessions, own id (work sessions).1 = own id sessions

theorem answered_separate (id : String) (mine : Prop) (response : Response) :
    Separate id mine fun sessions => (sessions, response) :=
  ⟨fun _ _ => rfl, fun _ _ => rfl⟩

theorem sent_separate {id : String} {mine : Prop} {work : Sessions → Sessions × Response}
    (apart : Separate id mine work) (send : Response → Response) :
    Separate id mine fun sessions => ((work sessions).1, send (work sessions).2) := by
  refine ⟨fun is sessions => ?_, fun isNot sessions => apart.outside isNot sessions⟩
  simp only [apart.within is sessions]

theorem session_of_own (id : String) (sessions : Sessions) (limit : Int) :
    sessionOf (own id sessions) limit id = sessionOf sessions limit id := by
  simp only [sessionOf, own_lookup]

theorem in_session_separate (limit : Int) (id : String) (named : Option String)
    (handler : Handler) :
    Separate id (named = some id) fun sessions => inSession sessions limit named handler := by
  cases used : Form.filled? named with
  | none =>
      simp only [inSession, used]
      exact answered_separate _ _ _
  | some other =>
      have same : named = some other := Option.eq_some_of_filter_eq_some used
      subst same
      refine ⟨fun is sessions => ?_, fun isNot sessions => ?_⟩
      · cases Option.some.inj is
        simp only [inSession, used, session_of_own]
        cases sessionOf sessions limit id with
        | error cause => rfl
        | ok session => simp only [own_put]
      · have apart : other ≠ id := fun is => isNot (congrArg some is)
        simp only [inSession, used]
        cases sessionOf sessions limit other with
        | error cause => rfl
        | ok session => exact own_put_other id other sessions _ apart

theorem on_route_separate (assistant : Assistant) (limit : Int) (id : String) (request : Request)
    (route : Route) :
    Separate id (request.session = some id) fun sessions =>
      onRoute assistant limit sessions request route := by
  unfold onRoute
  by_cases method : request.methodName ≠ route.method
  · simp only [if_pos method]
    exact answered_separate _ _ _
  · simp only [if_neg method]
    cases handlerOf? assistant request.body route with
    | none => exact answered_separate _ _ _
    | some taken =>
        cases taken with
        | error refusal => exact answered_separate _ _ _
        | ok handler =>
            exact sent_separate (in_session_separate limit id request.session handler) Response.sent

theorem respond_separate (assistant : Assistant) (limit : Int) (id : String) (request : Request) :
    Separate id (request.session = some id) fun sessions =>
      respond assistant limit sessions request := by
  let send (response : Response) : Response :=
    if request.methodName = "HEAD" then response.bare else response
  unfold respond
  cases Route.ofPath? request.barePath with
  | none => exact sent_separate (answered_separate id _ (elsewhere request)) send
  | some route => exact sent_separate (on_route_separate assistant limit id request route) send

/-! Many requests. -/

/-- A request, with the assistant that replies to it. -/
structure Visit where
  assistant : Assistant
  request : Request

def Visit.names (visit : Visit) (id : String) : Bool := visit.request.session == some id

/-- The requests in turn: the sessions after them, and the response to each. -/
def serve (limit : Int) (sessions : Sessions) : List Visit → Sessions × List (Visit × Response)
  | [] => (sessions, [])
  | visit :: rest =>
    let (sessions, response) := respond visit.assistant limit sessions visit.request
    let (sessions, responses) := serve limit sessions rest
    (sessions, (visit, response) :: responses)

theorem serve_own (limit : Int) (id : String) (visits : List Visit) (sessions : Sessions) :
    serve limit (own id sessions) (visits.filter (·.names id)) =
      (own id (serve limit sessions visits).1,
        (serve limit sessions visits).2.filter (·.1.names id)) := by
  induction visits generalizing sessions with
  | nil => rfl
  | cons visit rest ih =>
      have apart := respond_separate visit.assistant limit id visit.request
      cases mine : visit.names id with
      | true =>
          have within := apart.within (by simpa [Visit.names] using mine) sessions
          simp only [List.filter_cons, mine, if_true, serve, within, ih]
      | false =>
          -- The part is as it was: the run without this request is at the same point.
          have outside := apart.outside (by simpa [Visit.names] using mine) sessions
          have later := ih (respond visit.assistant limit sessions visit.request).1
          rw [outside] at later
          simpa [List.filter_cons, mine, serve] using later

/-- Whatever requests there are, with whatever ids, those of one id are answered as if they were
alone, and their session ends as it does when they are. -/
theorem sessions_do_not_interfere (limit : Int) (id : String) (sessions : Sessions)
    (visits : List Visit) :
    let all := serve limit sessions visits
    let alone := serve limit (own id sessions) (visits.filter (·.names id))
    all.2.filter (·.1.names id) = alone.2 ∧ all.1.lookup id = alone.1.lookup id := by
  have split := serve_own limit id visits sessions
  simp only [split, own_lookup, and_self]

end Service
end Chartwright
