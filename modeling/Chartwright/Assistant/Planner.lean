import Chartwright.Assistant.Prompt
import Chartwright.Assistant.Provider
import Chartwright.Assistant.Recovery
import Chartwright.Assistant.Reply
import Chartwright.Edit.Plan
import Chartwright.Spec.Check

/-!
The planner that asks a language model. Its plan is the list of operations in the reply, without
entries of unknown kinds; a reply without such a list is an error. For custom specifications it asks
for the whole specification instead and reports every failure in its answer.
-/

namespace Chartwright
open Form

abbrev Ask := (instructions request : String) → Except RequestError Reply

abbrev Assistant := Except ProviderError Ask

inductive PlannerError where
  | unavailable (cause : ProviderError)
  | requestFailed (cause : RequestError)
  | emptyReply
  | notJson (cause : Recovery.Cause)
  | noList (shape : String)
  | badOperation (kind : OperationKind) (faults : List Fault)

/-- What breaks off the planning: an error that planners report, or something that none of them
expects, such as an entry whose kind is itself a list or an object, a number in a command with too
many digits, or a reply whose lists and objects stand too deep. -/
inductive PlanFailure where
  | reported (cause : PlannerError)
  | compoundKind (kind : Json.Compound)
  | number (cause : Numeral.IntegerError)
  | tooDeep (opened : Json.Compound)

namespace PlannerError

def reportLength : Nat := 200

def shortened (message : String) : String :=
  let line := Text.trim (Text.replaceChar '\n' [' '] message.toList)
  String.ofList (line.take reportLength)

/-- What is said of a failed request, or its kind if nothing is. -/
def requestText (e : RequestError) : String :=
  if e.message.isEmpty then e.kind else shortened e.message

def unionName : String :=
  "tagged-union[" ++ ",".intercalate ((Named.all (α := OperationKind)).map (·.recordName)) ++ "]"

def faultLines (fault : Fault) : String :=
  ".".intercalate (fault.path.map PathStep.text) ++ "\n  " ++ fault.cause.message

def report (faults : List Fault) : String :=
  let plural := if faults.length = 1 then "" else "s"
  let count := toString faults.length ++ " validation error" ++ plural
  "\n".intercalate ((count ++ " for " ++ unionName) :: faults.map faultLines)

def message : PlannerError → String
  | .unavailable cause => cause.message
  | .requestFailed cause => "llm_request_failed: " ++ requestText cause
  | .emptyReply => "empty LLM response"
  | .notJson cause => "llm_response_not_json: " ++ shortened cause.message
  | .noList shape => "plan_not_array: unsupported shape " ++ shape
  | .badOperation kind faults =>
    "invalid operation " ++ Named.name kind ++ ": " ++ shortened (report faults)

end PlannerError

def PlanFailure.message : PlanFailure → String
  | .reported cause => cause.message
  | .compoundKind kind => kind.misuse
  | .number cause => cause.message
  | .tooDeep opened => (Recovery.Cause.tooDeep opened).message

def PlanFailure.ofRecovery : Recovery.Cause → PlanFailure
  | .tooDeep opened => .tooDeep opened
  | cause => .reported (.notJson cause)

namespace Assistant

/-- The entries of a reply: a list, the list of an object's `operations`, or a single operation. -/
def entriesOf (document : Json) : Except PlannerError (List Json) :=
  match document with
  | .list items => .ok items
  | .object entries =>
    match Members.getD entries "operations" with
    | .list items => .ok items
    | _ =>
      if Members.has entries "op" then .ok [.object entries]
      else .error (.noList document.shapeName)
  | other => .error (.noList other.shapeName)

/-- The kind of an entry, if it is one that a model may plan. -/
def plannedKind? (entry : Json) : Except PlanFailure (Option OperationKind) :=
  match (entry.asObject?.getD []).getD "op" with
  | .list _ => .error (.compoundKind .list)
  | .object _ => .error (.compoundKind .object)
  | .text name => .ok ((Named.ofName? name).filter fun kind => kind != .directEdit)
  | _ => .ok none

/-- The operation of an entry; none if it is of another kind. -/
def operationOf? (entry : Json) : Except PlanFailure (Option Operation) := do
  match ← plannedKind? entry with
  | none => return none
  | some kind =>
    match Operation.read entry with
    | .valid operation => return some operation
    | .faulty faults => .error (.reported (.badOperation kind faults))

def operationsIn : List Json → Except PlanFailure (List Operation)
  | [] => .ok []
  | entry :: rest => do
    let operation ← operationOf? entry
    let others ← operationsIn rest
    return operation.toList ++ others

def operationsOf (document : Json) : Except PlanFailure (List Operation) :=
  match entriesOf document with
  | .ok entries => operationsIn entries
  | .error cause => .error (.reported cause)

def answer (assistant : Assistant) (instructions request : String) : Except PlannerError String :=
  match assistant with
  | .error cause => .error (.unavailable cause)
  | .ok ask =>
    match ask instructions request with
    | .error cause => .error (.requestFailed cause)
    | .ok reply =>
      let text := reply.text
      if Reply.isBlankText text then .error .emptyReply else .ok text

def confidence : Binary64 := .ofRatio false 9 10

def planOf [Json.Stack] (command text : String) : Except PlanFailure Plan :=
  match Recovery.read text with
  | .error cause => .error (.ofRecovery cause)
  | .ok document =>
    (operationsOf document).map fun operations => { intent := command, confidence, operations }

def plan [Json.Stack] (assistant : Assistant) (command : String) (names : List String)
    (state : BuilderState) (fields : List DataField) : Except PlanFailure Plan :=
  match assistant.answer Prompt.planInstructions
      (Prompt.planRequest command names state fields) with
  | .error cause => .error (.reported cause)
  | .ok text => planOf command text

end Assistant

structure SpecEdit where
  success : Bool
  spec : Option Members := none
  error : Option String := none

namespace SpecEdit

def read : Json → Checked SpecEdit :=
  record "SpecEditResult" fun entries =>
    SpecEdit.mk <$> required entries (word "success") truth <*>
      optionally entries (word "spec") (members any) <*>
      optionally entries (word "error") Form.text

def write (style : Style) (edit : SpecEdit) : Json :=
  written style
    [(word "success", .bool edit.success), (word "spec", orNull .object edit.spec),
     (word "error", orNull .text edit.error)]

def failed (error : String) : SpecEdit := { success := false, error := some error }

def ofDocument (document : Json) : SpecEdit :=
  let verdict := Spec.check document
  if verdict.valid then { success := true, spec := document.asObject? }
  else failed ("invalid spec from LLM: " ++ "; ".intercalate (verdict.errors.map (·.message)))

def ofText [Json.Stack] (text : String) : Except PlanFailure SpecEdit :=
  match Recovery.read text with
  | .error (.tooDeep opened) => .error (.tooDeep opened)
  | .error cause => .ok (failed (PlannerError.shortened cause.message))
  | .ok document => .ok (ofDocument document)

end SpecEdit

def Assistant.editSpec [Json.Stack] (assistant : Assistant) (command : String) (spec : Json)
    (fields : List DataField) : Except PlanFailure SpecEdit :=
  match assistant.answer Prompt.editInstructions (Prompt.editRequest command spec fields) with
  | .error cause => .ok (.failed (PlannerError.shortened cause.message))
  | .ok text => SpecEdit.ofText text

end Chartwright
