import Chartwright.Chart.Vocabulary
import Chartwright.Form.Basic
import Chartwright.Json.Reader

/-!
Bodies of requests: what each kind of request carries, and how a body is read. A body that is no
JSON at all is refused before anything in it is looked at.
-/

namespace Chartwright
open Form

structure DataRequest where
  rows : List Members
  regenerate : Bool := true

structure BuilderRequest where
  updates : Members
  description : Option String := none

structure SpecRequest where
  spec : Members

structure CommandRequest where
  command : String
  mode : PlanMode := .pattern
  allowRegenerate : Bool := false

def allowRegenerateAttr : Attribute := ⟨"allowRegenerate", "allow_regenerate"⟩

def anyMembers : Json → Checked Members := members any

namespace DataRequest

def readMembers (entries : Members) : Checked DataRequest :=
  DataRequest.mk <$> required entries (word "rows") (list anyMembers) <*>
    withDefault entries (word "regenerate") true truth

def read : Json → Checked DataRequest := record "DataRequest" readMembers

def write (style : Style) (request : DataRequest) : Json :=
  written style
    [(word "rows", .list (request.rows.map .object)), (word "regenerate", .bool request.regenerate)]

end DataRequest

namespace BuilderRequest

def readMembers (entries : Members) : Checked BuilderRequest :=
  BuilderRequest.mk <$> required entries (word "updates") anyMembers <*>
    optionally entries (word "description") Form.text

def read : Json → Checked BuilderRequest := record "BuilderUpdateRequest" readMembers

def write (style : Style) (request : BuilderRequest) : Json :=
  written style
    [(word "updates", .object request.updates),
     (word "description", orNull .text request.description)]

end BuilderRequest

namespace SpecRequest

def readMembers (entries : Members) : Checked SpecRequest :=
  SpecRequest.mk <$> required entries (word "spec") anyMembers

def read : Json → Checked SpecRequest := record "SpecRequest" readMembers

def write (style : Style) (request : SpecRequest) : Json :=
  written style [(word "spec", .object request.spec)]

end SpecRequest

namespace CommandRequest

def readMembers (entries : Members) : Checked CommandRequest :=
  CommandRequest.mk <$> required entries (word "command") Form.text <*>
    withDefault entries (word "mode") .pattern (literal PlanMode) <*>
    withDefault entries allowRegenerateAttr false truth

def read : Json → Checked CommandRequest := record "CommandRequest" readMembers

def write (style : Style) (request : CommandRequest) : Json :=
  written style
    [(word "command", .text request.command), (word "mode", writeName request.mode),
     (allowRegenerateAttr, .bool request.allowRegenerate)]

end CommandRequest

namespace Body

/-- Why a body is refused: it is no JSON, it breaks a limit of the reader, or it is not what such
a request carries. -/
inductive Refusal where
  | notJson (error : Json.SyntaxError)
  | unreadable
  | faulty (faults : List Fault)

def whole {α : Type} (read : Members → Checked α) : Json → Checked α
  | .null => .faulty [{ path := [], cause := .missing, found := .null }]
  | .object entries => read entries
  | found => .fault .notTagged found

def withoutMark : List Char → List Char
  | [] => []
  | c :: rest => if c = Json.byteOrderMark then rest else c :: rest

/-- The document in a body; nothing at all counts as null. -/
def document (text : String) : Except Json.SyntaxError Json :=
  if text.isEmpty then .ok .null else Json.readBare (withoutMark text.toList)

/-- Reads the body of a request; faults are told from the body on. -/
def read {α : Type} (reader : Members → Checked α) (text : String) : Except Refusal α :=
  match document text with
  | .error error => .error (if error.cause.isLimit then .unreadable else .notJson error)
  | .ok document =>
    match (whole reader document).under (.name "body") with
    | .valid value => .ok value
    | .faulty faults => .error (.faulty faults)

end Body
end Chartwright
