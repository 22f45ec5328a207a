import Chartwright.Chart.State
import Chartwright.Table.Field

/-!
Checks on specifications and builder states. The check of a specification is shallow: it looks at
its outer shape. Of a builder state it is checked that its fields exist and suit their kinds; what
is wrong there is only a warning, for every state can be compiled. Custom
specifications are those that the builder cannot represent, because they combine several views,
transform the data in many steps or load it from elsewhere.
-/

namespace Chartwright
open Form

/-! Custom specifications. -/

namespace Spec

def compositionKeys : List String := ["facet", "layer", "hconcat", "vconcat", "concat", "repeat"]

/-- The greatest number of transform steps that the builder shows. -/
def transformLimit : Nat := 3

def isComposed (spec : Members) : Bool := compositionKeys.any spec.has

def hasManySteps (spec : Members) : Bool :=
  (spec.getD "transform").asList?.any fun steps => transformLimit < steps.length

def isRemote (spec : Members) : Bool :=
  (spec.getD "data").asObject?.any fun data => !(data.getD "url").isVacant

def isCustomMembers (spec : Members) : Bool := isComposed spec || hasManySteps spec || isRemote spec

def isCustom (spec : Json) : Bool := spec.asObject?.any isCustomMembers

end Spec

/-! Checks. -/

structure Issue where
  path : String
  message : String
  severity : Severity := .error
  deriving DecidableEq, Repr

/-- What a check found; a verdict read from a document may claim anything of `valid`. -/
structure Verdict where
  valid : Bool := true
  errors : List Issue := []
  warnings : List Issue := []
  deriving DecidableEq, Repr

namespace Issue

def read : Json → Checked Issue :=
  record "ValidationIssue" fun entries =>
    Issue.mk <$> required entries (word "path") Form.text <*>
      required entries (word "message") Form.text <*>
      withDefault entries (word "severity") .error (literal Severity)

def write (style : Style) (issue : Issue) : Json :=
  written style
    [(word "path", .text issue.path), (word "message", .text issue.message),
     (word "severity", writeName issue.severity)]

def warning (path message : String) : Issue := { path, message, severity := .warning }

end Issue

namespace Verdict

def read : Json → Checked Verdict :=
  record "ValidationResult" fun entries =>
    Verdict.mk <$> withDefault entries (word "valid") true truth <*>
      withDefault entries (word "errors") [] (list Issue.read) <*>
      withDefault entries (word "warnings") [] (list Issue.read)

def write (style : Style) (verdict : Verdict) : Json :=
  written style
    [(word "valid", .bool verdict.valid),
     (word "errors", .list (verdict.errors.map (Issue.write style))),
     (word "warnings", .list (verdict.warnings.map (Issue.write style)))]

def of (errors warnings : List Issue) : Verdict := { valid := errors.isEmpty, errors, warnings }

def summary (verdict : Verdict) : String :=
  let text := "; ".intercalate (verdict.errors.map fun issue => issue.path ++ ": " ++ issue.message)
  if text.isEmpty then "invalid spec" else text

end Verdict

namespace Spec

/-! Specifications. -/

def bodyErrors (spec : Members) : List Issue :=
  if spec.has "mark" || isComposed spec then []
  else
    [{ path := "$"
       message := "spec needs a 'mark' or a composition ('layer', 'facet', 'concat', 'repeat')" }]

/-- The type of a mark: a text itself, or the `type` of an object. -/
def markType (mark : Json) : Json :=
  match mark with
  | .object entries => Members.getD entries "type"
  | mark => mark

def markErrors (spec : Members) : List Issue :=
  let mark := spec.getD "mark"
  if mark.isNull || (markType mark).asText?.isSome then []
  else [{ path := "$.mark", message := "mark must be a string or an object with a 'type'" }]

def markWarnings (spec : Members) : List Issue :=
  match (markType (spec.getD "mark")).asText? with
  | some name =>
    if (Named.names MarkKind).contains name then []
    else [.warning "$.mark" s!"mark type '{name}' is not supported by the builder"]
  | none => []

def encodingErrors (spec : Members) : List Issue :=
  match spec.getD "encoding" with
  | .null | .object _ => []
  | _ => [{ path := "$.encoding", message := "encoding must be an object" }]

def transformErrors (spec : Members) : List Issue :=
  match spec.getD "transform" with
  | .null | .list _ => []
  | _ => [{ path := "$.transform", message := "transform must be an array" }]

def dataWarnings (spec : Members) : List Issue :=
  if isRemote spec then [.warning "$.data.url" "remote data is not loaded by the builder"] else []

def check : Json → Verdict
  | .object spec =>
    .of (bodyErrors spec ++ markErrors spec ++ encodingErrors spec ++ transformErrors spec)
      (markWarnings spec ++ dataWarnings spec)
  | _ => .of [{ path := "$", message := "spec must be a JSON object" }] []

end Spec

namespace BuilderState

def kindWarnings (path : String) (encoding : Encoding) (name : String) (actual : FieldKind) :
    List Issue :=
  [FieldKind.temporal, .quantitative].filterMap fun kind =>
    if encoding.kind = some kind ∧ actual ≠ kind then
      some <| .warning path <|
        "typed as " ++ Named.name kind ++ " but '" ++ name ++ "' looks " ++ Named.name actual
    else none

def channelWarnings (fields : List DataField) (state : BuilderState) (channel : Channel) :
    List Issue :=
  let path := "encodings." ++ Named.name channel
  match state.encodings.at? channel with
  | none => []
  | some encoding =>
    match encoding.field with
    | none | some "" => []
    | some name =>
      match kindOf? fields name with
      | none => [.warning path s!"references unknown field '{name}'"]
      | some kind => kindWarnings path encoding name kind

/-- Rankings by fields that are not there, where the first transform has the given place. -/
def transformWarnings (fields : List DataField) (place : Nat) : List Transform → List Issue
  | [] => []
  | .topN _ byField _ :: rest =>
    let later := transformWarnings fields (place + 1) rest
    if (kindOf? fields byField).isSome then later
    else
      .warning s!"transforms[{place}]" s!"top-N ranks by unknown field '{byField}'" :: later
  | _ :: rest => transformWarnings fields (place + 1) rest

/-- The verdict on a state with the fields of the data. -/
def check (state : BuilderState) (fields : List DataField) : Verdict :=
  .of []
    ((Named.all (α := Channel)).flatMap (channelWarnings fields state) ++
      transformWarnings fields 0 state.transforms)

end BuilderState

end Chartwright
