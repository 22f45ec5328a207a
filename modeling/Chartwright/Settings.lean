import Chartwright.Number.Numeral
import Chartwright.Session.History
import Chartwright.Text.Pattern
import Chartwright.Text.Words

/-!
Settings from the environment. Every setting has a usual value, which counts when the variable is
unset or cannot be read.
-/

namespace Chartwright
open Text

abbrev Environment := List (String × String)

namespace Environment

def trimmed (value : String) : String := String.ofList (trim value.toList)

/-- The value of a variable without blanks around it, if there is anything in it. -/
def text? (environment : Environment) (name : String) : Option String :=
  ((environment.lookup name).map trimmed).filter fun value => !value.isEmpty

def textOr (environment : Environment) (name usual : String) : String :=
  (environment.text? name).getD usual

def integerOr (environment : Environment) (name : String) (usual : Int) : Int :=
  ((environment.lookup name).bind fun value => Numeral.integer? value.toList).getD usual

def realOr (environment : Environment) (name : String) (usual : Binary64) : Binary64 :=
  ((environment.lookup name).bind fun value => Numeral.real? value.toList).getD usual

def listOr (environment : Environment) (name : String) (usual : List String) : List String :=
  match environment.text? name with
  | none => usual
  | some value =>
    let items := Pattern.pieces (Pattern.exactly ",") value.toList
    (items.map fun item => String.ofList (trim item)).filter fun item => !item.isEmpty

end Environment

structure ModelSettings where
  provider : String
  model : Option String
  apiKey : Option String
  baseUrl : Option String
  temperature : Binary64
  maxTokens : Int
  timeout : Binary64

structure Settings where
  origins : List String
  logLevel : String
  historyLimit : Int
  model : ModelSettings

namespace Settings

def usualOrigins : List String := ["http://localhost:3000", "http://localhost:5173"]

/-- The limit of the history, which a setting can only lower. -/
def historyLimitOf (environment : Environment) : Int :=
  let usual : Int := History.maximum
  max 1 (min (environment.integerOr "HISTORY_LIMIT" usual) usual)

def lowered (value : String) : String := String.ofList (lower value.toList)

def modelOf (environment : Environment) : ModelSettings :=
  { provider := lowered (environment.textOr "LLM_PROVIDER" "openai")
    model := environment.text? "LLM_MODEL"
    apiKey := environment.text? "LLM_API_KEY"
    baseUrl := environment.text? "LLM_BASE_URL"
    temperature := environment.realOr "LLM_TEMPERATURE" (.ofRatio false 1 10)
    maxTokens := environment.integerOr "LLM_MAX_TOKENS" 2000
    timeout := environment.realOr "LLM_TIMEOUT" (.ofInt 60) }

def of (environment : Environment) : Settings :=
  { origins := environment.listOr "CORS_ALLOW_ORIGINS" usualOrigins
    logLevel := String.ofList (upper (environment.textOr "LOG_LEVEL" "INFO").toList)
    historyLimit := historyLimitOf environment
    model := modelOf environment }

end Settings
end Chartwright
