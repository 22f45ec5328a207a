import Chartwright.Json.Basic
import Chartwright.Settings

/-!
Providers of language models. The settings choose a provider, and a request for a model names the
client of the provider's package with everything that is passed to it.
-/

namespace Chartwright

/-- The providers that are known, each with the packages and keys that it needs. -/
inductive Provider where
  | openai
  | anthropic
  | openrouter
  | groq
  deriving DecidableEq, Repr, Inhabited

structure ChatModel where
  client : String
  arguments : Members

inductive ProviderError where
  | notInstalled (provider : Provider)
  | noKey (provider : Provider)
  | unsupported (name : String)
  deriving DecidableEq, Repr

namespace Provider

/-- The name under which a provider is set, after its short forms have been written out. -/
def fullName (name : String) : String :=
  if name = "oa" then "openai" else if name = "claude" then "anthropic" else name

def ofName? (name : String) : Option Provider :=
  match name with
  | "openai" => some .openai
  | "anthropic" => some .anthropic
  | "openrouter" => some .openrouter
  | "groq" => some .groq
  | _ => none

def title : Provider → String
  | .openai => "OpenAI"
  | .anthropic => "Anthropic"
  | .openrouter => "OpenRouter"
  | .groq => "Groq"

def package : Provider → String
  | .openai | .openrouter => "langchain_openai"
  | .anthropic => "langchain_anthropic"
  | .groq => "langchain_groq"

def distribution : Provider → String
  | .openai | .openrouter => "langchain-openai"
  | .anthropic => "langchain-anthropic"
  | .groq => "langchain-groq"

def client : Provider → String
  | .openai | .openrouter => "ChatOpenAI"
  | .anthropic => "ChatAnthropic"
  | .groq => "ChatGroq"

/-- The variable of the provider's own key, which is used when no general one is set. -/
def keyVariable : Provider → String
  | .openai => "OPENAI_API_KEY"
  | .anthropic => "ANTHROPIC_API_KEY"
  | .openrouter => "OPENROUTER_API_KEY"
  | .groq => "GROQ_API_KEY"

def usualModel : Provider → String
  | .openai => "gpt-4o-mini"
  | .anthropic => "claude-3-5-sonnet-20241022"
  | .openrouter => "anthropic/claude-3.5-sonnet"
  | .groq => "llama-3.1-8b-instant"

end Provider

def ProviderError.message : ProviderError → String
  | .notInstalled provider =>
    let package := provider.distribution
    provider.title ++ " provider selected but " ++ package ++ " is not installed. " ++
      "Run `pip install " ++ package ++ "` or switch LLM_PROVIDER."
  | .noKey provider =>
    provider.title ++ " provider selected but no API key found. Set LLM_API_KEY or " ++
      provider.keyVariable ++ "."
  | .unsupported name =>
    "Unsupported LLM_PROVIDER '" ++ name ++
      "'. Expected 'openai', 'anthropic', 'openrouter' or 'groq'."

namespace ChatModel

def openrouterUrl : String := "https://openrouter.ai/api/v1"

def withoutSlashes (url : String) : String :=
  String.ofList (url.toList.reverse.dropWhile (· == '/')).reverse

def baseUrl? (environment : Environment) (settings : ModelSettings) : Provider → Option String
  | .openai => settings.baseUrl <|> environment.text? "OPENAI_BASE_URL"
  | .openrouter => settings.baseUrl <|> some openrouterUrl
  | .anthropic | .groq => none

def argumentsFor (environment : Environment) (settings : ModelSettings) (temperature : Json)
    (key : String) (provider : Provider) : Members :=
  let model := settings.model.getD provider.usualModel
  let keyName := if provider = .groq then "groq_api_key" else "api_key"
  [("model", .text model), ("temperature", temperature), (keyName, .text key),
   ("max_tokens", .int settings.maxTokens)] ++
    (if provider = .groq then [] else [("timeout", .float settings.timeout)]) ++
    match baseUrl? environment settings provider with
    | some url => [("base_url", .text (withoutSlashes url))]
    | none => []

def providerName (environment : Environment) : String :=
  Provider.fullName (Settings.modelOf environment).provider

/-- The model of the chosen provider; `temperature` stands in for the setting if it is given. -/
def ofEnvironment (environment : Environment) (installed : List String)
    (temperature : Option Json) : Except ProviderError ChatModel :=
  let settings := Settings.modelOf environment
  let name := providerName environment
  match Provider.ofName? name with
  | none => .error (.unsupported name)
  | some provider =>
    if !installed.contains provider.package then .error (.notInstalled provider)
    else
      match settings.apiKey <|> environment.text? provider.keyVariable with
      | none => .error (.noKey provider)
      | some key =>
        let temperature := temperature.getD (.float settings.temperature)
        .ok
          { client := provider.client
            arguments := argumentsFor environment settings temperature key provider }

end ChatModel
end Chartwright
