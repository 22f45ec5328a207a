import Chartwright.Json.Reader
import Chartwright.Text.Pattern
import Chartwright.Text.Words

/-!
Recovery of JSON from the reply of a language model: out of code fences, out of the prose around it,
and mended where it is almost JSON. A reply that is JSON as a whole is read as it is; only otherwise
the first balanced block is cut out, and only if that cannot be read it is mended.
-/

namespace Chartwright
namespace Recovery
open Text Pattern

inductive Cause where
  | empty
  | noStart
  | unterminated (block : List Char)
  | tooDeep (opened : Json.Compound)
  | beyondRepair (error : Json.SyntaxError) (mended block : List Char)

def teaserLength : Nat := 400

def teaser (text : List Char) : String :=
  String.ofList (replaceChar '\n' ['\\', 'n'] (text.take teaserLength))

def Cause.message : Cause → String
  | .empty => "empty LLM response text"
  | .noStart => "no JSON start in response"
  | .unterminated block => "unterminated JSON (teaser): " ++ teaser block
  | .tooDeep opened => (Json.SyntaxCause.tooDeep opened).message
  | .beyondRepair error mended block =>
    "json_parse_failed after repair: " ++ error.message mended ++ "; teaser=" ++ teaser block

/-! Code fences. -/

def openingFence : Pattern Unit := do
  lineStart
  exactly "```"
  let _ ← optional (anyCase "json")
  blanks

def closingFence : Pattern Unit := do
  blanks
  exactly "```"
  lineEnd

def unfenced (text : List Char) : List Char :=
  substitute (do openingFence <|> closingFence; return []) (trim text)

/-! Blocks. -/

def isOpening (c : Char) : Bool := c == '{' || c == '['

def isClosing (c : Char) : Bool := c == '}' || c == ']'

inductive Inside where
  | nothing
  | string
  | escape
  deriving DecidableEq, Repr

/-- The characters up to the bracket that closes the last of `depth + 1` open ones. Brackets within
strings do not count, and all brackets are taken to be of one sort. -/
def upToClosing (depth : Nat) (inside : Inside) : List Char → Option (List Char)
  | [] => none
  | c :: rest =>
    match inside with
    | .escape => (upToClosing depth .string rest).map (c :: ·)
    | .string =>
      let inside := if c = '\\' then .escape else if c = '"' then .nothing else .string
      (upToClosing depth inside rest).map (c :: ·)
    | .nothing =>
      if c = '"' then (upToClosing depth .string rest).map (c :: ·)
      else if isOpening c then (upToClosing (depth + 1) .nothing rest).map (c :: ·)
      else if isClosing c then
        match depth with
        | 0 => some [c]
        | depth + 1 => (upToClosing depth .nothing rest).map (c :: ·)
      else (upToClosing depth .nothing rest).map (c :: ·)

def block (text : List Char) : Except Cause (List Char) :=
  match (unfenced text).dropWhile fun c => !isOpening c with
  | [] => .error .noStart
  | c :: rest =>
    match upToClosing 0 .nothing rest with
    | some inner => .ok (c :: inner)
    | none => .error (.unterminated (c :: rest))

/-! Repair. -/

def withoutLastCommas : List Char → List Char
  | [] => []
  | c :: rest =>
    if c = ',' ∧ (rest.dropWhile isBlank).head?.any isClosing then withoutLastCommas rest
    else c :: withoutLastCommas rest

def constant (written name : String) : Pattern (List Char) := do
  exactly written
  return name.toList

def constants : Pattern (List Char) := do
  boundary
  let name ← constant "None" "null" <|> constant "True" "true" <|> constant "False" "false"
  boundary
  return name

def withoutEllipses : List Char → List Char
  | '.' :: '.' :: '.' :: rest => "null".toList ++ withoutEllipses rest
  | c :: rest => c :: withoutEllipses rest
  | [] => []

/-- The text up to a single quote, and what follows it. A backslash takes the next character with
it, unless that is a newline. -/
def quotedBody : List Char → Option (List Char × List Char)
  | [] => none
  | '\'' :: rest => some ([], rest)
  | '\\' :: c :: rest =>
    if c = '\n' then none
    else (quotedBody rest).map fun (body, after) => ('\\' :: c :: body, after)
  | c :: rest =>
    if c = '\\' then none else (quotedBody rest).map fun (body, after) => (c :: body, after)

def doubleQuoted (body : List Char) : List Char :=
  '"' :: replaceChar '"' ['\\', '"'] body ++ ['"']

/-- Puts double quotes in place of pairs of single ones; `count` bounds the characters looked at. -/
def requotedFrom (text : List Char) : Nat → List Char
  | 0 => text
  | count + 1 =>
    match text with
    | [] => []
    | c :: rest =>
      match if c = '\'' then quotedBody rest else none with
      | some (body, after) => doubleQuoted body ++ requotedFrom after count
      | none => c :: requotedFrom rest count

def requoted (text : List Char) : List Char := requotedFrom text text.length

def mended (text : List Char) : List Char :=
  requoted (withoutEllipses (substitute constants (withoutLastCommas text)))

/-! The whole. -/

/-- Reads a text as JSON, or goes on to what is done `otherwise`. JSON that stands too deep is not
tried in another way. -/
def readOr [Json.Stack] (text : List Char) (otherwise : Json.SyntaxError → Except Cause Json) :
    Except Cause Json :=
  match Json.read text with
  | .ok document => .ok document
  | .error { cause := .tooDeep opened, .. } => .error (.tooDeep opened)
  | .error error => otherwise error

def readBlock [Json.Stack] (part : List Char) : Except Cause Json :=
  readOr part fun _ =>
    let repaired := mended part
    readOr repaired fun error => .error (.beyondRepair error repaired part)

def read [Json.Stack] (reply : String) : Except Cause Json :=
  let text := unfenced reply.toList
  if (trim text).isEmpty then .error .empty
  else readOr text fun _ => block text >>= readBlock

end Recovery
end Chartwright
