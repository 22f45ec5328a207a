import Chartwright.Command.Phrase
import Chartwright.Edit.Plan
import Chartwright.Text.Pattern
import Chartwright.Text.Words

/-!
The planner for typed commands. The title in a command is taken as it was typed and cut out of the
command, so that the words of a title are not taken for phrases; commas and "and" at the edges of
the rest go with it. The rest is looked through for every phrase, and the operations make the plan.
A command without any phrase gives an empty plan.
-/

namespace Chartwright
namespace Title
open Text Pattern

def isTitleChar (c : Char) : Bool := !isQuote c && c != '\n'

def quote : Pattern Unit := do
  let _ ← optional (one isQuote)

def pattern : Pattern (List Char) := do
  boundary
  anyStep "set"
  let _ ← optional (anyStep "the")
  anyStep "title"
  anyCase "to"
  yieldingBlanks1
  quote
  let title ← run1 isTitleChar
  quote
  return title

def connective : Pattern Unit :=
  exactly "," <|> (do boundary; anyCase "and"; boundary)

def leading : Pattern Unit := do
  repeated (do blanks; connective)
  blanks

def trailing : Pattern Unit := do
  blanks
  repeated (do connective; blanks)
  atEnd

def withoutConnectives (text : List Char) : List Char :=
  let rest :=
    match first? leading (.start text) with
    | some (_, rest) => rest
    | none => .start text
  match searchFrom trailing rest.behind rest.ahead with
  | some found => found.before ++ found.after.ahead
  | none => rest.ahead

/-- The title that a command sets, if it sets one, and the command without it. -/
def split (text : List Char) : Option (List Char) × List Char :=
  match search pattern text with
  | some found =>
    (some (trim found.value), withoutConnectives (trim (found.before ++ found.after.ahead)))
  | none => (none, text)

end Title

namespace Command
open Text Pattern

def confidenceStep : Binary64 := .ofRatio false 8 100

/-- The confidence that goes with a number of operations, with two decimal places and at most
one. -/
def confidenceOf (count : Binary64) : Binary64 :=
  let total := Binary64.add usualConfidence (.mul confidenceStep count)
  (if total.less (.ofInt 1) then total else .ofInt 1).roundedTo 2

def confidenceFor (count : Int) : Binary64 := confidenceOf (.ofInt count)

def setsMark : Operation → Bool
  | .setMark .. => true
  | _ => false

def speaksOfLines (text : List Char) : Bool := occurs (wholeWord (exactly "lines")) text

def findings (wording : Wording) : List Phrase → Except Numeral.IntegerError (List Operation)
  | [] => .ok []
  | phrase :: rest => do
    let operation ← phrase wording
    let others ← findings wording rest
    return operation.toList ++ others

def wordingOperations (wording : Wording) : Except Numeral.IntegerError (List Operation) :=
  (findings wording Phrase.all).map fun found =>
    if !found.any setsMark && speaksOfLines wording.lowered then found ++ [.setMark .line none]
    else found

def operations (command : String) (names : List String) :
    Except Numeral.IntegerError (List Operation) :=
  let (title, rest) := Title.split (trim command.toList)
  (wordingOperations (Wording.of rest names)).map fun found =>
    (title.map fun title => Operation.setTitle (String.ofList title)).toList ++ found

def plan (command : String) (names : List String) : Except Numeral.IntegerError Plan :=
  (operations command names).map fun operations =>
    { intent := command, confidence := confidenceFor operations.length, operations }

/-- What is wrong with a plan for no command at all: nobody can tell its intent. -/
def noIntent : Checked Plan :=
  (Checked.fault .notText .null).under (.name Plan.intentAttr.snake)

end Command
end Chartwright
