import Chartwright.Text.Alphabet

/-!
The tokens of a date that is written freely: words, numbers, single blanks and single signs. Points
join a word or a number while it is read; a token that turns out to be more than one decimal number
is taken apart again at its points and commas.

Letters are those of ASCII. All words of a date are, so that another letter makes a text unreadable
whatever token it belongs to.
-/

namespace Chartwright.Calendar
open Text

inductive Shape where
  | word
  | number
  | dottedWord
  | dottedNumber
  deriving DecidableEq, Repr

def isLetter (c : Char) : Bool := isAsciiLower c || isAsciiUpper c

def Shape.isWordy : Shape → Bool
  | .word | .dottedWord => true
  | _ => false

def Shape.isDotted : Shape → Bool
  | .dottedWord | .dottedNumber => true
  | _ => false

/-- The shape of a token that goes on with a character; `none` if it ends before it. A comma can be
the point of a number only behind two digits. -/
def Shape.next? (shape : Shape) (last : Char) (isLong : Bool) (c : Char) : Option Shape :=
  match shape with
  | .word => if isLetter c then some .word else if c = '.' then some .dottedWord else none
  | .number =>
    if isDigit c then some .number
    else if c = '.' ∨ (c = ',' ∧ isLong) then some .dottedNumber
    else none
  | .dottedWord =>
    if c = '.' ∨ isLetter c then some .dottedWord
    else if isDigit c ∧ last = '.' then some .dottedNumber
    else none
  | .dottedNumber =>
    if c = '.' ∨ isDigit c then some .dottedNumber
    else if isLetter c ∧ last = '.' then some .dottedWord
    else none

/-- A token that is being read: its characters, the last one first, and whether anything followed
its letters. -/
structure OpenToken where
  shape : Shape
  last : Char
  before : List Char
  lettersSeen : Bool
  deriving DecidableEq, Repr

namespace OpenToken

def chars (token : OpenToken) : List Char := (token.last :: token.before).reverse

def noticed (token : OpenToken) : OpenToken :=
  { token with lettersSeen := token.lettersSeen || token.shape.isWordy }

def extend? (token : OpenToken) (c : Char) : Option OpenToken :=
  (token.shape.next? token.last (!token.before.isEmpty) c).map fun shape =>
    { token.noticed with shape, last := c, before := token.last :: token.before }

def isMark (c : Char) : Bool := c == '.' || c == ','

def parts : List Char → List (List Char)
  | [] => []
  | c :: rest =>
    if isMark c then [c] :: parts rest
    else
      match rest, parts rest with
      | next :: _, piece :: others =>
        if isMark next then [c] :: piece :: others else (c :: piece) :: others
      | _, others => [c] :: others

def isSplit (token : OpenToken) : Bool :=
  token.shape.isDotted &&
    (token.lettersSeen || 1 < token.chars.count '.' || isMark token.last)

def pointed (token : OpenToken) : List Char :=
  if token.shape = .dottedNumber ∧ ¬ token.chars.contains '.' then
    token.chars.map fun c => if c = ',' then '.' else c
  else token.chars

def close (token : OpenToken) : List String :=
  (if token.isSplit then parts token.chars else [token.pointed]).map String.ofList

end OpenToken

def opening (c : Char) : List String × Option OpenToken :=
  if isLetter c then ([], some ⟨.word, c, [], false⟩)
  else if isDigit c then ([], some ⟨.number, c, [], false⟩)
  else if isBlank c then ([" "], none)
  else ([String.singleton c], none)

def tokensFrom : Option OpenToken → List Char → List String
  | none, [] => []
  | some token, [] => token.close
  | none, c :: rest =>
    let (whole, token) := opening c
    whole ++ tokensFrom token rest
  | some token, c :: rest =>
    match token.extend? c with
    | some token => tokensFrom (some token) rest
    | none =>
      let (whole, next) := opening c
      token.noticed.close ++ whole ++ tokensFrom next rest

/-- The tokens of a text, in which zero characters do not count. -/
def tokens (text : List Char) : List String := tokensFrom none (text.filter (· != '\x00'))

end Chartwright.Calendar
