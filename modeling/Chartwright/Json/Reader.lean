import Chartwright.Json.Basic
import Chartwright.Number.Numeral

/-!
Reading JSON text. The reader goes through the characters once, with a stack of the lists and
objects that are open, so what it has understood of a text depends on the characters alone and two
pieces of text can be read one after the other. Beyond the standard it knows the numbers `NaN`,
`Infinity` and `-Infinity`. A failure tells what was expected and where. Two limits keep a hostile
text from costing much: integers have at most `Numeral.digitLimit` digits, and no more lists and
objects are open at once than the `Stack` has room for.
-/

namespace Chartwright.Json

/-- What is left of the interpreter's stack, told by how many lists and objects may be open at once
where a text is read. It differs from call to call. -/
class Stack where
  depth : Nat

/-- About what there is in the calls of a service. -/
instance Stack.usual : Stack := ⟨960⟩

/-- Whether a deep copy of a document can be made. It takes two calls for each list and object where
reading takes one. -/
def isCopied [Stack] (document : Json) : Bool := !document.isDeeper (Stack.depth / 2)

inductive SyntaxCause where
  | value
  | comma
  | colon
  | name
  | unterminated
  | control
  | escape
  | codeUnit
  | extra
  | byteOrderMark
  | tooLong (digits : Nat)
  | tooDeep (opened : Compound)
  deriving DecidableEq, Repr

structure SyntaxError where
  cause : SyntaxCause
  position : Nat
  deriving DecidableEq, Repr

def SyntaxCause.message : SyntaxCause → String
  | .value => "Expecting value"
  | .comma => "Expecting ',' delimiter"
  | .colon => "Expecting ':' delimiter"
  | .name => "Expecting property name enclosed in double quotes"
  | .unterminated => "Unterminated string starting at"
  | .control => "Invalid control character at"
  | .escape => "Invalid \\escape"
  | .codeUnit => "Invalid \\uXXXX escape"
  | .extra => "Extra data"
  | .byteOrderMark => "Unexpected UTF-8 BOM (decode using utf-8-sig)"
  | .tooLong digits => (Numeral.IntegerError.tooLong digits).message
  | .tooDeep .list => "maximum recursion depth exceeded while decoding a JSON array from a " ++
      "unicode string"
  | .tooDeep .object => "maximum recursion depth exceeded while decoding a JSON object from a " ++
      "unicode string"

def SyntaxCause.isLimit : SyntaxCause → Bool
  | .tooLong _ | .tooDeep _ => true
  | _ => false

/-- The message with the line, the column and the position; lines and columns count from one. Of
limits the place is not told. -/
def SyntaxError.message (e : SyntaxError) (text : List Char) : String :=
  if e.cause.isLimit then e.cause.message
  else
    let before := text.take e.position
    let line := before.count '\n' + 1
    let column := (before.reverse.takeWhile (· != '\n')).length + 1
    s!"{e.cause.message}: line {line} column {column} (char {e.position})"

/-- A list or object that is open, with what it holds so far; items stand in reverse order. -/
inductive Frame where
  | list (before : List Json)
  | member (before : Members) (name : String)

inductive Role where
  | value
  | name (before : Members)

/-- Where the reader stands in a numeral. `cut` is the place of a point or mark that may turn out
not to belong to it. -/
inductive NumeralPart where
  | sign
  | zero
  | whole
  | point (cut : Nat)
  | fraction
  | mark (cut : Nat)
  | markSign (cut : Nat)
  | exponent
  deriving DecidableEq, Repr

/-- Where the reader stands in a string. `high` is the first half of a pair that waits for its
second half, `unit` the place of a code unit just completed. -/
inductive StringPart where
  | plain (high : Option Nat) (unit : Option Nat)
  | backslash (high : Option Nat) (place : Nat)
  | hex (high : Option Nat) (place : Nat) (count : Nat) (code : Nat)

inductive Phase where
  | item (closable : Bool)
  | name (before : Members) (closable : Bool)
  | colon (before : Members) (name : String)
  | word (start : Nat) (left : List Char) (value : Json)
  | numeral (start : Nat) (part : NumeralPart) (digits : List Char)
  | string (start : Nat) (role : Role) (part : StringPart) (before : List Char)
  | afterItem (before : List Json)
  | afterMember (before : Members)
  | done (value : Json)
  | failed (error : SyntaxError)

structure Reading where
  phase : Phase
  around : List Frame

namespace Reading

def start : Reading := { phase := .item false, around := [] }

def isSpace (c : Char) : Bool := c == ' ' || c == '\t' || c == '\n' || c == '\r'

def fail (cause : SyntaxCause) (position : Nat) : Reading :=
  { phase := .failed { cause, position }, around := [] }

def complete (value : Json) : List Frame → Reading
  | [] => { phase := .done value, around := [] }
  | .list before :: around => { phase := .afterItem (value :: before), around }
  | .member before name :: around => { phase := .afterMember (before.set name value), around }

/-- A code unit as a character. A half without its other half has no character of its own and is
read as the replacement character. -/
def ofUnit (code : Nat) : Char :=
  if 0xd800 ≤ code ∧ code < 0xe000 then Char.ofNat 0xfffd else Char.ofNat code

def isHigh (code : Nat) : Bool := 0xd800 ≤ code && code < 0xdc00

def isLow (code : Nat) : Bool := 0xdc00 ≤ code && code < 0xe000

def settle (high : Option Nat) (before : List Char) : List Char :=
  match high with
  | some code => ofUnit code :: before
  | none => before

def hexValue? (c : Char) : Option Nat :=
  if '0' ≤ c ∧ c ≤ '9' then some (c.toNat - '0'.toNat)
  else if 'a' ≤ c ∧ c ≤ 'f' then some (c.toNat - 'a'.toNat + 10)
  else if 'A' ≤ c ∧ c ≤ 'F' then some (c.toNat - 'A'.toNat + 10)
  else none

def escaped? : Char → Option Char
  | '"' => some '"'
  | '\\' => some '\\'
  | '/' => some '/'
  | 'b' => some '\x08'
  | 'f' => some '\x0c'
  | 'n' => some '\n'
  | 'r' => some '\r'
  | 't' => some '\t'
  | _ => none

def closeString (around : List Frame) (role : Role) (before : List Char) : Reading :=
  let text := String.ofList before.reverse
  match role with
  | .value => complete (.text text) around
  | .name members => { phase := .colon members text, around }

def closeUnit (start : Nat) (role : Role) (around : List Frame) (high : Option Nat) (place : Nat)
    (code : Nat) (before : List Char) : Reading :=
  let string (high : Option Nat) (before : List Char) : Reading :=
    { phase := .string start role (.plain high (some place)) before, around }
  match high with
  | some first =>
    if isLow code then
      string none (Char.ofNat (0x10000 + (first - 0xd800) * 0x400 + (code - 0xdc00)) :: before)
    else if isHigh code then string (some code) (ofUnit first :: before)
    else string none (ofUnit code :: ofUnit first :: before)
  | none => if isHigh code then string (some code) before else string none (ofUnit code :: before)

def stepString (position : Nat) (c : Char) (start : Nat) (role : Role) (around : List Frame)
    (before : List Char) : StringPart → Reading
  | .plain high _ =>
    if c = '"' then closeString around role (settle high before)
    else if c = '\\' then
      { phase := .string start role (.backslash high position) before, around }
    else if c.toNat < 0x20 then fail .control position
    else { phase := .string start role (.plain none none) (c :: settle high before), around }
  | .backslash high place =>
    if c = 'u' then { phase := .string start role (.hex high position 0 0) before, around }
    else
      match escaped? c with
      | some d =>
        { phase := .string start role (.plain none none) (d :: settle high before), around }
      | none => fail .escape place
  | .hex high place count code =>
    match hexValue? c with
    | none => fail .codeUnit place
    | some digit =>
      let code := 16 * code + digit
      if count = 3 then closeUnit start role around high place code before
      else { phase := .string start role (.hex high place (count + 1) code) before, around }

def wholeValue (digits : List Char) : Except SyntaxCause Json :=
  match Numeral.integerOf digits.reverse with
  | .ok n => .ok (.int n)
  | .error (.tooLong count) => .error (.tooLong count)
  | .error .malformed => .error .value

def numeralValue (part : NumeralPart) (digits : List Char) : Except SyntaxCause Json :=
  match part with
  | .fraction | .exponent => .ok (.float ((Numeral.decimal? digits.reverse).getD (.nan 0)))
  | _ => wholeValue digits

/-- What is wrong with a numeral whose last point or mark does not belong to it: the numeral before
that may be too long. -/
def cutCause (digits : List Char) (around : List Frame) : SyntaxCause :=
  match wholeValue (digits.dropWhile fun c => !Text.isAsciiDigit c) with
  | .error (.tooLong count) => .tooLong count
  | _ => if around.isEmpty then .extra else .comma

def opened [Stack] (position : Nat) (compound : Compound) (around : List Frame) : Reading :=
  if Stack.depth ≤ around.length then fail (.tooDeep compound) position
  else
    match compound with
    | .list => { phase := .item true, around := .list [] :: around }
    | .object => { phase := .name [] true, around }

def startValue [Stack] (position : Nat) (c : Char) (around : List Frame) : Reading :=
  let word (left : String) (value : Json) : Reading :=
    { phase := .word position left.toList value, around }
  let numeral (part : NumeralPart) : Reading :=
    { phase := .numeral position part [c], around }
  if c = '"' then { phase := .string position .value (.plain none none) [], around }
  else if c = '[' then opened position .list around
  else if c = '\x7b' then opened position .object around
  else if c = 'n' then word "ull" .null
  else if c = 't' then word "rue" (.bool true)
  else if c = 'f' then word "alse" (.bool false)
  else if c = 'N' then word "aN" (.float (.nan 0))
  else if c = 'I' then word "nfinity" (.float (.infinite false))
  else if c = '-' then numeral .sign
  else if c = '0' then numeral .zero
  else if '1' ≤ c ∧ c ≤ '9' then numeral .whole
  else fail .value position

def stepAfter (position : Nat) (c : Char) (reading : Reading) : Reading :=
  if isSpace c then reading
  else
    match reading.phase with
    | .afterItem before =>
      if c = ',' then { phase := .item false, around := .list before :: reading.around }
      else if c = ']' then complete (.list before.reverse) reading.around
      else fail .comma position
    | .afterMember before =>
      if c = ',' then { phase := .name before false, around := reading.around }
      else if c = '\x7d' then complete (.object before) reading.around
      else fail .comma position
    | .done _ => fail .extra position
    | _ => reading

def closeNumeral (position : Nat) (c : Char) (part : NumeralPart) (digits : List Char)
    (around : List Frame) : Reading :=
  match numeralValue part digits with
  | .ok value => stepAfter position c (complete value around)
  | .error cause => fail cause position

def stepNumeral (position : Nat) (c : Char) (start : Nat) (digits : List Char)
    (around : List Frame) (part : NumeralPart) : Reading :=
  let go (part : NumeralPart) : Reading := { phase := .numeral start part (c :: digits), around }
  let digit : Bool := Text.isAsciiDigit c
  let isMark : Bool := c == 'e' || c == 'E'
  let ends (cut : Nat) : Reading := fail (cutCause digits around) cut
  match part with
  | .sign =>
    if c = '0' then go .zero
    else if digit then go .whole
    else if c = 'I' then
      { phase := .word start "nfinity".toList (.float (.infinite true)), around }
    else fail .value start
  | .zero =>
    if c = '.' then go (.point position)
    else if isMark then go (.mark position)
    else closeNumeral position c part digits around
  | .whole =>
    if digit then go .whole
    else if c = '.' then go (.point position)
    else if isMark then go (.mark position)
    else closeNumeral position c part digits around
  | .point cut => if digit then go .fraction else ends cut
  | .fraction =>
    if digit then go .fraction
    else if isMark then go (.mark position)
    else closeNumeral position c part digits around
  | .mark cut =>
    if digit then go .exponent
    else if c = '+' ∨ c = '-' then go (.markSign cut)
    else ends cut
  | .markSign cut => if digit then go .exponent else ends cut
  | .exponent => if digit then go .exponent else closeNumeral position c part digits around

def step [Stack] (reading : Reading) (position : Nat) (c : Char) : Reading :=
  let around := reading.around
  match reading.phase with
  | .item closable =>
    if isSpace c then reading
    else if closable ∧ c = ']' then complete (.list []) (around.drop 1)
    else startValue position c around
  | .name before closable =>
    if isSpace c then reading
    else if c = '"' then { phase := .string position (.name before) (.plain none none) [], around }
    else if closable ∧ c = '\x7d' then complete (.object before) around
    else fail .name position
  | .colon before name =>
    if isSpace c then reading
    else if c = ':' then { phase := .item false, around := .member before name :: around }
    else fail .colon position
  | .word start left value =>
    match left with
    | [] => reading
    | expected :: left =>
      if c = expected then
        if left.isEmpty then complete value around
        else { phase := .word start left value, around }
      else fail .value start
  | .numeral start part digits => stepNumeral position c start digits around part
  | .string start role part before => stepString position c start role around before part
  | .afterItem _ | .afterMember _ | .done _ => stepAfter position c reading
  | .failed _ => reading

def steps [Stack] (reading : Reading) (position : Nat) : List Char → Reading
  | [] => reading
  | c :: rest => steps (step reading position c) (position + 1) rest

def endNumeral (start position : Nat) (around : List Frame) (digits : List Char) :
    NumeralPart → Except SyntaxError Json
  | .sign => .error { cause := .value, position := start }
  | .point cut | .mark cut | .markSign cut =>
    .error { cause := cutCause digits around, position := cut }
  | part =>
    match numeralValue part digits with
    | .error cause => .error { cause, position }
    | .ok value => if around.isEmpty then .ok value else .error { cause := .comma, position }

def result (reading : Reading) (position : Nat) : Except SyntaxError Json :=
  match reading.phase with
  | .done value => .ok value
  | .failed error => .error error
  | .item _ => .error { cause := .value, position }
  | .name _ _ => .error { cause := .name, position }
  | .colon _ _ => .error { cause := .colon, position }
  | .word start _ _ => .error { cause := .value, position := start }
  | .numeral start part digits => endNumeral start position reading.around digits part
  | .string start _ part _ =>
    match part with
    | .hex _ place _ _ | .plain _ (some place) => .error { cause := .codeUnit, position := place }
    | .plain _ none | .backslash _ _ => .error { cause := .unterminated, position := start }
  | .afterItem _ | .afterMember _ => .error { cause := .comma, position }

end Reading

def byteOrderMark : Char := Char.ofNat 0xfeff

/-- The document a text stands for, in which a byte order mark is a character like any other. -/
def readBare [Stack] (text : List Char) : Except SyntaxError Json :=
  (Reading.start.steps 0 text).result text.length

def read [Stack] (text : List Char) : Except SyntaxError Json :=
  if text.head? = some byteOrderMark then .error { cause := .byteOrderMark, position := 0 }
  else readBare text

end Chartwright.Json
