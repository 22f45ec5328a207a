import Chartwright.Json.Basic
import Chartwright.Number.Numeral
import Chartwright.Text.Alphabet

/-!
Writing values as text. JSON text stands on one line without blanks, or is indented; the members of
an object are written in their order, and a number without digits as `NaN`, `Infinity` or
`-Infinity`. The display text of a value is that by which values of a column are told apart, counted
and labelled: a text displays as itself; within a list or an object it is quoted, with single quotes
unless it holds a single quote and no double one.
-/

namespace Chartwright.Json

/-- What is escaped in a string: all that is not printable ASCII, or only what must be. -/
inductive Escaping where
  | ascii
  | least
  deriving DecidableEq

def hexDigits (width n : Nat) : List Char :=
  let digits := Nat.toDigits 16 n
  List.replicate (width - digits.length) '0' ++ digits

def unitEscape (code : Nat) : List Char := '\\' :: 'u' :: hexDigits 4 code

def escapedChar (escaping : Escaping) (c : Char) : List Char :=
  if c = '"' then ['\\', '"']
  else if c = '\\' then ['\\', '\\']
  else if c = '\n' then ['\\', 'n']
  else if c = '\r' then ['\\', 'r']
  else if c = '\t' then ['\\', 't']
  else if c = '\x08' then ['\\', 'b']
  else if c = '\x0c' then ['\\', 'f']
  else if c.toNat < 0x20 then unitEscape c.toNat
  else if escaping = .ascii ∧ 0x7e < c.toNat then
    if c.toNat < 0x10000 then unitEscape c.toNat
    else
      let code := c.toNat - 0x10000
      unitEscape (0xd800 + code / 0x400) ++ unitEscape (0xdc00 + code % 0x400)
  else [c]

def quoted (escaping : Escaping) (text : String) : String :=
  "\"" ++ String.ofList (text.toList.flatMap (escapedChar escaping)) ++ "\""

def numberText (x : Binary64) : String := x.textWith { nan := "NaN", infinity := "Infinity" }

mutual

def compact (escaping : Escaping) : Json → String
  | .null => "null"
  | .bool value => if value then "true" else "false"
  | .int value => toString value
  | .float value => numberText value
  | .text value => quoted escaping value
  | .list items => "[" ++ ",".intercalate (compactItems escaping items) ++ "]"
  | .object members => "\x7b" ++ ",".intercalate (compactMembers escaping members) ++ "\x7d"

def compactItems (escaping : Escaping) : List Json → List String
  | [] => []
  | item :: rest => compact escaping item :: compactItems escaping rest

def compactMembers (escaping : Escaping) : List (String × Json) → List String
  | [] => []
  | (name, value) :: rest =>
    (quoted escaping name ++ ":" ++ compact escaping value) :: compactMembers escaping rest

end

/-- The items between brackets, each on a line of its own that is indented by `depth` places. -/
def block (opening closing : String) (depth : Nat) (items : List String) : String :=
  let line := "\n" ++ String.ofList (List.replicate depth ' ')
  let last := "\n" ++ String.ofList (List.replicate (depth - 2) ' ')
  if items.isEmpty then opening ++ closing
  else opening ++ line ++ ("," ++ line).intercalate items ++ last ++ closing

mutual

/-- The document over several lines, where `depth` is the indentation of what it holds. Characters
beyond ASCII are kept. -/
def indentedAt (depth : Nat) : Json → String
  | .list items => block "[" "]" depth (indentedItems depth items)
  | .object members => block "\x7b" "\x7d" depth (indentedMembers depth members)
  | .null => "null"
  | .bool value => if value then "true" else "false"
  | .int value => toString value
  | .float value => numberText value
  | .text value => quoted .least value

def indentedItems (depth : Nat) : List Json → List String
  | [] => []
  | item :: rest => indentedAt (depth + 2) item :: indentedItems depth rest

def indentedMembers (depth : Nat) : List (String × Json) → List String
  | [] => []
  | (name, value) :: rest =>
    (quoted .least name ++ ": " ++ indentedAt (depth + 2) value) :: indentedMembers depth rest

end

def indented (document : Json) : String := indentedAt 2 document

open Text

/-! Display texts. -/

def quoteFor (text : List Char) : Char :=
  if text.contains '\'' && !text.contains '"' then '"' else '\''

def literalChar (quote c : Char) : List Char :=
  if c = quote ∨ c = '\\' then ['\\', c]
  else if c = '\n' then ['\\', 'n']
  else if c = '\r' then ['\\', 'r']
  else if c = '\t' then ['\\', 't']
  else if isPrintable c then [c]
  else if c.toNat < 0x100 then '\\' :: 'x' :: hexDigits 2 c.toNat
  else if c.toNat < 0x10000 then '\\' :: 'u' :: hexDigits 4 c.toNat
  else '\\' :: 'U' :: hexDigits 8 c.toNat

/-- A text between quotes, with escapes for what cannot be printed. -/
def literalText (text : String) : String :=
  let quote := quoteFor text.toList
  String.ofList (quote :: text.toList.flatMap (literalChar quote) ++ [quote])

mutual

def literal : Json → String
  | .null => "None"
  | .bool value => if value then "True" else "False"
  | .int value => toString value
  | .float value => value.text
  | .text value => literalText value
  | .list items => "[" ++ ", ".intercalate (literalItems items) ++ "]"
  | .object members => "\x7b" ++ ", ".intercalate (literalMembers members) ++ "\x7d"

def literalItems : List Json → List String
  | [] => []
  | item :: rest => literal item :: literalItems rest

def literalMembers : List (String × Json) → List String
  | [] => []
  | (name, value) :: rest => (literalText name ++ ": " ++ literal value) :: literalMembers rest

end

def display : Json → String
  | .text value => value
  | value => literal value

end Chartwright.Json
