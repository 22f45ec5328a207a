import Chartwright.Edit.Plan
import Chartwright.Json.Printer
import Chartwright.Table.Reference
import Chartwright.Text.Pattern
import Chartwright.Text.Words

/-!
The phrases of commands. Each looks at the whole command on its own and finds at most one operation;
a command may hold several phrases. A command is matched in lower case, but values and titles keep
the case in which they were typed.
-/

namespace Chartwright
open Text

/-- A command without its title, with the names of the fields that it may refer to. -/
structure Wording where
  text : List Char
  lowered : List Char
  names : List String

namespace Wording

def of (text : List Char) (names : List String) : Wording := ⟨text, lower text, names⟩

def field? (wording : Wording) (word : List Char) : Option String :=
  Reference.resolve? (String.ofList word) wording.names

end Wording

/-! Names of colors. -/

namespace Color
open Text

def named : List (String × String) :=
  [("blue", "#1f77b4"), ("orange", "#ff7f0e"), ("red", "#d62728"), ("green", "#2ca02c"),
   ("purple", "#9467bd"), ("brown", "#8c564b"), ("pink", "#e377c2"), ("gray", "#7f7f7f"),
   ("grey", "#7f7f7f"), ("yellow", "#bcbd22"), ("cyan", "#17becf"), ("black", "#111111"),
   ("white", "#ffffff")]

def isHexDigit (c : Char) : Bool :=
  isAsciiDigit c || ('a' ≤ c && c ≤ 'f') || ('A' ≤ c && c ≤ 'F')

/-- Three or six hexadecimal digits after a number sign. -/
def isCode : List Char → Bool
  | '#' :: digits => digits.all isHexDigit && (digits.length = 3 || digits.length = 6)
  | _ => false

def ofWord (word : List Char) : String :=
  let word := trim word
  if isCode word then String.ofList word
  else (named.lookup (String.ofList (lower word))).getD (String.ofList word)

end Color

/-! Expressions on rows, as filters hold them. -/

namespace Expression
open Text

def isIdentifier : List Char → Bool
  | [] => false
  | c :: rest =>
    let isLetter c := isAsciiLower c || isAsciiUpper c || c == '_'
    isLetter c && rest.all fun c => isLetter c || isAsciiDigit c

def ofField (field : String) : String :=
  if isIdentifier field.toList then "datum." ++ field
  else "datum[" ++ Json.literalText field ++ "]"

def unquoted (text : List Char) : List Char :=
  ((text.dropWhile isQuote).reverse.dropWhile isQuote).reverse

/-- A value as it was typed: a number as it is, anything else as a text. -/
def ofValue (text : List Char) : String :=
  let value := unquoted (trim text)
  if (Numeral.real? value).isSome then String.ofList value
  else String.ofList ('\'' :: replaceChar '\'' ['\\', '\''] value ++ ['\''])

end Expression

/-! Phrases. -/

/-- What is found in a command, if anything. A number in it may have too many digits. -/
abbrev Phrase := Wording → Except Numeral.IntegerError (Option Operation)

namespace Phrase
open Text Pattern

abbrev Reader := Wording → Option Operation

def ofReader (reader : Reader) : Phrase := fun wording => .ok (reader wording)

/-! Words that several phrases share. -/

def isNameChar (c : Char) : Bool := isAsciiLower c || isAsciiDigit c || c == '_'

/-- The name of a field, as far as it is written in ASCII. -/
def fieldWord : Pattern (List Char) := run1 isNameChar

def colorWord : Pattern Unit := do
  exactly "colo"
  let _ ← optional (exactly "u")
  exactly "r"

def digits1 : Pattern (List Char) := run1 isDigit

def isDash (c : Char) : Bool := isBlank c || c == '-'

/-! Marks: "change to a line chart", "use bars", "stacked area chart". -/

def markWords : List String :=
  ["line", "bar", "area", "point", "circle", "square", "tick", "rect", "rule", "text", "scatter",
   "dot", "column"]

def markNamed? (word : String) : Option MarkKind :=
  if word = "scatter" ∨ word = "dot" then some .point
  else if word = "column" then some .bar
  else Form.Named.ofName? word

/-- The word for a mark, alone or in the plural, after an article. -/
def markAfterVerb : Pattern String := do
  let _ ← optional (step "an" <|> step "a")
  let word ← oneOf markWords
  let _ ← optional (exactly "s")
  boundary
  return word

def changeTo : Pattern String := do
  boundary
  let _ ← oneOf ["change", "switch", "convert", "turn"]
  blanks1
  let _ ← optional (step "it" <|> step "this" <|> (do step "the"; step "chart"))
  let _ ← oneOf ["to", "into"]
  blanks1
  markAfterVerb

def makeIt : Pattern Unit := do
  step "make"
  exactly "it"

def setTo : Pattern Unit := do
  step "set"
  maybe "it"
  exactly "to"

def showAs : Pattern Unit := do
  step "show"
  maybe "it"
  exactly "as"

def useMark : Pattern String := do
  boundary
  makeIt <|> setTo <|> showAs <|> exactly "use"
  blanks1
  markAfterVerb

def markNoun : Pattern String := do
  boundary
  let word ← oneOf markWords
  blanks1
  let _ ← oneOf ["chart", "plot", "graph"]
  boundary
  return word

def markWord? (text : List Char) : Option String :=
  find? (changeTo <|> useMark) text <|> find? markNoun text

def normalizedWord : Pattern Unit :=
  wholeWord
    ((do exactly "normali"; let _ ← one (fun c => c == 's' || c == 'z'); exactly "ed") <|>
      (do exactly "percent"; let _ ← optional (exactly "age")))

/-- How the marks are to be stacked, if anything is said of it. -/
def stackingWord? (text : List Char) : Option Stacking :=
  if occurs normalizedWord text then some .normalize
  else if occurs (wholeWord (exactly "unstacked")) text then some .unstacked
  else if occurs (wholeWord (exactly "stacked")) text then some .zero
  else none

def markOptions (kind : MarkKind) (text : List Char) : Option MarkOptions :=
  let point := if kind.hasOverlay && occursIn "with points".toList text then some true else none
  let stacked := if kind.isStackable then stackingWord? text else none
  if point.isSome || stacked.isSome then some { point, stacked } else none

def mark : Reader := fun wording =>
  ((markWord? wording.lowered).bind markNamed?).map fun kind =>
    .setMark kind (markOptions kind wording.lowered)

/-! Colors: "color by region", "make west blue and east red", "use region as color". -/

def encode (wording : Wording) (channel : Channel) (reference : List Char) : Option Operation :=
  (wording.field? reference).map fun field => .setEncoding channel field none none

def colorByPattern : Pattern (List Char) := do
  boundary
  colorWord
  let _ ← optional (do blanks1; maybe "the"; oneOf ["lines", "bars", "points", "areas"])
  blanks1
  step "by"
  fieldWord

def colorBy : Reader := fun wording =>
  (find? colorByPattern wording.lowered).bind (encode wording .color)

/-- What follows a command to make something that is not the chart itself. -/
def makePattern : Pattern (List Char) := do
  boundary
  exactly "make"
  yieldingBlanks1
  notAhead (do exactly "it"; boundary)
  notAhead (do exactly "a"; let _ ← optional (exactly "n"); boundary)
  notAhead (do step "the"; exactly "chart"; boundary)
  run1 notNewline

def listSeparator : Pattern Unit :=
  (do blanks; exactly ","; blanks) <|> (do blanks1; exactly "and"; blanks1)

def isSeriesChar (c : Char) : Bool := isNameChar c || c == '-'

def isLowerHex (c : Char) : Bool := isAsciiDigit c || ('a' ≤ c && c ≤ 'f')

def codeWord : Pattern (List Char) := do
  exactly "#"
  let digits ← run1 isLowerHex
  if 3 ≤ digits.length ∧ digits.length ≤ 6 then return '#' :: digits else never

/-- A value of a field and its color: the last word is the color. -/
def seriesPattern : Pattern (List Char × List Char) := do
  let name ← reluctant1 fun c => isSeriesChar c || isBlank c
  blanks1
  let color ← codeWord <|> run1 isSeriesChar
  atEnd
  return (name, color)

def seriesColor? (piece : List Char) : Option (String × String) :=
  (first? seriesPattern (.start (trim piece))).map fun ((name, color), _) =>
    (String.ofList (titleCase (trim name)), Color.ofWord color)

/-- Gives a name a color, in its place if it has one already. -/
def putColor (colors : List (String × String)) (entry : String × String) :
    List (String × String) :=
  match colors with
  | [] => [entry]
  | (name, color) :: rest =>
    if name = entry.1 then entry :: rest else (name, color) :: putColor rest entry

def seriesColors : Reader := fun wording => do
  let list ← find? makePattern wording.lowered
  let colors := ((pieces listSeparator list).filterMap seriesColor?).foldl putColor []
  if colors.isEmpty then none else some (.setSeriesColors colors)

def useAsColorPattern : Pattern (List Char) := do
  boundary
  step "use"
  let field ← fieldWord
  blanks1
  step "as"
  maybe "the"
  colorWord
  boundary
  return field

def useAsColor : Reader := fun wording =>
  (find? useAsColorPattern wording.lowered).bind (encode wording .color)

def schemePattern : Pattern (List Char) := do
  boundary
  step "use"
  let _ ← optional (step "the" <|> step "a")
  let scheme ← run1 fun c => isAsciiLower c || isAsciiDigit c
  blanks1
  let _ ← optional (do colorWord; blanks1)
  exactly "scheme"
  boundary
  return scheme

def scheme : Reader := fun wording =>
  (find? schemePattern wording.lowered).map fun scheme => .setColorScheme (String.ofList scheme)

/-! Ranking and sorting: "top 5 by sales", "sort by profit descending". -/

def topPattern : Pattern (String × List Char × Option (List Char)) := do
  boundary
  let side ← oneOf ["top", "bottom"]
  blanks1
  let count ← digits1
  let field ← optional (do blanks1; step "by"; fieldWord)
  return (side, count, field)

/-- A ranking of the first rows or of the last ones; of no rows there is none. -/
def topN : Phrase := fun wording =>
  match find? topPattern wording.lowered with
  | none => .ok none
  | some (side, count, field) =>
    (Numeral.natural count).map fun n =>
      if n = 0 then none
      else
        some (.setTopN n (field.bind wording.field?)
          (if side = "top" then .descending else .ascending))

def directionWord : Pattern Direction := do
  let word ← oneOf ["ascending", "descending", "asc", "desc"]
  return if word.startsWith "desc" then .descending else .ascending

def sortWord : Pattern Unit := do
  boundary
  exactly "sort"
  let _ ← optional (exactly "ed")
  blanks1

def sortByPattern : Pattern (List Char × Option Direction) := do
  sortWord
  step "by"
  let field ← fieldWord
  let direction ← optional (do blanks1; directionWord)
  boundary
  return (field, direction)

def sortAxisPattern : Pattern (Option String × Direction) := do
  sortWord
  let axis ← optional (do let axis ← oneOf ["x", "y"]; blanks1; return axis)
  let direction ← directionWord
  boundary
  return (axis, direction)

/-- A field that is not known is kept as it was typed. -/
def sort : Reader := fun wording =>
  match find? sortByPattern wording.lowered with
  | some (field, direction) =>
    let field := (wording.field? field).getD (String.ofList field)
    some (.setSort "y" (some field) (direction.getD .ascending))
  | none =>
    (find? sortAxisPattern wording.lowered).map fun (axis, direction) =>
      .setSort (axis.getD "y") none direction

/-! Channels: "put sales on the y axis", "size by profit", "remove color", "average of y". -/

def positionWord : Pattern Position :=
  (do exactly "x"; return .x) <|> (do exactly "y"; return .y)

def axisPattern : Pattern (List Char × Position) := do
  boundary
  let _ ← oneOf ["put", "place", "move", "show", "plot"]
  blanks1
  let field ← fieldWord
  blanks1
  step "on"
  maybe "the"
  let position ← positionWord
  let _ ← optional (do skip isDash; exactly "axis")
  boundary
  return (field, position)

def axis : Reader := fun wording =>
  (find? axisPattern wording.lowered).bind fun (field, position) =>
    encode wording position.channel field

def sizeByPattern : Pattern (List Char) := do
  boundary
  step "size"
  step "by"
  fieldWord

def sizeBy : Reader := fun wording =>
  (find? sizeByPattern wording.lowered).bind (encode wording .size)

def channelWord : Pattern Channel :=
  (do exactly "x"; return .x) <|> (do exactly "y"; return .y) <|> (do colorWord; return .color) <|>
    (do exactly "size"; return .size)

def removePattern : Pattern Channel := do
  boundary
  let _ ← oneOf ["remove", "clear", "drop"]
  blanks1
  maybe "the"
  let channel ← channelWord
  let _ ← optional (do skip isDash; oneOf ["axis", "encoding", "channel"])
  boundary
  return channel

def remove : Reader := fun wording => (find? removePattern wording.lowered).map .removeEncoding

def aggregateWords : List (String × Aggregate) :=
  [("sum", .sum), ("total", .sum), ("mean", .mean), ("average", .mean), ("avg", .mean),
   ("median", .median), ("count", .count), ("min", .min), ("minimum", .min), ("max", .max),
   ("maximum", .max), ("distinct", .distinct)]

def aggregatePattern : Pattern (String × Position) := do
  boundary
  let word ← oneOf (aggregateWords.map (·.1))
  blanks1
  let _ ← oneOf ["for", "on", "of"]
  blanks1
  maybe "the"
  let position ← positionWord
  boundary
  return (word, position)

def aggregate : Reader := fun wording => do
  let (word, position) ← find? aggregatePattern wording.lowered
  let op ← aggregateWords.lookup word
  return .setAggregate position op

/-! Filters: "only show sales > 100". They are read in the case in which they were typed. -/

def comparisons : List String := [">=", "<=", "==", "!=", ">", "<", "="]

def filterVerb : Pattern Unit :=
  anyCase "filter" <|> (do anyStep "only"; anyCase "show") <|> anyCase "keep"

/-- The word that ends the value of a filter, or the end of the command. -/
def filterEnd : Pattern Unit := wholeWord (anyCase "and") <|> atEnd

def filterPattern : Pattern (List Char × String × List Char) := do
  boundary
  filterVerb
  blanks1
  let _ ← optional (anyStep "to" <|> anyStep "where" <|> (do anyStep "rows"; anyStep "where"))
  let field ← run1 fun c => isNameChar (plainLetter c)
  blanks
  let comparison ← oneOf comparisons
  yieldingBlanks
  let value ← reluctant1 notNewline
  blanks
  filterEnd
  return (field, comparison, value)

def filter : Reader := fun wording => do
  let (field, comparison, value) ← find? filterPattern wording.text
  let field ← wording.field? field
  let comparison := if comparison = "=" then "==" else comparison
  let test := " " ++ comparison ++ " " ++ Expression.ofValue value
  return .addFilter (Expression.ofField field ++ test)

/-! Sizes: "size 600 x 400", "width to 300", "full width". -/

def sizePattern : Pattern (List Char × List Char) := do
  boundary
  step "size"
  maybe "to"
  let width ← digits1
  blanks
  let _ ← one fun c => c == 'x' || c == '×'
  blanks
  let height ← digits1
  boundary
  return (width, height)

def lengthPattern (dimension : String) : Pattern (List Char) := do
  boundary
  step dimension
  let _ ← optional (step "to" <|> step "of")
  let length ← digits1
  boundary
  return length

def fullWidthPattern : Pattern Unit :=
  wholeWord
    ((do exactly "full"; let _ ← one isDash; exactly "width") <|>
      (do step "fill"; maybe "the"; exactly "container"))

/-- A length in a command, if there is one. -/
def pixels : Option (List Char) → Except Numeral.IntegerError (Option Dimension)
  | none => .ok none
  | some digits => (Numeral.natural digits).map fun n => some (.whole n)

def lengths (text : List Char) : Option (List Char) × Option (List Char) :=
  match find? sizePattern text with
  | some (width, height) => (some width, some height)
  | none => (find? (lengthPattern "width") text, find? (lengthPattern "height") text)

def size : Phrase := fun wording => do
  let (width, height) := lengths wording.lowered
  let width ← pixels width
  let height ← pixels height
  let width := if occurs fullWidthPattern wording.lowered then some .container else width
  return if width.isNone && height.isNone then none else some (.setSize width height)

def all : List Phrase :=
  [ofReader mark, ofReader colorBy, ofReader seriesColors, topN, ofReader sort,
   ofReader useAsColor, ofReader scheme, ofReader axis, ofReader sizeBy, ofReader remove,
   ofReader aggregate, ofReader filter, size]

end Phrase

end Chartwright
