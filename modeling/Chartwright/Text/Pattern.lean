import Chartwright.Text.Alphabet

/-!
Patterns that are looked for in a text. A pattern finds, from a place in the text, all ways to match
there, the preferred one first: a run of characters prefers to be long unless it is a reluctant one,
and an alternative prefers its first side. A way is worked out only when those before it have been
tried, so that a search costs no more than the ways it tries. It takes the first place at which
there is a match, and the preferred match there.
-/

namespace Chartwright.Text

/-- A place in a text: the character before it, if there is one, and all that lies ahead. -/
structure Place where
  behind : Option Char
  ahead : List Char
  deriving DecidableEq, Repr

def Place.start (text : List Char) : Place := ⟨none, text⟩

/-- Values, each with the place where its match ends. -/
inductive Matches (α : Type) where
  | nothing
  | found (value : α) (after : Place) (others : Unit → Matches α)

namespace Matches
variable {α β : Type}

instance : Inhabited (Matches α) := ⟨.nothing⟩

def toList : Matches α → List (α × Place)
  | .nothing => []
  | .found value after others => (value, after) :: toList (others ())

def ofList : List (α × Place) → Matches α
  | [] => .nothing
  | (value, after) :: rest => .found value after fun _ => ofList rest

def single (value : α) (after : Place) : Matches α := .found value after fun _ => .nothing

def head? : Matches α → Option (α × Place)
  | .nothing => none
  | .found value after _ => some (value, after)

def isEmpty : Matches α → Bool
  | .nothing => true
  | .found .. => false

def append (first : Matches α) (second : Unit → Matches α) : Matches α :=
  match first with
  | .nothing => second ()
  | .found value after others => .found value after fun _ => append (others ()) second

def flatMap (next : α → Place → Matches β) : Matches α → Matches β
  | .nothing => .nothing
  | .found value after others =>
    append (next value after) fun _ => flatMap next (others ())

def map (change : α → β) : Matches α → Matches β
  | .nothing => .nothing
  | .found value after others => .found (change value) after fun _ => map change (others ())

theorem toList_append (first : Matches α) (second : Unit → Matches α) :
    (first.append second).toList = first.toList ++ (second ()).toList := by
  induction first with
  | nothing => rfl
  | found value after others ih => simp [append, toList, ih]

theorem toList_flatMap (next : α → Place → Matches β) (first : Matches α) :
    (first.flatMap next).toList =
      first.toList.flatMap fun (value, after) => (next value after).toList := by
  induction first with
  | nothing => rfl
  | found value after others ih => simp [flatMap, toList, toList_append, ih]

theorem toList_map (change : α → β) (first : Matches α) :
    (first.map change).toList = first.toList.map fun (value, after) => (change value, after) := by
  induction first with
  | nothing => rfl
  | found value after others ih => simp [map, toList, ih]

theorem toList_ofList (matched : List (α × Place)) : (ofList matched).toList = matched := by
  induction matched with
  | nil => rfl
  | cons first rest ih => simp [ofList, toList, ih]

theorem head?_toList (first : Matches α) : first.toList.head? = first.head? := by
  cases first <;> rfl

end Matches
def Pattern (α : Type) := Place → Matches α

namespace Pattern
variable {α β : Type}

/-- What is found of the preferred match: what lies before it, its value, and where it ends. -/
structure Found (α : Type) where
  before : List Char
  value : α
  after : Place

instance : Monad Pattern where
  pure value := fun place => .single value place
  bind first next := fun place => (first place).flatMap next

def never : Pattern α := fun _ => .nothing

def here (test : Place → Bool) : Pattern Unit := fun place =>
  if test place then .single () place else .nothing

def either (first second : Pattern α) : Pattern α := fun place =>
  (first place).append fun _ => second place

instance : OrElse (Pattern α) where
  orElse first second := either first (second ())

def one (test : Char → Bool) : Pattern Char
  | ⟨_, c :: rest⟩ => if test c then .single c ⟨some c, rest⟩ else .nothing
  | ⟨_, []⟩ => .nothing

def folded (fold : Char → Char) : List Char → Pattern Unit
  | [] => pure ()
  | c :: rest => do
    let _ ← one fun other => fold other == c
    folded fold rest

def exactly (text : String) : Pattern Unit := folded id text.toList

def plainLetter (c : Char) : Char :=
  if isAsciiUpper c then c.toLower
  else if c = '\u017f' then 's'
  else if c = '\u212a' then 'k'
  else if c = '\u0131' ∨ c = '\u0130' then 'i'
  else c

def anyCase (text : String) : Pattern Unit := folded plainLetter text.toList

/-- All runs of characters of a class that go on with `text`, the shortest first. The characters of
a run stand in reverse order after those `taken` before. -/
def runsFrom (test : Char → Bool) (behind : Option Char) (taken : List Char) :
    List Char → List (List Char × Place)
  | [] => [(taken, ⟨behind, []⟩)]
  | c :: rest =>
    (taken, ⟨behind, c :: rest⟩) ::
      if test c then runsFrom test (some c) (c :: taken) rest else []

def runs (test : Char → Bool) (place : Place) : List (List Char × Place) :=
  runsFrom test place.behind [] place.ahead

def taking (found : List (List Char × Place)) : Matches (List Char) :=
  (Matches.ofList found).map List.reverse

def run (test : Char → Bool) : Pattern (List Char) := fun place =>
  taking (runs test place).reverse

def run1 (test : Char → Bool) : Pattern (List Char) := fun place =>
  taking ((runs test place).drop 1).reverse

def reluctant1 (test : Char → Bool) : Pattern (List Char) := fun place =>
  taking ((runs test place).drop 1)

def passed (test : Char → Bool) (behind : Option Char) : List Char → Place
  | [] => ⟨behind, []⟩
  | c :: rest => if test c then passed test (some c) rest else ⟨behind, c :: rest⟩

/-- All the characters of a class that follow. In contrast to `run`, none of them is left to what
comes next, which matters only to a pattern that could begin with one. -/
def skip (test : Char → Bool) : Pattern Unit := fun place =>
  .single () (passed test place.behind place.ahead)

def skip1 (test : Char → Bool) : Pattern Unit := do
  let _ ← one test
  skip test

def optional (pattern : Pattern α) : Pattern (Option α) :=
  either (some <$> pattern) (pure none)

def oneOf : List String → Pattern String
  | [] => never
  | text :: rest => either (do exactly text; return text) (oneOf rest)

def afterAll (pattern : Pattern Unit) (place : Place) : Nat → Place
  | 0 => place
  | count + 1 =>
    match (pattern place).head? with
    | some ((), later) => afterAll pattern later count
    | none => place

/-- One or more repetitions of a pattern that always takes a character. None of them is left to what
comes next. -/
def repeated (pattern : Pattern Unit) : Pattern Unit := do
  pattern
  fun place => .single () (afterAll pattern place place.ahead.length)

def boundary : Pattern Unit :=
  here fun place => place.behind.any isWordChar != place.ahead.head?.any isWordChar

def notAhead (pattern : Pattern α) : Pattern Unit := here fun place => (pattern place).isEmpty

def atEnd : Pattern Unit := here fun place => place.ahead.isEmpty || place.ahead == ['\n']

def lineStart : Pattern Unit := here fun place => place.behind.all (· == '\n')

def lineEnd : Pattern Unit := here fun place => place.ahead.head?.all (· == '\n')

def notNewline (c : Char) : Bool := c != '\n'

def blanks : Pattern Unit := skip isBlank

def blanks1 : Pattern Unit := skip1 isBlank

def yieldingBlanks : Pattern Unit := fun place =>
  (Matches.ofList (runs isBlank place).reverse).map fun _ => ()

def yieldingBlanks1 : Pattern Unit := do
  let _ ← one isBlank
  yieldingBlanks

def step (word : String) : Pattern Unit := do
  exactly word
  blanks1

def anyStep (word : String) : Pattern Unit := do
  anyCase word
  blanks1

def maybe (word : String) : Pattern Unit := do
  let _ ← optional (step word)

def wholeWord (word : Pattern Unit) : Pattern Unit := do
  boundary
  word
  boundary

def first? (pattern : Pattern α) (place : Place) : Option (α × Place) := (pattern place).head?

def searchFrom (pattern : Pattern α) (behind : Option Char) : List Char → Option (Found α)
  | [] => (first? pattern ⟨behind, []⟩).map fun (value, after) => ⟨[], value, after⟩
  | c :: rest =>
    match first? pattern ⟨behind, c :: rest⟩ with
    | some (value, after) => some ⟨[], value, after⟩
    | none =>
      (searchFrom pattern (some c) rest).map fun found =>
        { found with before := c :: found.before }

def search (pattern : Pattern α) (text : List Char) : Option (Found α) :=
  searchFrom pattern none text

def find? (pattern : Pattern α) (text : List Char) : Option α :=
  (search pattern text).map (·.value)

def occurs (pattern : Pattern α) (text : List Char) : Bool := (search pattern text).isSome

/-- The pieces of a text between the matches of a separator, which takes at least one character.
`count` bounds the number of cuts. -/
def piecesFrom (separator : Pattern Unit) (behind : Option Char) (text : List Char) :
    Nat → List (List Char)
  | 0 => [text]
  | count + 1 =>
    match searchFrom separator behind text with
    | none => [text]
    | some found =>
      found.before :: piecesFrom separator found.after.behind found.after.ahead count

def pieces (separator : Pattern Unit) (text : List Char) : List (List Char) :=
  piecesFrom separator none text text.length

/-- Puts the values of all matches in their places. Every match takes at least one character, and
`count` bounds the number of characters looked at. -/
def substituteFrom (pattern : Pattern (List Char)) (place : Place) : Nat → List Char
  | 0 => place.ahead
  | count + 1 =>
    match first? pattern place with
    | some (value, after) => value ++ substituteFrom pattern after count
    | none =>
      match place.ahead with
      | [] => []
      | c :: rest => c :: substituteFrom pattern ⟨some c, rest⟩ count

def substitute (pattern : Pattern (List Char)) (text : List Char) : List Char :=
  substituteFrom pattern (.start text) text.length

end Pattern
end Chartwright.Text
