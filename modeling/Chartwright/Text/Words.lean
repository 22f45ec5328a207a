import Chartwright.Text.Alphabet
import Chartwright.Text.CaseTable

/-!
Words and letter case: trimming and splitting at white space, and the case of whole texts. A letter
may become several (the upper case of `ß` is `SS`), and the lower case of a sigma depends on its
neighbours: it takes the final form at the end of a word.
-/

namespace Chartwright.Text
open CaseTable

def inRuns? (runs : List (Nat × Nat × Nat × Int)) (code : Nat) : Option Char :=
  (runs.find? fun (first, last, step, _) =>
      first ≤ code && code ≤ last && (code - first) % step == 0).map
    fun (_, _, _, shift) => Char.ofNat (code + shift).toNat

def lowerChar (c : Char) : List Char :=
  if c.toNat < 128 then [c.toLower]
  else if c.toNat == 0x130 then ['i', Char.ofNat 0x307]
  else [(inRuns? lowerRuns c.toNat).getD c]

def upperChar (c : Char) : List Char :=
  if c.toNat < 128 then [c.toUpper]
  else
    match upperSequences.lookup c.toNat with
    | some codes => codes.map Char.ofNat
    | none => [(inRuns? upperRuns c.toNat).getD c]

def isCased (c : Char) : Bool := Alphabet.covers cased c.toNat

def isSkipped (c : Char) : Bool := Alphabet.covers skipped c.toNat

def startsCased (rest : List Char) : Bool := (rest.dropWhile isSkipped).head?.any isCased

def capitalSigma : Char := Char.ofNat 0x3a3
def smallSigma : Char := Char.ofNat 0x3c3
def finalSigma : Char := Char.ofNat 0x3c2

/-- Lower case, where `inWord` says that the text goes on after a cased letter. -/
def lowerFrom (inWord : Bool) : List Char → List Char
  | [] => []
  | c :: rest =>
    let here :=
      if c == capitalSigma then [if inWord && !startsCased rest then finalSigma else smallSigma]
      else lowerChar c
    here ++ lowerFrom (if isSkipped c then inWord else isCased c) rest

def lower (text : List Char) : List Char := lowerFrom false text

def upper (text : List Char) : List Char := text.flatMap upperChar

def trimmedOf (test : Char → Bool) (text : List Char) : List Char :=
  ((text.dropWhile test).reverse.dropWhile test).reverse

def trim (text : List Char) : List Char := trimmedOf isBlank text

def words : List Char → List (List Char)
  | [] => []
  | c :: rest =>
    if isBlank c then words rest
    else
      match rest, words rest with
      | next :: _, word :: others =>
        if isBlank next then [c] :: word :: others else (c :: word) :: others
      | _, others => [c] :: others

def capitalized : List Char → List Char
  | [] => []
  | c :: rest => upperChar c ++ lower rest

def titleCase (text : List Char) : List Char :=
  [' '].intercalate ((words text).map capitalized)

def occursIn (piece : List Char) : List Char → Bool
  | [] => piece.isEmpty
  | c :: rest => piece.isPrefixOf (c :: rest) || occursIn piece rest

/-- Every occurrence of a character replaced by a piece of text. -/
def replaceChar (old : Char) (new : List Char) (text : List Char) : List Char :=
  text.flatMap fun c => if c = old then new else [c]

end Chartwright.Text
