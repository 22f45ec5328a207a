import Chartwright.Form.Basic
import Chartwright.Text.Words

/-!
Replies of language models. The text of a reply may be its content or come in pieces, and some
providers put it elsewhere.
-/

namespace Chartwright

/-- What a model answers: a message with content and further entries, or a bare document. -/
inductive Reply where
  | message (content : Json) (extras : Json)
  | bare (document : Json)

/-- Why a model gave no answer: the kind of the failure and what is said of it. -/
structure RequestError where
  kind : String
  message : String
  deriving DecidableEq, Repr

namespace Reply
open Text Form

/-! Content. -/

def readPiece (document : Json) : Checked Json :=
  match document with
  | .text _ | .object _ => .valid document
  | _ =>
    .faulty (faultsUnder "str" (Form.text document) ++
      faultsUnder "dict[any,any]" (members any document))

def readContent (document : Json) : Checked Json :=
  match document with
  | .text _ => .valid document
  | _ =>
    match list readPiece document with
    | .valid _ => .valid document
    | .faulty faults =>
      .faulty (faultsUnder "str" (Form.text document) ++
        faultsUnder "list[union[str,dict[any,any]]]" (Checked.faulty (α := Json) faults))

def pieceText : Json → String
  | .text value => value
  | .object entries => ((Members.getD entries "text").asText?).getD ""
  | other => other.display

def contentText : Json → String
  | .null => ""
  | .text value => value
  | .list pieces => String.join (pieces.map pieceText)
  | .object entries =>
    match Members.getD entries "text", Members.getD entries "content" with
    | .text value, _ => value
    | _, .text value => value
    | _, _ => Json.display (.object entries)
  | other => other.display

def isBlankText (value : String) : Bool := (trim value.toList).isEmpty

def entryText (document : Json) : String :=
  match (document.asObject?.getD []).getD "content" with
  | .text value => if isBlankText value then "" else value
  | _ => ""

/-! Replies. -/

def text : Reply → String
  | .message content extras =>
    let value := contentText content
    if value.isEmpty then entryText extras else value
  | .bare (.text value) => value
  | .bare document => entryText document

end Reply
end Chartwright
