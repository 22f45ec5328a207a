import Chartwright.Chart.Vocabulary

/-!
Marks: the shape that stands for a row of data and how it is drawn. Stacking is for bars and areas,
points on top are for lines and areas; `MarkConfig.Valid` says so, and reading accepts nothing else.
-/

namespace Chartwright
open Form

structure MarkConfig where
  kind : MarkKind := .bar
  point : Option Bool := none
  stacked : Option Stacking := none
  opacity : Option Binary64 := none
  size : Option Binary64 := none
  strokeWidth : Option Binary64 := none
  interpolate : Option Interpolation := none
  deriving DecidableEq, Repr

/-- How a mark is to be drawn, apart from its kind; nothing is said of what suits which kind. -/
structure MarkOptions where
  point : Option Bool := none
  stacked : Option Stacking := none
  opacity : Option Binary64 := none
  size : Option Binary64 := none
  strokeWidth : Option Binary64 := none
  interpolate : Option Interpolation := none
  deriving DecidableEq, Repr

def strokeWidthAttr : Attribute := ⟨"strokeWidth", "stroke_width"⟩

namespace MarkConfig

def isFraction (x : Binary64) : Bool := x.atMost (.exact 1) && Binary64.atMost (.exact 0) x

def Valid (mark : MarkConfig) : Prop :=
  (mark.stacked.isSome → mark.kind.isStackable) ∧ (mark.point.isSome → mark.kind.hasOverlay) ∧
    ∀ x ∈ mark.opacity, isFraction x

def objection? (mark : MarkConfig) : Option String :=
  let kind := Named.name mark.kind
  if mark.stacked.isSome && !mark.kind.isStackable then
    some s!"stacking is only supported for bar/area marks, not '{kind}'"
  else if mark.point.isSome && !mark.kind.hasOverlay then
    some s!"point overlay is only supported for line/area marks, not '{kind}'"
  else none

def readMembers (entries : Members) : Checked MarkConfig :=
  abiding objection? entries <|
    MarkConfig.mk <$> withDefault entries (word "type") .bar (named MarkKind) <*>
      optionally entries (word "point") truth <*>
      optionally entries (word "stacked") (named Stacking) <*>
      optionally entries (word "opacity") fraction <*>
      optionally entries (word "size") number <*>
      optionally entries strokeWidthAttr number <*>
      optionally entries (word "interpolate") (named Interpolation)

def read : Json → Checked MarkConfig := record "MarkConfig" readMembers

def toMembers (style : Style) (mark : MarkConfig) : Members :=
  writtenMembers style
    [(word "type", writeName mark.kind),
     (word "point", orNull .bool mark.point),
     (word "stacked", orNull writeName mark.stacked),
     (word "opacity", orNull .float mark.opacity),
     (word "size", orNull .float mark.size),
     (strokeWidthAttr, orNull .float mark.strokeWidth),
     (word "interpolate", orNull writeName mark.interpolate)]

def write (style : Style) (mark : MarkConfig) : Json := .object (mark.toMembers style)

end MarkConfig

namespace MarkOptions

def read : Json → Checked MarkOptions :=
  record "MarkOptions" fun entries =>
    MarkOptions.mk <$> optionally entries (word "point") truth <*>
      optionally entries (word "stacked") (named Stacking) <*>
      optionally entries (word "opacity") number <*>
      optionally entries (word "size") number <*>
      optionally entries strokeWidthAttr number <*>
      optionally entries (word "interpolate") (named Interpolation)

def toMembers (style : Style) (options : MarkOptions) : Members :=
  writtenMembers style
    [(word "point", orNull .bool options.point),
     (word "stacked", orNull writeName options.stacked),
     (word "opacity", orNull .float options.opacity),
     (word "size", orNull .float options.size),
     (strokeWidthAttr, orNull .float options.strokeWidth),
     (word "interpolate", orNull writeName options.interpolate)]

def write (style : Style) (options : MarkOptions) : Json := .object (options.toMembers style)

end MarkOptions

/-- The mark with another kind and further options; flags that the new kind cannot carry are
dropped. -/
def MarkConfig.retarget (kind : MarkKind) (options : MarkOptions) (mark : MarkConfig) :
    Checked MarkConfig :=
  let opacity := options.opacity <|> mark.opacity
  let target : MarkConfig :=
    { kind
      point := if kind.hasOverlay then options.point <|> mark.point else none
      stacked := if kind.isStackable then options.stacked <|> mark.stacked else none
      opacity
      size := options.size <|> mark.size
      strokeWidth := options.strokeWidth <|> mark.strokeWidth
      interpolate := options.interpolate <|> mark.interpolate }
  (fun opacity => { target with opacity }) <$>
    (optional fraction (orNull .float opacity)).under (.name "opacity")

def MarkConfig.readRetargeted (kind : Json) (options : Members) (mark : MarkConfig) :
    Checked MarkConfig :=
  let given := options.filter fun (_, value) => !value.isNull
  let merged := (given ++ [("type", kind)]).foldl (fun entries (name, value) =>
    entries.set name value) (mark.toMembers { naming := .snake, nulls := false })
  let target : Option MarkKind := kind.asText?.bind Named.ofName?
  let stackable := target.any (·.isStackable)
  let overlaid := target.any (·.hasOverlay)
  MarkConfig.readMembers <| merged.filter fun (name, _) =>
    (stackable || name != "stacked") && (overlaid || name != "point")

/-- The mark with another kind and options. A list or an object is not even compared with the
kinds. -/
def MarkConfig.retargetFrom (kind : Json) (options : Members) (mark : MarkConfig) :
    Except Json.Compound (Checked MarkConfig) :=
  match kind.compound? with
  | some compound => .error compound
  | none => .ok (mark.readRetargeted kind options)

end Chartwright
