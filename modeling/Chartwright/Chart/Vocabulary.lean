import Chartwright.Form.Basic

/-!
The words of chart descriptions: kinds of fields and marks, channels, aggregates and the like. Each
enumeration lists its names in the order in which messages name them.
-/

namespace Chartwright
open Form

/-- What the values of a field mean. -/
inductive FieldKind where
  | quantitative
  | nominal
  | ordinal
  | temporal
  deriving DecidableEq, Repr, Inhabited

instance : Named FieldKind where
  all := [.quantitative, .nominal, .ordinal, .temporal]
  name
    | .quantitative => "quantitative"
    | .nominal => "nominal"
    | .ordinal => "ordinal"
    | .temporal => "temporal"

inductive MarkKind where
  | bar
  | line
  | area
  | point
  | circle
  | square
  | rect
  | rule
  | text
  | tick
  deriving DecidableEq, Repr, Inhabited

instance : Named MarkKind where
  all := [.bar, .line, .area, .point, .circle, .square, .rect, .rule, .text, .tick]
  name
    | .bar => "bar"
    | .line => "line"
    | .area => "area"
    | .point => "point"
    | .circle => "circle"
    | .square => "square"
    | .rect => "rect"
    | .rule => "rule"
    | .text => "text"
    | .tick => "tick"

def MarkKind.isStackable : MarkKind → Bool
  | .bar | .area => true
  | _ => false

def MarkKind.hasOverlay : MarkKind → Bool
  | .line | .area => true
  | _ => false

inductive Aggregate where
  | sum
  | mean
  | median
  | count
  | min
  | max
  | distinct
  | q1
  | q3
  | variance
  | stdev
  deriving DecidableEq, Repr, Inhabited

instance : Named Aggregate where
  all := [.sum, .mean, .median, .count, .min, .max, .distinct, .q1, .q3, .variance, .stdev]
  name
    | .sum => "sum"
    | .mean => "mean"
    | .median => "median"
    | .count => "count"
    | .min => "min"
    | .max => "max"
    | .distinct => "distinct"
    | .q1 => "q1"
    | .q3 => "q3"
    | .variance => "variance"
    | .stdev => "stdev"

inductive TimeUnit where
  | year
  | month
  | yearmonth
  | date
  | hours
  | day
  | yearmonthdate
  deriving DecidableEq, Repr, Inhabited

instance : Named TimeUnit where
  all := [.year, .month, .yearmonth, .date, .hours, .day, .yearmonthdate]
  name
    | .year => "year"
    | .month => "month"
    | .yearmonth => "yearmonth"
    | .date => "date"
    | .hours => "hours"
    | .day => "day"
    | .yearmonthdate => "yearmonthdate"

inductive Direction where
  | ascending
  | descending
  deriving DecidableEq, Repr, Inhabited

instance : Named Direction where
  all := [.ascending, .descending]
  name
    | .ascending => "ascending"
    | .descending => "descending"

/-- How stacked marks share the axis; `unstacked` lays them over one another. -/
inductive Stacking where
  | zero
  | normalize
  | unstacked
  deriving DecidableEq, Repr, Inhabited

instance : Named Stacking where
  all := [.zero, .normalize, .unstacked]
  name
    | .zero => "zero"
    | .normalize => "normalize"
    | .unstacked => "none"

/-- How a line runs between its points. -/
inductive Interpolation where
  | linear
  | step
  | stepBefore
  | stepAfter
  | basis
  | cardinal
  | monotone
  deriving DecidableEq, Repr, Inhabited

instance : Named Interpolation where
  all := [.linear, .step, .stepBefore, .stepAfter, .basis, .cardinal, .monotone]
  name
    | .linear => "linear"
    | .step => "step"
    | .stepBefore => "step-before"
    | .stepAfter => "step-after"
    | .basis => "basis"
    | .cardinal => "cardinal"
    | .monotone => "monotone"

/-- The visual channels that data can be mapped to, in the order in which they are compiled. -/
inductive Channel where
  | x
  | y
  | color
  | size
  deriving DecidableEq, Repr, Inhabited

instance : Named Channel where
  all := [.x, .y, .color, .size]
  name
    | .x => "x"
    | .y => "y"
    | .color => "color"
    | .size => "size"

inductive LegendSide where
  | left
  | right
  | top
  | bottom
  | hidden
  deriving DecidableEq, Repr, Inhabited

instance : Named LegendSide where
  all := [.left, .right, .top, .bottom, .hidden]
  name
    | .left => "left"
    | .right => "right"
    | .top => "top"
    | .bottom => "bottom"
    | .hidden => "none"

inductive Severity where
  | error
  | warning
  deriving DecidableEq, Repr, Inhabited

instance : Named Severity where
  all := [.error, .warning]
  name
    | .error => "error"
    | .warning => "warning"

/-- Who plans a command: the built-in phrases or a language model. -/
inductive PlanMode where
  | pattern
  | model
  deriving DecidableEq, Repr, Inhabited

instance : Named PlanMode where
  all := [.pattern, .model]
  name
    | .pattern => "pattern"
    | .model => "llm"

end Chartwright
