import Chartwright.Chart.Vocabulary

/-!
Fields: what is known of a column of the data, its name, the kind of its values and figures on them.
-/

namespace Chartwright
open Form

/-- A value, by its display text, and how often it occurs. -/
structure TopValue where
  value : String
  count : Int
  deriving DecidableEq, Repr

structure FieldStats where
  min : Option Binary64 := none
  max : Option Binary64 := none
  uniqueCount : Int := 0
  nullCount : Int := 0
  topValues : Option (List TopValue) := none
  deriving DecidableEq, Repr

structure DataField where
  name : String
  kind : FieldKind
  stats : FieldStats := {}
  deriving DecidableEq, Repr

def uniqueCountAttr : Attribute := ⟨"uniqueCount", "unique_count"⟩
def nullCountAttr : Attribute := ⟨"nullCount", "null_count"⟩
def topValuesAttr : Attribute := ⟨"topValues", "top_values"⟩
def inferredTypeAttr : Attribute := ⟨"inferredType", "inferred_type"⟩

def TopValue.read : Json → Checked TopValue :=
  record "TopValue" fun entries =>
    TopValue.mk <$> required entries (word "value") Form.text <*>
      required entries (word "count") integer

def TopValue.write (style : Style) (top : TopValue) : Json :=
  written style [(word "value", .text top.value), (word "count", .int top.count)]

def FieldStats.read : Json → Checked FieldStats :=
  record "FieldStats" fun entries =>
    FieldStats.mk <$> optionally entries (word "min") number <*>
      optionally entries (word "max") number <*>
      withDefault entries uniqueCountAttr 0 integer <*>
      withDefault entries nullCountAttr 0 integer <*>
      optionally entries topValuesAttr (list TopValue.read)

def FieldStats.write (style : Style) (stats : FieldStats) : Json :=
  written style
    [(word "min", orNull .float stats.min), (word "max", orNull .float stats.max),
     (uniqueCountAttr, .int stats.uniqueCount), (nullCountAttr, .int stats.nullCount),
     (topValuesAttr, orNull (fun tops => .list (tops.map (TopValue.write style))) stats.topValues)]

def DataField.read : Json → Checked DataField :=
  record "DataField" fun entries =>
    DataField.mk <$> required entries (word "name") Form.text <*>
      required entries inferredTypeAttr (named FieldKind) <*>
      withDefault entries (word "stats") {} FieldStats.read

def DataField.write (style : Style) (field : DataField) : Json :=
  written style
    [(word "name", .text field.name), (inferredTypeAttr, writeName field.kind),
     (word "stats", field.stats.write style)]

/-- The kind of a field by its name, from the last field of that name. -/
def kindOf? (fields : List DataField) (name : String) : Option FieldKind :=
  (fields.reverse.find? fun field => field.name = name).map (·.kind)

end Chartwright
