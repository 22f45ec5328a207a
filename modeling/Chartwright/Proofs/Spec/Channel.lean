import Chartwright.Proofs.Chart.State
import Chartwright.Spec.Recover

/-!
Channels and tooltips on the way through a specification. A channel that draws anything is compiled
to a description, and that description is recovered to an encoding that compiles to it again,
whatever the fields of the data are by then.
-/

namespace Chartwright

/-- The encoding without binning that is switched off. -/
def Encoding.binned (encoding : Encoding) : Encoding :=
  { encoding with binning := encoding.binning.filter (· ≠ .flag false) }

namespace Spec
open Form

/-! Members of compiled objects. -/

@[simp] theorem member_of_lookup {α : Type} (name other : String) (write : α → Json)
    (value : Option α) :
    (memberOf name write value).lookup other = if other = name then value.map write else none := by
  cases value with
  | none => simp [memberOf]
  | some x => simp [memberOf]

@[simp] theorem get_map_or_null {α : Type} (write : α → Json) (value : Option α) :
    (value.map write).getD .null = orNull write value := by
  cases value <;> rfl

theorem filter_map_lookup {α : Type} (names : List String) (value : String → Option α)
    (name : String) :
    (names.filterMap fun name => (value name).map fun x => (name, x)).lookup name =
      if name ∈ names then value name else none := by
  induction names with
  | nil => rfl
  | cons first rest ih =>
      by_cases same : name = first
      · subst same
        cases here : value name with
        | none => simp [here, ih]
        | some x => simp [here]
      · have different : (name == first) = false := by simpa using same
        cases here : value first with
        | none => simp [here, ih, same]
        | some x => simp [here, ih, same, List.lookup_cons, different]

/-! Channels. -/

/-- What is considered of a description under a name. -/
def consideredAt (description : Members) (name : String) : Json :=
  if name == "bin" && isFalse (description.getD name) then .null else description.getD name

theorem considered_lookup (description : Members) (name : String) :
    (considered description).lookup name =
      if name ∈ channelKeys then
        if (consideredAt description name).isNull then none
        else some (consideredAt description name)
      else none := by
  have shape : considered description = channelKeys.filterMap fun name =>
      (if (consideredAt description name).isNull then none
        else some (consideredAt description name)).map fun value => (name, value) := by
    apply List.filterMap_congr
    intro name _
    unfold consideredAt
    cases null : (description.getD name).isNull <;>
      cases off : (name == "bin" && isFalse (description.getD name)) <;>
      simp [null, off]
  rw [shape, filter_map_lookup]

theorem considered_said (description : Members) (attr : Attribute)
    (known : attr.camel ∈ channelKeys)
    (other : attr.snake = attr.camel ∨ attr.snake ∉ channelKeys) :
    said (considered description) attr = consideredAt description attr.camel := by
  have camel := considered_lookup description attr.camel
  have snake := considered_lookup description attr.snake
  simp only [known, if_true] at camel
  have absent (null : (consideredAt description attr.camel).isNull = true) :
      (considered description).lookup attr.snake = none := by
    rcases other with same | unknown
    · rw [same, camel]
      simp [null]
    · rw [snake]
      simp [unknown]
  cases null : (consideredAt description attr.camel).isNull with
  | false => simp [said, camel, null]
  | true => simp [said, camel, absent null, (Json.isNull_iff _).mp null]

/-- What the description of a channel says of an encoding, under each name that is considered. -/
def Describes (description : Members) (encoding : Encoding) : Prop :=
  description.getD "field" = orNull .text encoding.field ∧
  description.getD "type" = orNull writeName encoding.kind ∧
  description.getD "aggregate" = orNull writeName encoding.aggregate ∧
  description.getD "bin" = orNull (Binning.write .present) encoding.binning ∧
  description.getD "timeUnit" = orNull writeName encoding.timeUnit ∧
  description.getD "sort" = orNull (Sorting.write .present) encoding.sorting ∧
  description.getD "scale" = orNull (Scale.write .present) encoding.scale ∧
  description.getD "axis" = orNull (Axis.write .present) encoding.axis ∧
  description.getD "legend" = orNull (Legend.write .present) encoding.legend

theorem binned_considered (binning : Option Binning) :
    (if isFalse (orNull (Binning.write .present) binning) then .null
      else orNull (Binning.write .present) binning) =
      orNull (Binning.write .present) (binning.filter (· ≠ .flag false)) := by
  cases binning with
  | none => rfl
  | some binning =>
      cases binning with
      | flag on => cases on <;> rfl
      | limited maximum => rfl

theorem described_readable {description : Members} {encoding : Encoding}
    (described : Describes description encoding) :
    Encoding.readMembers (considered description) = .valid encoding.binned := by
  obtain ⟨field, kind, aggregate, bin, timeUnit, sort, scale, axis, legend⟩ := described
  have tells (attr : Attribute) (told : Json) (is : description.getD attr.camel = told)
      (plain : attr.camel ≠ "bin" ∧ attr.camel ∈ channelKeys ∧
        (attr.snake = attr.camel ∨ attr.snake ∉ channelKeys)) :
      said (considered description) attr = told := by
    have known := considered_said description attr plain.2.1 plain.2.2
    simpa [consideredAt, plain.1, is] using known
  have tellsBin : said (considered description) (word "bin") =
      orNull (Binning.write .present) encoding.binned.binning := by
    have known := considered_said description (word "bin") (by decide) (by decide)
    have kept : consideredAt description "bin" =
        orNull (Binning.write .present) encoding.binned.binning := by
      rw [Encoding.binned, ← binned_considered]
      simp [consideredAt, bin]
    exact known.trans kept
  unfold Encoding.readMembers
  rw [optionally_told tellsBin fun x _ => binning_back .present x,
    optionally_told (tells (word "field") _ field (by decide)) fun x _ => text_back x,
    optionally_told (tells (word "type") _ kind (by decide)) fun x _ => named_back x,
    optionally_told (tells (word "aggregate") _ aggregate (by decide)) fun x _ => named_back x,
    optionally_told (tells (word "sort") _ sort (by decide)) fun x _ => sorting_back .present x,
    optionally_told (tells timeUnitAttr _ timeUnit (by decide)) fun x _ => named_back x,
    optionally_told (tells (word "scale") _ scale (by decide)) fun x _ => scale_back .present x,
    optionally_told (tells (word "axis") _ axis (by decide)) fun x _ => axis_back .present x,
    optionally_told (tells (word "legend") _ legend (by decide)) fun x _ =>
      legend_back .present x]
  rfl

theorem described_recovered {description : Members} {encoding : Encoding}
    (described : Describes description encoding) :
    recoverChannel description = some encoding.binned := by
  have readable := described_readable described
  unfold recoverChannel
  generalize considered description = entries at readable ⊢
  simp [readable]

/-! Channels. -/

/-- The encoding that a compiled description describes. Its field is filled, and the kind of its
values is told, so that the fields of the data have no more say in it. -/
def explicit (fields : List DataField) (encoding : Encoding) : Encoding :=
  { encoding with
    field := filled? encoding.field
    kind := some (shownKind fields encoding) }

theorem channel_describes (fields : List DataField) (encoding : Encoding)
    (stacking : Option Stacking) :
    Describes (channelMembers fields encoding ++ memberOf "stack" writeStacking stacking)
      (explicit fields encoding) := by
  simp [Describes, explicit, Members.getD, channelMembers, List.lookup_append, orNull]

theorem filled_twice (value : Option String) : filled? (filled? value) = filled? value := by
  simp [filled?, Option.filter_filter]

theorem explicit_shown (fields : List DataField) (encoding : Encoding) :
    isShown (explicit fields encoding).binned = isShown encoding := by
  simp [isShown, explicit, Encoding.binned, filled_twice]

theorem explicit_kind (fields others : List DataField) (encoding : Encoding) :
    shownKind others (explicit fields encoding).binned = shownKind fields encoding := by
  simp [shownKind, explicit, Encoding.binned]

-- The kind of the values is told by now, so the fields of the data have no more say in it.
theorem explicit_members (fields others : List DataField) (encoding : Encoding) :
    channelMembers others (explicit fields encoding).binned =
      channelMembers fields encoding.binned := by
  have kind : shownKind fields encoding.binned = shownKind fields encoding := rfl
  simp only [channelMembers, explicit_kind, kind]
  simp [explicit, Encoding.binned, filled_twice]

/-! Tooltips. -/

/-- What an entry of a tooltip keeps of an encoding. -/
def tooltipPart (encoding : Encoding) : Encoding :=
  { field := encoding.field
    kind := encoding.kind
    aggregate := encoding.aggregate
    axis := (filled? (encoding.axis.bind (·.format))).map fun format => { format := some format } }

theorem tooltip_entry_part (encoding : Encoding) :
    tooltipEntry (tooltipPart encoding) = tooltipEntry encoding := by
  have format : (tooltipPart encoding).axis.bind (·.format) =
      filled? (encoding.axis.bind (·.format)) := by
    cases shown : filled? (encoding.axis.bind (·.format)) <;> simp [tooltipPart, shown]
  simp only [tooltipEntry, format, filled_twice]
  rfl

theorem tooltip_describes (encoding : Encoding) (entries : Members)
    (entry : tooltipEntry encoding = .object entries) :
    Describes (tooltipDescription entries) (tooltipPart encoding) := by
  injection entry with same
  subst same
  cases shown : filled? (encoding.axis.bind (·.format)) with
  | none =>
      simp [Describes, tooltipDescription, tooltipPart, Members.getD, List.lookup_append, shown,
        orNull]
  | some format =>
      simp [Describes, tooltipDescription, tooltipPart, Members.getD, List.lookup_append, shown,
        orNull]
      rfl

theorem tooltip_item_recovered (encoding : Encoding) :
    recoverTooltipItem (tooltipEntry encoding) = some (tooltipPart encoding) :=
  described_recovered (tooltip_describes encoding _ rfl)

def tooltipShown (fields : List DataField) : Tooltip → List Encoding
  | .auto =>
    (fields.take autoTooltipFields).map fun field =>
      { field := some field.name, kind := some field.kind }
  | .chosen entries => entries

theorem tooltip_items_shown (fields : List DataField) (tooltip : Tooltip) :
    tooltipItems fields tooltip = (tooltipShown fields tooltip).map tooltipEntry := by
  cases tooltip with
  | auto =>
      simp only [tooltipItems, tooltipShown, List.map_map]
      rfl
  | chosen entries => rfl

theorem tooltip_recovered (fields : List DataField) (tooltip : Tooltip) :
    recoverTooltip (.list (tooltipItems fields tooltip)) =
      some (.chosen ((tooltipShown fields tooltip).map tooltipPart)) := by
  rw [tooltip_items_shown]
  simp [recoverTooltip, List.filterMap_map, tooltip_item_recovered]

theorem tooltip_items_part (fields others : List DataField) (tooltip : Tooltip) :
    tooltipItems others (.chosen ((tooltipShown fields tooltip).map tooltipPart)) =
      tooltipItems fields tooltip := by
  rw [tooltip_items_shown fields tooltip]
  simp [tooltipItems, Function.comp_def, tooltip_entry_part]

end Spec
end Chartwright
