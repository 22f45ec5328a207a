import Chartwright.Proofs.Spec.Recovery

/-!
Updates of a builder state. They are read twice: once by themselves, and once more as part of the
state that they are laid over, which is written, changed where they carry something, and read again.
The first reading lets null stand for every attribute, the second one only where the state may be
without a value. Both together come down to the attributes one by one: those that are named are
what is read of their documents, and the others stay.
-/

namespace Chartwright
open Form

/-- What becomes of a value that may be given as a document: it stays if there is none, and else it
is what is read. -/
def Replaced {α : Type} (read : Json → Checked α) (given : Option Json) (before after : α) : Prop :=
  match given with
  | none => after = before
  | some document => read document = .valid after

/-- The attributes of a builder state. -/
inductive StateAttribute where
  | mark
  | encodings
  | transforms
  | width
  | height
  | title
  | description
  | background
  | padding
  deriving DecidableEq, Repr

namespace StateAttribute

def name : StateAttribute → String
  | .mark => "mark"
  | .encodings => "encodings"
  | .transforms => "transforms"
  | .width => "width"
  | .height => "height"
  | .title => "title"
  | .description => "description"
  | .background => "background"
  | .padding => "padding"

def Content : StateAttribute → Type
  | .mark => MarkConfig
  | .encodings => Encodings
  | .transforms => List Transform
  | .width | .height => Option (Setting Dimension)
  | .title | .description | .background => Option (Setting String)
  | .padding => Option (Setting Padding)

def of (state : BuilderState) : (attr : StateAttribute) → attr.Content
  | .mark => state.mark
  | .encodings => state.encodings
  | .transforms => state.transforms
  | .width => state.width
  | .height => state.height
  | .title => state.title
  | .description => state.description
  | .background => state.background
  | .padding => state.padding

def read : (attr : StateAttribute) → Json → Checked attr.Content
  | .mark => MarkConfig.read
  | .encodings => Encodings.read
  | .transforms => list Transform.read
  | .width | .height => optional (BuilderState.setting Dimension.read)
  | .title | .description | .background => optional (BuilderState.setting Form.text)
  | .padding => optional (BuilderState.setting Padding.read)

def assemble (contents : (attr : StateAttribute) → attr.Content) : BuilderState :=
  { mark := contents .mark
    encodings := contents .encodings
    transforms := contents .transforms
    width := contents .width
    height := contents .height
    title := contents .title
    description := contents .description
    background := contents .background
    padding := contents .padding }

theorem of_assemble (contents : (attr : StateAttribute) → attr.Content) (attr : StateAttribute) :
    attr.of (assemble contents) = contents attr := by
  cases attr <;> rfl

/-- The attribute is what updates make of it, if they name it. -/
def Updated (entries : Members) (before after : BuilderState) (attr : StateAttribute) : Prop :=
  Replaced attr.read (entries.lookup attr.name) (attr.of before) (attr.of after)

end StateAttribute

namespace PartialState

/-- The parts abide by the rules of their types. -/
structure Valid (part : PartialState) : Prop where
  mark : ∀ mark, part.mark = some (some mark) → mark.Valid
  transforms : ∀ transforms, part.transforms = some (some transforms) →
    ∀ transform ∈ transforms, transform.Valid

end PartialState

namespace BuilderState

abbrev mergeStyle : Style := { naming := .snake, nulls := true }

def laidOver (state : BuilderState) (part : PartialState) : Members :=
  (part.toMembers mergeStyle).foldl (fun entries (name, value) => entries.set name value)
    (state.toMembers mergeStyle)

end BuilderState

section Laid
variable {α : Type} {entries : Members} {write : α → Json}

/-- What stands in the place of an attribute that may be carried by a part. -/
def laid {β : Type} (writeOwn : β → Json) (write : α → Json) (own : β)
    (value : Option (Option α)) : Json :=
  (value.map (orNull write)).getD (writeOwn own)

theorem carried_lookup (name other : String) (write : α → Json) (value : Option (Option α)) :
    (PartialState.carriedEntry name write value).reverse.lookup other =
      if other = name then value.map (orNull write) else none := by
  cases value <;> simp [PartialState.carriedEntry]

theorem over_read (name : String) (read : Json → Checked α) {cause : FaultCause} {own : α}
    (default : α) {value : Option (Option α)}
    (found : entries.lookup name = some (laid write write own value))
    (refused : read .null = .fault cause .null) (back : read (write own) = .valid own)
    (backs : ∀ new, value = some (some new) → read (write new) = .valid new) :
    withDefault entries (word name) default read = PartialState.over name cause own value := by
  unfold withDefault
  rw [word_found, found]
  rcases value with _ | _ | new
  · simp [laid, PartialState.over, back, Checked.under]
  · simp [laid, PartialState.over, orNull, refused]
  · simp [laid, PartialState.over, orNull, backs new rfl, Checked.under]

theorem over_setting_read (name : String) (read : Json → Checked α) {own : Option (Setting α)}
    (default : Option (Setting α)) {value : Option (Option α)}
    (found : entries.lookup name = some (laid (orNull (Setting.write write)) write own value))
    (checked : ∀ setting ∈ own, setting.IsChecked) (back : ∀ value, ReadsBack read write value) :
    withDefault entries (word name) default (optional (BuilderState.setting read)) =
      PartialState.overSetting name read own value := by
  unfold withDefault
  rw [word_found, found]
  rcases value with _ | value
  · have same : optional (BuilderState.setting read) (orNull (Setting.write write) own) =
        .valid own := optional_written fun setting here => setting_back (checked setting here) back
    rw [PartialState.over_checked name read own checked]
    simp [laid, same, Checked.under, PartialState.settingOver]
  · have same : optional (BuilderState.setting read) (orNull write value) =
        .valid (value.map .checked) := by
      cases value with
      | none => rfl
      | some new =>
          obtain ⟨reads, present⟩ := back new
          simp [orNull, optional_present _ _ present, BuilderState.setting, reads, Checked.map]
    simp [laid, same, Checked.under, PartialState.overSetting]

end Laid

namespace BuilderState
variable {state : BuilderState} {part : PartialState}

def laidAt (state : BuilderState) (part : PartialState) : StateAttribute → Json
  | .mark => laid (MarkConfig.write mergeStyle) (MarkConfig.write mergeStyle) state.mark part.mark
  | .encodings =>
    laid (Encodings.write mergeStyle) (Encodings.write mergeStyle) state.encodings part.encodings
  | .transforms =>
    laid (transformsJson mergeStyle) (transformsJson mergeStyle) state.transforms part.transforms
  | .width => laid (orNull (Setting.write Dimension.write)) Dimension.write state.width part.width
  | .height =>
    laid (orNull (Setting.write Dimension.write)) Dimension.write state.height part.height
  | .title => laid (orNull (Setting.write .text)) .text state.title part.title
  | .description => laid (orNull (Setting.write .text)) .text state.description part.description
  | .background => laid (orNull (Setting.write .text)) .text state.background part.background
  | .padding =>
    laid (orNull (Setting.write (Padding.write mergeStyle))) (Padding.write mergeStyle)
      state.padding part.padding

theorem laid_found (state : BuilderState) (part : PartialState) (attr : StateAttribute) :
    (state.laidOver part).lookup attr.name = some (state.laidAt part attr) := by
  have one {α : Type} (value : Option α) (other : α) :
      value.or (some other) = some (value.getD other) := by
    cases value <;> rfl
  rw [laidOver, set_all_lookup]
  cases attr <;>
    simp [StateAttribute.name, PartialState.toMembers, List.lookup_append, carried_lookup,
      toMembers, written_lookup_cons, word, Attribute.name, laidAt, laid, one, titleJson]

/-- A part is laid over a valid state by reading the description of both. -/
theorem merge_reads (valid : state.Valid) (legal : part.Valid) :
    state.merge part = BuilderState.read (.object (state.laidOver part)) := by
  obtain ⟨mark, transforms, width, height, title, description, background, padding⟩ := valid
  have listed (transforms : List Transform) (legal : ∀ transform ∈ transforms, transform.Valid) :
      list Transform.read (transformsJson mergeStyle transforms) = .valid transforms :=
    (list_back transforms fun x here => transform_read _ x (legal x here)).1
  have found := laid_found state part
  simp only [merge, read, record, readMembers, optionally]
  rw [over_read "mark" MarkConfig.read {} (found .mark) rfl (mark_read _ _ mark) fun new given =>
      mark_read _ _ (legal.mark new given),
    over_read "encodings" Encodings.read {} (found .encodings) rfl (encodings_read _ _) fun new _ =>
      encodings_read _ new,
    over_read "transforms" (list Transform.read) [] (found .transforms) rfl
      (listed _ transforms) fun new given => listed _ (legal.transforms new given),
    over_setting_read "width" Dimension.read _ (found .width) width dimension_back,
    over_setting_read "height" Dimension.read _ (found .height) height dimension_back,
    over_setting_read "title" Form.text _ (found .title) title text_back,
    over_setting_read "description" Form.text _ (found .description) description text_back,
    over_setting_read "background" Form.text _ (found .background) background text_back,
    over_setting_read "padding" Padding.read _ (found .padding) padding (padding_back _)]

end BuilderState

/-! Both readings. -/

section Carried
variable {α : Type} {entries : Members} {name : String} {read : Json → Checked α}

theorem carried_read (entries : Members) (name : String) (read : Json → Checked α) :
    ifCarried entries (word name) read =
      match entries.lookup name with
      | none => .valid none
      | some document => ((optional read document).under (.name name)).map some := by
  unfold ifCarried
  rw [word_found]
  cases entries.lookup name <;> rfl

theorem carried_yields {P : α → Prop} {value : Option (Option α)} (each : Yields read P)
    (carried : ifCarried entries (word name) read = .valid value) :
    ∀ x, value = some (some x) → P x := by
  rintro x rfl
  rw [carried_read] at carried
  cases told : entries.lookup name with
  | none =>
      rw [told] at carried
      cases carried
  | some document =>
      rw [told] at carried
      obtain ⟨inner, accepted, same⟩ := Checked.map_eq_valid.mp carried
      cases same
      exact optional_yields each document _ (Checked.under_eq_valid.mp accepted) x rfl

/-- What is carried is read, and may then be laid over an attribute that must have a value, exactly
if the document for it can be read as that attribute. -/
theorem over_replaced_iff (entries : Members) (name : String) (read : Json → Checked α)
    {cause : FaultCause} (refused : read .null = .fault cause .null) (own new : α) :
    (∃ value, ifCarried entries (word name) read = .valid value ∧
      PartialState.over name cause own value = .valid new) ↔
        Replaced read (entries.lookup name) own new := by
  rw [carried_read]
  cases entries.lookup name with
  | none => simp [PartialState.over, Replaced, eq_comm]
  | some document =>
      by_cases null : document = .null
      · subst null
        have nothing : optional read .null = .valid none := rfl
        simp [nothing, refused, Checked.under, Checked.map, PartialState.over, Checked.fault,
          Replaced]
      · simp only [optional_present read document null, Replaced]
        cases read document <;> simp [Checked.map, Checked.under, PartialState.over]

theorem over_setting_replaced_iff (entries : Members) (name : String) (read : Json → Checked α)
    (own new : Option (Setting α)) (checked : ∀ setting ∈ own, setting.IsChecked) :
    (∃ value, ifCarried entries (word name) read = .valid value ∧
      PartialState.overSetting name read own value = .valid new) ↔
        Replaced (optional (BuilderState.setting read)) (entries.lookup name) own new := by
  -- an attribute that was checked before is not read again
  simp only [PartialState.over_checked name read own checked]
  rw [carried_read]
  cases entries.lookup name with
  | none => simp [PartialState.settingOver, Replaced, eq_comm]
  | some document =>
      by_cases null : document = .null
      · subst null
        have nothing : optional read .null = .valid none := rfl
        have unset : optional (BuilderState.setting read) .null = .valid none := rfl
        simp [nothing, unset, Checked.under, Checked.map, PartialState.settingOver, Replaced]
      · simp only [optional_present read document null, Replaced,
          optional_present (BuilderState.setting read) document null, BuilderState.setting]
        cases read document <;> simp [Checked.map, Checked.under, PartialState.settingOver]

end Carried

namespace PartialState

theorem part_read_iff {entries : Members} {part : PartialState} :
    readMembers entries = .valid part ↔
      ifCarried entries (word "mark") MarkConfig.read = .valid part.mark ∧
        ifCarried entries (word "encodings") Encodings.read = .valid part.encodings ∧
        ifCarried entries (word "transforms") (list Transform.read) = .valid part.transforms ∧
        ifCarried entries (word "width") Dimension.read = .valid part.width ∧
        ifCarried entries (word "height") Dimension.read = .valid part.height ∧
        ifCarried entries (word "title") Form.text = .valid part.title ∧
        ifCarried entries (word "description") Form.text = .valid part.description ∧
        ifCarried entries (word "background") Form.text = .valid part.background ∧
        ifCarried entries (word "padding") Padding.read = .valid part.padding := by
  unfold readMembers
  constructor
  · intro reads
    simp only [Checked.seq_eq_valid, Checked.functor_map_eq_valid] at reads
    obtain ⟨_, _, ⟨_, _, ⟨_, _, ⟨_, _, ⟨_, _, ⟨_, _, ⟨_, _, ⟨_, _, ⟨_, mark, rfl⟩, encodings, rfl⟩,
      transforms, rfl⟩, width, rfl⟩, height, rfl⟩, title, rfl⟩, description, rfl⟩, background, rfl⟩,
      padding, rfl⟩ := reads
    exact ⟨mark, encodings, transforms, width, height, title, description, background, padding⟩
  · rintro ⟨mark, encodings, transforms, width, height, title, description, background, padding⟩
    rw [mark, encodings, transforms, width, height, title, description, background, padding]
    rfl

theorem part_yields : Yields PartialState.read PartialState.Valid := by
  apply record_yields
  intro entries part accepted
  obtain ⟨mark, _, transforms, _⟩ := part_read_iff.mp accepted
  exact ⟨carried_yields mark_yields mark, carried_yields (list_yields transform_yields) transforms⟩

end PartialState

namespace BuilderState

theorem merge_valid_iff {state new : BuilderState} {part : PartialState} :
    state.merge part = .valid new ↔
      PartialState.over "mark" (.notRecord "MarkConfig") state.mark part.mark = .valid new.mark ∧
        PartialState.over "encodings" (.notRecord "ChartEncodings") state.encodings
          part.encodings = .valid new.encodings ∧
        PartialState.over "transforms" .notList state.transforms part.transforms =
          .valid new.transforms ∧
        PartialState.overSetting "width" Dimension.read state.width part.width =
          .valid new.width ∧
        PartialState.overSetting "height" Dimension.read state.height part.height =
          .valid new.height ∧
        PartialState.overSetting "title" Form.text state.title part.title = .valid new.title ∧
        PartialState.overSetting "description" Form.text state.description part.description =
          .valid new.description ∧
        PartialState.overSetting "background" Form.text state.background part.background =
          .valid new.background ∧
        PartialState.overSetting "padding" Padding.read state.padding part.padding =
          .valid new.padding := by
  unfold merge
  constructor
  · intro merged
    simp only [Checked.seq_eq_valid, Checked.functor_map_eq_valid] at merged
    obtain ⟨_, _, ⟨_, _, ⟨_, _, ⟨_, _, ⟨_, _, ⟨_, _, ⟨_, _, ⟨_, _, ⟨_, mark, rfl⟩, encodings, rfl⟩,
      transforms, rfl⟩, width, rfl⟩, height, rfl⟩, title, rfl⟩, description, rfl⟩, background, rfl⟩,
      padding, rfl⟩ := merged
    exact ⟨mark, encodings, transforms, width, height, title, description, background, padding⟩
  · rintro ⟨mark, encodings, transforms, width, height, title, description, background, padding⟩
    rw [mark, encodings, transforms, width, height, title, description, background, padding]
    rfl

/-- Updates that are read and laid over a state give a state in which each attribute is what is read
of its document, or what it was if it has none. They are refused if there is no such state. -/
theorem updated_iff {state : BuilderState} (checked : state.IsChecked) (entries : Members)
    (new : BuilderState) :
    (PartialState.read (.object entries)).andThen state.merge = .valid new ↔
      ∀ attr : StateAttribute, attr.Updated entries state new := by
  obtain ⟨wide, high, titled, described, backed, padded⟩ := checked
  have mark := over_replaced_iff entries "mark" MarkConfig.read rfl state.mark new.mark
  have encodings := over_replaced_iff entries "encodings" Encodings.read rfl state.encodings
    new.encodings
  have transforms :=
    over_replaced_iff entries "transforms" (list Transform.read) rfl state.transforms new.transforms
  have width := over_setting_replaced_iff entries "width" Dimension.read _ new.width wide
  have height := over_setting_replaced_iff entries "height" Dimension.read _ new.height high
  have title := over_setting_replaced_iff entries "title" Form.text _ new.title titled
  have description :=
    over_setting_replaced_iff entries "description" Form.text _ new.description described
  have background :=
    over_setting_replaced_iff entries "background" Form.text _ new.background backed
  have padding := over_setting_replaced_iff entries "padding" Padding.read _ new.padding padded
  rw [Checked.andThen_eq_valid]
  constructor
  · rintro ⟨part, read, merged⟩ attr
    obtain ⟨markRead, encodingsRead, transformsRead, widthRead, heightRead, titleRead,
      descriptionRead, backgroundRead, paddingRead⟩ := PartialState.part_read_iff.mp read
    obtain ⟨markLaid, encodingsLaid, transformsLaid, widthLaid, heightLaid, titleLaid,
      descriptionLaid, backgroundLaid, paddingLaid⟩ := merge_valid_iff.mp merged
    cases attr with
    | mark => exact mark.mp ⟨_, markRead, markLaid⟩
    | encodings => exact encodings.mp ⟨_, encodingsRead, encodingsLaid⟩
    | transforms => exact transforms.mp ⟨_, transformsRead, transformsLaid⟩
    | width => exact width.mp ⟨_, widthRead, widthLaid⟩
    | height => exact height.mp ⟨_, heightRead, heightLaid⟩
    | title => exact title.mp ⟨_, titleRead, titleLaid⟩
    | description => exact description.mp ⟨_, descriptionRead, descriptionLaid⟩
    | background => exact background.mp ⟨_, backgroundRead, backgroundLaid⟩
    | padding => exact padding.mp ⟨_, paddingRead, paddingLaid⟩
  · intro given
    obtain ⟨_, markRead, markLaid⟩ := mark.mpr (given .mark)
    obtain ⟨_, encodingsRead, encodingsLaid⟩ := encodings.mpr (given .encodings)
    obtain ⟨_, transformsRead, transformsLaid⟩ := transforms.mpr (given .transforms)
    obtain ⟨_, widthRead, widthLaid⟩ := width.mpr (given .width)
    obtain ⟨_, heightRead, heightLaid⟩ := height.mpr (given .height)
    obtain ⟨_, titleRead, titleLaid⟩ := title.mpr (given .title)
    obtain ⟨_, descriptionRead, descriptionLaid⟩ := description.mpr (given .description)
    obtain ⟨_, backgroundRead, backgroundLaid⟩ := background.mpr (given .background)
    obtain ⟨_, paddingRead, paddingLaid⟩ := padding.mpr (given .padding)
    exact ⟨⟨_, _, _, _, _, _, _, _, _⟩,
      PartialState.part_read_iff.mpr ⟨markRead, encodingsRead, transformsRead, widthRead,
        heightRead, titleRead, descriptionRead, backgroundRead, paddingRead⟩,
      merge_valid_iff.mpr ⟨markLaid, encodingsLaid, transformsLaid, widthLaid, heightLaid,
        titleLaid, descriptionLaid, backgroundLaid, paddingLaid⟩⟩

/-- Updates are refused, by themselves or as part of the state, exactly if an attribute is given a
document that cannot be read as that attribute. -/
theorem refused_iff {state : BuilderState} (checked : state.IsChecked) (entries : Members) :
    (∃ faults, (PartialState.read (.object entries)).andThen state.merge = .faulty faults) ↔
      ∃ attr : StateAttribute, ∃ document faults, entries.lookup attr.name = some document ∧
        attr.read document = .faulty faults := by
  have accepted := updated_iff checked entries
  constructor
  · rintro ⟨faults, refused⟩
    -- if every document can be read, there is a state made of what is read of them
    by_contra legible
    have each (attr : StateAttribute) :
        ∃ value, Replaced attr.read (entries.lookup attr.name) (attr.of state) value := by
      cases told : entries.lookup attr.name with
      | none => exact ⟨attr.of state, rfl⟩
      | some document =>
          cases read : attr.read document with
          | valid value => exact ⟨value, read⟩
          | faulty faults => exact absurd ⟨attr, document, faults, told, read⟩ legible
    choose contents given using each
    have whole := (accepted (StateAttribute.assemble contents)).mpr fun attr => by
      rw [StateAttribute.Updated, StateAttribute.of_assemble]
      exact given attr
    rw [refused] at whole
    cases whole
  · rintro ⟨attr, document, faults, told, refused⟩
    cases both : (PartialState.read (.object entries)).andThen state.merge with
    | faulty faults => exact ⟨faults, rfl⟩
    | valid new =>
        have given := (accepted new).mp both attr
        rw [StateAttribute.Updated, told, Replaced, refused] at given
        cases given

theorem merge_valid {state new : BuilderState} {part : PartialState} (valid : state.Valid)
    (legal : part.Valid) (merged : state.merge part = .valid new) : new.Valid := by
  rw [merge_reads valid legal] at merged
  exact state_yields _ new merged

end BuilderState
end Chartwright
