import Chartwright.Proofs.Edit.Reference
import Chartwright.Proofs.Spec.Binning

/-!
The recovery of a channel keeps all that can be kept. Every attribute of an encoding is read from a
member of its own, so members can be read together exactly if each can be read alone. Trying them
one by one therefore keeps those that can be read alone, in whatever order they come, and nothing
is lost or gained against reading all of them at once.
-/

namespace Chartwright

def Encoding.only (name : String) (encoding : Encoding) : Encoding :=
  match name with
  | "field" => { field := encoding.field }
  | "type" => { kind := encoding.kind }
  | "aggregate" => { aggregate := encoding.aggregate }
  | "bin" => { binning := encoding.binning }
  | "timeUnit" => { timeUnit := encoding.timeUnit }
  | "sort" => { sorting := encoding.sorting }
  | "scale" => { scale := encoding.scale }
  | "axis" => { axis := encoding.axis }
  | "legend" => { legend := encoding.legend }
  | _ => {}

def Encoding.gather (part : String → Encoding) : Encoding :=
  { field := (part "field").field
    kind := (part "type").kind
    aggregate := (part "aggregate").aggregate
    sorting := (part "sort").sorting
    binning := (part "bin").binning
    timeUnit := (part "timeUnit").timeUnit
    scale := (part "scale").scale
    axis := (part "axis").axis
    legend := (part "legend").legend }

namespace Spec
open Form

/-- A value counts in the description of a channel: it goes by a name of the builder and is not
null, nor is it binning that is off. -/
def Considered (description : Members) (name : String) (value : Json) : Prop :=
  name ∈ channelKeys ∧ description.lookup name = some value ∧ value ≠ .null ∧
    ¬(name = "bin" ∧ value = .bool false)

def Accepted (name : String) (value : Json) : Prop :=
  ∃ encoding, Encoding.readMembers [(name, value)] = .valid encoding

instance (name : String) (value : Json) : Decidable (Accepted name value) :=
  match read : Encoding.readMembers [(name, value)] with
  | .valid encoding => .isTrue ⟨encoding, read⟩
  | .faulty _ => .isFalse fun ⟨_, other⟩ => nomatch read.symm.trans other

def acceptedOf (entries : Members) : Members :=
  entries.filter fun entry => Accepted entry.1 entry.2

/-- The encoding that is left of members when they are tried one by one, if any of them is kept.
With no members at all there is nothing to keep, though an empty encoding could be read of them. -/
def keyByKey (entries : Members) : Option Encoding :=
  let kept := keepReadable [] entries
  if kept.isEmpty then none else (Encoding.readMembers kept).toOption

theorem accepted_iff {entries : Members} {name : String} {value : Json} :
    (name, value) ∈ acceptedOf entries ↔ (name, value) ∈ entries ∧ Accepted name value := by
  simp [acceptedOf]

theorem each_key {P : String → Prop} :
    (∀ name ∈ channelKeys, P name) ↔ P "field" ∧ P "type" ∧ P "aggregate" ∧ P "bin" ∧
      P "timeUnit" ∧ P "sort" ∧ P "scale" ∧ P "axis" ∧ P "legend" := by
  simp [channelKeys]

/-! Members under one name. -/

def onlyUnder (name : String) (entries : Members) : Members :=
  (entries.lookup name).toList.map fun value => (name, value)

@[simp] theorem only_under_lookup (name other : String) (entries : Members) :
    (onlyUnder name entries).lookup other = if other = name then entries.lookup name else none := by
  unfold onlyUnder
  cases entries.lookup name <;> simp

theorem found_by_camel {attr : Attribute} {entries : Members}
    (camel : attr.snake = attr.camel ∨ entries.lookup attr.snake = none) :
    attr.find? entries = (entries.lookup attr.camel).map fun value => (attr.camel, value) := by
  unfold Attribute.find?
  cases told : entries.lookup attr.camel with
  | some value => rfl
  | none =>
      rcases camel with same | absent
      · simp [same, told]
      · simp [absent]

section Attributes
variable {α : Type} {read : Json → Checked α} {entries : Members} {attr : Attribute}

theorem own_read (camel : attr.snake = attr.camel ∨ entries.lookup attr.snake = none) :
    optionally (onlyUnder attr.camel entries) attr read = optionally entries attr read := by
  have alone : attr.snake = attr.camel ∨
      (onlyUnder attr.camel entries).lookup attr.snake = none := by
    by_cases same : attr.snake = attr.camel
    · exact .inl same
    · exact .inr (by simp [same])
  simp [optionally, withDefault, found_by_camel camel, found_by_camel alone]

theorem other_read {name : String} (other : attr.camel ≠ name ∧ attr.snake ≠ name) :
    optionally (onlyUnder name entries) attr read = .valid none := by
  simp [optionally, withDefault, Attribute.find?, other.1, other.2]

end Attributes

/-- Members from which encodings are read: they go by names of the builder, and those under one
name are alike. -/
structure Keyed (entries : Members) : Prop where
  known : ∀ {name value}, (name, value) ∈ entries → name ∈ channelKeys
  once : ∀ {name value other}, (name, value) ∈ entries → (name, other) ∈ entries → value = other

theorem lookup_of_once {entries : Members}
    (once : ∀ {name value other}, (name, value) ∈ entries → (name, other) ∈ entries →
      value = other) (name : String) (value : Json) :
    entries.lookup name = some value ↔ (name, value) ∈ entries := by
  have listed {value : Json} (told : entries.lookup name = some value) :
      (name, value) ∈ entries := by
    obtain ⟨before, after, split, _⟩ := List.lookup_eq_some_iff.mp told
    simp [split]
  refine ⟨listed, fun member => ?_⟩
  cases told : entries.lookup name with
  | none => exact absurd (List.lookup_eq_none_iff.mp told _ member) (by simp)
  | some other => rw [once (listed told) member]

namespace Keyed
variable {entries others : Members}

theorem mono (keyed : Keyed entries) (within : others ⊆ entries) : Keyed others :=
  ⟨fun member => keyed.known (within member),
    fun first second => keyed.once (within first) (within second)⟩

theorem lookup_iff (keyed : Keyed entries) (name : String) (value : Json) :
    entries.lookup name = some value ↔ (name, value) ∈ entries :=
  lookup_of_once keyed.once name value

theorem lookup_congr (keyed : Keyed entries)
    (same : ∀ name value, (name, value) ∈ others ↔ (name, value) ∈ entries) (name : String) :
    others.lookup name = entries.lookup name := by
  have other : Keyed others := keyed.mono fun _ => (same _ _).mp
  ext value
  rw [keyed.lookup_iff, other.lookup_iff, same]

theorem no_snake (keyed : Keyed entries) : entries.lookup "time_unit" = none := by
  cases told : entries.lookup "time_unit" with
  | none => rfl
  | some value =>
      have listed := keyed.known ((keyed.lookup_iff _ _).mp told)
      exact absurd listed (by decide)

theorem only_under (keyed : Keyed entries) {name : String} {value : Json}
    (listed : (name, value) ∈ entries) : onlyUnder name entries = [(name, value)] := by
  simp [onlyUnder, (keyed.lookup_iff name value).mpr listed]

theorem reads_iff (keyed : Keyed entries) {encoding : Encoding} :
    Encoding.readMembers entries = .valid encoding ↔
      ∀ name ∈ channelKeys,
        Encoding.readMembers (onlyUnder name entries) = .valid (encoding.only name) := by
  have single (name : String) : (word name).snake = (word name).camel ∨
      entries.lookup (word name).snake = none := .inl rfl
  have unit : timeUnitAttr.snake = timeUnitAttr.camel ∨
      entries.lookup timeUnitAttr.snake = none := .inr keyed.no_snake
  rw [each_key]
  simp only [BuilderState.encoding_read_iff]
  constructor
  · rintro ⟨field, kind, aggregate, sorting, binning, timeUnit, scale, axis, legend⟩
    -- Under each name there is the attribute that goes by it; all others are left out.
    simp (disch := decide) only [Encoding.only, other_read, true_and, and_true]
    exact ⟨(own_read (single "field")).trans field, (own_read (single "type")).trans kind,
      (own_read (single "aggregate")).trans aggregate, (own_read (single "bin")).trans binning,
      (own_read unit).trans timeUnit, (own_read (single "sort")).trans sorting,
      (own_read (single "scale")).trans scale, (own_read (single "axis")).trans axis,
      (own_read (single "legend")).trans legend⟩
  · rintro ⟨field, kind, aggregate, binning, timeUnit, sorting, scale, axis, legend⟩
    exact ⟨(own_read (single "field")).symm.trans field.1,
      (own_read (single "type")).symm.trans kind.2.1,
      (own_read (single "aggregate")).symm.trans aggregate.2.2.1,
      (own_read (single "sort")).symm.trans sorting.2.2.2.1,
      (own_read (single "bin")).symm.trans binning.2.2.2.2.1,
      (own_read unit).symm.trans timeUnit.2.2.2.2.2.1,
      (own_read (single "scale")).symm.trans scale.2.2.2.2.2.2.1,
      (own_read (single "axis")).symm.trans axis.2.2.2.2.2.2.2.1,
      (own_read (single "legend")).symm.trans legend.2.2.2.2.2.2.2.2⟩

theorem only_once (keyed : Keyed entries) (name : String) : Keyed (onlyUnder name entries) := by
  refine keyed.mono fun member listed => ?_
  obtain ⟨value, told, rfl⟩ := List.mem_map.mp listed
  exact (keyed.lookup_iff name value).mp (Option.mem_toList.mp told)

/-- What is read from the member under a name is the attribute that goes by it. -/
theorem alone_only (keyed : Keyed entries) {name : String} (known : name ∈ channelKeys)
    {alone : Encoding} (reads : Encoding.readMembers (onlyUnder name entries) = .valid alone) :
    alone.only name = alone := by
  have again := ((keyed.only_once name).reads_iff.mp reads) name known
  have same : onlyUnder name (onlyUnder name entries) = onlyUnder name entries := by
    rw [onlyUnder, only_under_lookup, if_pos rfl]
    rfl
  rw [same, reads] at again
  exact (Checked.valid.inj again).symm

theorem gather_only (part : String → Encoding) :
    ∀ name ∈ channelKeys, (Encoding.gather part).only name = (part name).only name := by
  rw [each_key]
  exact ⟨rfl, rfl, rfl, rfl, rfl, rfl, rfl, rfl, rfl⟩

/-- Members can be read together exactly if each of them can be read alone. -/
theorem readable_iff (keyed : Keyed entries) :
    (∃ encoding, Encoding.readMembers entries = .valid encoding) ↔
      ∀ name value, (name, value) ∈ entries → Accepted name value := by
  constructor
  · rintro ⟨encoding, reads⟩ name value listed
    have alone := keyed.reads_iff.mp reads name (keyed.known listed)
    rw [keyed.only_under listed] at alone
    exact ⟨_, alone⟩
  · intro accepted
    have readable (name : String) :
        ∃ alone, Encoding.readMembers (onlyUnder name entries) = .valid alone := by
      cases told : entries.lookup name with
      | none => exact ⟨{}, by simp [onlyUnder, told]; rfl⟩
      | some value =>
          have listed := (keyed.lookup_iff name value).mp told
          rw [keyed.only_under listed]
          exact accepted name value listed
    choose part reads using readable
    refine ⟨.gather part, keyed.reads_iff.mpr fun name known => ?_⟩
    rw [gather_only part name known, keyed.alone_only known (reads name)]
    exact reads name

theorem keep_readable (entries kept : Members) (keyed : Keyed (kept ++ entries))
    (readable : ∀ name value, (name, value) ∈ kept → Accepted name value) :
    keepReadable kept entries = kept ++ acceptedOf entries := by
  induction entries generalizing kept with
  | nil => simp [keepReadable, acceptedOf]
  | cons entry rest ih =>
      obtain ⟨name, value⟩ := entry
      have joined : Keyed (kept ++ [(name, value)]) := keyed.mono (by simp)
      have joins : (∃ encoding, Encoding.readMembers (kept ++ [(name, value)]) = .valid encoding) ↔
          Accepted name value := by
        rw [joined.readable_iff]
        constructor
        · exact fun all => all name value (by simp)
        · intro accepted other told listed
          rcases List.mem_append.mp listed with before | new
          · exact readable other told before
          · cases List.mem_singleton.mp new
            exact accepted
      cases read : Encoding.readMembers (kept ++ [(name, value)]) with
      | valid encoding =>
          have accepted : Accepted name value := joins.mp ⟨encoding, read⟩
          have all := joined.readable_iff.mp ⟨encoding, read⟩
          simp only [keepReadable, read]
          rw [ih (kept ++ [(name, value)]) (by simpa using keyed) all]
          simp [acceptedOf, accepted]
      | faulty faults =>
          have refused : ¬Accepted name value := by
            rw [← joins, read]
            rintro ⟨_, wrong⟩
            cases wrong
          simp only [keepReadable, read]
          rw [ih kept (keyed.mono (by simp)) readable]
          simp [acceptedOf, refused]

theorem accepted (keyed : Keyed entries) : Keyed (acceptedOf entries) :=
  keyed.mono (List.filter_subset_self _)

theorem accepted_readable (keyed : Keyed entries) :
    ∃ encoding, Encoding.readMembers (acceptedOf entries) = .valid encoding :=
  keyed.accepted.readable_iff.mpr fun _ _ listed => (accepted_iff.mp listed).2

theorem key_by_key (keyed : Keyed entries) :
    keyByKey entries =
      if (acceptedOf entries).isEmpty then none
      else (Encoding.readMembers (acceptedOf entries)).toOption := by
  have kept := keyed.keep_readable entries [] nofun
  simp [keyByKey, kept]

end Keyed

/-- What is read of members depends only on what is found under each name. -/
theorem read_congr {entries others : Members}
    (same : ∀ name, entries.lookup name = others.lookup name) :
    Encoding.readMembers entries = Encoding.readMembers others := by
  simp only [Encoding.readMembers, optionally, withDefault, Attribute.find?, same]

theorem considered_iff (description : Members) (name : String) (value : Json) :
    (name, value) ∈ considered description ↔ Considered description name value := by
  have counts (told : Json) : (told.isNull || (name == "bin" && isFalse told)) = false ↔
      told ≠ .null ∧ ¬(name = "bin" ∧ told = .bool false) := by
    rw [ne_eq, ← Json.isNull_iff, ← isFalse_iff]
    simp
  have found (present : value ≠ .null) :
      description.getD name = value ↔ description.lookup name = some value := by
    unfold Members.getD
    cases description.lookup name <;> simp [Ne.symm present]
  unfold considered Considered
  rw [List.mem_filterMap]
  constructor
  · rintro ⟨_, known, kept⟩
    dsimp only at kept
    split at kept
    · cases kept
    next used =>
      cases kept
      obtain ⟨present, on⟩ := (counts _).mp (Bool.eq_false_iff.mpr used)
      exact ⟨known, (found present).mp rfl, present, on⟩
  · rintro ⟨known, told, present, on⟩
    refine ⟨name, known, ?_⟩
    have value_there := (found present).mpr told
    simp [value_there, (counts value).mpr ⟨present, on⟩]

theorem considered_keyed (description : Members) : Keyed (considered description) := by
  constructor
  · intro name value listed
    exact ((considered_iff _ _ _).mp listed).1
  · intro name value other first second
    have one := ((considered_iff _ _ _).mp first).2.1
    have two := ((considered_iff _ _ _).mp second).2.1
    exact Option.some.inj (one.symm.trans two)

/-- The recovery of a channel reads the members that can be read alone. -/
theorem channel_recovered (description : Members) :
    recoverChannel description =
      if considered description ≠ [] ∧ acceptedOf (considered description) = [] then none
      else (Encoding.readMembers (acceptedOf (considered description))).toOption := by
  have keyed := considered_keyed description
  cases whole : Encoding.readMembers (considered description) with
  | valid encoding =>
      have all : acceptedOf (considered description) = considered description :=
        List.filter_eq_self.mpr fun entry listed => by
          simpa using keyed.readable_iff.mp ⟨encoding, whole⟩ entry.1 entry.2 listed
      simp [channel_read whole, all, whole]
  | faulty faults =>
      have some_considered : considered description ≠ [] := by
        intro none
        rw [none] at whole
        cases whole
      have slow := channel_kept whole
      rw [← keyByKey, keyed.key_by_key] at slow
      simp [slow, some_considered]

/-- An encoding is all that can be kept of a description. It has the attribute of every considered
member that can be read alone, just as it is read there, and no other; and it is what is read of
all those members together, however they are ordered. -/
structure Retains (description : Members) (encoding : Encoding) : Prop where
  kept : ∀ name value alone, Considered description name value →
    Encoding.readMembers [(name, value)] = .valid alone → encoding.only name = alone
  dropped : ∀ name ∈ channelKeys,
    (∀ value, Considered description name value → ¬Accepted name value) → encoding.only name = {}
  together : ∀ entries : Members,
    (∀ name value, (name, value) ∈ entries ↔
      Considered description name value ∧ Accepted name value) →
    Encoding.readMembers entries = .valid encoding

theorem accepted_retains {description : Members} {encoding : Encoding}
    (reads : Encoding.readMembers (acceptedOf (considered description)) = .valid encoding) :
    Retains description encoding := by
  have keyed := (considered_keyed description).accepted
  have listed (name : String) (value : Json) :
      (name, value) ∈ acceptedOf (considered description) ↔
        Considered description name value ∧ Accepted name value := by
    rw [accepted_iff, considered_iff]
  constructor
  · intro name value alone considered accepted
    have there := (listed name value).mpr ⟨considered, alone, accepted⟩
    have own := keyed.reads_iff.mp reads name considered.1
    rw [keyed.only_under there, accepted] at own
    exact (Checked.valid.inj own).symm
  · intro name known refused
    have absent : (acceptedOf (considered description)).lookup name = none := by
      cases told : (acceptedOf (considered description)).lookup name with
      | none => rfl
      | some value =>
          obtain ⟨considered, accepted⟩ := (listed name value).mp ((keyed.lookup_iff _ _).mp told)
          exact absurd accepted (refused value considered)
    have own := keyed.reads_iff.mp reads name known
    have nothing : onlyUnder name (acceptedOf (considered description)) = [] := by
      simp [onlyUnder, absent]
    rw [nothing] at own
    exact (Checked.valid.inj own).symm
  · intro entries same
    rw [← reads]
    exact read_congr (keyed.lookup_congr fun name value =>
      (same name value).trans (listed _ _).symm)

theorem channel_none_iff (description : Members) :
    recoverChannel description = none ↔
      (∃ name value, Considered description name value) ∧
        ∀ name value, Considered description name value → ¬Accepted name value := by
  obtain ⟨encoding, reads⟩ := (considered_keyed description).accepted_readable
  have nothing : recoverChannel description = none ↔
      considered description ≠ [] ∧ acceptedOf (considered description) = [] := by
    rw [channel_recovered, reads]
    simp
  have listed : considered description ≠ [] ↔ ∃ name value, Considered description name value := by
    simp only [ne_eq, List.eq_nil_iff_forall_not_mem, Prod.forall, considered_iff, not_forall,
      not_not]
  have refused : acceptedOf (considered description) = [] ↔
      ∀ name value, Considered description name value → ¬Accepted name value := by
    simp only [List.eq_nil_iff_forall_not_mem, Prod.forall, accepted_iff, considered_iff, not_and]
  rw [nothing, listed, refused]

/-- Trying the members one by one, in any order, comes to the same as the recovery of the channel.
-/
theorem tried_one_by_one {description order : Members}
    (same : ∀ name value, (name, value) ∈ order ↔ Considered description name value)
    (filled : order ≠ []) : keyByKey order = recoverChannel description := by
  have keyed := considered_keyed description
  have ordered (name : String) (value : Json) :
      (name, value) ∈ order ↔ (name, value) ∈ considered description :=
    (same name value).trans (considered_iff _ _ _).symm
  have tried : Keyed order := keyed.mono fun _ => (ordered _ _).mp
  have kept (name : String) (value : Json) :
      (name, value) ∈ acceptedOf order ↔ (name, value) ∈ acceptedOf (considered description) := by
    rw [accepted_iff, accepted_iff, ordered]
  have read := read_congr (keyed.accepted.lookup_congr kept)
  have empty : acceptedOf order = [] ↔ acceptedOf (considered description) = [] := by
    simp only [List.eq_nil_iff_forall_not_mem, Prod.forall, kept]
  have filled : considered description ≠ [] := by
    obtain ⟨⟨name, value⟩, member⟩ := List.exists_mem_of_ne_nil order filled
    exact List.ne_nil_of_mem ((ordered name value).mp member)
  rw [tried.key_by_key, channel_recovered, read]
  simp [empty, filled]

theorem lookup_perm {members others : Members} (reordered : others.Perm members)
    (once : (members.map (·.1)).Nodup) (name : String) :
    others.lookup name = members.lookup name := by
  have alike {name : String} {value other : Json} (first : (name, value) ∈ members)
      (second : (name, other) ∈ members) : value = other :=
    congrArg Prod.snd (List.inj_on_of_nodup_map once first second rfl)
  ext value
  rw [lookup_of_once (fun first second => alike (reordered.mem_iff.mp first)
    (reordered.mem_iff.mp second)), lookup_of_once alike, reordered.mem_iff]

/-- The recovery of a channel keeps everything that can be kept of a description. There is no
encoding just if members are considered and none of them can be read alone; else the encoding has
what each of those that can be read alone says, and nothing besides. It makes no difference whether
the members are read at once or one by one, nor how they are ordered. -/
theorem channel_keeps_readable (description : Members) :
    (recoverChannel description = none ↔
      (∃ name value, Considered description name value) ∧
        ∀ name value, Considered description name value → ¬Accepted name value) ∧
    (∀ encoding, recoverChannel description = some encoding → Retains description encoding) ∧
    (∀ order : Members, (∀ name value, (name, value) ∈ order ↔ Considered description name value) →
      order ≠ [] → keyByKey order = recoverChannel description) ∧
    (∀ other : Members, other.Perm description → (description.map (·.1)).Nodup →
      recoverChannel other = recoverChannel description) := by
  refine ⟨channel_none_iff description, ?_, fun order => tried_one_by_one, ?_⟩
  · intro encoding recovered
    rw [channel_recovered] at recovered
    split at recovered
    · cases recovered
    · exact accepted_retains (Checked.toOption_eq_some.mp recovered)
  · intro other reordered once
    have value : other.getD = description.getD :=
      funext fun name => congrArg (·.getD .null) (lookup_perm reordered once name)
    have same : considered other = considered description := by
      unfold considered
      rw [value]
    rw [channel_recovered, channel_recovered, same]

/-- Dates by a unit that there is not, in bins without a number, with a member that the builder does
not know. -/
def muddledDates : Members :=
  [("timeUnit", .text "decade"), ("field", .text "Day"), ("stack", .bool true),
   ("bin", .object [("maxbins", .text "many")]), ("type", .text "temporal"), ("axis", .null)]

def plainDates : Encoding := { field := some "Day", kind := some .temporal }

theorem muddled_dates_kept :
    recoverChannel muddledDates = some plainDates ∧ Retains muddledDates plainDates ∧
      keyByKey (considered muddledDates).reverse = some plainDates ∧
      muddledDates.reverse.Perm muddledDates ∧ (muddledDates.map (·.1)).Nodup ∧
      recoverChannel muddledDates.reverse = some plainDates := by
  have recovered : recoverChannel muddledDates = some plainDates := rfl
  have perm : muddledDates.reverse.Perm muddledDates := List.reverse_perm _
  have once : (muddledDates.map (·.1)).Nodup := by decide
  obtain ⟨_, retains, tried, reordered⟩ := channel_keeps_readable muddledDates
  refine ⟨recovered, retains _ recovered, ?_, perm, once, ?_⟩
  · rw [← recovered]
    apply tried
    · intro name value
      rw [List.mem_reverse, considered_iff]
    · exact List.ne_nil_of_length_pos (by decide)
  · rw [← recovered]
    exact reordered _ perm once

end Spec
end Chartwright
