import Chartwright.Proofs.Number.Range
import Chartwright.Proofs.Spec.Recovery

/-!
What each member of a specification contributes to what is recovered of it. A member tells one
attribute, and the encodings tell the stacking of the mark besides; whatever stands in its place,
the other attributes come out the same. Two values break this, since they end the whole recovery: a
list or an object as the type of the mark, and a padding beyond all floating-point numbers.
-/

namespace Chartwright
open Form

theorem erase_lookup (members : Members) (name other : String) :
    (members.erase name).lookup other = if other = name then none else members.lookup other := by
  induction members with
  | nil => simp [Members.erase]
  | cons member rest ih =>
      rcases member with ⟨first, value⟩
      by_cases here : first = name
      · have dropped : Members.erase ((first, value) :: rest) name = Members.erase rest name := by
          simp [Members.erase, here]
        rw [dropped, ih, member_lookup]
        by_cases same : other = name <;> simp [same, here]
      · have kept : Members.erase ((first, value) :: rest) name =
            (first, value) :: Members.erase rest name := by
          simp [Members.erase, here]
        rw [kept, member_lookup, member_lookup, ih]
        by_cases same : other = first <;> simp [same, here]

namespace MarkConfig

def unstacked (mark : MarkConfig) : MarkConfig := { mark with stacked := none }

/-- A mark is read exactly if its attributes are, and they suit each other. -/
theorem read_members_iff {entries : Members} {mark : MarkConfig} :
    readMembers entries = .valid mark ↔
      (withDefault entries (word "type") .bar (named MarkKind) = .valid mark.kind ∧
        optionally entries (word "point") truth = .valid mark.point ∧
        optionally entries (word "stacked") (named Stacking) = .valid mark.stacked ∧
        optionally entries (word "opacity") fraction = .valid mark.opacity ∧
        optionally entries (word "size") number = .valid mark.size ∧
        optionally entries strokeWidthAttr number = .valid mark.strokeWidth ∧
        optionally entries (word "interpolate") (named Interpolation) = .valid mark.interpolate) ∧
      mark.objection? = none := by
  constructor
  · intro accepted
    obtain ⟨parts, suits⟩ := abiding_yields accepted
    refine ⟨?_, suits⟩
    simp only [Checked.seq_eq_valid, Checked.functor_map_eq_valid] at parts
    obtain ⟨_, _, ⟨_, _, ⟨_, _, ⟨_, _, ⟨_, _, ⟨_, _, ⟨_, kind, rfl⟩, point, rfl⟩, stacked, rfl⟩,
      opacity, rfl⟩, size, rfl⟩, stroke, rfl⟩, interpolate, rfl⟩ := parts
    exact ⟨kind, point, stacked, opacity, size, stroke, interpolate⟩
  · rintro ⟨⟨kind, point, stacked, opacity, size, stroke, interpolate⟩, suits⟩
    unfold readMembers
    rw [kind, point, stacked, opacity, size, stroke, interpolate]
    change abiding objection? _ (.valid mark) = _
    simp [abiding, Checked.andThen, suits]

end MarkConfig

namespace Spec

/-! Stacking. -/

section
variable (front back : Members) (stacked : Option Stacking)

def stackedEntries : Members := front ++ memberOf "stacked" writeName stacked ++ back

theorem stacked_entries_find (other : Option Stacking) (attr : Attribute)
    (camel : attr.camel ≠ "stacked") (snake : attr.snake ≠ "stacked") :
    attr.find? (stackedEntries front back stacked) =
      attr.find? (stackedEntries front back other) := by
  simp [Attribute.find?, stackedEntries, List.lookup_append, camel, snake]

theorem stacked_entries_told (plain : (front ++ back).lookup "stacked" = none) :
    optionally (stackedEntries front back stacked) (word "stacked") (named Stacking) =
      .valid stacked := by
  refine optionally_told ?_ fun x _ => named_back x
  rw [List.lookup_append, Option.or_eq_none_iff] at plain
  simp [said, word, stackedEntries, List.lookup_append, plain]

/-- The stacking of a mark has no say in whether the rest of it is read, as long as it suits. -/
theorem stacked_read_alike {front back : Members} {first second : Option Stacking}
    (plain : (front ++ back).lookup "stacked" = none)
    (suits : ∀ kind, withDefault (stackedEntries front back first) (word "type") .bar
      (named MarkKind) = .valid kind → second.isSome → kind.isStackable) {mark : MarkConfig}
    (read : MarkConfig.readMembers (stackedEntries front back first) = .valid mark) :
    MarkConfig.readMembers (stackedEntries front back second) =
      .valid { mark with stacked := second } := by
  obtain ⟨⟨kind, point, _, opacity, size, stroke, interpolate⟩, fits⟩ :=
    MarkConfig.read_members_iff.mp read
  rw [objection_none_iff] at fits
  rw [MarkConfig.read_members_iff, objection_none_iff]
  -- All attributes but the stacking are looked up in what stands around it.
  have alike := stacked_entries_find front back first second
  unfold optionally withDefault at *
  simp only [← alike (word "type") (by decide) (by decide),
    ← alike (word "point") (by decide) (by decide),
    ← alike (word "opacity") (by decide) (by decide),
    ← alike (word "size") (by decide) (by decide),
    ← alike strokeWidthAttr (by decide) (by decide),
    ← alike (word "interpolate") (by decide) (by decide)]
  exact ⟨⟨kind, point, stacked_entries_told front back second plain, opacity, size, stroke,
    interpolate⟩, suits mark.kind kind, fits.2⟩

end

theorem stacked_read_unstacked {front back : Members} {first second : Option Stacking}
    (plain : (front ++ back).lookup "stacked" = none)
    (suits : ∀ stacked other : Option Stacking, stacked = first ∨ stacked = second → ∀ kind,
      withDefault (stackedEntries front back other) (word "type") .bar (named MarkKind) =
        .valid kind → stacked.isSome → kind.isStackable) :
    (MarkConfig.readMembers (stackedEntries front back first)).toOption.map MarkConfig.unstacked =
      (MarkConfig.readMembers (stackedEntries front back second)).toOption.map
        MarkConfig.unstacked := by
  have there {one other : Option Stacking} (is : other = first ∨ other = second)
      {mark : MarkConfig}
      (read : MarkConfig.readMembers (stackedEntries front back one) = .valid mark) :=
    stacked_read_alike plain (suits other one is) read
  ext rest
  simp only [Option.map_eq_some_iff, Checked.toOption_eq_some]
  constructor
  · rintro ⟨mark, read, rfl⟩
    exact ⟨_, there (.inr rfl) read, rfl⟩
  · rintro ⟨mark, read, rfl⟩
    exact ⟨_, there (.inl rfl) read, rfl⟩

def stackingFor (kind : Json) (encoding : Members) : Option Stacking :=
  if (markKind? kind).any (·.isStackable) then stackingIn? encoding else none

/-- What is read of the description of a mark, apart from its stacking and its interpolation. -/
def ownEntries (kind : Json) (entries : Members) : Members :=
  [("type", kind)] ++ numberEntry entries (word "opacity") ++ numberEntry entries (word "size") ++
    numberEntry entries strokeWidthAttr ++
    (if (markKind? kind).any (·.hasOverlay) then flagEntry entries "point" else [])

theorem number_entry_lookup (entries : Members) (attr : Attribute) (name : String)
    (other : name ≠ attr.snake) : (numberEntry entries attr).lookup name = none := by
  unfold numberEntry
  split <;> simp [other]

theorem flag_entry_lookup (entries : Members) (flag name : String) (other : name ≠ flag) :
    (flagEntry entries flag).lookup name = none := by
  unfold flagEntry
  split <;> simp [other]

theorem own_entries_unstacked (kind : Json) (entries : Members) :
    (ownEntries kind entries).lookup "stacked" = none := by
  have point : (if (markKind? kind).any (·.hasOverlay) then flagEntry entries "point"
      else []).lookup "stacked" = none := by
    split <;> simp [flag_entry_lookup]
  simp [ownEntries, List.lookup_append, number_entry_lookup, word, strokeWidthAttr, point]

theorem interpolate_unstacked (kind : Json) (entries : Members) :
    (interpolateEntry kind entries).lookup "stacked" = none := by
  simp only [interpolateEntry]
  split <;> simp

theorem own_kind_told (kind : Json) (entries back : Members) (stacked : Option Stacking)
    {target : MarkKind}
    (read : withDefault (stackedEntries (ownEntries kind entries) back stacked) (word "type") .bar
      (named MarkKind) = .valid target) : markKind? kind = some target := by
  have found : (word "type").find? (stackedEntries (ownEntries kind entries) back stacked) =
      some ("type", kind) := by
    simp [Attribute.find?, word, stackedEntries, ownEntries]
  unfold withDefault at read
  simp only [found, Checked.under_eq_valid, named] at read
  unfold markKind?
  split at read
  · next told =>
      rw [told]
      cases read
      rfl
  · cases read

theorem stacking_suits {kind : Json} {encoding : Members} {target : MarkKind}
    (told : markKind? kind = some target) (present : (stackingFor kind encoding).isSome) :
    target.isStackable := by
  cases stackable : target.isStackable with
  | true => rfl
  | false => simp [stackingFor, told, stackable] at present

/-- The mark that is read is the same apart from its stacking, whatever the encodings are. -/
theorem mark_read_unstacked (kind : Json) (entries encoding other : Members) :
    (readMark kind entries encoding).map MarkConfig.unstacked =
      (readMark kind entries other).map MarkConfig.unstacked := by
  have alike (back : Members) (plain : back.lookup "stacked" = none) :
      let read encoding := MarkConfig.readMembers
        (stackedEntries (ownEntries kind entries) back (stackingFor kind encoding))
      (read encoding).toOption.map MarkConfig.unstacked =
        (read other).toOption.map MarkConfig.unstacked := by
    apply stacked_read_unstacked
    · simp [List.lookup_append, own_entries_unstacked, plain]
    · rintro stacked told (rfl | rfl) target read <;>
        exact stacking_suits (own_kind_told kind entries back told read)
  have full := alike _ (interpolate_unstacked kind entries)
  have bare := alike [] rfl
  have told (encoding : Members) : readMark kind entries encoding =
      ((MarkConfig.readMembers (stackedEntries (ownEntries kind entries)
          (interpolateEntry kind entries) (stackingFor kind encoding))).toOption.or
        (MarkConfig.readMembers (stackedEntries (ownEntries kind entries) []
          (stackingFor kind encoding))).toOption) := by
    simp only [stackedEntries, List.append_nil]
    exact Option.orElse_eq_or
  rw [told, told, Option.map_or, Option.map_or, full, bare]

theorem described_mark_unstacked (description : Option (Json × Members))
    (encoding other : Members) :
    ((description.bind fun (kind, entries) => readMark kind entries encoding).map some).map
        (Option.map MarkConfig.unstacked) =
      ((description.bind fun (kind, entries) => readMark kind entries other).map some).map
        (Option.map MarkConfig.unstacked) := by
  have outer (mark : Option MarkConfig) : (mark.map some).map (Option.map MarkConfig.unstacked) =
      (mark.map MarkConfig.unstacked).map some := by
    cases mark <;> rfl
  cases description with
  | none => rfl
  | some described =>
      rw [outer, outer]
      exact congrArg _ (mark_read_unstacked described.1 described.2 encoding other)

/-! One member at a time. -/

/-- The members of a specification from which something is recovered. -/
inductive Source where
  | mark
  | encoding
  | transform
  | width
  | height
  | title
  | description
  | background
  | padding
  deriving DecidableEq, Repr

def Source.name : Source → String
  | .mark => "mark"
  | .encoding => "encoding"
  | .transform => "transform"
  | .width => "width"
  | .height => "height"
  | .title => "title"
  | .description => "description"
  | .background => "background"
  | .padding => "padding"

def placed (spec : Members) (source : Source) : Option Json → Members
  | some value => spec.set source.name value
  | none => spec.erase source.name

def apartFrom (source : Source) (part : PartialState) : PartialState :=
  match source with
  | .mark => { part with mark := none }
  | .encoding =>
    { part with encodings := none, mark := part.mark.map (Option.map MarkConfig.unstacked) }
  | .transform => { part with transforms := none }
  | .width => { part with width := none }
  | .height => { part with height := none }
  | .title => { part with title := none }
  | .description => { part with description := none }
  | .background => { part with background := none }
  | .padding => { part with padding := none }

/-- Whether a list or an object that is not empty stands for the type of the mark. -/
def HasCompoundType (spec : Members) : Prop :=
  ∃ entries, spec.getD "mark" = .object entries ∧
    (Members.getD entries "type").isVacant = false ∧
    isCompound (Members.getD entries "type") = true

def HasVastPadding (spec : Members) : Prop :=
  ∃ space, spec.getD "padding" = .int space ∧ Binary64.overflowBound ≤ space.natAbs

def Forfeits (spec : Members) : Prop := HasCompoundType spec ∨ HasVastPadding spec

theorem placed_elsewhere (spec : Members) (source : Source) (value : Option Json) (name : String)
    (other : name ≠ source.name) : (placed spec source value).getD name = spec.getD name := by
  cases value <;> simp [placed, Members.getD, erase_lookup, other]

theorem compound_type_iff (spec : Members) :
    ((markDescription? (spec.getD "mark")).any fun (kind, _) => isCompound kind) = true ↔
      HasCompoundType spec := by
  unfold HasCompoundType
  cases spec.getD "mark" with
  | object entries =>
      cases vacant : (Members.getD entries "type").isVacant <;> simp [markDescription?, vacant]
  | text kind => cases empty : kind.isEmpty <;> simp [markDescription?, empty, isCompound]
  | _ => simp [markDescription?]

theorem padding_refused_iff (spec : Members) :
    (recoverPadding (spec.getD "padding")).toOption = none ↔ HasVastPadding spec := by
  unfold HasVastPadding
  cases spec.getD "padding" with
  | int space =>
      have beyond := Binary64.of_int_none_iff space
      have read : (recoverPadding (.int space)).toOption = none ↔ Binary64.ofInt? space = none := by
        cases near : Binary64.ofInt? space <;>
          simp [recoverPadding, Padding.read, Padding.readSides, number, record, near,
            Checked.fault, Checked.map, Checked.toOption]
      simp [read, beyond]
  | _ => simp [recoverPadding, Checked.toOption]

/-- Nothing at all is recovered exactly if the mark or the padding is one of those two values. -/
theorem members_lost_iff (spec : Members) :
    recoverMembers? spec = none ↔ Forfeits spec := by
  rw [Forfeits, ← compound_type_iff, ← padding_refused_iff]
  unfold recoverMembers?
  cases compound : (markDescription? (spec.getD "mark")).any fun (kind, _) => isCompound kind with
  | true => simp [compound]
  | false => cases (recoverPadding (spec.getD "padding")).toOption <;> simp [compound]

def paddingTold (spec : Members) : Option Padding :=
  (recoverPadding (spec.getD "padding")).toOption.join

theorem attributes_apart (spec : Members) (source : Source) (first second : Option Json) :
    apartFrom source
        (attributes (placed spec source first) (paddingTold (placed spec source first))) =
      apartFrom source
        (attributes (placed spec source second) (paddingTold (placed spec source second))) := by
  have elsewhere := placed_elsewhere spec source
  cases source with
  | encoding =>
      simp only [Source.name] at elsewhere
      have mark := described_mark_unstacked (markDescription? (spec.getD "mark"))
      simp only [apartFrom, attributes, paddingTold, elsewhere, ne_eq, String.reduceEq,
        not_false_eq_true]
      rw [mark]
  | _ =>
      simp only [Source.name] at elsewhere
      simp [apartFrom, attributes, paddingTold, elsewhere]

theorem forfeited_recovers_nothing {spec : Members} (lost : Forfeits spec) :
    recover (.object spec) = {} := by
  have whole : recover (.object spec) = (recoverMembers? spec).getD {} := rfl
  rw [whole, (members_lost_iff spec).mpr lost, Option.getD_none]

theorem unforfeited_recovers_all {spec : Members} (kept : ¬Forfeits spec) :
    recover (.object spec) = attributes spec (paddingTold spec) := by
  rw [← members_lost_iff] at kept
  obtain ⟨part, recovered⟩ := Option.ne_none_iff_exists'.mp kept
  obtain ⟨padding, read, same⟩ := members_recovered recovered
  have whole : recover (.object spec) = (recoverMembers? spec).getD {} := rfl
  rw [whole, recovered, Option.getD_some, paddingTold, read, same, Option.join_some]

-- Title and description are always given if anything is, and no member tells both.
theorem nothing_apart (spec : Members) (source : Source) (padding : Option Padding) :
    apartFrom source {} ≠ apartFrom source (attributes spec padding) := by
  cases source <;> simp [apartFrom, attributes]

theorem recovered_apart_iff (spec : Members) (source : Source) (first second : Option Json) :
    apartFrom source (recover (.object (placed spec source first))) =
        apartFrom source (recover (.object (placed spec source second))) ↔
      (Forfeits (placed spec source first) ↔ Forfeits (placed spec source second)) := by
  by_cases lost : Forfeits (placed spec source first) <;>
    by_cases gone : Forfeits (placed spec source second)
  · simp [forfeited_recovers_nothing lost, forfeited_recovers_nothing gone, lost, gone]
  · rw [forfeited_recovers_nothing lost, unforfeited_recovers_all gone]
    simp [nothing_apart, lost, gone]
  · rw [unforfeited_recovers_all lost, forfeited_recovers_nothing gone]
    simp [(nothing_apart _ source _).symm, lost, gone]
  · rw [unforfeited_recovers_all lost, unforfeited_recovers_all gone]
    simp [attributes_apart spec source first second, lost, gone]

theorem forfeits_elsewhere (spec : Members) (source : Source) (value : Option Json)
    (mark : source ≠ .mark) (padding : source ≠ .padding) :
    Forfeits (placed spec source value) ↔ Forfeits spec := by
  have unmarked : "mark" ≠ source.name := by
    cases source <;> first | exact absurd rfl mark | decide
  have unpadded : "padding" ≠ source.name := by
    cases source <;> first | exact absurd rfl padding | decide
  have sameMark := placed_elsewhere spec source value "mark" unmarked
  have samePadding := placed_elsewhere spec source value "padding" unpadded
  simp only [Forfeits, HasCompoundType, HasVastPadding, sameMark, samePadding]

/-- Two values in the same member of a specification give the same attributes apart from the one
that the member tells, as long as both or none of them cost the whole recovery. No value does so
but one in the mark or in the padding. -/
theorem members_recovered_apart (spec : Members) (source : Source) (first second : Option Json) :
    (apartFrom source (recover (.object (placed spec source first))) =
        apartFrom source (recover (.object (placed spec source second))) ↔
      (Forfeits (placed spec source first) ↔ Forfeits (placed spec source second))) ∧
    (source = .mark ∨ source = .padding ∨
      apartFrom source (recover (.object (placed spec source first))) =
        apartFrom source (recover (.object (placed spec source second)))) := by
  refine ⟨recovered_apart_iff spec source first second, ?_⟩
  by_cases mark : source = .mark
  · exact .inl mark
  · by_cases padding : source = .padding
    · exact .inr (.inl padding)
    · have alike (value : Option Json) := forfeits_elsewhere spec source value mark padding
      exact .inr (.inr ((recovered_apart_iff spec source first second).mpr
        ((alike first).trans (alike second).symm)))

/-- A list as the type of the mark costs the title, which no mark tells. -/
theorem title_lost_to_listed_type :
    apartFrom .mark (recover (.object (placed [("title", .text "Sales")] .mark
        (some (.object [("type", .list [.text "bar"])]))))) ≠
      apartFrom .mark (recover (.object (placed [("title", .text "Sales")] .mark none))) := by
  intro same
  have title := congrArg PartialState.title same
  exact absurd title (by decide)

end Spec
end Chartwright
