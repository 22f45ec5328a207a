import Chartwright.Form.Basic
import Mathlib.Data.List.Basic

/-!
Laws of reading. A record is known by what it says of each attribute: the member under one of the
two spellings, or null if there is none. What a record says decides how each attribute is read, so
a type is read back from its written form attribute by attribute, in every style of writing.
-/

namespace Chartwright

namespace Checked
variable {α β : Type}

@[simp] theorem map_valid (f : α → β) (value : α) : f <$> valid value = valid (f value) := rfl

@[simp] theorem seq_valid (f : α → β) (value : α) :
    (valid f : Checked (α → β)) <*> valid value = valid (f value) := rfl

@[simp] theorem under_valid (step : PathStep) (value : α) :
    (valid value).under step = valid value := rfl

@[simp] theorem toOption_valid (value : α) : (valid value).toOption = some value := rfl

end Checked

@[simp] theorem Json.null_isNull : Json.null.isNull = true := rfl

theorem Json.isNull_iff (document : Json) : document.isNull = true ↔ document = .null := by
  cases document <;> simp [Json.isNull]

namespace Form

/-- What a record says of an attribute: the member under one of the two spellings, the camel case
first, or null. -/
def said (record : Members) (attr : Attribute) : Json :=
  ((record.lookup attr.camel).or (record.lookup attr.snake)).getD .null

theorem found_said {record : Members} {attr : Attribute} {spelling : String} {value : Json}
    (found : attr.find? record = some (spelling, value)) : said record attr = value := by
  unfold Attribute.find? at found
  cases camel : record.lookup attr.camel with
  | some told =>
      simp only [camel, Option.some.injEq, Prod.mk.injEq] at found
      simp [said, camel, found.2]
  | none =>
      cases snake : record.lookup attr.snake with
      | some told =>
          simp only [camel, snake, Option.map_some, Option.some.injEq, Prod.mk.injEq] at found
          simp [said, camel, snake, found.2]
      | none => simp [camel, snake] at found

theorem absent_said {record : Members} {attr : Attribute} (absent : attr.find? record = none) :
    said record attr = .null := by
  unfold Attribute.find? at absent
  cases camel : record.lookup attr.camel with
  | some told => simp [camel] at absent
  | none =>
      cases snake : record.lookup attr.snake with
      | some told => simp [camel, snake] at absent
      | none => simp [said, camel, snake]

/-! Written records. -/

@[simp] theorem member_lookup (name other : String) (value : Json) (rest : Members) :
    List.lookup other ((name, value) :: rest) =
      if other = name then some value else rest.lookup other := by
  by_cases same : other = name
  · simp [same]
  · have different : (other == name) = false := by simpa using same
    simp [List.lookup_cons, different, same]

@[simp] theorem set_lookup (members : Members) (name other : String) (value : Json) :
    (members.set name value).lookup other =
      if other = name then some value else members.lookup other := by
  induction members with
  | nil => simp [Members.set]
  | cons member rest ih =>
      rcases member with ⟨first, old⟩
      by_cases here : first = name
      · subst here
        by_cases same : other = first <;> simp [Members.set, same]
      · simp only [Members.set, here, if_false, member_lookup, ih]
        by_cases same : other = first
        · simp [same, here]
        · simp [same]

/-- What was set last is found first. -/
theorem set_all_lookup (changes entries : Members) (name : String) :
    (changes.foldl (fun entries (name, value) => entries.set name value) entries).lookup name =
      (changes.reverse.lookup name).or (entries.lookup name) := by
  induction changes generalizing entries with
  | nil => simp
  | cons change rest ih =>
      obtain ⟨changed, value⟩ := change
      rw [List.foldl_cons, ih, List.reverse_cons, List.lookup_append, set_lookup]
      by_cases same : name = changed <;> simp [same]

/-- No two attributes have a spelling in common. -/
def Apart (attrs : List Attribute) : Prop :=
  attrs.Pairwise fun a b =>
    a.camel ≠ b.camel ∧ a.camel ≠ b.snake ∧ a.snake ≠ b.camel ∧ a.snake ≠ b.snake

instance (attrs : List Attribute) : Decidable (Apart attrs) :=
  inferInstanceAs (Decidable (List.Pairwise _ attrs))

theorem name_either (attr : Attribute) (naming : Naming) :
    attr.name naming = attr.camel ∨ attr.name naming = attr.snake := by
  cases naming
  · exact Or.inl rfl
  · exact Or.inr rfl

theorem written_lookup_cons (style : Style) (attr : Attribute) (value : Json)
    (rest : List (Attribute × Json)) (name : String) :
    (writtenMembers style ((attr, value) :: rest)).lookup name =
      if name = attr.name style.naming ∧ (style.nulls || !value.isNull) then some value
      else (writtenMembers style rest).lookup name := by
  rcases style with ⟨naming, nulls⟩
  cases nulls with
  | true => simp [writtenMembers, member_lookup]
  | false =>
      cases null : value.isNull <;> simp [writtenMembers, null, member_lookup]

theorem written_lookup_foreign (style : Style) (entries : List (Attribute × Json)) (name : String)
    (foreign : ∀ entry ∈ entries, name ≠ entry.1.camel ∧ name ≠ entry.1.snake) :
    (writtenMembers style entries).lookup name = none := by
  induction entries with
  | nil => cases style with | mk naming nulls => cases nulls <;> rfl
  | cons entry rest ih =>
      rcases entry with ⟨attr, value⟩
      have here := foreign (attr, value) (by simp)
      have later := ih (fun entry member => foreign entry (List.mem_cons_of_mem _ member))
      have different : name ≠ attr.name style.naming := by
        rcases name_either attr style.naming with same | same
        · simpa [same] using here.1
        · simpa [same] using here.2
      simp [written_lookup_cons, different, later]

/-- A written record says of each attribute what was written for it. -/
theorem written_said {attrs : List Attribute} (style : Style) (apart : Apart attrs)
    {entries : List (Attribute × Json)} (listed : entries.map (·.1) = attrs)
    {attr : Attribute} {value : Json} (member : (attr, value) ∈ entries) :
    said (writtenMembers style entries) attr = value := by
  subst listed
  induction entries with
  | nil => simp at member
  | cons entry rest ih =>
      rcases entry with ⟨first, firstValue⟩
      rcases List.pairwise_cons.mp apart with ⟨headApart, restApart⟩
      rcases List.mem_cons.mp member with same | later
      · cases same
        have foreign (name : String) (spelled : name = attr.camel ∨ name = attr.snake) :
            (writtenMembers style rest).lookup name = none := by
          apply written_lookup_foreign
          intro other otherMember
          have distinct := headApart other.1 (List.mem_map_of_mem otherMember)
          rcases spelled with rfl | rfl
          · exact ⟨distinct.1, distinct.2.1⟩
          · exact ⟨distinct.2.2.1, distinct.2.2.2⟩
        simp only [said, written_lookup_cons, foreign _ (Or.inl rfl), foreign _ (Or.inr rfl)]
        cases kept : (style.nulls || !value.isNull) with
        | true =>
            rcases name_either attr style.naming with spelled | spelled
            · simp [spelled]
            · by_cases oneWord : attr.camel = attr.snake <;> simp [spelled, oneWord]
        | false =>
            have null : value.isNull = true := by
              cases shape : value.isNull <;> simp [shape] at kept ⊢
            simp [(Json.isNull_iff value).mp null]
      · have listed : attr ∈ rest.map (·.1) := List.mem_map.mpr ⟨(attr, value), later, rfl⟩
        have distinct := headApart attr listed
        have passes (name : String) (spelled : name = attr.camel ∨ name = attr.snake) :
            name ≠ first.name style.naming := by
          rcases name_either first style.naming with named | named <;>
            rcases spelled with rfl | rfl <;> rw [named]
          · exact Ne.symm distinct.1
          · exact Ne.symm distinct.2.1
          · exact Ne.symm distinct.2.2.1
          · exact Ne.symm distinct.2.2.2
        have tail := ih later restApart
        simp only [said, written_lookup_cons, passes _ (Or.inl rfl), passes _ (Or.inr rfl)]
        simpa [said] using tail

theorem written_at {attrs : List Attribute} {style : Style} (apart : Apart attrs)
    {entries : List (Attribute × Json)} (listed : entries.map (·.1) = attrs) (place : Nat)
    {attr : Attribute} {value : Json} (there : entries[place]? = some (attr, value)) :
    said (writtenMembers style entries) attr = value :=
  written_said style apart listed (List.mem_of_getElem? there)

/-! Attributes of a record whose word on them is known. -/

section Told
variable {α : Type} {record : Members} {attr : Attribute}

theorem default_told (read : Json → Checked α) (default : α) (told : Json) (value : α)
    (tells : said record attr = told) (present : told ≠ .null) (reads : read told = .valid value) :
    withDefault record attr default read = .valid value := by
  cases found : attr.find? record with
  | none => exact absurd (tells ▸ absent_said found) present
  | some entry =>
      rcases entry with ⟨spelling, here⟩
      have same : here = told := (found_said found).symm.trans tells
      simp [withDefault, found, same, reads]

theorem required_told (read : Json → Checked α) (told : Json) (value : α)
    (tells : said record attr = told) (present : told ≠ .null) (reads : read told = .valid value) :
    required record attr read = .valid value := by
  cases found : attr.find? record with
  | none => exact absurd (tells ▸ absent_said found) present
  | some entry =>
      rcases entry with ⟨spelling, here⟩
      have same : here = told := (found_said found).symm.trans tells
      simp [required, found, same, reads]

theorem optional_present (read : Json → Checked α) (document : Json) (present : document ≠ .null) :
    optional read document = (read document).map some := by
  cases document with
  | null => exact absurd rfl present
  | _ => rfl

/-- The value is read back from what is written for it, which is not null. -/
def ReadsBack (read : Json → Checked α) (write : α → Json) (value : α) : Prop :=
  read (write value) = .valid value ∧ write value ≠ .null

theorem optional_written {read : Json → Checked α} {write : α → Json} {value : Option α}
    (back : ∀ x ∈ value, ReadsBack read write x) :
    optional read (orNull write value) = .valid value := by
  cases value with
  | none => rfl
  | some x =>
      have ⟨reads, present⟩ := back x rfl
      simp [orNull, optional_present read (write x) present, reads, Checked.map]

theorem optionally_told {read : Json → Checked α} {write : α → Json} {value : Option α}
    (tells : said record attr = orNull write value)
    (back : ∀ x ∈ value, ReadsBack read write x) :
    optionally record attr read = .valid value := by
  have whole := optional_written back
  cases found : attr.find? record with
  | none =>
      rw [← tells, absent_said found] at whole
      simp only [optionally, withDefault, found]
      exact whole
  | some entry =>
      rcases entry with ⟨spelling, here⟩
      have same : here = orNull write value := (found_said found).symm.trans tells
      simp [optionally, withDefault, found, same, whole]

end Told

/-! Values of simple types. -/

/-- Types whose values are found by their names. -/
class LawfulNamed (α : Type) [Named α] : Prop where
  ofName_name : ∀ value : α, Named.ofName? (Named.name value) = some value

section Simple
variable {α : Type}

theorem text_back (value : String) : ReadsBack text .text value := ⟨rfl, Json.noConfusion⟩

theorem truth_back (value : Bool) : ReadsBack truth .bool value := ⟨rfl, Json.noConfusion⟩

theorem integer_back (value : Int) : ReadsBack integer .int value := ⟨rfl, Json.noConfusion⟩

theorem number_back (value : Binary64) : ReadsBack number .float value := ⟨rfl, Json.noConfusion⟩

theorem named_back [Named α] [LawfulNamed α] (value : α) : ReadsBack (named α) writeName value := by
  constructor
  · simp [named, writeName, Json.asText?, LawfulNamed.ofName_name]
  · exact Json.noConfusion

theorem literal_back [Named α] [LawfulNamed α] (value : α) :
    ReadsBack (literal α) writeName value := by
  constructor
  · simp [literal, writeName, Json.asText?, LawfulNamed.ofName_name]
  · exact Json.noConfusion

theorem items_back {read : Json → Checked α} {write : α → Json} (values : List α)
    (back : ∀ x ∈ values, read (write x) = .valid x) (index : Nat) :
    itemsFrom read index (values.map write) = .valid values := by
  induction values generalizing index with
  | nil => rfl
  | cons value rest ih =>
      have first := back value (by simp)
      have later := ih (fun x member => back x (List.mem_cons_of_mem _ member)) (index + 1)
      simp [itemsFrom, first, later]

theorem list_back {read : Json → Checked α} {write : α → Json} (values : List α)
    (back : ∀ x ∈ values, read (write x) = .valid x) :
    ReadsBack (list read) (fun values => .list (values.map write)) values :=
  ⟨items_back values back 0, Json.noConfusion⟩

end Simple
end Form
end Chartwright
