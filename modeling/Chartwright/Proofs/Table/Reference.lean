import Chartwright.Proofs.Text.Case
import Chartwright.Proofs.Text.Words
import Chartwright.Table.Field
import Chartwright.Table.Reference
import Mathlib.Data.List.Nodup

/-!
References lead to fields that are there. A reference is resolved to the first name of the first way
in which it leads to any, so it is to one of the names given; and a name that is among those of some
fields has a kind.
-/

namespace Chartwright

namespace Reference
open Text

theorem nearest_none_iff {key : List Char} {names : List String} :
    nearest? key names = none ↔ names = [] := by
  cases names with
  | nil => exact iff_of_true rfl rfl
  | cons name rest =>
      unfold nearest?
      cases nearest? key rest <;> simp

theorem nearest_first {key : List Char} {names : List String} {name : String} {least : Nat}
    (nearest : nearest? key names = some (name, least)) :
    least = editDistance key (lowered name) ∧
      (∀ other ∈ names, least ≤ editDistance key (lowered other)) ∧
      ∃ before after, names = before ++ name :: after ∧
        ∀ other ∈ before, least < editDistance key (lowered other) := by
  induction names generalizing name least with
  | nil => cases nearest
  | cons first rest ih =>
      unfold nearest? at nearest
      cases later : nearest? key rest with
      | none =>
          obtain rfl := nearest_none_iff.mp later
          simp only [later, Option.some.injEq, Prod.mk.injEq] at nearest
          obtain ⟨rfl, rfl⟩ := nearest
          exact ⟨rfl, by simp, [], [], rfl, by simp⟩
      | some found =>
          obtain ⟨other, distance⟩ := found
          obtain ⟨same, all, before, after, split, nearer⟩ := ih later
          simp only [later, Option.some.injEq] at nearest
          -- A later name has to be nearer to be taken.
          by_cases less : distance < editDistance key (lowered first)
          · rw [if_pos less, Prod.mk.injEq] at nearest
            obtain ⟨rfl, rfl⟩ := nearest
            refine ⟨same, List.forall_mem_cons.mpr ⟨Nat.le_of_lt less, all⟩, first :: before, after,
              by rw [split, List.cons_append], List.forall_mem_cons.mpr ⟨less, nearer⟩⟩
          · rw [if_neg less, Prod.mk.injEq] at nearest
            obtain ⟨rfl, rfl⟩ := nearest
            refine ⟨rfl, List.forall_mem_cons.mpr ⟨Nat.le_refl _, ?_⟩, [], rest, rfl, by simp⟩
            exact fun other inside => Nat.le_trans (Nat.le_of_not_lt less) (all other inside)

theorem resolve_exact {name : String} {names : List String} (known : name ∈ names)
    (some_ : name ≠ "") (limit : Int) : resolve? name names limit = some name := by
  have spelled : name.isEmpty = false := by simpa using some_
  have listed : (names.filter fun other => !other.isEmpty).contains name = true := by
    simp [known, spelled]
  simp only [resolve?, spelled, listed, Bool.false_eq_true, if_false, if_true]

/-! Separators are the same in any case. -/

section Separators
open CaseTable Alphabet

def separating : List (Nat × Nat) :=
  [(0x9, 0xd), (0x1c, 0x20), ('-'.toNat, '-'.toNat), ('_'.toNat, '_'.toNat)] ++ blanks

theorem ascii_separators :
    ∀ code < 128, isSeparator (Char.ofNat code) = covers separating code ∧
      isSeparator (Char.ofNat code).toLower = isSeparator (Char.ofNat code) := by
  decide +kernel

theorem separator_covered {c : Char} (separates : isSeparator c = true) :
    covers separating c.toNat = true := by
  by_cases small : c.toNat < 128
  · have same := (ascii_separators c.toNat small).1
    rwa [Char.ofNat_toNat, separates, eq_comm] at same
  · have other (d : Char) (ascii : d.toNat < 128) : (c == d) = false :=
      beq_eq_false_iff_ne.mpr fun same => small (same ▸ ascii)
    simp only [isSeparator, other '_' (by decide), other '-' (by decide), Bool.or_false, isBlank,
      if_neg small] at separates
    rw [covers, separating, List.any_append]
    exact Bool.or_eq_true_iff.mpr (.inr separates)

theorem runs_solid :
    lowerRuns.all (fun (first, last, _, _) => isApart separating first last) = true ∧
      lowerRuns.all (fun (first, last, _, shift) =>
        isApart separating (first + shift).toNat (last + shift).toNat) = true := by
  decide +kernel

theorem uncovered_solid {c : Char} (uncovered : covers separating c.toNat = false) :
    isSeparator c = false := by
  rw [Bool.eq_false_iff]
  intro separates
  rw [separator_covered separates] at uncovered
  cases uncovered

theorem char_separator (c : Char) : (lowerChar c).all isSeparator = isSeparator c := by
  unfold lowerChar
  split
  · rename_i ascii
    have same := (ascii_separators c.toNat ascii).2
    rw [Char.ofNat_toNat] at same
    simp [same]
  · split
    · rename_i dotted
      rw [beq_iff_eq] at dotted
      rw [uncovered_solid (by rw [dotted]; decide)]
      decide
    · cases found : inRuns? lowerRuns c.toNat with
      | none => simp
      | some letter =>
          have source := uncovered_solid (source_uncovered found runs_solid.1)
          have image := uncovered_solid (image_uncovered found (by decide) runs_solid.2)
          simp [source, image]

/-- A reference is bare of letters just if it holds nothing but separators. -/
theorem bare_eq_nil_iff (name : String) :
    bare name = [] ↔ ∀ c ∈ name.toList, isSeparator c = true := by
  have sigmas : ∀ c ∈ [capitalSigma, smallSigma, finalSigma], isSeparator c = false :=
    List.forall_mem_cons.mpr ⟨by decide, List.forall_mem_cons.mpr ⟨by decide,
      List.forall_mem_singleton.mpr (by decide)⟩⟩
  have all := lower_all char_separator sigmas name.toList
  rw [bare, List.filter_eq_nil_iff, ← List.all_eq_true, ← all, List.all_eq_true]
  simp

end Separators

/-! The ways of resolving a reference, one after the other. -/

/-- The ways in which a reference may lead to a name. -/
inductive Way
  | same
  | cased
  | spaced
  | contained
  | close

def Way.all : List Way := [.same, .cased, .spaced, .contained, .close]

def distance (reference name : String) : Nat :=
  editDistance (lower (trim reference.toList)) (lowered name)

def IsSolid (reference : String) : Prop := ∃ c ∈ reference.toList, isSeparator c = false

def Way.Fits (names : List String) (limit : Int) (reference name : String) : Way → Prop
  | .same => name = reference
  | .cased => lowered name = lower (trim reference.toList)
  | .spaced => IsSolid reference ∧ bare name = bare reference
  | .contained => IsSolid reference ∧ bare reference <:+: bare name
  | .close => IsSolid reference ∧ distance reference name ≤ limit ∧
      ∀ other ∈ names, other ≠ "" → distance reference name ≤ distance reference other

def Way.Leads (names : List String) (limit : Int) (reference : String) (way : Way)
    (name : String) : Prop := name ∈ names ∧ name ≠ "" ∧ way.Fits names limit reference name

def Way.LeadsFirst (names : List String) (limit : Int) (reference : String) (way : Way)
    (name : String) : Prop :=
  way.Leads names limit reference name ∧ ∃ before after, names = before ++ name :: after ∧
    ∀ other ∈ before, ¬way.Leads names limit reference other

section Decided
variable (reference : String) (names : List String) (limit : Int)

instance : Decidable (IsSolid reference) :=
  inferInstanceAs (Decidable (∃ c ∈ reference.toList, isSeparator c = false))

instance (name : String) : (way : Way) → Decidable (way.Fits names limit reference name)
  | .same => inferInstanceAs (Decidable (name = reference))
  | .cased => inferInstanceAs (Decidable (lowered name = lower (trim reference.toList)))
  | .spaced => inferInstanceAs (Decidable (IsSolid reference ∧ bare name = bare reference))
  | .contained => inferInstanceAs (Decidable (IsSolid reference ∧ bare reference <:+: bare name))
  | .close => inferInstanceAs (Decidable (IsSolid reference ∧ distance reference name ≤ limit ∧
      ∀ other ∈ names, other ≠ "" → distance reference name ≤ distance reference other))

/-- The first name to which a reference leads in some way. -/
def Way.first? (way : Way) : Option String :=
  names.find? fun name => name ≠ "" ∧ way.Fits names limit reference name

end Decided

section Ways
variable {reference : String} {names : List String} {limit : Int} {way : Way}

theorem Way.first_iff {name : String} :
    way.first? reference names limit = some name ↔ way.LeadsFirst names limit reference name := by
  rw [Way.first?, List.find?_eq_some_iff_append]
  simp only [decide_eq_true_eq, Bool.not_eq_true', decide_eq_false_iff_not]
  constructor
  · rintro ⟨⟨some_, fits⟩, before, after, rfl, passed⟩
    refine ⟨⟨by simp, some_, fits⟩, before, after, rfl, fun other earlier leads => ?_⟩
    exact passed other earlier leads.2
  · rintro ⟨⟨-, leads⟩, before, after, rfl, passed⟩
    refine ⟨leads, before, after, rfl, fun other earlier fits => ?_⟩
    exact passed other earlier ⟨List.mem_append_left _ earlier, fits⟩

theorem Way.first_none_iff :
    way.first? reference names limit = none ↔ ∀ name, ¬way.Leads names limit reference name := by
  simp [Way.first?, Way.Leads]

theorem Way.mem_all (way : Way) : way ∈ Way.all := by
  cases way <;> simp [Way.all]

variable (reference limit way) in
theorem Way.first_eq {test : String → Bool}
    (same : ∀ name, test name = true ↔ way.Fits names limit reference name) :
    (names.filter fun name => !name.isEmpty).find? test = way.first? reference names limit := by
  rw [List.find?_filter, Way.first?]
  refine congrArg (names.find? ·) (funext fun name => ?_)
  simp [same]

theorem find_itself :
    (names.find? fun name => name = reference) =
      if names.contains reference then some reference else none := by
  induction names with
  | nil => rfl
  | cons name rest ih =>
      by_cases same : name = reference
      · simp [same]
      · simp [same, Ne.symm same, ih]

theorem first_close :
    ((nearest? (lower (trim reference.toList)) names).bind fun (name, distance) =>
      if (distance : Int) ≤ limit then some name else none) =
      names.find? fun name => distance reference name ≤ limit ∧
        ∀ other ∈ names, distance reference name ≤ distance reference other := by
  cases nearest : nearest? (lower (trim reference.toList)) names with
  | none =>
      obtain rfl := nearest_none_iff.mp nearest
      rfl
  | some found =>
      obtain ⟨name, least⟩ := found
      obtain ⟨same, all, before, after, split, nearer⟩ := nearest_first nearest
      change least = distance reference name at same
      change ∀ other ∈ names, least ≤ distance reference other at all
      change ∀ other ∈ before, least < distance reference other at nearer
      have inside : name ∈ names := by simp [split]
      simp only [Option.bind_some]
      by_cases near : (least : Int) ≤ limit
      · rw [if_pos near, eq_comm, List.find?_eq_some_iff_append]
        refine ⟨by simpa [← same] using ⟨near, all⟩, before, after, split, fun other earlier => ?_⟩
        have farther := nearer other earlier
        simp only [Bool.not_eq_true', decide_eq_false_iff_not]
        exact fun fits => Nat.not_le.mpr farther (same ▸ fits.2 name inside)
      · rw [if_neg near, eq_comm, List.find?_eq_none]
        intro other there
        have farther := all other there
        simp only [decide_eq_true_eq]
        exact fun fits => near (Int.le_trans (Int.ofNat_le.mpr farther) fits.1)

theorem solid_iff : IsSolid reference ↔ bare reference ≠ [] := by
  simp [IsSolid, bare_eq_nil_iff]

theorem either_way (find : Way → Option String) (later : List Way) :
    (way :: later).findSome? find = (find way <|> later.findSome? find) := by
  rw [List.findSome?_cons]
  cases find way <;> rfl

/-- Without a letter a reference leads nowhere but to itself, up to case. -/
theorem hollow_ways (hollow : ¬IsSolid reference) :
    [Way.spaced, .contained, .close].findSome? (·.first? reference names limit) = none := by
  refine List.findSome?_eq_none_iff.mpr fun way later => Way.first_none_iff.mpr fun name leads => ?_
  simp only [List.mem_cons, List.not_mem_nil, or_false] at later
  rcases later with rfl | rfl | rfl
  · exact hollow leads.2.2.1
  · exact hollow leads.2.2.1
  · exact hollow leads.2.2.1

theorem solid_ways (solid : IsSolid reference) :
    [Way.spaced, .contained, .close].findSome? (·.first? reference names limit) =
      (((names.filter fun name => !name.isEmpty).find? fun name => bare name = bare reference) <|>
        ((names.filter fun name => !name.isEmpty).find? fun name =>
          occursIn (bare reference) (bare name)) <|>
        (nearest? (lower (trim reference.toList)) (names.filter fun name => !name.isEmpty)).bind
          fun (name, distance) => if (distance : Int) ≤ limit then some name else none) := by
  rw [first_close,
    Way.first_eq reference limit .spaced fun name => by simp [Way.Fits, solid],
    Way.first_eq reference limit .contained fun name => by simp [Way.Fits, solid, occursIn_iff],
    Way.first_eq reference limit .close fun name => by simp [Way.Fits, solid]]
  simp only [either_way, List.findSome?_nil, Option.orElse_eq_orElse, Option.orElse_eq_or,
    Option.or_none]

theorem nowhere_from_nothing (name : String) : ¬way.Leads names limit "" name := by
  have hollow : ¬IsSolid "" := by simp [IsSolid]
  rintro ⟨-, some_, fits⟩
  cases way with
  | same => exact some_ fits
  | cased => exact lower_some (by simpa using some_) fits
  | spaced => exact hollow fits.1
  | contained => exact hollow fits.1
  | close => exact hollow fits.1

/-- A reference is resolved by the first way that leads to a name, to the first such name. -/
theorem resolve_eq : resolve? reference names limit =
    Way.all.findSome? (·.first? reference names limit) := by
  -- Without a reference nothing is tried, and no way leads from it to a name either.
  by_cases none_ : reference = ""
  · subst none_
    exact (List.findSome?_eq_none_iff.mpr fun way _ =>
      Way.first_none_iff.mpr nowhere_from_nothing).symm
  have spelled : reference.isEmpty = false := by simpa using none_
  have same : Way.first? reference names limit .same = _ :=
    (Way.first_eq reference limit .same fun name => decide_eq_true_iff).symm.trans find_itself
  rw [Way.all, either_way, same]
  by_cases listed : (names.filter fun name => !name.isEmpty).contains reference = true
  · simp only [resolve?, spelled, listed, Bool.false_eq_true, if_false, if_true]
    rfl
  rw [Bool.not_eq_true] at listed
  simp only [resolve?, spelled, listed, Bool.false_eq_true, if_false]
  rw [either_way, ← Way.first_eq reference limit .cased fun name => decide_eq_true_iff]
  refine congrArg (_ <|> ·) ?_
  by_cases solid : IsSolid reference
  · rw [if_neg (by simpa using solid_iff.mp solid)]
    exact (solid_ways solid).symm
  · rw [if_pos (by simpa using mt solid_iff.mpr solid), hollow_ways solid]

/-- A reference that is no name leads to the first one that differs from it by case only. -/
theorem resolve_cased {name : String} (absent : reference ∉ names)
    (cased : Way.cased.LeadsFirst names limit reference name) :
    resolve? reference names limit = some name := by
  have same : Way.same.first? reference names limit = none :=
    Way.first_none_iff.mpr fun other leads => absent (leads.2.2 ▸ leads.1)
  rw [resolve_eq, Way.all, either_way, same, either_way, Way.first_iff.mpr cased]
  rfl

theorem resolve_leads {name : String} (found : resolve? reference names limit = some name) :
    ∃ way : Way, way.Leads names limit reference name := by
  rw [resolve_eq] at found
  obtain ⟨_, way, _, _, first, _⟩ := List.findSome?_eq_some_iff.mp found
  exact ⟨way, (Way.first_iff.mp first).1⟩

theorem resolve_known {name : String} (found : resolve? reference names limit = some name) :
    name ∈ names := by
  obtain ⟨way, known, -⟩ := resolve_leads found
  exact known

theorem either_known {first second : Option String} {name : String}
    (found : (first <|> second) = some name) (left : first = some name → name ∈ names)
    (right : second = some name → name ∈ names) : name ∈ names := by
  cases first with
  | none => exact right found
  | some other => exact left found

end Ways

/-- A reference is resolved to the first name of the first way that leads to any, and not at all if
no way does. A name that is resolved to is not empty. -/
theorem resolve_first_way (reference : String) (names : List String) (limit : Int) :
    (∀ name, resolve? reference names limit = some name ↔
      ∃ earlier way later, Way.all = earlier ++ way :: later ∧
        way.LeadsFirst names limit reference name ∧
        ∀ before ∈ earlier, ∀ other, ¬before.Leads names limit reference other) ∧
    (resolve? reference names limit = none ↔
      ∀ way other, ¬Way.Leads names limit reference way other) := by
  rw [resolve_eq]
  constructor
  · intro name
    simp only [List.findSome?_eq_some_iff, Way.first_iff, Way.first_none_iff]
  · simp only [List.findSome?_eq_none_iff, Way.first_none_iff]
    exact ⟨fun nowhere way => nowhere way way.mem_all, fun nowhere way _ => nowhere way⟩

end Reference

theorem kind_isSome_iff (fields : List DataField) (name : String) :
    (kindOf? fields name).isSome = true ↔ name ∈ fields.map (·.name) := by
  simp [kindOf?, List.find?_isSome]

/-- Where no two fields share a name, the kind of a field is that of its name. -/
theorem kind_of_field {fields : List DataField} (distinct : (fields.map (·.name)).Nodup)
    {field : DataField} (there : field ∈ fields) : kindOf? fields field.name = some field.kind := by
  have known : (kindOf? fields field.name).isSome = true :=
    (kind_isSome_iff fields field.name).mpr (List.mem_map_of_mem there)
  unfold kindOf? at known ⊢
  cases found : fields.reverse.find? fun other => other.name = field.name with
  | none => simp [found] at known
  | some other =>
      have inside : other ∈ fields := List.mem_reverse.mp (List.mem_of_find?_eq_some found)
      have named : other.name = field.name := by simpa using List.find?_some found
      rw [List.inj_on_of_nodup_map distinct inside there named]
      rfl

end Chartwright
