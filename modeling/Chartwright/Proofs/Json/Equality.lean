import Chartwright.Json.Basic
import Chartwright.Proofs.Number.Order
import Mathlib.Data.List.Forall2

/-!
Equality of documents is an equivalence. Two objects are equal when every name has equal members in
both or in none, whatever their order and however often a name stands in them.
-/

namespace Chartwright
namespace Json

/-- The documents directly within another one. -/
def parts : Json → List Json
  | .list items => items
  | .object members => members.map (·.2)
  | _ => []

theorem part_smaller (whole part : Json) (inside : part ∈ whole.parts) :
    sizeOf part < sizeOf whole := by
  cases whole with
  | list items =>
      have smaller : sizeOf part < sizeOf items := List.sizeOf_lt_of_mem inside
      simp only [list.sizeOf_spec]
      omega
  | object members =>
      obtain ⟨⟨name, value⟩, member, rfl⟩ := List.mem_map.mp inside
      have smaller : sizeOf (name, value) < sizeOf members := List.sizeOf_lt_of_mem member
      simp only [Prod.mk.sizeOf_spec] at smaller
      simp only [object.sizeOf_spec]
      omega
  | null | bool _ | int _ | float _ | text _ => cases inside

/-- What holds of a document as soon as it holds of its parts holds of all documents. -/
theorem by_parts {motive : Json → Prop}
    (step : ∀ whole, (∀ part ∈ whole.parts, motive part) → motive whole) (document : Json) :
    motive document :=
  step document fun part inside =>
    have := part_smaller document part inside
    by_parts step part
termination_by sizeOf document

theorem member_part (members : Members) (name : String) (value : Json)
    (found : members.lookup name = some value) : value ∈ (Json.object members).parts := by
  obtain ⟨before, after, split, _⟩ := List.lookup_eq_some_iff.mp found
  refine List.mem_map.mpr ⟨(name, value), ?_, rfl⟩
  rw [split]
  exact List.mem_append_right _ List.mem_cons_self

/-! What equals a document of each sort. -/

theorem same_null (y : Json) : same .null y = true ↔ y = .null := by
  cases y <;> simp [same]

theorem same_text (value : String) (y : Json) : same (.text value) y = true ↔ y = .text value := by
  cases y <;> simp [same, eq_comm (a := value)]

-- Truth values are numbers here, so this one lemma speaks of three sorts of documents.
theorem same_number {x : Json} {a : Binary64} (number : x.number? = some a) (y : Json) :
    x.same y = true ↔ ∃ b, y.number? = some b ∧ a.standing = b.standing := by
  have shape : x.same y = sameNumber a y := by
    cases x with
    | bool _ | int _ | float _ =>
        cases number
        simp [same]
    | null | text _ | list _ | object _ => cases number
  rw [shape, sameNumber]
  cases y.number? with
  | none => simp
  | some b => simp [Binary64.coincides_iff]

theorem same_items (xs ys : List Json) :
    sameItems xs ys = true ↔ List.Forall₂ (fun x y => x.same y = true) xs ys := by
  induction xs generalizing ys with
  | nil => cases ys <;> simp [sameItems, List.forall₂_nil_left_iff]
  | cons x xs ih => cases ys <;> simp [sameItems, ih, List.forall₂_nil_right_iff]

theorem same_list (xs : List Json) (y : Json) :
    same (.list xs) y = true ↔
      ∃ ys, y = .list ys ∧ List.Forall₂ (fun x y => x.same y = true) xs ys := by
  cases y <;> simp [same, same_items]

-- Only the first member of a name counts, which is why names that were met before are passed over.
theorem same_members (met : List String) (xs ys : Members) :
    sameMembers met xs ys = true ↔
      ∀ name x, name ∉ met → xs.lookup name = some x →
        ∃ y, ys.lookup name = some y ∧ x.same y = true := by
  induction xs generalizing met with
  | nil => simp [sameMembers]
  | cons first xs ih =>
      obtain ⟨own, x⟩ := first
      simp only [sameMembers, Bool.and_eq_true, Bool.or_eq_true, List.contains_iff_mem, ih]
      constructor
      · rintro ⟨here, rest⟩ name value new found
        by_cases first : name = own
        · subst first
          have head : x = value := by simpa using found
          subst head
          have equal := here.resolve_left new
          cases other : ys.lookup name with
          | none => simp [other] at equal
          | some y => exact ⟨y, rfl, by simpa [other] using equal⟩
        · have later : xs.lookup name = some value := by
            simpa [List.lookup_cons, beq_false_of_ne first] using found
          exact rest name value (by simp [first, new]) later
      · intro all
        constructor
        · by_cases known : own ∈ met
          · exact .inl known
          · obtain ⟨y, found, equal⟩ := all own x known (by simp)
            exact .inr (by simp [found, equal])
        · intro name value new found
          have apart : name ≠ own ∧ name ∉ met := by simpa using new
          refine all name value apart.2 ?_
          simpa [List.lookup_cons, beq_false_of_ne apart.1] using found

/-- Every name has equal members in both objects or in none. -/
structure Agree (xs ys : Members) : Prop where
  found : ∀ name x, xs.lookup name = some x → ∃ y, ys.lookup name = some y ∧ x.same y = true
  absent : ∀ name, xs.lookup name = none → ys.lookup name = none

theorem names_within (xs ys : Members) :
    (ys.all fun (name, _) => (xs.lookup name).isSome) = true ↔
      ∀ name, xs.lookup name = none → ys.lookup name = none := by
  rw [List.all_eq_true]
  constructor
  · intro within name missing
    refine List.lookup_eq_none_iff.mpr fun ⟨other, y⟩ inside => ?_
    by_cases same : name = other
    · have present : (xs.lookup other).isSome = true := within (other, y) inside
      rw [← same, missing] at present
      cases present
    · simpa using same
  · rintro within ⟨name, y⟩ inside
    cases here : xs.lookup name with
    | some x => simp [here]
    | none => simpa using List.lookup_eq_none_iff.mp (within name here) (name, y) inside

theorem agree_iff (xs ys : Members) :
    (sameMembers [] xs ys && ys.all fun (name, _) => (xs.lookup name).isSome) = true ↔
      Agree xs ys := by
  rw [Bool.and_eq_true, same_members, names_within]
  constructor
  · rintro ⟨onto, within⟩
    exact ⟨fun name x => onto name x (by simp), within⟩
  · rintro ⟨onto, within⟩
    exact ⟨fun name x _ => onto name x, within⟩

theorem same_object (xs : Members) (y : Json) :
    same (.object xs) y = true ↔ ∃ ys, y = .object ys ∧ Agree xs ys := by
  cases y with
  | object ys => simp [same, ← agree_iff]
  | null | bool _ | int _ | float _ | text _ | list _ => simp [same]

/-! The equivalence. A document is nothing at all, a text, a number, a list or an object. -/

theorem same_refl (x : Json) : x.same x = true := by
  induction x using by_parts with
  | step x ih =>
      cases x with
      | null => exact (same_null _).mpr rfl
      | text value => exact (same_text _ _).mpr rfl
      | bool _ | int _ | float _ => exact (same_number rfl _).mpr ⟨_, rfl, rfl⟩
      | list items => exact (same_list _ _).mpr ⟨items, rfl, List.forall₂_same.mpr ih⟩
      | object members =>
          refine (same_object _ _).mpr ⟨members, rfl, fun name value found => ?_, fun _ => id⟩
          exact ⟨value, found, ih value (member_part members name value found)⟩

theorem number_symm {x y : Json} {a : Binary64} (number : x.number? = some a)
    (equal : x.same y = true) : y.same x = true := by
  obtain ⟨b, other, meaning⟩ := (same_number number y).mp equal
  exact (same_number other x).mpr ⟨a, number, meaning.symm⟩

theorem same_symm (x y : Json) (equal : x.same y = true) : y.same x = true := by
  induction x using by_parts generalizing y with
  | step x ih =>
      cases x with
      | null =>
          obtain rfl := (same_null y).mp equal
          exact equal
      | text value =>
          obtain rfl := (same_text value y).mp equal
          exact equal
      | bool _ | int _ | float _ => exact number_symm rfl equal
      | list items =>
          obtain ⟨others, rfl, each⟩ := (same_list items y).mp equal
          have known := (List.forall₂_and_left _ _).mpr ⟨ih, each⟩
          exact (same_list others _).mpr
            ⟨items, rfl, (known.imp fun part other both => both.1 other both.2).flip⟩
      | object members =>
          obtain ⟨others, rfl, agree⟩ := (same_object members y).mp equal
          refine (same_object others _).mpr ⟨members, rfl, ?_, ?_⟩
          · intro name other there
            cases here : members.lookup name with
            | none => simp [agree.absent name here] at there
            | some value =>
                obtain ⟨found, present, alike⟩ := agree.found name value here
                obtain rfl : found = other := by simpa [there] using present.symm
                exact ⟨value, rfl, ih value (member_part members name value here) _ alike⟩
          · intro name missing
            cases here : members.lookup name with
            | none => rfl
            | some value =>
                obtain ⟨found, present, _⟩ := agree.found name value here
                simp [missing] at present

theorem number_trans {x y z : Json} {a : Binary64} (number : x.number? = some a)
    (first : x.same y = true) (second : y.same z = true) : x.same z = true := by
  obtain ⟨b, middle, left⟩ := (same_number number y).mp first
  obtain ⟨c, last, right⟩ := (same_number middle z).mp second
  exact (same_number number z).mpr ⟨c, last, left.trans right⟩

theorem items_trans (xs ys zs : List Json)
    (step : ∀ x ∈ xs, ∀ y z, x.same y = true → y.same z = true → x.same z = true)
    (first : List.Forall₂ (fun x y => x.same y = true) xs ys)
    (second : List.Forall₂ (fun x y => x.same y = true) ys zs) :
    List.Forall₂ (fun x y => x.same y = true) xs zs := by
  induction first generalizing zs with
  | nil => exact second
  | @cons x y xs ys here _ ih =>
      cases second with
      | cons next rest =>
          refine .cons (step x List.mem_cons_self y _ here next) (ih _ ?_ rest)
          exact fun x inside => step x (List.mem_cons_of_mem _ inside)

theorem same_trans (x y z : Json) (first : x.same y = true) (second : y.same z = true) :
    x.same z = true := by
  induction x using by_parts generalizing y z with
  | step x ih =>
      cases x with
      | null =>
          obtain rfl := (same_null y).mp first
          exact second
      | text value =>
          obtain rfl := (same_text value y).mp first
          exact second
      | bool _ | int _ | float _ => exact number_trans rfl first second
      | list items =>
          obtain ⟨middle, rfl, left⟩ := (same_list items y).mp first
          obtain ⟨last, rfl, right⟩ := (same_list middle z).mp second
          exact (same_list items _).mpr ⟨last, rfl, items_trans items middle last ih left right⟩
      | object members =>
          obtain ⟨middle, rfl, left⟩ := (same_object members y).mp first
          obtain ⟨last, rfl, right⟩ := (same_object middle z).mp second
          refine (same_object members _).mpr ⟨last, rfl, ?_, ?_⟩
          · intro name value here
            obtain ⟨between, there, alike⟩ := left.found name value here
            obtain ⟨final, beyond, next⟩ := right.found name between there
            exact ⟨final, beyond, ih value (member_part members name value here) _ _ alike next⟩
          · intro name missing
            exact right.absent name (left.absent name missing)

end Json
end Chartwright
