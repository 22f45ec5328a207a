import Chartwright.Proofs.Form.Acceptance
import Chartwright.Proofs.Spec.Channel

/-!
Binning in the description of a channel. False is left out when the description is recovered, but a
value that is only read as false, as zero or a word, is kept and gives binning that is off. No other
member of the description, readable or not, has a say in this.
-/

namespace Chartwright
namespace Spec
open Form

/-- The binning of a channel is off by a value that is read as false without being false. -/
def OffInOtherWords (description : Members) : Prop :=
  Binning.read (description.getD "bin") = .valid (.flag false) ∧
    description.getD "bin" ≠ .bool false

theorem binning_read {entries : Members} {encoding : Encoding}
    (reads : Encoding.readMembers entries = .valid encoding) :
    optionally entries (word "bin") Binning.read = .valid encoding.binning := by
  simp only [Encoding.readMembers, Checked.seq_eq_valid, Checked.functor_map_eq_valid] at reads
  obtain ⟨_, _, ⟨_, _, ⟨_, _, ⟨_, _, ⟨_, _, ⟨_, _, ⟨_, _, ⟨_, _, ⟨_, _, rfl⟩, _, rfl⟩, _, rfl⟩, _,
    rfl⟩, binning, rfl⟩, _, rfl⟩, _, rfl⟩, _, rfl⟩, _, rfl⟩ := reads
  exact binning

-- Every attribute is read on its own, so binning that can be read is never in the way of others.
theorem binning_joins {kept : Members} {encoding : Encoding} {value : Json} {binning : Binning}
    (reads : Encoding.readMembers kept = .valid encoding) (fresh : kept.lookup "bin" = none)
    (present : value ≠ .null) (means : Binning.read value = .valid binning) :
    Encoding.readMembers (kept ++ [("bin", value)]) =
      .valid { encoding with binning := some binning } := by
  have joined : optionally (kept ++ [("bin", value)]) (word "bin") Binning.read =
      .valid (some binning) :=
    word_read.mpr ⟨value, by simp [List.lookup_append, fresh], present, means⟩
  have still {α : Type} {attr : Attribute} {read : Json → Checked α} {told : Option α}
      (before : optionally kept attr read = .valid told)
      (other : attr.camel ≠ "bin" ∧ attr.snake ≠ "bin") :
      optionally (kept ++ [("bin", value)]) attr read = .valid told := by
    have found : attr.find? (kept ++ [("bin", value)]) = attr.find? kept := by
      simp [Attribute.find?, List.lookup_append, other.1, other.2]
    rw [← before]
    simp [optionally, withDefault, found]
  simp only [Encoding.readMembers, Checked.seq_eq_valid, Checked.functor_map_eq_valid] at reads
  obtain ⟨_, _, ⟨_, _, ⟨_, _, ⟨_, _, ⟨_, _, ⟨_, _, ⟨_, _, ⟨_, _, ⟨_, field, rfl⟩, kind, rfl⟩,
    aggregate, rfl⟩, sorting, rfl⟩, _, rfl⟩, timeUnit, rfl⟩, scale, rfl⟩, axis, rfl⟩, legend, rfl⟩ := reads
  unfold Encoding.readMembers
  rw [joined, still field (by decide), still kind (by decide), still aggregate (by decide),
    still sorting (by decide), still timeUnit (by decide), still scale (by decide),
    still axis (by decide), still legend (by decide)]
  rfl

theorem kept_reads {kept : Members} {encoding : Encoding}
    (reads : Encoding.readMembers kept = .valid encoding) (entries : Members) :
    ∃ later, Encoding.readMembers (keepReadable kept entries) = .valid later := by
  fun_induction keepReadable kept entries generalizing encoding with
  | case1 => exact ⟨_, reads⟩
  | case2 _ _ _ _ joined ih => exact ih joined
  | case3 _ _ _ _ _ ih => exact ih reads

theorem kept_given (kept entries : Members) :
    ∀ entry ∈ keepReadable kept entries, entry ∈ kept ∨ entry ∈ entries := by
  fun_induction keepReadable kept entries with
  | case1 => exact fun _ member => .inl member
  | case2 kept first rest _ _ ih =>
      intro entry member
      rcases ih entry member with before | later
      · rcases List.mem_append.mp before with old | new
        · exact .inl old
        · exact .inr (by simp_all)
      · exact .inr (List.mem_cons_of_mem _ later)
  | case3 kept first rest _ _ ih =>
      intro entry member
      rcases ih entry member with before | later
      · exact .inl before
      · exact .inr (List.mem_cons_of_mem _ later)

theorem kept_lasts {kept : Members} {name : String} {value : Json}
    (there : kept.lookup name = some value) (entries : Members) :
    (keepReadable kept entries).lookup name = some value := by
  fun_induction keepReadable kept entries with
  | case1 => exact there
  | case2 _ _ _ _ _ ih => exact ih (by simp [List.lookup_append, there])
  | case3 _ _ _ _ _ ih => exact ih there

theorem binning_kept {kept entries : Members} {encoding : Encoding} {value : Json}
    {binning : Binning} (reads : Encoding.readMembers kept = .valid encoding)
    (fresh : kept.lookup "bin" = none) (listed : entries.lookup "bin" = some value)
    (present : value ≠ .null) (means : Binning.read value = .valid binning) :
    (keepReadable kept entries).lookup "bin" = some value := by
  induction entries generalizing kept encoding with
  | nil => simp at listed
  | cons entry rest ih =>
      rcases entry with ⟨name, told⟩
      by_cases here : name = "bin"
      · subst here
        have same : told = value := by simpa using listed
        subst same
        simp only [keepReadable, binning_joins reads fresh present means]
        exact kept_lasts (by simp [List.lookup_append, fresh]) rest
      · have later : rest.lookup "bin" = some value := by simpa [Ne.symm here] using listed
        cases joins : Encoding.readMembers (kept ++ [(name, told)]) with
        | valid wider =>
            simp only [keepReadable, joins]
            exact ih joins (by simp [List.lookup_append, fresh, Ne.symm here]) later
        | faulty faults =>
            simp only [keepReadable, joins]
            exact ih reads fresh later

theorem isFalse_iff (value : Json) : isFalse value = true ↔ value = .bool false := by
  unfold isFalse
  split
  · simp
  next other =>
    simp only [Bool.false_eq_true, false_iff]
    exact other

theorem considered_binning {description : Members} {value : Json}
    (listed : ("bin", value) ∈ considered description) :
    description.getD "bin" = value ∧ value ≠ .bool false := by
  obtain ⟨name, _, kept⟩ := List.mem_filterMap.mp listed
  dsimp only at kept
  split at kept
  · cases kept
  next counts =>
    cases kept
    refine ⟨rfl, fun off => counts ?_⟩
    simp [(isFalse_iff _).mpr off]

theorem binning_considered {description : Members} (present : description.getD "bin" ≠ .null)
    (other : description.getD "bin" ≠ .bool false) :
    (considered description).lookup "bin" = some (description.getD "bin") := by
  have on : isFalse (description.getD "bin") = false := by
    rw [Bool.eq_false_iff]
    exact fun off => other ((isFalse_iff _).mp off)
  have given : (description.getD "bin").isNull = false := by
    rw [Bool.eq_false_iff]
    exact fun null => present ((Json.isNull_iff _).mp null)
  have known : "bin" ∈ channelKeys := by decide
  simp [considered_lookup, known, consideredAt, on, given]

theorem channel_read {description : Members} {encoding : Encoding}
    (whole : Encoding.readMembers (considered description) = .valid encoding) :
    recoverChannel description = some encoding := by
  unfold recoverChannel
  generalize considered description = entries at whole ⊢
  simp [whole]

theorem channel_kept {description : Members} {faults : List Fault}
    (whole : Encoding.readMembers (considered description) = .faulty faults) :
    recoverChannel description =
      if (keepReadable [] (considered description)).isEmpty then none
      else (Encoding.readMembers (keepReadable [] (considered description))).toOption := by
  unfold recoverChannel
  generalize considered description = entries at whole ⊢
  simp only [whole]

/-- The encoding that is recovered for a channel has its binning off exactly if the description
says so in other words. -/
theorem recovered_off_iff (description : Members) :
    (∃ encoding, recoverChannel description = some encoding ∧
      encoding.binning = some (.flag false)) ↔ OffInOtherWords description := by
  constructor
  · rintro ⟨encoding, recovered, off⟩
    obtain ⟨entries, reads, given⟩ : ∃ entries, Encoding.readMembers entries = .valid encoding ∧
        ∀ entry ∈ entries, entry ∈ considered description := by
      cases whole : Encoding.readMembers (considered description) with
      | valid found =>
          rw [channel_read whole, Option.some.injEq] at recovered
          exact ⟨_, recovered ▸ whole, fun _ member => member⟩
      | faulty faults =>
          rw [channel_kept whole] at recovered
          split at recovered
          · cases recovered
          · refine ⟨_, Checked.toOption_eq_some.mp recovered, fun entry member => ?_⟩
            rcases kept_given [] _ entry member with nothing | there
            · cases nothing
            · exact there
    have read := binning_read reads
    rw [off] at read
    obtain ⟨value, found, _, means⟩ := word_read.mp read
    obtain ⟨before, after, split, _⟩ := List.lookup_eq_some_iff.mp found
    obtain ⟨rfl, other⟩ := considered_binning (given ("bin", value) (by simp [split]))
    exact ⟨means, other⟩
  · rintro ⟨means, other⟩
    have present : description.getD "bin" ≠ .null := by
      intro null
      rw [null] at means
      cases means
    have listed := binning_considered present other
    -- The binning of an encoding that was read is what the first such member says.
    have off {entries : Members} {encoding : Encoding}
        (reads : Encoding.readMembers entries = .valid encoding)
        (found : entries.lookup "bin" = some (description.getD "bin")) :
        encoding.binning = some (.flag false) := by
      have read := binning_read reads
      rw [word_read.mpr ⟨_, found, present, means⟩, Checked.valid.injEq] at read
      exact read.symm
    cases whole : Encoding.readMembers (considered description) with
    | valid encoding => exact ⟨encoding, channel_read whole, off whole listed⟩
    | faulty faults =>
        have nothing : Encoding.readMembers [] = .valid {} := rfl
        have found := binning_kept nothing rfl listed present means
        obtain ⟨encoding, reads⟩ := kept_reads nothing (considered description)
        refine ⟨encoding, ?_, off reads found⟩
        have some_kept : (keepReadable [] (considered description)).isEmpty = false := by
          cases kept : keepReadable [] (considered description) with
          | nil => simp [kept] at found
          | cons => rfl
        simp [channel_kept whole, some_kept, reads]

end Spec
end Chartwright
