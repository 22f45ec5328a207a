import Chartwright.Proofs.Form.Reading

/-!
What a reader accepts. A value that was read has every property that the readers of its parts
guarantee, be the parts given, left out for a default, or items of a list.
-/

namespace Chartwright

namespace Checked
variable {α β : Type}

theorem map_eq_valid {f : α → β} {x : Checked α} {result : β} :
    x.map f = valid result ↔ ∃ value, x = valid value ∧ f value = result := by
  cases x <;> simp [map]

theorem functor_map_eq_valid {f : α → β} {x : Checked α} {result : β} :
    f <$> x = valid result ↔ ∃ value, x = valid value ∧ f value = result := by
  have mapped : f <$> x = x.map f := by cases x <;> rfl
  rw [mapped, map_eq_valid]

theorem seq_eq_valid {f : Checked (α → β)} {x : Checked α} {result : β} :
    f <*> x = valid result ↔
      ∃ function value, f = valid function ∧ x = valid value ∧ function value = result := by
  cases f with
  | valid function =>
      have mapped : (valid function : Checked (α → β)) <*> x = x.map function := by
        cases x <;> rfl
      simp [mapped, map_eq_valid]
  | faulty faults =>
      have refused : ∀ value, (faulty faults : Checked (α → β)) <*> x ≠ valid value := by
        intro value accepted
        cases x <;> cases accepted
      simp [refused]

theorem under_eq_valid {step : PathStep} {x : Checked α} {value : α} :
    x.under step = valid value ↔ x = valid value := by
  cases x <;> simp [under]

theorem andThen_eq_valid {x : Checked α} {next : α → Checked β} {result : β} :
    x.andThen next = valid result ↔ ∃ value, x = valid value ∧ next value = valid result := by
  cases x <;> simp [andThen]

theorem toOption_eq_some {x : Checked α} {value : α} :
    x.toOption = some value ↔ x = valid value := by
  cases x <;> simp [toOption]

end Checked

namespace Form
variable {α : Type} {read : Json → Checked α} {P : α → Prop}

/-- All values that a reader accepts have a property. -/
def Yields (read : Json → Checked α) (P : α → Prop) : Prop :=
  ∀ document value, read document = .valid value → P value

theorem optional_yields (each : Yields read P) :
    Yields (optional read) fun value => ∀ x ∈ value, P x := by
  intro document value accepted x here
  by_cases null : document = .null
  · subst null
    cases accepted
    cases here
  · rw [optional_present read document null, Checked.map_eq_valid] at accepted
    obtain ⟨inner, told, rfl⟩ := accepted
    cases here
    exact each document x told

theorem default_yields {record : Members} {attr : Attribute} {default value : α}
    (each : Yields read P) (usual : P default)
    (accepted : withDefault record attr default read = .valid value) : P value := by
  unfold withDefault at accepted
  cases found : attr.find? record with
  | none =>
      rw [found] at accepted
      cases accepted
      exact usual
  | some entry =>
      simp only [found, Checked.under_eq_valid] at accepted
      exact each _ _ accepted

theorem optionally_yields {record : Members} {attr : Attribute} {value : Option α}
    (each : Yields read P) (accepted : optionally record attr read = .valid value) :
    ∀ x ∈ value, P x :=
  default_yields (optional_yields each) (by simp) accepted

theorem word_found (entries : Members) (name : String) :
    (word name).find? entries = (entries.lookup name).map fun value => (name, value) := by
  cases told : entries.lookup name <;> simp [Attribute.find?, word, told]

theorem word_read {entries : Members} {name : String} {value : α} :
    optionally entries (word name) read = .valid (some value) ↔
      ∃ told, entries.lookup name = some told ∧ told ≠ .null ∧ read told = .valid value := by
  unfold optionally withDefault
  rw [word_found]
  cases told : entries.lookup name with
  | none => simp
  | some document =>
      by_cases null : document = .null
      · subst null
        have nothing : optional read .null = .valid none := rfl
        simp [nothing]
      · simp [Checked.under_eq_valid, optional_present read document null, Checked.map_eq_valid,
          null]

theorem required_yields {record : Members} {attr : Attribute} {value : α}
    (each : Yields read P) (accepted : required record attr read = .valid value) : P value := by
  unfold required at accepted
  cases found : attr.find? record with
  | none => simp [found] at accepted
  | some entry =>
      simp only [found, Checked.under_eq_valid] at accepted
      exact each _ _ accepted

theorem items_yield (each : Yields read P) (items : List Json) (index : Nat) (values : List α)
    (accepted : itemsFrom read index items = .valid values) : ∀ x ∈ values, P x := by
  induction items generalizing index values with
  | nil =>
      cases accepted
      simp
  | cons item rest ih =>
      simp only [itemsFrom, Checked.seq_eq_valid, Checked.functor_map_eq_valid,
        Checked.under_eq_valid] at accepted
      obtain ⟨_, others, ⟨value, told, rfl⟩, later, rfl⟩ := accepted
      intro x here
      rcases List.mem_cons.mp here with rfl | inside
      · exact each item x told
      · exact ih (index + 1) others later x inside

theorem list_yields (each : Yields read P) :
    Yields (list read) fun values => ∀ x ∈ values, P x := by
  intro document values accepted
  cases document with
  | list items => exact items_yield each items 0 values accepted
  | _ => cases accepted

theorem record_yields {name : String} {readMembers : Members → Checked α}
    (each : ∀ entries value, readMembers entries = .valid value → P value) :
    Yields (record name readMembers) P := by
  intro document value accepted
  cases document with
  | object entries => exact each entries value accepted
  | _ => cases accepted

theorem tagged_yields {attr : String} {readers : List (String × (Members → Checked α))}
    (each : ∀ reader ∈ readers, ∀ entries value, reader.2 entries = .valid value → P value) :
    Yields (tagged attr readers) P := by
  intro document value accepted
  cases document with
  | object entries =>
      simp only [tagged] at accepted
      split at accepted
      · cases accepted
      · split at accepted
        next name read found =>
          obtain ⟨tag, _, known⟩ := Option.bind_eq_some_iff.mp found
          obtain ⟨reader, there, same⟩ := Option.map_eq_some_iff.mp known
          cases same
          obtain ⟨before, after, listed, _⟩ := List.lookup_eq_some_iff.mp there
          have inside : (name, read) ∈ readers := by simp [listed]
          exact each _ inside entries value (Checked.under_eq_valid.mp accepted)
        · cases accepted
  | _ => cases accepted

/-- A record that was read abides by its rule. -/
theorem abiding_yields {rule : α → Option String} {entries : Members} {outcome : Checked α}
    {value : α} (accepted : abiding rule entries outcome = .valid value) :
    outcome = .valid value ∧ rule value = none := by
  obtain ⟨inner, told, kept⟩ := Checked.andThen_eq_valid.mp accepted
  cases broken : rule inner with
  | some message => simp [broken, Checked.fault] at kept
  | none =>
      simp only [broken, Checked.valid.injEq] at kept
      subst kept
      exact ⟨told, broken⟩

end Form
end Chartwright
