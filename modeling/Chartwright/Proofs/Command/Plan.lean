import Chartwright.Proofs.Chart.Validity
import Chartwright.Proofs.Command.Numeral

/-!
Commands and the fields of the data. A command that is planned and applied leaves nothing in the
builder state that refers to a field that is not there, or takes a field for what it is not. There
may be no plan, though: a number in the command may have too many digits to be read.
-/

namespace Chartwright.Command
open Text

/-- If the names of the fields are distinct and a state is checked without a warning, so is the
state that the plan for a command leads to, whatever the command. There is a plan unless the phrases
take a run of digits for a number that is longer than numbers are read, for which a command must
have that many digits. -/
theorem plan_adds_no_warning (command : String) (fields : List DataField) (state : BuilderState)
    (distinct : (fields.map (·.name)).Nodup) (quiet : (state.check fields).warnings = []) :
    (∀ made, plan command (fields.map (·.name)) = .ok made →
      ((Operation.applyAll fields state made.operations).check fields).warnings = []) ∧
    ((∃ cause, plan command (fields.map (·.name)) = .error cause) ↔
      ∃ digits ∈ Phrase.numerals (wordingOf command (fields.map (·.name))).lowered,
        Numeral.digitLimit < digits.length) ∧
    (command.toList.countP isDigit ≤ Numeral.digitLimit →
      ∃ made, plan command (fields.map (·.name)) = .ok made) := by
  refine ⟨fun made planned => ?_, plan_fails_iff command _, fun few => plan_of_few_digits few _⟩
  rw [BuilderState.warnings_nil_iff] at quiet ⊢
  exact Operation.plan_grounded distinct made.operations (plan_refers planned) quiet

def salesFields : List DataField :=
  [{ name := "Region", kind := .nominal }, { name := "Sales", kind := .quantitative }]

def salesBars : BuilderState :=
  { encodings :=
      { x := some { field := some "Region", kind := some .nominal }
        y := some { field := some "Sales", kind := some .quantitative } } }

theorem misspelt_command_grounded :
    (salesFields.map (·.name)).Nodup ∧ (salesBars.check salesFields).warnings = [] ∧
      ∃ made, plan "color by regoin, top 5 by sale" (salesFields.map (·.name)) = .ok made ∧
        ((Operation.applyAll salesFields salesBars made.operations).check salesFields).warnings =
          [] := by
  have distinct : (salesFields.map (·.name)).Nodup := by decide
  have quiet : (salesBars.check salesFields).warnings = [] := by decide
  obtain ⟨keeps, _, planned⟩ :=
    plan_adds_no_warning "color by regoin, top 5 by sale" salesFields salesBars distinct quiet
  obtain ⟨made, planned⟩ := planned (by decide +kernel)
  exact ⟨distinct, quiet, made, planned, keeps made planned⟩

def paddedFive : List Char := List.replicate Numeral.digitLimit '0' ++ ['5']

/-- It is not so that every command leads to a state without a warning: a rank of five rows, written
like that, leads to none. -/
theorem padded_rank_unplanned :
    ¬∀ (command : String) (fields : List DataField) (state : BuilderState),
      (fields.map (·.name)).Nodup → state.Valid → (state.check fields).warnings = [] →
        ∃ made, plan command (fields.map (·.name)) = .ok made ∧
          ((Operation.applyAll fields state made.operations).check fields).warnings = [] := by
  intro always
  have numeric : ∀ c ∈ paddedFive, c ∈ digitChars := by
    intro c inside
    rcases List.mem_append.mp inside with padding | five
    · rw [List.eq_of_mem_replicate padding]
      decide
    · rw [List.mem_singleton.mp five]
      decide
  have long : Numeral.digitLimit < paddedFive.length := by simp [paddedFive]
  obtain ⟨cause, fails⟩ := long_rank_fails numeric long (salesFields.map (·.name))
  obtain ⟨made, planned, _⟩ := always (String.ofList (rankText paddedFive)) salesFields {}
    (by decide) default_valid (by decide)
  rw [fails] at planned
  cases planned

end Chartwright.Command
