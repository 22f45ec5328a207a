import Chartwright.Proofs.Chart.State
import Chartwright.Proofs.Form.Acceptance

/-!
A builder state is valid exactly if it can be read: every reader accepts nothing but what abides by
the rules of its type, and what abides by them is read back from what is written for it.
-/

namespace Chartwright
open Form

theorem fraction_yields : Yields fraction fun x => MarkConfig.isFraction x = true := by
  intro document value accepted
  obtain ⟨x, _, bounded⟩ := Checked.andThen_eq_valid.mp accepted
  split at bounded
  · cases bounded
  · split at bounded
    · cases bounded
    · cases bounded
      simp_all [MarkConfig.isFraction]

theorem positive_yields : Yields positive fun n => 0 < n := by
  intro document n accepted
  obtain ⟨value, _, counted⟩ := Checked.andThen_eq_valid.mp accepted
  split at counted
  next above =>
    cases counted
    omega
  · cases counted

theorem mark_yields : Yields MarkConfig.read MarkConfig.Valid := by
  apply record_yields
  intro entries mark accepted
  obtain ⟨parts, suits⟩ := abiding_yields accepted
  obtain ⟨stacking, overlays⟩ := (objection_none_iff mark).mp suits
  simp only [Checked.seq_eq_valid, Checked.functor_map_eq_valid] at parts
  obtain ⟨_, _, ⟨_, _, ⟨_, _, ⟨_, _, ⟨_, _, ⟨_, _, ⟨_, _, rfl⟩, _, rfl⟩, _, rfl⟩, opacity, rfl⟩, _,
    rfl⟩, _, rfl⟩, _, rfl⟩ := parts
  exact ⟨stacking, overlays, optionally_yields fraction_yields opacity⟩

theorem aggregation_yields {entries : Members} {a : Aggregation}
    (accepted : Transform.readAggregate entries = .valid a) : (Transform.aggregate a).Valid := by
  have agrees := (abiding_yields accepted).2
  unfold Transform.objection? at agrees
  split at agrees
  next sizes => exact sizes
  · cases agrees

theorem rank_yields {entries : Members} {transform : Transform}
    (accepted : Transform.readTopN entries = .valid transform) : transform.Valid := by
  simp only [Transform.readTopN, Checked.seq_eq_valid, Checked.functor_map_eq_valid] at accepted
  obtain ⟨_, _, ⟨_, _, ⟨n, counted, rfl⟩, _, rfl⟩, _, rfl⟩ := accepted
  exact required_yields (P := fun n => 0 < n) positive_yields counted

theorem transform_yields : Yields Transform.read Transform.Valid := by
  apply tagged_yields
  intro reader listed entries transform accepted
  simp only [Transform.readers, List.mem_cons, List.not_mem_nil, or_false] at listed
  rcases listed with rfl | rfl | rfl | rfl
  · obtain ⟨expr, _, rfl⟩ := Checked.functor_map_eq_valid.mp accepted
    trivial
  · exact rank_yields accepted
  · simp only [Transform.readCalculate, Checked.seq_eq_valid, Checked.functor_map_eq_valid]
      at accepted
    obtain ⟨_, _, ⟨_, _, rfl⟩, _, rfl⟩ := accepted
    trivial
  · obtain ⟨a, agrees, rfl⟩ := Checked.map_eq_valid.mp accepted
    exact aggregation_yields agrees

theorem setting_yields {α : Type} (read : Json → Checked α) :
    Yields (optional (BuilderState.setting read)) fun setting => ∀ x ∈ setting, x.IsChecked := by
  apply optional_yields
  intro document setting accepted
  obtain ⟨value, _, rfl⟩ := Checked.map_eq_valid.mp accepted
  trivial

theorem state_yields : Yields BuilderState.read BuilderState.Valid := by
  apply record_yields
  intro entries state accepted
  simp only [BuilderState.readMembers, Checked.seq_eq_valid, Checked.functor_map_eq_valid]
    at accepted
  obtain ⟨_, _, ⟨_, _, ⟨_, _, ⟨_, _, ⟨_, _, ⟨_, _, ⟨_, _, ⟨_, _, ⟨_, mark, rfl⟩, _, rfl⟩,
    transforms, rfl⟩, width, rfl⟩, height, rfl⟩, title, rfl⟩, description, rfl⟩, background, rfl⟩,
    padding, rfl⟩ := accepted
  refine ⟨?_, ?_, ?_, ?_, ?_, ?_, ?_, ?_⟩
  · exact default_yields mark_yields (by simp [MarkConfig.Valid]) mark
  · exact default_yields (list_yields transform_yields) (by simp) transforms
  · exact default_yields (setting_yields Dimension.read) (by simp [Setting.IsChecked]) width
  · exact default_yields (setting_yields Dimension.read) (by simp [Setting.IsChecked]) height
  · exact default_yields (setting_yields Form.text) (by simp) title
  · exact default_yields (setting_yields Form.text) (by simp) description
  · exact default_yields (setting_yields Form.text) (by simp) background
  · exact default_yields (setting_yields Padding.read) (by simp) padding

/-- Validity is what reading makes sure of, no more and no less. -/
theorem valid_iff_read (state : BuilderState) :
    state.Valid ↔ ∃ document, BuilderState.read document = .valid state := by
  constructor
  · intro valid
    exact ⟨_, state_read .camel state valid⟩
  · rintro ⟨document, accepted⟩
    exact state_yields document state accepted

theorem default_valid : ({} : BuilderState).Valid := by
  refine ⟨by simp [MarkConfig.Valid], by simp, ?_⟩
  simp [BuilderState.IsChecked, Setting.IsChecked]

end Chartwright
