import Chartwright.Proofs.Spec.Channel

/-!
The encodings and the mark of a compiled specification, and what is recovered of them. The stacking
of a mark is told by one of its axes, so the two belong together.
-/

namespace Chartwright
namespace Spec
open Form

/-! Encodings. -/

theorem channel_entry_at (state : BuilderState) (fields : List DataField) (channel : Channel) :
    (encodingMembers state fields).getD (Named.name channel) =
      orNull (fun encoding => .object (channelMembers fields encoding ++
        memberOf "stack" writeStacking (stackingAt? state fields channel)))
        (shown? state channel) := by
  cases channel <;>
    simp [encodingMembers, channels, channelEntry, Named.name, Members.getD, List.lookup_append]

theorem tooltip_entry_at (state : BuilderState) (fields : List DataField) :
    (encodingMembers state fields).getD "tooltip" =
      orNull (fun tooltip => .list (tooltipItems fields tooltip)) state.encodings.tooltip := by
  simp [encodingMembers, channels, channelEntry, Named.name, Members.getD, List.lookup_append]

/-- The encodings that are recovered from those of a compiled specification. -/
def recoveredEncodings (state : BuilderState) (fields : List DataField) : Encodings :=
  let at? channel := (shown? state channel).map fun encoding => (explicit fields encoding).binned
  { x := at? .x, y := at? .y, color := at? .color, size := at? .size
    tooltip := state.encodings.tooltip.map fun tooltip =>
      .chosen ((tooltipShown fields tooltip).map tooltipPart) }

theorem recovered_at (state : BuilderState) (fields : List DataField) (channel : Channel) :
    recoverAt (encodingMembers state fields) channel =
      (shown? state channel).map fun encoding => (explicit fields encoding).binned := by
  rw [recoverAt, channel_entry_at]
  cases shown : shown? state channel with
  | none => rfl
  | some encoding =>
      exact described_recovered (channel_describes fields encoding
        (stackingAt? state fields channel))

theorem encodings_recovered (state : BuilderState) (fields : List DataField) :
    recoverEncodings (encodingMembers state fields) = recoveredEncodings state fields := by
  have tooltip : recoverTooltip ((encodingMembers state fields).getD "tooltip") =
      state.encodings.tooltip.map fun tooltip =>
        .chosen ((tooltipShown fields tooltip).map tooltipPart) := by
    rw [tooltip_entry_at]
    cases state.encodings.tooltip with
    | none => rfl
    | some tooltip => exact tooltip_recovered fields tooltip
  simp [recoverEncodings, recoveredEncodings, recovered_at, tooltip]

/-! Stacking. -/

theorem stacking_told (members : Members) (stacking : Option Stacking)
    (plain : members.lookup "stack" = none) :
    stackingOf? (.object (members ++ memberOf "stack" writeStacking stacking)) = stacking := by
  have told : (members ++ memberOf "stack" writeStacking stacking).lookup "stack" =
      stacking.map writeStacking := by
    simp [List.lookup_append, plain]
  cases stacking with
  | none => simp [stackingOf?, Json.asObject?, told]
  | some mode =>
      cases mode <;> simp [stackingOf?, Json.asObject?, told, writeStacking, writeName, Named.name]

theorem stacked_channel_shown {state : BuilderState} {fields : List DataField} {channel : Channel}
    (stacked : stackedChannel? state fields = some channel) : (shown? state channel).isSome := by
  have quantitative := List.find?_some stacked
  cases shown : shown? state channel with
  | none => simp [shown] at quantitative
  | some encoding => rfl

theorem stacking_recovered_at (state : BuilderState) (fields : List DataField)
    (channel : Channel) :
    stackingOf? ((encodingMembers state fields).getD (Named.name channel)) =
      stackingAt? state fields channel := by
  rw [channel_entry_at]
  cases shown : shown? state channel with
  | some encoding =>
      apply stacking_told
      simp [channelMembers, List.lookup_append]
  | none =>
      have unstacked : stackedChannel? state fields ≠ some channel := by
        intro stacked
        have present := stacked_channel_shown stacked
        simp [shown] at present
      simp [stackingAt?, unstacked, stackingOf?, orNull, Json.asObject?]

/-- The stacking that is told by a compiled specification: none if no axis is stacked. -/
def toldStacking (state : BuilderState) (fields : List DataField) : Option Stacking :=
  if state.mark.kind.isStackable ∧ (stackedChannel? state fields).isSome then state.mark.stacked
  else none

theorem stacking_recovered (state : BuilderState) (fields : List DataField) :
    stackingIn? (encodingMembers state fields) = toldStacking state fields := by
  have atY := stacking_recovered_at state fields .y
  have atX := stacking_recovered_at state fields .x
  simp only [Named.name] at atY atX
  rw [stackingIn?, atY, atX]
  cases stacked : stackedChannel? state fields with
  | none => simp [stackingAt?, toldStacking, stacked]
  | some channel =>
      have axis : channel = .y ∨ channel = .x := by
        have member := List.mem_of_find?_eq_some stacked
        simpa using member
      rcases axis with rfl | rfl <;>
        cases state.mark.kind.isStackable <;> simp [stackingAt?, toldStacking, stacked]

/-! Mark. -/

theorem mark_kind_told (kind : MarkKind) : markKind? (writeName kind) = some kind := by
  simp [markKind?, writeName, Json.asText?, LawfulNamed.ofName_name]

/-- The mark that is recovered from that of a compiled specification, with the stacking told. -/
def recoveredMark (mark : MarkConfig) (stacked : Option Stacking) : MarkConfig :=
  { mark with
    stacked
    interpolate := mark.interpolate.filter fun _ => mark.kind.hasOverlay }

theorem number_entry_told (entries : Members) (attr : Attribute) (value : Option Binary64)
    (told : entries.getD attr.camel = orNull .float value) :
    numberEntry entries attr = memberOf attr.snake .float value := by
  cases value <;> simp [numberEntry, told, orNull, memberOf]

theorem flag_entry_told (entries : Members) (name : String) (value : Option Bool)
    (told : entries.getD name = orNull .bool value) :
    flagEntry entries name = memberOf name .bool value := by
  cases value <;> simp [flagEntry, told, orNull, memberOf]

/-- What is read of the description of a compiled mark, apart from its interpolation. -/
def plainEntries (mark : MarkConfig) (stacked : Option Stacking) : Members :=
  [("type", writeName mark.kind)] ++ memberOf "opacity" .float mark.opacity ++
    memberOf "size" .float mark.size ++ memberOf "stroke_width" .float mark.strokeWidth ++
    memberOf "point" .bool mark.point ++ memberOf "stacked" writeName stacked

theorem mark_entries_told (mark : MarkConfig) (encoding : Members)
    (flags : mark.point.isSome → mark.kind.hasOverlay) :
    markEntries (writeName mark.kind) (markMembers mark) encoding =
      plainEntries mark (if mark.kind.isStackable then stackingIn? encoding else none) := by
  have opacity : numberEntry (markMembers mark) (word "opacity") =
      memberOf "opacity" .float mark.opacity := by
    apply number_entry_told
    simp [word, markMembers, Members.getD, List.lookup_append]
  have size : numberEntry (markMembers mark) (word "size") = memberOf "size" .float mark.size := by
    apply number_entry_told
    simp [word, markMembers, Members.getD, List.lookup_append]
  have stroke : numberEntry (markMembers mark) strokeWidthAttr =
      memberOf "stroke_width" .float mark.strokeWidth := by
    apply number_entry_told
    simp [strokeWidthAttr, markMembers, Members.getD, List.lookup_append]
  have point : flagEntry (markMembers mark) "point" = memberOf "point" .bool mark.point := by
    apply flag_entry_told
    simp [markMembers, Members.getD, List.lookup_append]
  have overlaid : (if mark.kind.hasOverlay then memberOf "point" Json.bool mark.point else []) =
      memberOf "point" .bool mark.point := by
    cases shown : mark.point with
    | none => simp [memberOf]
    | some on => simp [flags (by simp [shown])]
  simp only [markEntries, mark_kind_told, Option.any_some, opacity, size, stroke, point, overlaid,
    plainEntries]

theorem interpolate_entry_told (mark : MarkConfig) :
    interpolateEntry (writeName mark.kind) (markMembers mark) =
      memberOf "interpolate" writeName (mark.interpolate.filter fun _ => mark.kind.hasOverlay) := by
  have told : (markMembers mark).getD "interpolate" =
      orNull writeName (mark.interpolate.filter fun _ => mark.kind.hasOverlay) := by
    simp [markMembers, Members.getD, List.lookup_append]
  simp only [interpolateEntry, told, mark_kind_told, Option.any_some]
  cases overlay : mark.kind.hasOverlay with
  | false => simp [memberOf]
  | true =>
      cases mark.interpolate with
      | none => rfl
      | some interpolation => cases interpolation <;> rfl

theorem mark_entries_read (mark : MarkConfig) (stacked : Option Stacking) (valid : mark.Valid)
    (suits : stacked.isSome → mark.kind.isStackable) :
    MarkConfig.readMembers (plainEntries mark stacked ++ memberOf "interpolate" writeName
      (mark.interpolate.filter fun _ => mark.kind.hasOverlay)) =
      .valid (recoveredMark mark stacked) := by
  obtain ⟨_, pointSuits, bounded⟩ := valid
  apply mark_told (recoveredMark mark stacked) ⟨suits, pointSuits, bounded⟩
  · simp [said, word, plainEntries, recoveredMark]
  · simp [said, word, plainEntries, recoveredMark, List.lookup_append]
  · simp [said, word, plainEntries, recoveredMark, List.lookup_append]
  · simp [said, word, plainEntries, recoveredMark, List.lookup_append]
  · simp [said, word, plainEntries, recoveredMark, List.lookup_append]
  · simp [said, strokeWidthAttr, plainEntries, recoveredMark, List.lookup_append]
  · simp [said, word, plainEntries, recoveredMark, List.lookup_append]

theorem mark_recovered (mark : MarkConfig) (encoding : Members) (valid : mark.Valid) :
    readMark (writeName mark.kind) (markMembers mark) encoding =
      some (recoveredMark mark
        (if mark.kind.isStackable then stackingIn? encoding else none)) := by
  have suits : (if mark.kind.isStackable then stackingIn? encoding else none).isSome →
      mark.kind.isStackable := by
    cases mark.kind.isStackable <;> simp
  have reads := mark_entries_read mark _ valid suits
  simp [readMark, mark_entries_told mark encoding valid.2.1, interpolate_entry_told, reads]

end Spec
end Chartwright
