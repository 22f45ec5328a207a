import Chartwright.Proofs.Edit.Effect

/-!
Doing an operation twice. What an operation leaves is what it would make of it again, so the second
time adds nothing. This holds of every operation but a filter, which is added each time. The channel
that is given a field is the one place that takes an argument: what stands in its description comes
from the settings, in whichever spelling, or is read back as it was written.
-/

namespace Chartwright
open Form

namespace BuilderState
section Description
variable {field : String} {kind : Option FieldKind} {settings : Members}

def overlay (field : String) (kind : Option FieldKind) (settings : Members) : Members :=
  ("field", .text field) :: ("type", orNull writeName kind) :: settings

def described (current : Option Encoding) : Members :=
  (current.map (Encoding.toMembers { naming := .snake, nulls := false })).getD []

theorem entries_lookup (current : Option Encoding) (name : String) :
    (encodingEntries current field kind settings).lookup name =
      ((overlay field kind settings).reverse.lookup name).or
        ((described current).lookup name) := by
  rw [← set_all_lookup]
  rfl

-- A description is written in snake case, so the other spelling only comes from the settings.
theorem described_snake (current : Option Encoding) :
    (described current).lookup timeUnitAttr.camel = none := by
  cases current with
  | none => rfl
  | some encoding =>
      simp [described, Encoding.toMembers, word, timeUnitAttr, writtenMembers, Attribute.name]

/-- What is read of an attribute is the same whatever the channel had, or it is what the channel
had. -/
def Settled (field : String) (kind : Option FieldKind) (settings : Members) (attr : Attribute) :
    Prop :=
  (∀ old new, attr.find? (encodingEntries old field kind settings) =
      attr.find? (encodingEntries new field kind settings)) ∨
    ∀ current, said (encodingEntries current field kind settings) attr =
      said (described current) attr

theorem settled_of_snake {attr : Attribute}
    (spelled : attr.camel = attr.snake ∨ ∀ current, (described current).lookup attr.camel = none) :
    Settled field kind settings attr := by
  -- the camel case spelling goes first, so what is put there hides what the channel has
  cases camel : (overlay field kind settings).reverse.lookup attr.camel with
  | some told =>
      left
      intro old new
      simp [Attribute.find?, entries_lookup, camel]
  | none =>
      cases snake : (overlay field kind settings).reverse.lookup attr.snake with
      | some told =>
          left
          intro old new
          rcases spelled with oneWord | absent
          · rw [← oneWord, camel] at snake
            cases snake
          · simp [Attribute.find?, entries_lookup, camel, snake, absent]
      | none =>
          right
          intro current
          simp [said, entries_lookup, camel, snake]

theorem word_settled (name : String) : Settled field kind settings (word name) :=
  settled_of_snake (.inl rfl)

theorem time_unit_settled : Settled field kind settings timeUnitAttr :=
  settled_of_snake (.inr described_snake)

/-- What was read of an attribute of the whole is read again once it is what the channel has. -/
theorem settled_read {α : Type} {attr : Attribute} {read : Json → Checked α} {write : α → Json}
    {value : Option α} (settled : Settled field kind settings attr) {old : Option Encoding}
    (encoding : Encoding)
    (made : optionally (encodingEntries old field kind settings) attr read = .valid value)
    (tells : said (encoding.toMembers { naming := .snake, nulls := false }) attr =
      orNull write value)
    (back : ∀ x ∈ value, ReadsBack read write x) :
    optionally (encodingEntries (some encoding) field kind settings) attr read = .valid value := by
  rcases settled with fixed | taken
  · rw [optionally, withDefault, ← fixed old]
    exact made
  · have described : said (described (some encoding)) attr = orNull write value := tells
    exact optionally_told ((taken (some encoding)).trans described) back

/-- An encoding that was read of a description with something put over it is read once more if the
same is put over its own description. -/
theorem encoding_read_again {old : Option Encoding} {encoding : Encoding}
    (made : Encoding.readMembers (encodingEntries old field kind settings) = .valid encoding) :
    Encoding.readMembers (encodingEntries (some encoding) field kind settings) =
      .valid encoding := by
  obtain ⟨named, kind, aggregate, sorting, binning, timeUnit, scale, axis, legend⟩ :=
    encoding_read_iff.mp made
  exact encoding_read_iff.mpr
    ⟨settled_read (word_settled _) encoding named (written_at encoding_apart rfl 0 rfl)
        fun x _ => text_back x,
      settled_read (word_settled _) encoding kind (written_at encoding_apart rfl 1 rfl)
        fun x _ => named_back x,
      settled_read (word_settled _) encoding aggregate (written_at encoding_apart rfl 2 rfl)
        fun x _ => named_back x,
      settled_read (word_settled _) encoding sorting (written_at encoding_apart rfl 3 rfl)
        fun x _ => sorting_back _ x,
      settled_read (word_settled _) encoding binning (written_at encoding_apart rfl 4 rfl)
        fun x _ => binning_back _ x,
      settled_read time_unit_settled encoding timeUnit (written_at encoding_apart rfl 5 rfl)
        fun x _ => named_back x,
      settled_read (word_settled _) encoding scale (written_at encoding_apart rfl 6 rfl)
        fun x _ => scale_back _ x,
      settled_read (word_settled _) encoding axis (written_at encoding_apart rfl 7 rfl)
        fun x _ => axis_back _ x,
      settled_read (word_settled _) encoding legend (written_at encoding_apart rfl 8 rfl)
        fun x _ => legend_back _ x⟩

end Description

theorem encoded_again (fields : List DataField) (field : String) (kind : Option FieldKind)
    (settings : Option Members) (current : Option Encoding) :
    encoded fields field kind settings (encoded fields field kind settings current) =
      encoded fields field kind settings current := by
  cases made : Encoding.readMembers (encodingEntries current field
      (kind <|> firstKindOf? fields field) (settings.getD [])) with
  | valid encoding =>
      have first : encoded fields field kind settings current = some encoding := by
        unfold encoded
        rw [made]
        rfl
      rw [first, encoded, encoding_read_again made]
      rfl
  | faulty faults =>
      have kept : encoded fields field kind settings current = current := by
        unfold encoded
        rw [made]
        rfl
      rw [kept, kept]

-- A field of the data may be without a name. Then it is picked anew, and is the same again.
theorem rescaled_again {change : Scale → Scale}
    (settles : ∀ scale, change (change scale) = change scale) (fields : List DataField)
    (current : Option Encoding) :
    rescaled fields change (rescaled fields change current) = rescaled fields change current := by
  have own_again {color : Encoding} (own : hasField (color.rescale change) = true) :
      rescaled fields change (some (color.rescale change)) = some (color.rescale change) := by
    rw [rescaled_colored (colored_own fields own)]
    simp [Encoding.rescale, settles]
  cases own : current.filter hasField with
  | some color =>
      obtain ⟨rfl, fielded⟩ := Option.filter_eq_some_iff.mp own
      rw [rescaled_colored (colored_own fields fielded)]
      exact own_again fielded
  | none =>
      have chosen := colored_else fields own
      cases picked : colorField? fields with
      | none =>
          rw [picked] at chosen
          rw [rescaled_uncolored chosen, rescaled_uncolored chosen]
      | some field =>
          rw [picked] at chosen
          rw [rescaled_colored chosen]
          cases named : hasField ((ofField field).rescale change) with
          | true => exact own_again named
          | false =>
              have unnamed : (some ((ofField field).rescale change)).filter hasField = none := by
                simp [named]
              have again := colored_else fields unnamed
              rw [picked] at again
              rw [rescaled_colored again]

end BuilderState

namespace Operation
open BuilderState

/-- What an operation makes of a channel it makes of it again. -/
theorem drawing_settles {fields : List DataField} {operation : Operation} {channel : Channel}
    {change : Option Encoding → Option Encoding}
    (draws : operation.drawing? fields = some (channel, change)) (current : Option Encoding) :
    change (change current) = change current := by
  cases operation with
  | setEncoding channel field kind settings =>
      cases draws
      exact encoded_again fields field kind settings current
  | removeEncoding channel =>
      cases draws
      rfl
  | setSeriesColors colors =>
      cases draws
      refine rescaled_again ?_ fields current
      intro scale
      rfl
  | setColorScheme scheme =>
      cases draws
      refine rescaled_again ?_ fields current
      intro scale
      rfl
  | setSort target byField direction =>
      cases draws
      rfl
  | setAggregate position op =>
      cases draws
      cases current <;> rfl
  | setMark | setTopN | addFilter | setTitle | setSize | directEdit => cases draws

end Operation

/-! The operations on other parts. -/

theorem fraction_kept {number kept : Option Binary64}
    (read : optional fraction (orNull .float number) = .valid kept) : kept = number := by
  cases number with
  | none =>
      cases read
      rfl
  | some value =>
      obtain ⟨inner, told, rfl⟩ := Checked.map_eq_valid.mp read
      obtain ⟨same, exact, bounded⟩ := Checked.andThen_eq_valid.mp told
      cases exact
      by_cases above : !value.atMost (.exact 1)
      · simp [above, Checked.fault] at bounded
      · by_cases below : !Binary64.atMost (.exact 0) value
        · simp [above, below, Checked.fault] at bounded
        · simpa [above, below, eq_comm] using bounded

theorem MarkConfig.retarget_again {kind : MarkKind} {options : MarkOptions}
    {mark target : MarkConfig} (made : mark.retarget kind options = .valid target) :
    target.retarget kind options = .valid target := by
  obtain ⟨opacity, read, rfl⟩ := Checked.functor_map_eq_valid.mp made
  have bounded := Checked.under_eq_valid.mp read
  obtain rfl := fraction_kept bounded
  have same : (options.opacity <|> (options.opacity <|> mark.opacity)) =
      (options.opacity <|> mark.opacity) := by
    simp [← Option.or_assoc]
  have again : optional fraction
      (orNull .float (options.opacity <|> (options.opacity <|> mark.opacity))) =
        .valid (options.opacity <|> mark.opacity) := by
    rw [same]
    exact bounded
  refine Checked.functor_map_eq_valid.mpr ⟨_, Checked.under_eq_valid.mpr again, ?_⟩
  cases kind.hasOverlay <;> cases kind.isStackable <;> simp [← Option.or_assoc]

theorem MarkConfig.retargeted_again (kind : MarkKind) (options : MarkOptions) (mark : MarkConfig) :
    (mark.retargeted kind options).retargeted kind options = mark.retargeted kind options := by
  cases made : mark.retarget kind options with
  | valid target =>
      have first : mark.retargeted kind options = target := by
        rw [retargeted, made]
        rfl
      rw [first, retargeted, retarget_again made]
      rfl
  | faulty faults =>
      have kept : mark.retargeted kind options = mark := by
        rw [retargeted, made]
        rfl
      rw [kept, kept]

namespace BuilderState

theorem reranked_again (n : Nat) (direction : Direction) (field : Option String)
    (transforms : List Transform) :
    reranked n direction field (reranked n direction field transforms) =
      reranked n direction field transforms := by
  cases field <;> simp [reranked, Transform.isTopN]

end BuilderState

namespace Operation
open BuilderState
variable (fields : List DataField)

theorem mark_again (state : BuilderState) (kind : MarkKind) (options : Option MarkOptions) :
    step fields (step fields state (.setMark kind options)) (.setMark kind options) =
      step fields state (.setMark kind options) := by
  rw [mark_step, mark_step]
  simp only [MarkConfig.retargeted_again]

theorem rank_again (state : BuilderState) (n : Nat) (byField : Option String)
    (direction : Direction) :
    step fields (step fields state (.setTopN n byField direction)) (.setTopN n byField direction) =
      step fields state (.setTopN n byField direction) := by
  -- a ranking does not touch the channels that it may take its field from
  have same : (step fields state (.setTopN n byField direction)).rankField? byField =
      state.rankField? byField := by
    rw [rank_step]
    rfl
  rw [rank_step (step fields state _), same, rank_step]
  simp only [reranked_again]

/-- Whatever an operation other than a filter leaves, it leaves as it is. -/
theorem step_again {operation : Operation} (other : operation.kind ≠ .addFilter)
    (state : BuilderState) :
    operation.step fields (operation.step fields state) = operation.step fields state := by
  cases drawn : operation.drawing? fields with
  | some drawing =>
      obtain ⟨channel, change⟩ := drawing
      rw [step_drawing drawn, step_drawing drawn]
      exact adjust_again (drawing_settles drawn) state
  | none =>
      cases operation with
      | setMark kind options => exact mark_again fields state kind options
      | setTopN n byField direction => exact rank_again fields state n byField direction
      | addFilter expr => exact absurd rfl other
      | setTitle title => rfl
      | setSize width height => simp [step, apply, Checked.toOption, ← Option.or_assoc]
      | directEdit description => rfl
      | setEncoding | removeEncoding | setSeriesColors | setColorScheme | setSort | setAggregate =>
          cases drawn

theorem filter_added_again (state : BuilderState) (expr : String) :
    applyAll fields state [.addFilter expr, .addFilter expr] ≠
      applyAll fields state [.addFilter expr] := by
  intro same
  have counts := congrArg (fun result => result.transforms.length) same
  simp [applyAll, step, apply, Checked.toOption] at counts

/-- An operation that stands in a plan twice, the second time right after the first, might as well
stand there once, whatever comes before and after. Only the filters are added each time. -/
theorem repeating_adds_nothing (state : BuilderState) (operation : Operation) :
    (∀ before after, applyAll fields state (before ++ operation :: operation :: after) =
        applyAll fields state (before ++ operation :: after)) ↔
      operation.kind ≠ .addFilter := by
  constructor
  · intro idle adds
    cases operation with
    | addFilter expr => exact filter_added_again fields state expr (idle [] [])
    | _ => cases adds
  · intro other before after
    simp only [applyAll, List.foldl_append, List.foldl_cons, step_again fields other]

/-- A channel that is given a time unit in both spellings at once. The same one decides each time,
though the other is the one that the encoding is written with. -/
def datedTwice : Operation :=
  .setEncoding .x "Day" none (some [("time_unit", .text "year"), ("timeUnit", .text "month")])

theorem dated_twice_again :
    applyAll [] {} [datedTwice, datedTwice] =
      { encodings.x := some { field := some "Day", timeUnit := some .month } } :=
  ((repeating_adds_nothing [] {} datedTwice).mpr nofun [] []).trans rfl

end Operation
end Chartwright
