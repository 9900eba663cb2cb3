/-
This file proves what decoders guarantee of the values that they accept, in whatever form these come.
-/

import ContactRules.Proofs.Wire.Record

namespace ContactRules.Wire

/-- Every value that the decoder accepts has the property. -/
def Decoder.Ensures {α : Type} (decoder : Decoder α) (property : α → Prop) : Prop :=
  ∀ medium node value, decoder medium node = .ok value → property value

namespace Decoder

variable {α β : Type} {decoder : Decoder α}

theorem ensures_any : decoder.Ensures fun _ => True :=
  fun _ _ _ _ => trivial

/-- What holds after a change holds of all that the changed decoder accepts. -/
theorem Ensures.map {change : α → β} {property : β → Prop}
    (guarantee : decoder.Ensures fun value => property (change value)) :
    (Decoder.map change decoder).Ensures property := by
  intro medium node value accepted
  obtain ⟨read, decoded, same⟩ := bind_eq_ok.mp accepted
  obtain rfl := Except.ok.inj same
  exact guarantee medium node read decoded

/-- What holds of every item holds of items that are decoded one after the other. -/
theorem mapM_ensures {property : α → Prop} (guarantee : decoder.Ensures property) (medium : Medium)
    (items : List Node) (values : List α) (accepted : items.mapM (decoder medium) = .ok values) :
    ∀ value ∈ values, property value := by
  induction items generalizing values with
  | nil =>
      obtain rfl := Except.ok.inj accepted
      nofun
  | cons item rest inductionHypothesis =>
      rw [List.mapM_cons] at accepted
      obtain ⟨first, decoded, accepted⟩ := bind_eq_ok.mp accepted
      obtain ⟨others, decodedRest, same⟩ := bind_eq_ok.mp accepted
      obtain rfl := Except.ok.inj same
      exact List.forall_mem_cons.mpr
        ⟨guarantee medium item first decoded, inductionHypothesis others decodedRest⟩

/-- What holds of every item holds of all items of a list. -/
theorem Ensures.list {property : α → Prop} (guarantee : decoder.Ensures property) :
    (Decoder.list decoder).Ensures fun values => ∀ value ∈ values, property value := by
  intro medium node values accepted
  unfold Decoder.list at accepted
  split at accepted
  · obtain ⟨decoded, mapped, accepted⟩ := bind_eq_ok.mp accepted
    obtain ⟨_, _, same⟩ := bind_eq_ok.mp accepted
    obtain rfl := Except.ok.inj same
    exact mapM_ensures guarantee medium _ decoded mapped
  · obtain rfl := Except.ok.inj accepted
    nofun
  · cases accepted

end Decoder

namespace Record

/-- Whatever is put together from fields has the property, whether the fields come by name or by place. -/
structure Ensures {α : Type} (record : Record α) (property : α → Prop) : Prop where
  byName : ∃ invariant : record.State → Prop, invariant record.start ∧
    (∀ medium name node state next, invariant state →
      record.take medium name node state = some (.ok next) → invariant next) ∧
    ∀ state value, invariant state → record.finish state = .ok value → property value
  byPlace : ∀ expected medium place items ending value rest,
    record.fromItems expected medium place items ending = .ok (value, rest) → property value

section Parts

variable {α β : Type}

theorem ensures_pure {property : α → Prop} {value : α} (holds : property value) :
    (pure value).Ensures property where
  byName := ⟨fun _ => True, trivial, fun _ _ _ _ _ _ _ => trivial, by
    rintro state value _ same
    obtain rfl := Except.ok.inj same
    exact holds⟩
  byPlace := by
    rintro expected medium place items ending value rest same
    obtain ⟨rfl, rfl⟩ := Prod.mk.inj (Except.ok.inj same)
    exact holds

/-- A field goes to the record, or else to the part. -/
theorem take_apply_ok {record : Record (α → β)} {part : Record α} {medium : Medium} {name : String}
    {node : Node} {state : record.State} {statePart : part.State} {next : record.State × part.State}
    (takes : (apply record part).take medium name node (state, statePart) = some (.ok next)) :
    (record.take medium name node state = some (.ok next.1) ∧ next.2 = statePart) ∨
      (next.1 = state ∧ part.take medium name node statePart = some (.ok next.2)) := by
  simp only [apply] at takes
  cases taken : record.take medium name node state with
  | some result =>
      rw [taken] at takes
      cases result with
      | error error => cases takes
      | ok middle =>
          obtain rfl := Except.ok.inj (Option.some.inj takes)
          exact Or.inl ⟨rfl, rfl⟩
  | none =>
      rw [taken] at takes
      obtain ⟨result, takenPart, same⟩ := Option.map_eq_some_iff.mp takes
      cases result with
      | error error => cases same
      | ok middle =>
          obtain rfl := Except.ok.inj same
          exact Or.inr ⟨rfl, takenPart⟩

/-- A part that guarantees something helps the whole. -/
theorem Ensures.seq {record : Record (α → β)} {part : Record α} {premise : α → Prop} {property : β → Prop}
    (guarantee : record.Ensures fun build => ∀ piece, premise piece → property (build piece))
    (guaranteePart : part.Ensures premise) : (record <*> part).Ensures property where
  byName := by
    obtain ⟨invariant, start, kept, finished⟩ := guarantee.byName
    obtain ⟨invariantPart, startPart, keptPart, finishedPart⟩ := guaranteePart.byName
    refine ⟨fun state => invariant state.1 ∧ invariantPart state.2, ⟨start, startPart⟩, ?_, ?_⟩
    · rintro medium name node ⟨state, statePart⟩ next ⟨holds, holdsPart⟩ takes
      rcases take_apply_ok takes with ⟨taken, same⟩ | ⟨same, taken⟩
      · exact ⟨kept _ _ _ _ _ holds taken, same ▸ holdsPart⟩
      · exact ⟨same ▸ holds, keptPart _ _ _ _ _ holdsPart taken⟩
    · rintro ⟨state, statePart⟩ value ⟨holds, holdsPart⟩ finishes
      obtain ⟨build, piece, built, made, rfl⟩ := (finish_apply state statePart value).mp finishes
      exact finished state build holds built piece (finishedPart statePart piece holdsPart made)
  byPlace := by
    intro expected medium place items ending value rest reads
    obtain ⟨⟨build, read⟩, built, reads⟩ := bind_eq_ok.mp reads
    obtain ⟨⟨piece, readPart⟩, made, same⟩ := bind_eq_ok.mp reads
    obtain ⟨rfl, rfl⟩ := Prod.mk.inj (Except.ok.inj same)
    exact guarantee.byPlace _ _ _ _ _ build read built piece
      (guaranteePart.byPlace _ _ _ _ _ piece readPart made)

/-- A part that guarantees nothing does no harm. -/
theorem ensures_any {part : Record α} : part.Ensures fun _ => True where
  byName := ⟨fun _ => True, trivial, fun _ _ _ _ _ _ _ => trivial, fun _ _ _ _ => trivial⟩
  byPlace _ _ _ _ _ _ _ _ := trivial

/-- A property that holds after a change is guaranteed by the changed part. -/
theorem Ensures.map {part : Record α} {property : β → Prop} {change : α → β}
    (guarantee : part.Ensures fun piece => property (change piece)) :
    (change <$> part).Ensures property :=
  Ensures.seq (ensures_pure fun _ holds => holds) guarantee

end Parts

section Field

variable {α : Type} {name : String} {decoder : Decoder α} {property : α → Prop}

/-- A field guarantees what its decoder does, if the values that stand in for it have the property too. -/
theorem ensures_field {absent short : Option α} (guarantee : decoder.Ensures property)
    (ofAbsent : ∀ value ∈ absent, property value) (ofShort : ∀ value ∈ short, property value) :
    (field name decoder absent short).Ensures property where
  byName := by
    refine ⟨fun state => ∀ value, state = some value → property value, nofun, ?_, ?_⟩
    · intro medium found node state next holds takes
      simp only [field] at takes
      split at takes
      · split at takes
        · cases takes
        · cases decoded : decoder medium node with
          | error error => simp [decoded, Except.map] at takes
          | ok value =>
              rw [decoded] at takes
              obtain rfl := Except.ok.inj (Option.some.inj takes)
              rintro _ ⟨⟩
              exact guarantee medium node value decoded
      · cases takes
    · intro state value holds finishes
      cases state with
      | some held =>
          obtain rfl := Except.ok.inj finishes
          exact holds held rfl
      | none =>
          cases absent with
          | none => cases finishes
          | some standIn =>
              obtain rfl := Except.ok.inj finishes
              exact ofAbsent standIn rfl
  byPlace := by
    intro expected medium place items ending value rest reads
    simp only [field] at reads
    split at reads
    · obtain ⟨read, decoded, same⟩ := bind_eq_ok.mp reads
      obtain ⟨rfl, _⟩ := Prod.mk.inj (Except.ok.inj same)
      exact guarantee medium _ read decoded
    · cases reads
    · obtain ⟨rfl, _⟩ := Prod.mk.inj (Except.ok.inj reads)
      exact ofShort _ rfl
    · cases reads

/-- A required field guarantees what its decoder does. -/
theorem ensures_required (guarantee : decoder.Ensures property) :
    (required name decoder).Ensures property :=
  ensures_field guarantee nofun nofun

/-- A field with a default guarantees what its decoder does, if the default has the property too. -/
theorem ensures_defaulted {value : α} (guarantee : decoder.Ensures property) (holds : property value) :
    (defaulted name decoder value).Ensures property :=
  ensures_field guarantee (fun _ same => Option.some.inj same ▸ holds)
    (fun _ same => Option.some.inj same ▸ holds)

end Field

section Forms

variable {α : Type} {record : Record α}

/-- What a record keeps for each field, it keeps for all of them. -/
theorem takeFields_keeps {invariant : record.State → Prop}
    (kept : ∀ medium name node state next, invariant state →
      record.take medium name node state = some (.ok next) → invariant next)
    (medium : Medium) (entries : List (String × Node)) (state last : record.State) (holds : invariant state)
    (takes : takeFields record medium state entries = .ok last) : invariant last := by
  induction entries generalizing state with
  | nil =>
      obtain rfl := Except.ok.inj takes
      exact holds
  | cons entry rest inductionHypothesis =>
      simp only [takeFields] at takes
      split at takes
      · rename_i taken takesFirst
        obtain ⟨next, rfl, takesRest⟩ := bind_eq_ok.mp takes
        exact inductionHypothesis next (kept medium _ _ state next holds takesFirst) takesRest
      · split at takes
        · cases takes
        · exact inductionHypothesis state holds takes

/-- A record keeps its guarantee in each of the forms that a reader accepts. -/
theorem Ensures.decoder {property : α → Prop} (guarantee : record.Ensures property) (title : String) :
    (record.decoder title).Ensures property := by
  obtain ⟨invariant, start, kept, finished⟩ := guarantee.byName
  have ofObject (medium : Medium) (entries : List (String × Node)) (ending : Ending) (value : α)
      (reads : fromObject record medium entries ending = .ok value) : property value := by
    obtain ⟨last, takes, reads⟩ := bind_eq_ok.mp reads
    obtain ⟨_, _, finishes⟩ := bind_eq_ok.mp reads
    exact finished last value (takeFields_keeps kept medium entries _ last start takes) finishes
  have ofList (medium : Medium) (items : List Node) (ending : Ending) (value : α)
      (reads : decoder.fromList record title items ending medium = .ok value) : property value := by
    obtain ⟨⟨read, _⟩, built, reads⟩ := bind_eq_ok.mp reads
    obtain ⟨_, _, same⟩ := bind_eq_ok.mp reads
    obtain rfl := Except.ok.inj same
    exact guarantee.byPlace _ _ _ _ _ read _ built
  intro medium node value accepted
  unfold Record.decoder at accepted
  split at accepted
  · exact ofObject _ _ _ value accepted
  · exact ofObject _ _ _ value accepted
  · exact ofList _ _ _ value accepted
  · exact ofList _ _ _ value accepted
  · cases accepted

end Forms

end Record

end ContactRules.Wire
