/-
This file proves how records are read from the fields of objects.
-/

import ContactRules.Wire.Record

namespace ContactRules.Wire

open ContactRules.Json

section Faults

variable {ε ε' α β : Type}

/-- A computation succeeds exactly when both of its steps do. -/
theorem bind_eq_ok {first : Except ε α} {next : α → Except ε β} {result : β} :
    (first >>= next) = .ok result ↔ ∃ value, first = .ok value ∧ next value = .ok result := by
  cases first <;> simp [bind, Except.bind]

/-- A computation fails with the error of the step that fails first. -/
theorem bind_eq_error {first : Except ε α} {next : α → Except ε β} {error : ε} :
    (first >>= next) = .error error ↔
      first = .error error ∨ ∃ value, first = .ok value ∧ next value = .error error := by
  cases first <;> simp [bind, Except.bind]

theorem mapError_eq_ok {result : Except ε α} {rename : ε → ε'} {value : α} :
    result.mapError rename = .ok value ↔ result = .ok value := by
  cases result with
  | ok content => exact ⟨fun same => congrArg Except.ok (Except.ok.inj same),
      fun same => congrArg Except.ok (Except.ok.inj same)⟩
  | error cause => exact ⟨nofun, nofun⟩

/-- A renamed error comes from an error of its own. -/
theorem mapError_eq_error {result : Except ε α} {rename : ε → ε'} {error : ε'} :
    result.mapError rename = .error error ↔ ∃ cause, result = .error cause ∧ rename cause = error := by
  cases result with
  | ok content => exact ⟨nofun, nofun⟩
  | error cause =>
      constructor
      · exact fun same => ⟨cause, rfl, Except.error.inj same⟩
      · rintro ⟨_, same, renamed⟩
        obtain rfl := Except.error.inj same
        exact congrArg Except.error renamed

end Faults

/-- These are the values that stand under a name. -/
def valuesUnder (name : String) (fields : List (String × Value)) : List Value :=
  (fields.filter fun field => field.1 = name).map Prod.snd

section Fields

variable (name : String)

@[simp] theorem valuesUnder_nil : valuesUnder name [] = [] := rfl

/-- The values under a name are found field by field. -/
@[simp] theorem valuesUnder_cons (field : String × Value) (rest : List (String × Value)) :
    valuesUnder name (field :: rest) =
      if field.1 = name then field.2 :: valuesUnder name rest else valuesUnder name rest := by
  rw [valuesUnder, List.filter_cons]
  split <;> simp_all [valuesUnder]

/-- The values under a name keep the order of the fields. -/
@[simp] theorem valuesUnder_append (first second : List (String × Value)) :
    valuesUnder name (first ++ second) = valuesUnder name first ++ valuesUnder name second := by
  simp only [valuesUnder, List.filter_append, List.map_append]

/-- A field that is left out when it is empty has at most one value, under its own name. -/
@[simp] theorem valuesUnder_optionalField {α : Type} (other : String) (encode : α → Value)
    (content : Option α) :
    valuesUnder name (optionalField other encode content) =
      if other = name then (content.map encode).toList else [] := by
  cases content <;> simp [optionalField]

/-- A field that may be left out has at most one value, under its own name. -/
@[simp] theorem valuesUnder_unless (isLeftOut : Prop) [Decidable isLeftOut] (other : String)
    (content : Value) :
    valuesUnder name (if isLeftOut then [] else [(other, content)]) =
      if other = name then (if isLeftOut then [] else [content]) else [] := by
  split <;> simp

end Fields

namespace Record

/-- These are the fields of an object that has been read already. -/
def known (fields : List (String × Value)) : List (String × Node) :=
  fields.map fun field => (field.1, .known field.2)

/-- This reads a record from such fields. -/
def ofFields {α : Type} (record : Record α) (fields : List (String × Value)) : Except DecodeError α :=
  fromObject record .tree (known fields) .closed

section Taking

variable {α : Type} {record : Record α} {state : record.State} {name : String} {content : Value}

/-- A record is read when all fields are taken and the state after the last one finishes. -/
theorem ofFields_eq_ok {fields : List (String × Value)} {value : α} :
    record.ofFields fields = .ok value ↔
      ∃ state, takeFields record .tree record.start (known fields) = .ok state ∧
        record.finish state = .ok value := by
  simp only [ofFields, fromObject, Decoder.endingError, bind_eq_ok]
  simp

/-- A field that the record takes changes its state for the fields after it. -/
theorem takeFields_of_taken {taken : Except DecodeError record.State}
    (takes : record.take .tree name (.known content) state = some taken) (rest : List (String × Value)) :
    takeFields record .tree state (known ((name, content) :: rest)) =
      taken >>= fun next => takeFields record .tree next (known rest) := by
  simp only [known, List.map_cons, takeFields, takes]

/-- A value that has been read already does not stop a reader who skips it. -/
theorem takeFields_of_ignored (ignores : record.take .tree name (.known content) state = none)
    (rest : List (String × Value)) :
    takeFields record .tree state (known ((name, content) :: rest)) =
      takeFields record .tree state (known rest) := by
  simp only [known, List.map_cons, takeFields, ignores, Node.skipFault?]

end Taking

/-- The record takes the fields of these names, and no others. -/
structure Knows {α : Type} (record : Record α) (names : List String) : Prop where
  takes : ∀ name ∈ names, ∀ medium node state, ∃ taken, record.take medium name node state = some taken
  ignores : ∀ name, name ∉ names → ∀ medium node state, record.take medium name node state = none

section Constant

variable {α : Type} (value : α)

theorem knows_pure : (pure value).Knows [] where
  takes _ member := nomatch member
  ignores _ _ _ _ _ := rfl

/-- A constant is read from any fields. -/
theorem ofFields_pure (fields : List (String × Value)) : (pure value).ofFields fields = .ok value := by
  rw [ofFields_eq_ok]
  refine ⟨(), ?_, rfl⟩
  induction fields with
  | nil => rfl
  | cons field rest inductionHypothesis => exact (takeFields_of_ignored rfl rest).trans inductionHypothesis

end Constant

/-- The record has one field, and holds the value of the field until the end. -/
structure Single {α : Type} (record : Record α) (name : String) (decoder : Decoder α) (absent : Option α)
    (held : α → record.State) : Prop where
  first : ∀ medium node, record.take medium name node record.start = some ((decoder medium node).map held)
  again : ∀ medium node value, record.take medium name node (held value) = some (.error (.duplicateField name))
  other : ∀ found, found ≠ name → ∀ medium node state, record.take medium found node state = none
  finishHeld : ∀ value, record.finish (held value) = .ok value
  finishStart : ∀ value, record.finish record.start = .ok value ↔ absent = some value

namespace Single

variable {α : Type} {record : Record α} {name : String} {decoder : Decoder α} {absent : Option α}
  {held : α → record.State}

/-- A field that has a value already cannot be taken again. -/
theorem takeFields_held (single : record.Single name decoder absent held) (fields : List (String × Value))
    (value : α) (state : record.State) :
    takeFields record .tree (held value) (known fields) = .ok state ↔
      valuesUnder name fields = [] ∧ held value = state := by
  induction fields with
  | nil => simp [known, takeFields]
  | cons entry rest inductionHypothesis =>
      obtain ⟨found, content⟩ := entry
      rw [valuesUnder_cons]
      by_cases same : found = name
      · subst same
        rw [takeFields_of_taken (single.again .tree _ value)]
        simp [bind, Except.bind]
      · rw [takeFields_of_ignored (single.other found same .tree _ _), if_neg same]
        exact inductionHypothesis

/-- The record is read from the one value under its name. Where there is none, another value may stand in. -/
theorem ofFields_iff (single : record.Single name decoder absent held) (fields : List (String × Value))
    (value : α) :
    record.ofFields fields = .ok value ↔
      match valuesUnder name fields with
      | [] => absent = some value
      | [content] => decodeValue decoder content = .ok value
      | _ => False := by
  rw [ofFields_eq_ok]
  induction fields with
  | nil => simp [known, takeFields, single.finishStart]
  | cons entry rest inductionHypothesis =>
      obtain ⟨found, content⟩ := entry
      rw [valuesUnder_cons]
      by_cases same : found = name
      · subst same
        have decoded : decoder .tree (.known content) = decodeValue decoder content := rfl
        simp only [takeFields_of_taken (single.first .tree _), bind_eq_ok, decoded, if_true]
        cases result : decodeValue decoder content with
        | error error => cases valuesUnder found rest <;> simp [Except.map, result]
        | ok read =>
            simp only [Except.map, Except.ok.injEq, exists_eq_left', single.takeFields_held]
            cases valuesUnder found rest <;> simp [single.finishHeld, result]
      · simp only [takeFields_of_ignored (single.other found same .tree _ _), if_neg same]
        exact inductionHypothesis

end Single

section Field

variable {α : Type} (name : String) (decoder : Decoder α) (absent short : Option α)

/-- A field of a record is single and holds what was decoded. -/
theorem single_field : (field name decoder absent short).Single name decoder absent some where
  first _ _ := if_pos rfl
  again _ _ _ := if_pos rfl
  other _ different _ _ _ := if_neg different
  finishHeld _ := rfl
  finishStart value := by cases absent <;> simp [field]

theorem knows_field : (field name decoder absent short).Knows [name] where
  takes found member medium node state := by
    obtain rfl := List.mem_singleton.mp member
    cases state <;> exact ⟨_, if_pos rfl⟩
  ignores found other medium node state :=
    if_neg fun same => other (List.mem_singleton.mpr same)

end Field

section Apply

variable {α β : Type} {record : Record (α → β)} {part : Record α} {names others : List String}

/-- Two parts know the names of both. -/
theorem knows_apply (first : record.Knows names) (second : part.Knows others) :
    (apply record part).Knows (names ++ others) where
  takes name member medium node state := by
    by_cases isKnown : name ∈ names
    · obtain ⟨taken, takes⟩ := first.takes name isKnown medium node state.1
      exact ⟨_, by simp only [apply, takes]; rfl⟩
    · obtain ⟨taken, takes⟩ := second.takes name ((List.mem_append.mp member).resolve_left isKnown) medium
        node state.2
      exact ⟨_, by simp only [apply, first.ignores name isKnown, takes]; rfl⟩
  ignores name other medium node state := by
    rw [List.mem_append, not_or] at other
    simp only [apply, first.ignores name other.1, second.ignores name other.2, Option.map_none]

/-- Two parts finish exactly when both do. -/
theorem finish_apply (state : record.State) (partState : part.State) (value : β) :
    (apply record part).finish (state, partState) = .ok value ↔
      ∃ build piece, record.finish state = .ok build ∧ part.finish partState = .ok piece ∧
        build piece = value := by
  simp only [apply, bind_eq_ok]
  constructor
  · rintro ⟨build, built, piece, made, same⟩
    exact ⟨build, piece, built, made, Except.ok.inj same⟩
  · rintro ⟨build, piece, built, made, rfl⟩
    exact ⟨build, built, piece, made, rfl⟩

/-- Two records that share no name take their fields independently. -/
theorem takeFields_apply (first : record.Knows names) (second : part.Knows others)
    (apart : ∀ name ∈ names, name ∉ others) (fields : List (String × Value))
    (start finish : record.State) (partStart partFinish : part.State) :
    takeFields (apply record part) .tree (start, partStart) (known fields) = .ok (finish, partFinish) ↔
      takeFields record .tree start (known fields) = .ok finish ∧
        takeFields part .tree partStart (known fields) = .ok partFinish := by
  induction fields generalizing start partStart with
  | nil =>
      constructor
      · intro same
        obtain ⟨rfl, rfl⟩ := Prod.mk.inj (Except.ok.inj same)
        exact ⟨rfl, rfl⟩
      · rintro ⟨same, sameThere⟩
        cases same
        cases sameThere
        rfl
  | cons field rest inductionHypothesis =>
      obtain ⟨name, content⟩ := field
      -- A field goes to the one record that knows it, or is skipped by both.
      by_cases isKnown : name ∈ names
      · obtain ⟨taken, takes⟩ := first.takes name isKnown .tree (.known content) start
        have ignored := second.ignores name (apart name isKnown) .tree (.known content) partStart
        have both : (apply record part).take .tree name (.known content) (start, partStart) =
            some (taken.map fun next => (next, partStart)) := by simp only [apply, takes]
        rw [takeFields_of_taken both, takeFields_of_taken takes, takeFields_of_ignored ignored]
        cases taken with
        | error error => simp [Except.map, bind, Except.bind]
        | ok next => exact inductionHypothesis next partStart
      · have ignored := first.ignores name isKnown .tree (.known content) start
        rw [takeFields_of_ignored ignored]
        by_cases isKnownThere : name ∈ others
        · obtain ⟨taken, takes⟩ := second.takes name isKnownThere .tree (.known content) partStart
          have both : (apply record part).take .tree name (.known content) (start, partStart) =
              some (taken.map fun next => (start, next)) := by
            simp only [apply, ignored, takes, Option.map_some]
          rw [takeFields_of_taken both, takeFields_of_taken takes]
          cases taken with
          | error error => simp [Except.map, bind, Except.bind]
          | ok next => exact inductionHypothesis start next
        · have ignoredThere := second.ignores name isKnownThere .tree (.known content) partStart
          have both : (apply record part).take .tree name (.known content) (start, partStart) = none := by
            simp only [apply, ignored, ignoredThere, Option.map_none]
          rw [takeFields_of_ignored both, takeFields_of_ignored ignoredThere]
          exact inductionHypothesis start partStart

/-- A record whose parts share no name is read part by part. -/
theorem ofFields_apply (first : record.Knows names) (second : part.Knows others)
    (apart : ∀ name ∈ names, name ∉ others) (fields : List (String × Value)) (value : β) :
    (apply record part).ofFields fields = .ok value ↔
      ∃ build piece, record.ofFields fields = .ok build ∧ part.ofFields fields = .ok piece ∧
        build piece = value := by
  have taken := takeFields_apply first second apart fields record.start
  simp only [ofFields_eq_ok]
  constructor
  · rintro ⟨⟨state, partState⟩, takes, finished⟩
    obtain ⟨here, there⟩ := (taken state part.start partState).mp takes
    obtain ⟨build, piece, built, made, same⟩ := (finish_apply state partState value).mp finished
    exact ⟨build, piece, ⟨state, here, built⟩, ⟨partState, there, made⟩, same⟩
  · rintro ⟨build, piece, ⟨state, here, built⟩, ⟨partState, there, made⟩, same⟩
    exact ⟨(state, partState), (taken state part.start partState).mpr ⟨here, there⟩,
      (finish_apply state partState value).mpr ⟨build, piece, built, made, same⟩⟩

end Apply

/-- The record knows these names, and reads a value from some fields. -/
structure Gives {α : Type} (record : Record α) (names : List String) (fields : List (String × Value))
    (value : α) : Prop where
  knows : record.Knows names
  reads : record.ofFields fields = .ok value

namespace Gives

variable {α β : Type} {names others : List String} {fields : List (String × Value)}

/-- Two parts that share no name give their values independently. -/
theorem seq {record : Record (α → β)} {part : Record α} {build : α → β} {piece : α}
    (given : record.Gives names fields build) (givenPart : part.Gives others fields piece)
    (apart : ∀ name ∈ names, name ∉ others := by decide) :
    (record <*> part).Gives (names ++ others) fields (build piece) where
  knows := knows_apply given.knows givenPart.knows
  reads := (ofFields_apply given.knows givenPart.knows apart fields _).mpr
    ⟨build, piece, given.reads, givenPart.reads, rfl⟩

/-- A part that gives a value gives the changed value after a change. -/
theorem map {part : Record α} {piece : α} (change : α → β) (given : part.Gives names fields piece) :
    (change <$> part).Gives names fields (change piece) := by
  have first : (pure change).Gives [] fields change := ⟨knows_pure change, ofFields_pure change fields⟩
  exact first.seq given nofun

/-- A record that gives a value decodes it from an object with these fields. -/
theorem decodes {record : Record α} {title : String} {value : α} (given : record.Gives names fields value) :
    decodeValue (record.decoder title) (.object fields) = .ok value :=
  given.reads

end Gives

section Parts

variable {α : Type} {fields : List (String × Value)} {name : String} {decoder : Decoder α} {value : α}

/-- A field gives the value that stands under its name. -/
theorem gives_present {absent short : Option α} {content : Value}
    (decoded : decodeValue decoder content = .ok value)
    (stands : valuesUnder name fields = [content] := by simp) :
    (field name decoder absent short).Gives [name] fields value where
  knows := knows_field name decoder absent short
  reads := by rwa [(single_field name decoder absent short).ofFields_iff, stands]

/-- A field that is missing gives the value that stands in for it. -/
theorem gives_absent {absent short : Option α} (standsIn : absent = some value)
    (missing : valuesUnder name fields = [] := by simp) :
    (field name decoder absent short).Gives [name] fields value where
  knows := knows_field name decoder absent short
  reads := by rwa [(single_field name decoder absent short).ofFields_iff, missing]

/-- A value that is left out when there is none is read as none. -/
theorem gives_optional {encode : α → Value} {content : Option α} {short : Option (Option α)}
    (decoded : ∀ value, decodeValue (Decoder.optional decoder) (encode value) = .ok (some value))
    (stands : valuesUnder name fields = (content.map encode).toList := by simp) :
    (field name (Decoder.optional decoder) (some none) short).Gives [name] fields content := by
  cases content with
  | none => exact gives_absent rfl stands
  | some value => exact gives_present (decoded value) stands

/-- A value that is left out when it is the one that stands in is read as this one. -/
theorem gives_defaulted {standIn : α} {isLeftOut : Prop} [Decidable isLeftOut] {content : Value}
    (decoded : decodeValue decoder content = .ok value) (same : isLeftOut → standIn = value)
    (stands : valuesUnder name fields = if isLeftOut then [] else [content] := by simp) :
    (defaulted name decoder standIn).Gives [name] fields value := by
  split at stands
  · rename_i leftOut
    exact gives_absent (congrArg some (same leftOut)) stands
  · exact gives_present decoded stands

end Parts

end Record

end ContactRules.Wire
