/-
This file defines the decoders of records, which are objects with known fields.
-/

import ContactRules.Wire.Decoder

namespace ContactRules.Wire

open ContactRules.Json

/-- A record collects the values of its fields as they come, by name or by place, and is put together at
the end. -/
structure Record (α : Type) where
  State : Type
  start : State
  size : Nat
  take : Medium → String → Node → State → Option (Except DecodeError State)
  finish : State → Except DecodeError α
  fromItems : String → Medium → Nat → List Node → Ending → Except DecodeError (α × Nat × List Node)

namespace Record

/-- This is the record without fields. -/
def pure {α : Type} (value : α) : Record α where
  State := Unit
  start := ()
  size := 0
  take := fun _ _ _ _ => none
  finish := fun _ => .ok value
  fromItems := fun _ _ place items _ => .ok (value, place, items)

/-- This puts a field after those of a record, in the order of their declaration. -/
def apply {α β : Type} (record : Record (α → β)) (field : Record α) : Record β where
  State := record.State × field.State
  start := (record.start, field.start)
  size := record.size + field.size
  take := fun medium name node state =>
    match record.take medium name node state.1 with
    | some taken => some (taken.map fun next => (next, state.2))
    | none => (field.take medium name node state.2).map fun taken => taken.map fun next => (state.1, next)
  finish := fun state => do
    let build ← record.finish state.1
    let value ← field.finish state.2
    return build value
  fromItems := fun expected medium place items ending => do
    let (build, place, items) ← record.fromItems expected medium place items ending
    let (value, place, items) ← field.fromItems expected medium place items ending
    return (build value, place, items)

instance : Functor Record where
  map change record := apply (pure change) record

instance : Seq Record where
  seq record field := apply record (field ())

/-- A field may stand once. It may have a value for an object without it and a value for a list that ends
before it. -/
def field {α : Type} (name : String) (decoder : Decoder α) (absent short : Option α) : Record α where
  State := Option α
  start := none
  size := 1
  take := fun medium found node state =>
    if found = name then
      match state with
      | some _ => some (.error (.duplicateField name))
      | none => some ((decoder medium node).map some)
    else none
  finish := fun state =>
    match state, absent with
    | some value, _ => .ok value
    | none, some value => .ok value
    | none, none => .error (.missingField name)
  fromItems := fun expected medium place items ending =>
    match items, ending, short with
    | item :: rest, _, _ => do return (← decoder medium item, place + 1, rest)
    | [], .cut fault _, _ => .error (.fault fault)
    | [], .closed, some value => .ok (value, place + 1, [])
    | [], .closed, none => .error (.wrongLength place expected)

/-- This field must be there. -/
def required {α : Type} (name : String) (decoder : Decoder α) : Record α :=
  field name decoder none none

/-- This field has a value of its own when it is left out. -/
def defaulted {α : Type} (name : String) (decoder : Decoder α) (value : α) : Record α :=
  field name decoder (some value) (some value)

/-- This field may be left out of an object, although not out of a list. -/
def nullable {α : Type} (name : String) (decoder : Decoder α) : Record (Option α) :=
  field name (Decoder.optional decoder) (some none) none

/-- This field may be left out. -/
def omissible {α : Type} (name : String) (decoder : Decoder α) : Record (Option α) :=
  defaulted name (Decoder.optional decoder) none

/-- The fields are taken in the order in which they stand. A field that the record does not know is
skipped. -/
def takeFields {α : Type} (record : Record α) (medium : Medium) :
    record.State → List (String × Node) → Except DecodeError record.State
  | state, [] => .ok state
  | state, (name, node) :: rest =>
      match record.take medium name node state with
      | some taken => do takeFields record medium (← taken) rest
      | none =>
          match node.skipFault? with
          | some fault => .error (.fault fault)
          | none => takeFields record medium state rest

/-- What follows the fields of a record in a list. -/
def checkSurplus (medium : Medium) (total : Nat) (items : List Node) (ending : Ending) :
    Except DecodeError Unit :=
  match items, ending, medium with
  | [], .closed, _ => .ok ()
  | [], .cut fault false, _ => .error (.fault fault)
  | _, _, .stream => .error (.fault .malformed)
  | _, _, _ => .error (.wrongLength total "fewer elements in array")

def describeLength (name : String) (count : Nat) : String :=
  "struct " ++ name ++ " with " ++ toString count ++ (if count = 1 then " element" else " elements")

def fromObject {α : Type} (record : Record α) (medium : Medium) (entries : List (String × Node))
    (ending : Ending) : Except DecodeError α := do
  let state ← takeFields record medium record.start entries
  Decoder.endingError ending
  record.finish state

/-- A record is an object, or outside of markup a list of its fields in their order. -/
def decoder {α : Type} (record : Record α) (name : String) : Decoder α := fun medium node =>
  match node.opened, medium with
  | .object entries ending, _ => fromObject record medium entries ending
  | .plain "", .markup => fromObject record medium [] .closed
  | .list items ending, .tree => fromList items ending medium
  | .list items ending, .stream => fromList items ending medium
  | other, _ => .error (other.complain ("struct " ++ name))
where
  /-- The fields of a record by their places. -/
  fromList (items : List Node) (ending : Ending) (medium : Medium) : Except DecodeError α := do
    let expected := describeLength name record.size
    let (value, _, rest) ← record.fromItems expected medium 0 items ending
    checkSurplus medium items.length rest ending
    return value

end Record

/-- This decodes a value that has been read already. -/
def decodeValue {α : Type} (decoder : Decoder α) (value : Value) : Except DecodeError α :=
  decoder .tree (.known value)

end ContactRules.Wire
