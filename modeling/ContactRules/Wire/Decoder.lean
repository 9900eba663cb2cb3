/-
This file defines the decoders of single values.
-/

import ContactRules.Wire.Error
import ContactRules.Yaml.Scalar

namespace ContactRules.Wire

open ContactRules.Calendar
open ContactRules.Json

/-- A node comes from a value that has been read already, from the text of a document that is read as it
comes, or from a markup document. -/
inductive Medium where
  | tree
  | stream
  | markup
deriving DecidableEq

abbrev Decoder (α : Type) := Medium → Node → Except DecodeError α

namespace Decoder

/-- This decodes a node and refines the result. -/
def refine {α β : Type} (decoder : Decoder α) (step : α → Except DecodeError β) : Decoder β :=
  fun medium node => do step (← decoder medium node)

def map {α β : Type} (change : α → β) (decoder : Decoder α) : Decoder β :=
  fun medium node => do return change (← decoder medium node)

/-- A text that a kind of value is written in. -/
def textOf (expected : String) : Decoder String := fun _ node =>
  match node.opened with
  | .text content => .ok content
  | .plain content => .ok content
  | other => .error (other.complain expected)

def text : Decoder String := textOf "a string"

def bool : Decoder Bool := fun _ node =>
  match node.opened with
  | .bool content => .ok content
  | .plain content =>
      match Yaml.Scalar.bool? content with
      | some truth => .ok truth
      | none => .error (node.complain "a boolean")
  | other => .error (other.complain "a boolean")

/-- A whole number below a limit; a double is none, whatever its value. -/
def unsigned (limit : Nat) (expected : String) : Decoder Nat := fun _ node =>
  let bounded (content : UInt64) : Except DecodeError Nat :=
    if content.toNat < limit then .ok content.toNat
    else .error (.wrongValue (.number (.unsigned content)) expected)
  match node.opened with
  | .number (.unsigned content) => bounded content
  | .number (.negative content below inRange) =>
      .error (.wrongValue (.number (.negative content below inRange)) expected)
  | .plain content =>
      match Yaml.Scalar.unsigned? content.toList with
      | some number =>
          if number < UInt64.size then bounded (UInt64.ofNat number) else .error (node.complain expected)
      | none => .error (node.complain expected)
  | other => .error (other.complain expected)

def word32 : Decoder UInt32 := map UInt32.ofNat (unsigned UInt32.size "u32")

def word64 : Decoder UInt64 := map UInt64.ofNat (unsigned UInt64.size "u64")

/-- A whole number of either sign, in 64 bits. -/
def integer : Decoder Int := fun _ node =>
  match node.opened with
  | .number (.unsigned content) =>
      if content.toNat < 0x8000000000000000 then .ok content.toNat
      else .error (.wrongValue (.number (.unsigned content)) "i64")
  | .number (.negative content _ _) => .ok content
  | other => .error (other.complain "i64")

/-- Null stands for nothing. -/
def optional {α : Type} (decoder : Decoder α) : Decoder (Option α) := fun medium node =>
  match node.opened with
  | .null => .ok none
  | .plain content =>
      if Yaml.Scalar.isNull content then .ok none else map some decoder medium node
  | _ => map some decoder medium node

def endingError : Ending → Except DecodeError Unit
  | .closed => .ok ()
  | .cut fault _ => .error (.fault fault)

def list {α : Type} (decoder : Decoder α) : Decoder (List α) := fun medium node =>
  match node.opened with
  | .list items ending => do
      let decoded ← items.mapM (decoder medium)
      endingError ending
      return decoded
  | .plain "" => .ok []
  | other => .error (other.complain "a sequence")

/-- Of several fields with one name the last one wins. -/
def fields {α : Type} (decoder : Decoder α) : Decoder (Fields α) := fun medium node =>
  match node.opened with
  | .object entries ending => do
      let decoded ← entries.mapM fun entry => do return (entry.1, ← decoder medium entry.2)
      endingError ending
      return Fields.ofList decoded
  | .plain "" => .ok Fields.empty
  | other => .error (other.complain "a map")

mutual

/-- This is the value of any node. -/
def valueOf : Node → Except DecodeError Value
  | .known content => .ok content
  | .null => .ok .null
  | .bool content => .ok (.bool content)
  | .number content => .ok (.number content)
  | .text content => .ok (.text content)
  | .plain content =>
      match Yaml.Scalar.resolve? content with
      | some resolved => .ok resolved
      | none => .error .numberOutOfRange
  | .list items ending => do
      let decoded ← valuesOf items
      endingError ending
      return .list decoded
  | .object entries ending => do
      let decoded ← fieldsOf entries
      endingError ending
      return Value.ofFields (Fields.ofList decoded)
  | .interrupted entries fault _ => do
      let _ ← fieldsOf entries
      .error (.fault fault)
  | .refused fault _ => .error (.fault fault)
  | .broken fault => .error (.fault fault)

def valuesOf : List Node → Except DecodeError (List Value)
  | [] => .ok []
  | item :: rest => do
      let first ← valueOf item
      let others ← valuesOf rest
      return first :: others

def fieldsOf : List (String × Node) → Except DecodeError (List (String × Value))
  | [] => .ok []
  | entry :: rest => do
      let first ← valueOf entry.2
      let others ← fieldsOf rest
      return (entry.1, first) :: others

end

def value : Decoder Value := fun _ node => valueOf node

/-- One of several names, in the order in which messages list them. A name may also stand alone in an
object, with null as its value. -/
def named {α : Type} (names : List (String × α)) : Decoder α := fun medium node =>
  let pick (name : String) : Except DecodeError α :=
    match names.lookup name with
    | some chosen => .ok chosen
    | none => .error (.unknownVariant name (names.map Prod.fst))
  let unit (content : Node) : Except DecodeError Unit :=
    match content.opened with
    | .null => .ok ()
    | other => .error (other.complain "unit")
  match medium, node.opened with
  | _, .text name => pick name
  | .tree, .object [(name, content)] _ => do
      let chosen ← pick name
      unit content
      return chosen
  | .tree, .object _ _ => .error (.wrongValue .object "map with a single key")
  | .tree, other => .error (other.complain "string or map")
  | .stream, .object [] ending => do
      endingError ending
      .error (.fault .malformed)
  | .stream, .object ((name, content) :: rest) ending => do
      let chosen ← pick name
      unit content
      match rest, ending with
      | [], .closed => return chosen
      | [], .cut fault false => .error (.fault fault)
      | _, _ => .error (.fault .malformed)
  | .stream, .broken fault => .error (.fault fault)
  | .stream, _ => .error (.fault .malformed)
  | .markup, .plain name => pick name
  | .markup, other => .error (other.complain "string or map")

def uuid : Decoder Uuid :=
  refine (textOf "a formatted UUID string") fun content => (Uuid.ofText content).mapError .uuid

def instant : Decoder Instant :=
  refine (textOf "an RFC 3339 formatted date and time string") fun content =>
    (Instant.ofText content).mapError .timestamp

end Decoder

end ContactRules.Wire
