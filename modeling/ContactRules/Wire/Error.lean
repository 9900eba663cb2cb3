/-
This file defines the reasons why a node does not hold what was asked of it.
-/

import ContactRules.Calendar.Timestamp
import ContactRules.Uuid
import ContactRules.Wire.Node

namespace ContactRules.Wire

open ContactRules.Calendar
open ContactRules.Json

/-- This is the kind of thing that stands in the place of another. -/
inductive Found where
  | null
  | bool (value : Bool)
  | number (value : Number)
  | text (value : String)
  | list
  | object

/-- These are the reasons why a node does not hold what was asked of it. -/
inductive DecodeError where
  | fault (fault : Fault)
  | wrongType (found : Found) (expected : String)
  | wrongValue (found : Found) (expected : String)
  | wrongLength (found : Nat) (expected : String)
  | unknownVariant (found : String) (expected : List String)
  | missingField (name : String)
  | duplicateField (name : String)
  | uuid (error : UuidError)
  | timestamp (error : TimestampError)
  | numberOutOfRange

/-- Messages name a value by its kind and, where it is short, by its text. -/
def Found.message : Found → String
  | .null => "null"
  | .bool value => "boolean `" ++ (if value then "true" else "false") ++ "`"
  | .number (.double value) => "floating point `" ++ value.text ++ "`"
  | .number value => "integer `" ++ value.text ++ "`"
  | .text value => "string " ++ Text.quoted value
  | .list => "sequence"
  | .object => "map"

/-- Names are listed between commas, and two names are joined by a word. -/
def oneOf : List String → String
  | [] => "there are no variants"
  | [name] => "expected `" ++ name ++ "`"
  | [first, second] => "expected `" ++ first ++ "` or `" ++ second ++ "`"
  | names => "expected one of " ++ ", ".intercalate (names.map fun name => "`" ++ name ++ "`")

def DecodeError.message : DecodeError → String
  | .fault .malformed => "malformed document"
  | .fault .truncated => "truncated document"
  | .wrongType found expected => "invalid type: " ++ found.message ++ ", expected " ++ expected
  | .wrongValue found expected => "invalid value: " ++ found.message ++ ", expected " ++ expected
  | .wrongLength found expected => "invalid length " ++ toString found ++ ", expected " ++ expected
  | .unknownVariant found expected => "unknown variant `" ++ found ++ "`, " ++ oneOf expected
  | .missingField name => "missing field `" ++ name ++ "`"
  | .duplicateField name => "duplicate field `" ++ name ++ "`"
  | .uuid error => "UUID parsing failed: " ++ error.message
  | .timestamp error => error.message
  | .numberOutOfRange => "JSON number out of range"

/-- This is what a reader finds in a node in place of what it expected. -/
def Node.complain (node : Node) (expected : String) : DecodeError :=
  match node.opened with
  | .known _ => .wrongType .null expected
  | .null => .wrongType .null expected
  | .bool value => .wrongType (.bool value) expected
  | .number value => .wrongType (.number value) expected
  | .text value => .wrongType (.text value) expected
  | .plain value => .wrongType (.text value) expected
  | .list _ _ => .wrongType .list expected
  | .object _ _ => .wrongType .object expected
  | .interrupted _ _ _ => .wrongType .object expected
  | .refused fault _ => .fault fault
  | .broken fault => .fault fault

end ContactRules.Wire
