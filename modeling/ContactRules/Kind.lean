/-
This file defines kinds, which are told apart by their names.
-/

import ContactRules.Wire.Record

namespace ContactRules

open ContactRules.Json
open ContactRules.Wire

/-- A type of kinds lists all of them, each with a name of its own. -/
class Kind (α : Type) where
  title : String
  all : List α
  name : α → String

/-- A name that no kind has. -/
structure UnknownKind where
  title : String
  name : String
deriving DecidableEq

def UnknownKind.message (unknown : UnknownKind) : String :=
  "unknown " ++ unknown.title ++ ": " ++ unknown.name

namespace Kind

variable {α : Type} [Kind α]

/-- This is the kind with a given name. -/
def ofName? (wanted : String) : Option α :=
  (all : List α).find? fun kind => name kind == wanted

def ofName (wanted : String) : Except UnknownKind α :=
  match ofName? wanted with
  | some kind => .ok kind
  | none => .error ⟨title α, wanted⟩

def encode (kind : α) : Value := .text (name kind)

def decoder : Decoder α :=
  Decoder.named ((all : List α).map fun kind => (name kind, kind))

end Kind

end ContactRules
