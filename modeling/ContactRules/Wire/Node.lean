/-
This file defines what a reader meets in a document before anything is known about its meaning.
-/

import ContactRules.Json.Value

namespace ContactRules.Wire

open ContactRules.Json

/-- A text that is no document is either ill-formed or ends too early. -/
inductive Fault where
  | malformed
  | truncated
deriving DecidableEq

/-- A list or an object is closed, or is cut off by a fault, which may follow a separator. -/
inductive Ending where
  | closed
  | cut (fault : Fault) (afterSeparator : Bool)
deriving DecidableEq

/-- The parts of a node stand in the order of the document, up to the first fault. A plain scalar takes
the type that is asked of it. A refused node cannot be read although it can be skipped. An interrupted
object can be read up to a name that is refused. -/
inductive Node where
  | known (value : Value)
  | null
  | bool (value : Bool)
  | number (value : Number)
  | text (value : String)
  | plain (value : String)
  | list (items : List Node) (ending : Ending)
  | object (fields : List (String × Node)) (ending : Ending)
  | refused (fault : Fault) (skipped : Node)
  | interrupted (fields : List (String × Node)) (fault : Fault) (skipped : Node)
  | broken (fault : Fault)

namespace Node

instance : Inhabited Node := ⟨.null⟩

end Node

/-- This is the fault that cuts off a list or an object, if any. -/
def Ending.fault? : Ending → Option Fault
  | .closed => none
  | .cut fault _ => some fault

namespace Node

mutual

/-- This is the fault that stops a reader who skips the node, if any. -/
def skipFault? : Node → Option Fault
  | .list items ending => (skipItems? items).or ending.fault?
  | .object fields ending => (skipFields? fields).or ending.fault?
  | .refused _ skipped => skipFault? skipped
  | .interrupted _ _ skipped => skipFault? skipped
  | .broken fault => some fault
  | _ => none

def skipItems? : List Node → Option Fault
  | [] => none
  | item :: rest => (skipFault? item).or (skipItems? rest)

def skipFields? : List (String × Node) → Option Fault
  | [] => none
  | field :: rest => (skipFault? field.2).or (skipFields? rest)

end

mutual

/-- This is the number of lists and objects that a node has inside each other. -/
def depth : Node → Nat
  | .known value => value.depth
  | .list items _ => itemsDepth items + 1
  | .object fields _ => fieldsDepth fields + 1
  | .interrupted fields _ _ => fieldsDepth fields + 1
  | _ => 0

def itemsDepth : List Node → Nat
  | [] => 0
  | item :: rest => max (depth item) (itemsDepth rest)

def fieldsDepth : List (String × Node) → Nat
  | [] => 0
  | field :: rest => max (depth field.2) (fieldsDepth rest)

end

/-- This opens a node by one level: a value that has been read already becomes a list or an object of such
values, and an interrupted object is cut off where its fields end. -/
def opened : Node → Node
  | .known .null => .null
  | .known (.bool value) => .bool value
  | .known (.number value) => .number value
  | .known (.text value) => .text value
  | .known (.list items) => .list (items.map Node.known) .closed
  | .known (.object fields) => .object (fields.map fun field => (field.1, Node.known field.2)) .closed
  | .interrupted fields fault _ => .object fields (.cut fault (!fields.isEmpty))
  | node => node

end Node

end ContactRules.Wire
