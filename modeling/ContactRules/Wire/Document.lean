/-
This file puts the tokens of a document together.
-/

import ContactRules.Wire.Record
import ContactRules.Wire.Token

namespace ContactRules.Wire

open ContactRules.Json

namespace Document

/-- This is the name of a field, or the fault for which it cannot be read. -/
abbrev Name := Except Fault String

/-- A node stands in a list after some items, or in an object after some fields. What came last comes
first here. -/
inductive Place where
  | item (before : List Node)
  | field (before : List (Name × Node)) (name : Name)

/-- The reader waits for one kind of token, and remembers the places that enclose it. -/
inductive State where
  | value (outer : List Place) (afterSeparator : Bool)
  | firstItem (outer : List Place)
  | firstName (outer : List Place)
  | nextName (fields : List (Name × Node)) (outer : List Place)
  | colon (fields : List (Name × Node)) (name : Name) (outer : List Place)
  | afterItem (items : List Node) (outer : List Place)
  | afterField (fields : List (Name × Node)) (outer : List Place)
  | finished (root : Node)

/-- Lists and objects may be nested to this depth. -/
def depthLimit : Nat := 127

/-- A list or an object that is nested too deep cannot be read. -/
def nested (outer : List Place) (node : Node) : Node :=
  if outer.length < depthLimit then node else .refused .malformed node

/-- These are the fields up to the first name that is refused, and the fault of that name. -/
def readable : List (Name × Node) → List (String × Node) × Option Fault
  | [] => ([], none)
  | (.error fault, _) :: _ => ([], some fault)
  | (.ok name, node) :: rest =>
      let more := readable rest
      ((name, node) :: more.1, more.2)

/-- This is the object of some fields, of which the last one comes first. A name that is refused matters
only to a reader who does not skip the object. -/
def objectOf (fields : List (Name × Node)) (ending : Ending) : Node :=
  let fields := fields.reverse
  match readable fields with
  | (named, none) => .object named ending
  | (named, some fault) =>
      let skipped := fields.map fun field => (field.1.toOption.getD "", field.2)
      .interrupted named fault (.object skipped ending)

/-- A fault in a node cuts off all that encloses it. -/
def cutOff (node : Node) (fault : Fault) : List Place → Node
  | [] => node
  | .item before :: outer =>
      cutOff (nested outer (.list (node :: before).reverse (.cut fault false))) fault outer
  | .field before name :: outer =>
      cutOff (nested outer (objectOf ((name, node) :: before) (.cut fault false))) fault outer

/-- A node has been read in full. -/
def complete (node : Node) : List Place → State
  | [] => .finished node
  | .item before :: outer => .afterItem (node :: before) outer
  | .field before name :: outer => .afterField ((name, node) :: before) outer

/-- This is the document when a fault comes in place of what the reader waits for. -/
def State.stop (state : State) (fault : Fault) : Node :=
  let list (items : List Node) (outer : List Place) (afterSeparator : Bool) : Node :=
    cutOff (nested outer (.list items.reverse (.cut fault afterSeparator))) fault outer
  let object (fields : List (Name × Node)) (outer : List Place) (afterSeparator : Bool) : Node :=
    cutOff (nested outer (objectOf fields (.cut fault afterSeparator))) fault outer
  match state with
  | .value [] _ => .broken fault
  | .value (.item before :: outer) afterSeparator => list before outer afterSeparator
  | .value (.field before name :: outer) _ => object ((name, .broken fault) :: before) outer false
  | .firstItem outer => list [] outer false
  | .firstName outer => object [] outer false
  | .nextName fields outer => object fields outer true
  | .colon fields name outer => object ((name, .broken fault) :: fields) outer false
  | .afterItem items outer => list items outer false
  | .afterField fields outer => object fields outer false
  | .finished root => root

/-- A value starts here, inside the given places. -/
def State.start (state : State) (outer : List Place) (token : Token) : Except Node State :=
  let scalar (node : Node) : Except Node State :=
    match node.skipFault? with
    | some fault => .error (cutOff node fault outer)
    | none => .ok (complete node outer)
  match token with
  | .openList => .ok (.firstItem outer)
  | .openObject => .ok (.firstName outer)
  | .scalar node => scalar node
  | .text node => scalar node
  | _ => .error (state.stop .malformed)

/-- The name of a field is read unless the whole object is skipped. -/
def State.name (state : State) (fields : List (Name × Node)) (outer : List Place) :
    Node → Except Node State
  | .text name => .ok (.colon fields (.ok name) outer)
  | .broken fault => .error (state.stop fault)
  | .refused fault skipped =>
      let named := State.colon fields (.error fault) outer
      match skipped.skipFault? with
      | none => .ok named
      | some other => .error (named.stop other)
  | _ => .error (state.stop .malformed)

/-- One token moves the reader on, or ends the document with a fault. -/
def State.advance (state : State) (token : Token) : Except Node State :=
  match state, token with
  | .value outer _, token => state.start outer token
  | .firstItem outer, .closeList => .ok (complete (nested outer (.list [] .closed)) outer)
  | .firstItem outer, token => state.start (.item [] :: outer) token
  | .firstName outer, .closeObject => .ok (complete (nested outer (.object [] .closed)) outer)
  | .firstName outer, .text node => state.name [] outer node
  | .nextName fields outer, .text node => state.name fields outer node
  | .colon fields name outer, .colon => .ok (.value (.field fields name :: outer) false)
  | .afterItem items outer, .comma => .ok (.value (.item items :: outer) true)
  | .afterItem items outer, .closeList =>
      .ok (complete (nested outer (.list items.reverse .closed)) outer)
  | .afterField fields outer, .comma => .ok (.nextName fields outer)
  | .afterField fields outer, .closeObject =>
      .ok (complete (nested outer (objectOf fields .closed)) outer)
  | state, _ => .error (state.stop .malformed)

/-- A document is a node, and perhaps something after it that does not belong there. -/
structure Reading where
  root : Node
  trailing : Bool

def run : State → List Token → Reading
  | .finished root, [] => ⟨root, false⟩
  | .finished root, _ :: _ => ⟨root, true⟩
  | state, [] => ⟨state.stop .truncated, false⟩
  | state, token :: rest =>
      match state.advance token with
      | .ok next => run next rest
      | .error root => ⟨root, false⟩

/-- This reads the text of a document as far as the first fault. -/
def ofText (text : String) : Reading :=
  run (.value [] false) (Token.ofCharacters text.toList)

/-- What follows the document is noticed only after the document has been decoded. -/
def decode {α : Type} (decoder : Decoder α) (text : String) : Except DecodeError α := do
  let reading := ofText text
  let value ← decoder .stream reading.root
  if reading.trailing then .error (.fault .malformed) else return value

end Document

/-- This reads any value from the text of a document. -/
def readValue (text : String) : Except DecodeError Value :=
  Document.decode Decoder.value text

end ContactRules.Wire
