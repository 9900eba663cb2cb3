/-
This file proves that documents survive decoding and encoding.
-/

import ContactRules.Engine.Delay
import ContactRules.Engine.Occasion
import ContactRules.Proofs.Rule.Coding
import ContactRules.Settings.Definition

namespace ContactRules

open ContactRules.Json
open ContactRules.Wire
open ContactRules.Wire.Record

section Records

theorem Schedule.decode_encodeWord (word : UInt32) :
    decodeValue Decoder.word32 (encodeWord word) = .ok word :=
  decode_word32 word

theorem Schedule.decode_some_encodeWord (word : UInt32) :
    decodeValue (Decoder.optional Decoder.word32) (encodeWord word) = .ok (some word) :=
  decode_some nofun (decode_encodeWord word)

/-- Schedules are read back. -/
theorem Schedule.decode_encode (schedule : Schedule) :
    decodeValue decoder schedule.encode = .ok schedule :=
  Gives.decodes <| (gives_present (Kind.decode_encode _)).map Schedule.mk
    |>.seq (gives_optional decode_some_text)
    |>.seq (gives_optional decode_some_instant)
    |>.seq (gives_optional decode_some_instant)
    |>.seq (gives_optional decode_some_encodeWord)
    |>.seq (gives_optional decode_some_encodeWord)
    |>.seq (gives_present (decode_encodeWord _))
    |>.seq (gives_present (decode_encodeWord _))

/-- Postponed actions are read back. -/
theorem PostponedAction.decode_encode (delayed : PostponedAction) :
    decodeValue decoder delayed.encode = .ok delayed :=
  Gives.decodes <| (gives_present (Action.decode_encode _)).map PostponedAction.mk
    |>.seq (gives_present (Context.decode_encode _))
    |>.seq (gives_present (decode_instant _))

/-- Sessions are read back. -/
theorem Session.decode_encode (session : Session) : decodeValue decoder session.encode = .ok session :=
  Gives.decodes <| (gives_present (decode_text _)).map Session.mk
    |>.seq (gives_present (decode_uuid _))
    |>.seq (gives_present (decode_uuid _))
    |>.seq (gives_present (decode_uuid _))
    |>.seq (gives_present (decode_ofOption nofun decode_uuid _))
    |>.seq (gives_present (decode_instant _))
    |>.seq (gives_present (decode_word64 _))

/-- Changes of status are read back. -/
theorem StatusChange.decode_encode (change : StatusChange) :
    decodeValue decoder change.encode = .ok change :=
  Gives.decodes <| (gives_present (decode_text _)).map StatusChange.mk
    |>.seq (gives_present (decode_uuid _))
    |>.seq (gives_present (decode_uuid _))
    |>.seq (gives_present (decode_ofOption nofun decode_uuid _))
    |>.seq (gives_present (decode_text _))
    |>.seq (gives_present (decode_text _))

end Records

namespace RuleDefinition

/-- All operators in the rule of the definition are named. -/
def Named (definition : RuleDefinition) : Prop := definition.rule.Named

/-- A definition is read back when the operators of its rule are named. -/
theorem decode_encode {definition : RuleDefinition} (named : definition.Named) :
    decodeValue decoder definition.encode = .ok definition :=
  Gives.decodes <| (gives_present (decode_text _)).map RuleDefinition.mk
    |>.seq (gives_present (decode_ofOption nofun decode_uuid _))
    |>.seq (gives_present (Kind.decode_encode _))
    |>.seq (gives_present (RuleDocument.decode_encode named))
    |>.seq (gives_present (Schedule.decode_encode _))

/-- Whatever definition is decoded, the operators of its rule are named. -/
theorem decoder_ensures : decoder.Ensures Named := by
  refine Ensures.decoder ?_ _
  exact (ensures_pure (by intros; assumption))
    |>.seq ensures_any |>.seq ensures_any |>.seq ensures_any
    |>.seq (ensures_required RuleDocument.decoder_ensures) |>.seq ensures_any

end RuleDefinition

namespace Wire

section RoundTrips

variable {α : Type} (decoder : Decoder α) (encode : α → Value)

/-- This decodes a document and encodes what it holds. -/
def normalize (document : Value) : Except DecodeError Value :=
  (decodeValue decoder document).map encode

/-- Valid values survive their encoding. Whatever a document holds, in whatever form it comes, is valid and
survives too, so there is nothing more to normalize in what has been normalized. -/
structure RoundTrips (valid : α → Prop) : Prop where
  ofValue : ∀ value, valid value → decodeValue decoder (encode value) = .ok value
  ofDocument : ∀ medium node value, decoder medium node = .ok value →
    valid value ∧ decodeValue decoder (encode value) = .ok value
  normalizes : ∀ document, normalize decoder encode document >>= normalize decoder encode =
    normalize decoder encode document

variable {decoder encode}

/-- Documents make the round trip when what is valid survives and only what is valid is decoded. -/
theorem roundTrips {valid : α → Prop} (guarantee : decoder.Ensures valid)
    (restored : ∀ value, valid value → decodeValue decoder (encode value) = .ok value) :
    RoundTrips decoder encode valid where
  ofValue := restored
  ofDocument medium node value accepted :=
    have isValid := guarantee medium node value accepted
    ⟨isValid, restored value isValid⟩
  normalizes document := by
    simp only [normalize]
    cases accepted : decodeValue decoder document with
    | error error => rfl
    | ok value =>
        have again := restored value (guarantee .tree _ value accepted)
        exact congrArg (Except.map encode) again

/-- Where all values survive, nothing needs to be said of what is decoded. -/
theorem roundTrips_all (restored : ∀ value, decodeValue decoder (encode value) = .ok value) :
    RoundTrips decoder encode fun _ => True :=
  roundTrips Decoder.ensures_any fun value _ => restored value

end RoundTrips

/-- All records that travel in documents survive decoding and encoding. Where they have conditions, the
operators must be named, as those of decoded conditions are. -/
theorem documents_round_trip :
    RoundTrips Condition.decoder Condition.encode Condition.Named ∧
      RoundTrips Criteria.decoder Criteria.encode Criteria.Named ∧
      RoundTrips Action.decoder Action.encode (fun _ => True) ∧
      RoundTrips Context.decoder Context.encode (fun _ => True) ∧
      RoundTrips RuleState.decoder RuleState.encode RuleState.Named ∧
      RoundTrips RuleDocument.decoder RuleDocument.encode RuleDocument.Named ∧
      RoundTrips Schedule.decoder Schedule.encode (fun _ => True) ∧
      RoundTrips RuleDefinition.decoder RuleDefinition.encode RuleDefinition.Named ∧
      RoundTrips PostponedAction.decoder PostponedAction.encode (fun _ => True) ∧
      RoundTrips Session.decoder Session.encode (fun _ => True) ∧
      RoundTrips StatusChange.decoder StatusChange.encode (fun _ => True) :=
  ⟨roundTrips Condition.decoder_ensures fun _ => Condition.decode_encode,
    roundTrips Criteria.decoder_ensures fun _ => Criteria.decode_encode,
    roundTrips_all Action.decode_encode, roundTrips_all Context.decode_encode,
    roundTrips RuleState.decoder_ensures fun _ => RuleState.decode_encode,
    roundTrips RuleDocument.decoder_ensures fun _ => RuleDocument.decode_encode,
    roundTrips_all Schedule.decode_encode,
    roundTrips RuleDefinition.decoder_ensures fun _ => RuleDefinition.decode_encode,
    roundTrips_all PostponedAction.decode_encode, roundTrips_all Session.decode_encode,
    roundTrips_all StatusChange.decode_encode⟩

/-- A group within a group, written as a list and with other names for its parts. -/
def aliasedDocument : Value :=
  .object [("note", .null), ("logic", .text "and"),
    ("groups", .list [.list [.text "or", .list [.list [.text "stage", .text "equals"]]]])]

def aliasedGroup : Criteria :=
  .mk .all [] [.mk .any [⟨"stage", .equals, .null⟩] []]

/-- The group is read from its aliases, and it is encoded by the usual names from which it is read again. -/
theorem aliasedGroup_round_trip :
    decodeValue Criteria.decoder aliasedDocument = .ok aliasedGroup ∧ aliasedGroup.Named ∧
      decodeValue Criteria.decoder aliasedGroup.encode = .ok aliasedGroup := by
  have accepted : decodeValue Criteria.decoder aliasedDocument = .ok aliasedGroup := rfl
  exact ⟨accepted, documents_round_trip.2.1.ofDocument .tree _ _ accepted⟩

end Wire

end ContactRules
