/-
This file proves that conditions, actions and rules are read back from their encodings.
-/

import ContactRules.Proofs.Wire.Guarantee
import ContactRules.Proofs.Wire.Restore
import ContactRules.Rule.Document

namespace ContactRules

open ContactRules.Json
open ContactRules.Wire
open ContactRules.Wire.Record

namespace Json.Value

/-- An item is nested no deeper than the items of its list. -/
theorem depth_le_itemsDepth {item : Value} {items : List Value} (member : item ∈ items) :
    item.depth ≤ itemsDepth items := by
  induction items with
  | nil => cases member
  | cons first rest inductionHypothesis =>
      rw [itemsDepth]
      rcases List.mem_cons.mp member with rfl | later
      · exact Nat.le_max_left _ _
      · exact Nat.le_trans (inductionHypothesis later) (Nat.le_max_right _ _)

/-- A field is nested no deeper than the fields of its object. -/
theorem depth_le_fieldsDepth {field : String × Value} {fields : List (String × Value)}
    (member : field ∈ fields) : field.2.depth ≤ fieldsDepth fields := by
  induction fields with
  | nil => cases member
  | cons first rest inductionHypothesis =>
      rw [fieldsDepth]
      rcases List.mem_cons.mp member with rfl | later
      · exact Nat.le_max_left _ _
      · exact Nat.le_trans (inductionHypothesis later) (Nat.le_max_right _ _)

end Json.Value

namespace Operator

/-- The operator is what some name stands for. -/
def Named (operator : Operator) : Prop := ∃ name, operator = ofName name

/-- The name of an operator that is named stands for this operator. -/
theorem ofName_name {operator : Operator} (named : operator.Named) : ofName operator.name = operator := by
  obtain ⟨name, rfl⟩ := named
  fun_cases ofName name <;> simp_all [ofName, Operator.name]

/-- An operator that is named is read back from its encoding. -/
theorem decode_encode {operator : Operator} (named : operator.Named) :
    decodeValue decoder operator.encode = .ok operator :=
  bind_eq_ok.mpr ⟨operator.name, rfl, congrArg Except.ok (ofName_name named)⟩

/-- Whatever is read as an operator is named. -/
theorem decoder_ensures : decoder.Ensures Named :=
  Decoder.Ensures.map fun _ _ name _ => ⟨name, rfl⟩

end Operator

namespace Condition

def Named (condition : Condition) : Prop := condition.operator.Named

/-- A condition whose operator is named is read back from its encoding. -/
theorem decode_encode {condition : Condition} (named : condition.Named) :
    decodeValue decoder condition.encode = .ok condition :=
  Gives.decodes <| (gives_present (decode_text _)).map Condition.mk
    |>.seq (gives_present (Operator.decode_encode named))
    |>.seq (gives_present (decode_value _))

/-- Whatever is read as a condition has an operator that is named. -/
theorem decoder_ensures : decoder.Ensures Named :=
  have guarantee : record.Ensures Named :=
    (ensures_pure fun _ _ _ named _ _ => named)
      |>.seq ensures_any |>.seq (ensures_required Operator.decoder_ensures) |>.seq ensures_any
  guarantee.decoder _

/-- So is a list of such conditions. -/
theorem decode_encodeList {conditions : List Condition} (named : ∀ condition ∈ conditions, condition.Named) :
    decodeValue (Decoder.list decoder) (.list (conditions.map encode)) = .ok conditions :=
  decode_list fun condition member => decode_encode (named condition member)

/-- Where a list of conditions may be left out, all operators that are read are named. -/
theorem ensures_conditions {name : String} :
    (defaulted name (Decoder.list decoder) []).Ensures fun conditions =>
      ∀ condition ∈ conditions, condition.Named :=
  ensures_defaulted (Decoder.Ensures.list decoder_ensures) (List.forall_mem_nil _)

end Condition

/-- Each logic is read back from its encoding. -/
theorem Logic.decode_encode (logic : Logic) : decodeValue decoder logic.encode = .ok logic := by
  cases logic <;> rfl

namespace Criteria

/-- All operators in the group are named, at any depth. -/
inductive Named : Criteria → Prop where
  | mk {logic : Logic} {conditions : List Condition} {groups : List Criteria}
      (conditionsNamed : ∀ condition ∈ conditions, condition.Named)
      (groupsNamed : ∀ group ∈ groups, Named group) : Named (mk logic conditions groups)

theorem encodeAll_eq_map (groups : List Criteria) : encodeAll groups = groups.map encode := by
  induction groups with
  | nil => rfl
  | cons group rest inductionHypothesis => rw [encodeAll, inductionHypothesis, List.map_cons]

/-- The parts of a group stand under their names, and empty lists are left out. -/
theorem encode_mk (logic : Logic) (conditions : List Condition) (groups : List Criteria) :
    encode (mk logic conditions groups) =
      .object (("logic", logic.encode) ::
        (if conditions.isEmpty then [] else [("conditions", .list (conditions.map Condition.encode))]) ++
        (if groups.isEmpty then [] else [("groups", .list (groups.map encode))])) := by
  cases groups with
  | nil => rfl
  | cons group rest => rw [List.map_cons, ← encodeAll_eq_map]; rfl

/-- A group that stands in another one is nested less deep. -/
theorem depth_encode_lt (logic : Logic) (conditions : List Condition) {groups : List Criteria}
    {group : Criteria} (member : group ∈ groups) :
    group.encode.depth + 1 < (encode (mk logic conditions groups)).depth := by
  have isItem : group.encode ∈ groups.map encode := List.mem_map_of_mem member
  have isField (before : List (String × Value)) :
      ("groups", Value.list (groups.map encode)) ∈
        before ++ (if groups.isEmpty then [] else [("groups", .list (groups.map encode))]) := by
    simp [List.ne_nil_of_mem member]
  have nested := Value.depth_le_itemsDepth isItem
  have outer := Value.depth_le_fieldsDepth (isField (("logic", logic.encode) ::
    (if conditions.isEmpty then [] else [("conditions", .list (conditions.map Condition.encode))])))
  rw [Value.depth] at outer
  rw [encode_mk, Value.depth]
  omega

/-- A group is read back wherever nesting may be deeper than the group is. -/
theorem decodeWithin_encode {group : Criteria} (named : group.Named) (bound : Nat)
    (within : group.encode.depth < bound) : decodeValue (decoderWithin bound) group.encode = .ok group := by
  induction named generalizing bound with
  | @mk logic conditions groups conditionsNamed groupsNamed inductionHypothesis =>
      cases bound with
      | zero => cases within
      | succ bound =>
          -- The bound is greater than the depth, so it is not used up before the innermost group.
          have restored : ∀ group ∈ groups, decodeValue (decoderWithin bound) group.encode = .ok group := by
            intro group member
            have less := depth_encode_lt logic conditions member
            exact inductionHypothesis group member bound (by omega)
          rw [encode_mk]
          exact Gives.decodes <| (gives_present logic.decode_encode).map Criteria.mk
            |>.seq (gives_defaulted (Condition.decode_encodeList conditionsNamed) Eq.symm)
            |>.seq (gives_defaulted (decode_list restored) Eq.symm)

/-- A group is read back from its encoding, since the decoder goes as deep as what it reads. -/
theorem decode_encode {group : Criteria} (named : group.Named) : decodeValue decoder group.encode = .ok group :=
  decodeWithin_encode named _ (Nat.lt_succ_self _)

/-- Whatever is read as a group has only operators that are named, however deep the nesting may be. -/
theorem decoderWithin_ensures (bound : Nat) : (decoderWithin bound).Ensures Named := by
  induction bound with
  | zero => exact fun _ _ _ => nofun
  | succ bound inductionHypothesis =>
      refine Ensures.decoder ?_ _
      exact (ensures_pure fun _ _ _ conditionsNamed _ groupsNamed => Named.mk conditionsNamed groupsNamed)
        |>.seq ensures_any
        |>.seq Condition.ensures_conditions
        |>.seq (ensures_defaulted (Decoder.Ensures.list inductionHypothesis) (List.forall_mem_nil _))

/-- Whatever is read as a group is named. -/
theorem decoder_ensures : decoder.Ensures Named :=
  fun medium node => decoderWithin_ensures (node.depth + 1) medium node

end Criteria

/-- Each action is read back from its encoding, with or without parameters. -/
theorem Action.decode_encode (action : Action) : decodeValue decoder action.encode = .ok action :=
  Gives.decodes <| (gives_present (Kind.decode_encode _)).map Action.mk
    |>.seq (gives_defaulted (decode_fields _) Fields.empty_of_isEmpty)
    |>.seq (gives_present (decode_word32 _))

/-- So is a list of actions. -/
theorem Action.decode_encodeList (actions : List Action) :
    decodeValue (Decoder.list decoder) (.list (actions.map encode)) = .ok actions :=
  decode_list fun action _ => action.decode_encode

/-- Each context is read back from its encoding, whatever it leaves out. -/
theorem Context.decode_encode (context : Context) : decodeValue decoder context.encode = .ok context :=
  Gives.decodes <| (gives_present (decode_text _)).map Context.mk
    |>.seq (gives_optional decode_some_uuid)
    |>.seq (gives_optional decode_some_uuid)
    |>.seq (gives_optional decode_some_uuid)
    |>.seq (gives_optional decode_some_uuid)
    |>.seq (gives_optional decode_some_uuid)
    |>.seq (gives_optional Kind.decode_some_encode)
    |>.seq (gives_defaulted (decode_fields _) Fields.empty_of_isEmpty)

namespace RuleDocument

/-- All operators in the document are named. -/
def Named (document : RuleDocument) : Prop := ∀ condition ∈ document.conditions, condition.Named

/-- A document is read back from its encoding when the operators of its conditions are named. -/
theorem decode_encode {document : RuleDocument} (named : document.Named) :
    decodeValue decoder document.encode = .ok document :=
  Gives.decodes <| (gives_present (decode_text _)).map RuleDocument.mk
    |>.seq (gives_present (decode_text _))
    |>.seq (gives_present (Kind.decode_encode _))
    |>.seq (gives_present (Condition.decode_encodeList named))
    |>.seq (gives_present (Action.decode_encodeList _))
    |>.seq (gives_present (decode_word32 _))

/-- Whatever is read as a document has only operators that are named. -/
theorem decoder_ensures : decoder.Ensures Named := by
  refine Ensures.decoder ?_ _
  exact (ensures_pure (by intros; assumption))
    |>.seq ensures_any |>.seq ensures_any |>.seq ensures_any
    |>.seq Condition.ensures_conditions |>.seq ensures_any |>.seq ensures_any

end RuleDocument

namespace RuleState

/-- All operators in the state are named. -/
def Named (state : RuleState) : Prop := ∀ condition ∈ state.conditions, condition.Named

/-- The state of a rule is read back from its encoding when the operators of its conditions are named. -/
theorem decode_encode {state : RuleState} (named : state.Named) :
    decodeValue decoder state.encode = .ok state := by
  rw [encode, encodeUndated]
  exact Gives.decodes <| (gives_present (decode_uuid _)).map RuleState.mk
    |>.seq (gives_present (Kind.decode_encode _))
    |>.seq (gives_optional decode_some_uuid)
    |>.seq (gives_present (decode_text _))
    |>.seq (gives_present (decode_text _))
    |>.seq (gives_present (decode_text _))
    |>.seq (gives_present (Kind.decode_encode _))
    |>.seq (gives_present (Condition.decode_encodeList named))
    |>.seq (gives_present (Action.decode_encodeList _))
    |>.seq (gives_present (decode_word32 _))
    |>.seq (gives_present (decode_bool _))
    |>.seq (gives_present (decode_instant _))
    |>.seq (gives_present (decode_instant _))

/-- Whatever is read as the state of a rule has only operators that are named. -/
theorem decoder_ensures : decoder.Ensures Named := by
  refine Ensures.decoder ?_ _
  exact (ensures_pure (by intros; assumption))
    |>.seq ensures_any |>.seq ensures_any |>.seq ensures_any |>.seq ensures_any |>.seq ensures_any
    |>.seq ensures_any |>.seq ensures_any |>.seq Condition.ensures_conditions |>.seq ensures_any
    |>.seq ensures_any |>.seq ensures_any |>.seq ensures_any |>.seq ensures_any

end RuleState

end ContactRules
