/-
This file proves which tables of fields give the parameters of an action.
-/

import ContactRules.Proofs.Dispatch.Call
import ContactRules.Proofs.Wire.Reading

namespace ContactRules

open ContactRules.Json
open ContactRules.Wire

namespace Fields

/-- The field has this text, and not all of it is blank. -/
def GivesText (fields : Fields Value) (name content : String) : Prop :=
  fields.get? name = some (.text content) ∧ ∃ character ∈ content.toList, Text.isBlank character = false

/-- The field has a text that spells an identifier. -/
def GivesId (fields : Fields Value) (name : String) (id : Uuid) : Prop :=
  ∃ spelling, fields.get? name = some (.text spelling) ∧ Uuid.ofText spelling = .ok id

/-- The field is left out, or null. -/
def GivesNothing (fields : Fields Value) (name : String) : Prop :=
  fields.get? name = none ∨ fields.get? name = some .null

/-- The field has a table whose values are written in a certain way, or it is left out. -/
def GivesTable {α : Type} (fields : Fields Value) (name : String) (encode : α → Value) (table : Fields α) : Prop :=
  fields.get? name = none ∧ table = empty ∨
    ∃ entries, fields.get? name = some (.object (entries.map fun entry => (entry.1, encode entry.2))) ∧
      table = ofList entries

end Fields

/-- A message has a text, and its channel may be left out. -/
structure MessageParams.GivenBy (fields : Fields Value) (params : MessageParams) : Prop where
  content : fields.GivesText "content" params.content
  channel : match params.channel with
    | none => fields.GivesNothing "channel_id"
    | some channel => fields.GivesId "channel_id" channel

structure StatusParams.GivenBy (fields : Fields Value) (params : StatusParams) : Prop where
  status : fields.GivesText "status" params.status

structure TagParams.GivenBy (fields : Fields Value) (params : TagParams) : Prop where
  tag : fields.GivesText "tag" params.tag

/-- A method is spelled in capital letters or in small ones. -/
def WebMethod.spellings : WebMethod → List String
  | post => ["POST", "post"]
  | put => ["PUT", "put"]
  | patch => ["PATCH", "patch"]

/-- A webhook has an address on the web. All else may be left out, and its payload may be anything. -/
structure WebhookParams.GivenBy (fields : Fields Value) (params : WebhookParams) : Prop where
  url : fields.get? "url" = some (.text params.url)
  web : "http://".toList <+: params.url.toList ∨ "https://".toList <+: params.url.toList
  method : fields.get? "method" = none ∧ params.method = .post ∨
    ∃ name ∈ params.method.spellings,
      fields.get? "method" = some (.text name) ∨ fields.get? "method" = some (.object [(name, .null)])
  headers : fields.GivesTable "headers" Value.text params.headers
  payload : match params.payload with
    | none => fields.GivesNothing "payload"
    | some payload => payload ≠ .null ∧ fields.get? "payload" = some payload

/-- A workflow has a name, and its input may be left out. -/
structure WorkflowParams.GivenBy (fields : Fields Value) (params : WorkflowParams) : Prop where
  workflow : fields.GivesText "workflow_id" params.workflow
  input : fields.GivesTable "input" id params.input

structure AgentParams.GivenBy (fields : Fields Value) (params : AgentParams) : Prop where
  agent : fields.GivesId "agent_id" params.agent

/-- The value of a contact's field must be there, although it may be null. -/
structure FieldParams.GivenBy (fields : Fields Value) (params : FieldParams) : Prop where
  field : fields.GivesText "field" params.field
  value : fields.get? "value" = some params.value

namespace ActionKind

/-- The fields give the parameters of an action of this kind. -/
def Takes (kind : ActionKind) (fields : Fields Value) : Prop :=
  match kind with
  | sendMessage => ∃ params, MessageParams.GivenBy fields params
  | changeStatus => ∃ params, StatusParams.GivenBy fields params
  | addTag => ∃ params, TagParams.GivenBy fields params
  | removeTag => ∃ params, TagParams.GivenBy fields params
  | sendWebhook => ∃ params, WebhookParams.GivenBy fields params
  | triggerWorkflow => ∃ params, WorkflowParams.GivenBy fields params
  | assignAgent => ∃ params, AgentParams.GivenBy fields params
  | updateContactField => ∃ params, FieldParams.GivenBy fields params

end ActionKind

namespace Params

section Schemas

variable {α : Type} [Params α] {names : List String} {grammar : Fields Value → α → Prop}

/-- Parameters are read from the fields that give them, and from no others. Only the fields with certain names
count. What is refused is told as invalid parameters of the action's own kind. -/
structure Schema (α : Type) [Params α] (names : List String) (grammar : Fields Value → α → Prop) : Prop where
  accepts : ∀ (action : Action) (params : α), ofAction action = .ok params ↔ grammar action.params params
  ignores : ∀ (action : Action) (fields : Fields Value),
    (∀ name ∈ names, action.params.get? name = fields.get? name) →
      (ofAction { action with params := fields } : Except ActionError α) = ofAction action
  refuses : ∀ (action : Action) (error : ActionError),
    (ofAction action : Except ActionError α) = .error error →
      ∃ reason, error = .invalidParams action.kind reason

/-- Parameters are taken from an action when they are decoded and pass their check. -/
theorem ofAction_eq_ok {action : Action} {params : α} :
    ofAction action = .ok params ↔
      decodeValue decoder (Value.ofFields action.params) = .ok params ∧ check params = .ok () := by
  simp only [ofAction, ofFields, mapError_eq_ok, bind_eq_ok]
  constructor
  · rintro ⟨_, decoded, _, checked, same⟩
    obtain rfl := Except.ok.inj same
    exact ⟨decoded, checked⟩
  · rintro ⟨decoded, checked⟩
    exact ⟨params, decoded, (), checked, rfl⟩

/-- Parameters that are decoded as a record follow a schema when what the record reads and the check accepts is
what the schema says. -/
theorem schema_of_record {record : Record α} {property : Fields Value → α → Prop}
    (isRecord : ∀ fields, decodeValue decoder (Value.ofFields fields) = record.ofFields fields.entries)
    (reads : ∀ fields, record.Reads names fields (property fields))
    (agrees : ∀ fields params, property fields params ∧ check params = .ok () ↔ grammar fields params) :
    Schema α names grammar where
  accepts action params := by
    rw [ofAction_eq_ok, isRecord, (reads action.params).reads, agrees]
  ignores action fields same := by
    have alike : (ofFields fields : Except ParamsError α) = ofFields action.params := by
      simp only [ofFields, isRecord, (reads fields).knows.ofFields_congr same]
    simp only [ofAction, alike]
  refuses _ _ := ofAction_eq_error

/-- An action has parameters of a schema exactly when its fields give some. -/
theorem Schema.exists_written (schema : Schema α names grammar) (action : Action) :
    (∃ written, (ofAction action).map (fun params : α => encode params) = .ok written) ↔
      ∃ params, grammar action.params params := by
  simp only [← schema.accepts]
  cases (ofAction action : Except ActionError α) <;> simp [Except.map]

end Schemas

section Parts

variable {fields : Fields Value} {name : String}

/-- A text is required: it is there, and it is a text. -/
theorem holds_text_iff {content : String} :
    Record.Holds Decoder.text none content (fields.get? name) ↔ fields.get? name = some (.text content) := by
  simp only [Record.holds_required_iff, decode_text_iff, exists_eq_right]

/-- A value is required: it is there, whatever it is. -/
theorem holds_value_iff {content : Value} :
    Record.Holds Decoder.value none content (fields.get? name) ↔ fields.get? name = some content := by
  simp only [Record.holds_required_iff, decode_value_iff, exists_eq_right]

/-- A text that passes its check is not blank. -/
theorem givesText_iff {content : String} :
    Record.Holds Decoder.text none content (fields.get? name) ∧ checkText name content = .ok () ↔
      fields.GivesText name content := by
  have checked : checkText name content = .ok () ↔ Text.blank content = false := by
    unfold checkText
    cases Text.blank content <;> simp
  rw [holds_text_iff, checked, Text.blank_eq_false_iff, Fields.GivesText]

/-- An identifier is required: it is there, in one of its texts. -/
theorem givesId_iff {id : Uuid} :
    Record.Holds Decoder.uuid none id (fields.get? name) ↔ fields.GivesId name id := by
  simp only [Record.holds_required_iff, decode_uuid_iff, Fields.GivesId]
  constructor
  · rintro ⟨_, found, spelling, rfl, spells⟩
    exact ⟨spelling, found, spells⟩
  · rintro ⟨spelling, found, spells⟩
    exact ⟨_, found, spelling, rfl, spells⟩

/-- What may be left out is read as nothing when it is left out or null, and is decoded when it is there. -/
theorem holds_omissible_iff {α : Type} {decoder : Decoder α} {content : Option α} :
    Record.Holds (Decoder.optional decoder) (some none) content (fields.get? name) ↔
      match content with
      | none => fields.GivesNothing name
      | some present => fields.get? name ≠ some .null ∧ Record.Holds decoder none present (fields.get? name) := by
  rw [Record.holds_defaulted_iff]
  simp only [decode_optional_iff]
  cases content with
  | none => simp [Fields.GivesNothing]
  | some present => cases fields.get? name <;> simp [Record.Holds]

/-- A channel may be absent or null, and is otherwise an identifier. -/
theorem holds_channel_iff {channel : Option Uuid} :
    Record.Holds (Decoder.optional Decoder.uuid) (some none) channel (fields.get? name) ↔
      match channel with
      | none => fields.GivesNothing name
      | some id => fields.GivesId name id := by
  rw [holds_omissible_iff]
  cases channel with
  | none => rfl
  | some id =>
      simp only [givesId_iff, and_iff_right_iff_imp]
      rintro ⟨spelling, found, _⟩
      rw [found]
      nofun

/-- A payload may be absent or null, and is otherwise any value. -/
theorem holds_payload_iff {payload : Option Value} :
    Record.Holds (Decoder.optional Decoder.value) (some none) payload (fields.get? name) ↔
      match payload with
      | none => fields.GivesNothing name
      | some content => content ≠ .null ∧ fields.get? name = some content := by
  rw [holds_omissible_iff]
  cases payload with
  | none => rfl
  | some content =>
      simp only [holds_value_iff]
      exact and_congr_left fun found => by rw [found, ne_eq, Option.some.injEq]

/-- A table may be absent, and otherwise all its fields are of one kind. -/
theorem holds_table_iff {α : Type} {decoder : Decoder α} {encode : α → Value} {table : Fields α}
    (decodes : ∀ content value, decodeValue decoder content = .ok value ↔ content = encode value) :
    Record.Holds (Decoder.fields decoder) (some Fields.empty) table (fields.get? name) ↔
      fields.GivesTable name encode table := by
  simp only [Record.holds_defaulted_iff, decode_fields_iff decodes, Fields.GivesTable]
  refine or_congr_right ⟨?_, ?_⟩
  · rintro ⟨_, found, entries, rfl, same⟩
    exact ⟨entries, found, same⟩
  · rintro ⟨entries, found, same⟩
    exact ⟨_, found, entries, rfl, same⟩

/-- Each method has two spellings. -/
theorem lookup_method_iff {method : WebMethod} :
    [("POST", WebMethod.post), ("post", .post), ("PUT", .put), ("put", .put), ("PATCH", .patch),
        ("patch", .patch)].lookup name = some method ↔ name ∈ method.spellings := by
  simp only [List.lookup_cons, List.lookup_nil]
  cases method <;> simp only [WebMethod.spellings, List.mem_cons, List.not_mem_nil] <;> grind

/-- A method may be absent, which stands for the first one, and is otherwise one of its spellings. -/
theorem holds_method_iff {method : WebMethod} :
    Record.Holds WebMethod.decoder (some .post) method (fields.get? name) ↔
      fields.get? name = none ∧ method = .post ∨
        ∃ spelling ∈ method.spellings,
          fields.get? name = some (.text spelling) ∨ fields.get? name = some (.object [(spelling, .null)]) := by
  simp only [Record.holds_defaulted_iff, WebMethod.decoder, decode_named_iff, lookup_method_iff]
  refine or_congr_right ⟨?_, ?_⟩
  · rintro ⟨_, found, spelling, member, rfl | rfl⟩
    · exact ⟨spelling, member, Or.inl found⟩
    · exact ⟨spelling, member, Or.inr found⟩
  · rintro ⟨spelling, member, found | found⟩
    · exact ⟨_, found, spelling, member, Or.inl rfl⟩
    · exact ⟨_, found, spelling, member, Or.inr rfl⟩

end Parts

/-- A message needs a content that is not blank, and may name a channel. -/
theorem message_schema : Schema MessageParams ["content", "channel_id"] MessageParams.GivenBy := by
  refine schema_of_record (fun _ => rfl)
    (fun fields => ((Record.reads_field "content" Decoder.text none none).map MessageParams.mk).seq
      (Record.reads_field "channel_id" (Decoder.optional Decoder.uuid) (some none) (some none)))
    fun fields params => ⟨?_, fun ⟨given, channel⟩ => ?_⟩
  · rintro ⟨⟨_, channel, ⟨content, held, rfl⟩, heldChannel, rfl⟩, checked⟩
    exact ⟨givesText_iff.mp ⟨held, checked⟩, holds_channel_iff.mp heldChannel⟩
  · obtain ⟨held, checked⟩ := givesText_iff.mpr given
    exact ⟨⟨_, _, ⟨_, held, rfl⟩, holds_channel_iff.mpr channel, rfl⟩, checked⟩

/-- Parameters that are one text follow the schema of that text. -/
theorem schema_of_text {α : Type} [Params α] {name : String} {make : String → α}
    {grammar : Fields Value → α → Prop}
    (isRecord : ∀ fields, decodeValue decoder (Value.ofFields fields) =
      (make <$> Record.required name Decoder.text).ofFields fields.entries)
    (onto : ∀ params, ∃ content, make content = params)
    (checked : ∀ content, check (make content) = checkText name content)
    (agrees : ∀ fields content, fields.GivesText name content ↔ grammar fields (make content)) :
    Schema α [name] grammar := by
  refine schema_of_record isRecord (fun fields => (Record.reads_field name Decoder.text none none).map make)
    fun fields params => ⟨?_, fun given => ?_⟩
  · rintro ⟨⟨content, held, rfl⟩, passed⟩
    exact (agrees fields content).mp (givesText_iff.mp ⟨held, checked content ▸ passed⟩)
  · obtain ⟨content, rfl⟩ := onto params
    obtain ⟨held, passed⟩ := givesText_iff.mpr ((agrees fields content).mpr given)
    exact ⟨⟨content, held, rfl⟩, (checked content).trans passed⟩

/-- A change of status needs a status that is not blank. -/
theorem status_schema : Schema StatusParams ["status"] StatusParams.GivenBy :=
  schema_of_text (fun _ => rfl) (fun params => ⟨params.status, rfl⟩) (fun _ => rfl)
    fun _ _ => ⟨StatusParams.GivenBy.mk, StatusParams.GivenBy.status⟩

/-- A tag needs a text that is not blank. -/
theorem tag_schema : Schema TagParams ["tag"] TagParams.GivenBy :=
  schema_of_text (fun _ => rfl) (fun params => ⟨params.tag, rfl⟩) (fun _ => rfl)
    fun _ _ => ⟨TagParams.GivenBy.mk, TagParams.GivenBy.tag⟩

/-- The address of a webhook begins as that of a web page does. -/
theorem isWebAddress_iff {url : String} :
    isWebAddress url = true ↔ "http://".toList <+: url.toList ∨ "https://".toList <+: url.toList := by
  rw [isWebAddress, Bool.or_eq_true, List.isPrefixOf_iff_prefix, List.isPrefixOf_iff_prefix]

/-- A webhook needs an address, and may have a method, headers and a payload. -/
theorem webhook_schema :
    Schema WebhookParams ["url", "method", "headers", "payload"] WebhookParams.GivenBy := by
  have checked_iff (params : WebhookParams) : check params = .ok () ↔ isWebAddress params.url = true := by
    simp only [check]
    cases isWebAddress params.url <;> simp
  refine schema_of_record (fun _ => rfl)
    (fun fields => ((((Record.reads_field "url" Decoder.text none none).map WebhookParams.mk).seq
      (Record.reads_field "method" WebMethod.decoder (some .post) (some .post))).seq
      (Record.reads_field "headers" (Decoder.fields Decoder.text) (some Fields.empty) (some Fields.empty))).seq
      (Record.reads_field "payload" (Decoder.optional Decoder.value) (some none) (some none)))
    fun fields params => ?_
  rw [checked_iff, isWebAddress_iff]
  constructor
  · rintro ⟨⟨_, payload, ⟨_, headers, ⟨_, method, ⟨url, held, rfl⟩, heldMethod, rfl⟩, heldHeaders, rfl⟩,
      heldPayload, rfl⟩, web⟩
    exact ⟨holds_text_iff.mp held, web, holds_method_iff.mp heldMethod,
      (holds_table_iff fun _ _ => decode_text_iff).mp heldHeaders, holds_payload_iff.mp heldPayload⟩
  · rintro ⟨held, web, heldMethod, heldHeaders, heldPayload⟩
    exact ⟨⟨_, _, ⟨_, _, ⟨_, _, ⟨_, holds_text_iff.mpr held, rfl⟩, holds_method_iff.mpr heldMethod, rfl⟩,
      (holds_table_iff fun _ _ => decode_text_iff).mpr heldHeaders, rfl⟩,
      holds_payload_iff.mpr heldPayload, rfl⟩, web⟩

/-- A workflow needs its identifier, and may have input. -/
theorem workflow_schema : Schema WorkflowParams ["workflow_id", "input"] WorkflowParams.GivenBy := by
  refine schema_of_record (fun _ => rfl)
    (fun fields => ((Record.reads_field "workflow_id" Decoder.text none none).map WorkflowParams.mk).seq
      (Record.reads_field "input" (Decoder.fields Decoder.value) (some Fields.empty) (some Fields.empty)))
    fun fields params => ⟨?_, fun ⟨given, input⟩ => ?_⟩
  · rintro ⟨⟨_, input, ⟨workflow, held, rfl⟩, heldInput, rfl⟩, checked⟩
    exact ⟨givesText_iff.mp ⟨held, checked⟩, (holds_table_iff fun _ _ => decode_value_iff).mp heldInput⟩
  · obtain ⟨held, checked⟩ := givesText_iff.mpr given
    exact ⟨⟨_, _, ⟨_, held, rfl⟩, (holds_table_iff fun _ _ => decode_value_iff).mpr input, rfl⟩, checked⟩

/-- An agent needs an identifier. -/
theorem agent_schema : Schema AgentParams ["agent_id"] AgentParams.GivenBy := by
  refine schema_of_record (fun _ => rfl)
    (fun fields => (Record.reads_field "agent_id" Decoder.uuid none none).map AgentParams.mk)
    fun fields params => ⟨?_, fun ⟨given⟩ => ?_⟩
  · rintro ⟨⟨_, held, rfl⟩, _⟩
    exact ⟨givesId_iff.mp held⟩
  · exact ⟨⟨_, givesId_iff.mpr given, rfl⟩, rfl⟩

/-- A change of a field needs the name of the field and any value. -/
theorem field_schema : Schema FieldParams ["field", "value"] FieldParams.GivenBy := by
  refine schema_of_record (fun _ => rfl)
    (fun fields => ((Record.reads_field "field" Decoder.text none none).map FieldParams.mk).seq
      (Record.reads_field "value" Decoder.value none none))
    fun fields params => ⟨?_, fun ⟨given, value⟩ => ?_⟩
  · rintro ⟨⟨_, value, ⟨field, held, rfl⟩, heldValue, rfl⟩, checked⟩
    exact ⟨givesText_iff.mp ⟨held, checked⟩, holds_value_iff.mp heldValue⟩
  · obtain ⟨held, checked⟩ := givesText_iff.mpr given
    exact ⟨⟨_, _, ⟨_, held, rfl⟩, holds_value_iff.mpr value, rfl⟩, checked⟩

/-- The parameters of each kind of action are read from the fields that give them, and from no others. -/
theorem params_follow_schemas :
    Schema MessageParams ["content", "channel_id"] MessageParams.GivenBy ∧
      Schema StatusParams ["status"] StatusParams.GivenBy ∧ Schema TagParams ["tag"] TagParams.GivenBy ∧
      Schema WebhookParams ["url", "method", "headers", "payload"] WebhookParams.GivenBy ∧
      Schema WorkflowParams ["workflow_id", "input"] WorkflowParams.GivenBy ∧
      Schema AgentParams ["agent_id"] AgentParams.GivenBy ∧
      Schema FieldParams ["field", "value"] FieldParams.GivenBy ∧
      ∀ (kind : ActionKind) (action : Action),
        (∃ written, kind.readParams action = .ok written) ↔ kind.Takes action.params := by
  refine ⟨message_schema, status_schema, tag_schema, webhook_schema, workflow_schema, agent_schema,
    field_schema, fun kind action => ?_⟩
  cases kind with
  | sendMessage => exact message_schema.exists_written action
  | changeStatus => exact status_schema.exists_written action
  | addTag | removeTag => exact tag_schema.exists_written action
  | sendWebhook => exact webhook_schema.exists_written action
  | triggerWorkflow => exact workflow_schema.exists_written action
  | assignAgent => exact agent_schema.exists_written action
  | updateContactField => exact field_schema.exists_written action

/-- The name of a method may stand alone in an object, and a field that is not known changes nothing. -/
example :
    let action := (Action.ofKind .sendWebhook).withParam "url" (.text "https://example.com/hook")
      |>.withParam "method" (.object [("put", .null)]) |>.withParam "colour" (.text "blue")
    (ofAction action).map (fun params : WebhookParams => (params.method, params.payload)) = .ok (.put, none) :=
  rfl

end Params

end ContactRules
