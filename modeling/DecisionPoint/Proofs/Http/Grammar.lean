import DecisionPoint.Proofs.Http.Codec
import DecisionPoint.Proofs.Json.Fields
import DecisionPoint.Proofs.Keyed

/-!
# The grammar of requests

Which documents describe a request, said without the reader: what members an object may have, how
many values an array may give, and what each of them is.  The decoder takes exactly these documents,
and makes of each the request that it describes.
-/

set_option autoImplicit false

namespace DecisionPoint

open Json

/-! ## Attributes -/

namespace Attribute

def fieldNames : List String := ["id", "data_type", "issuer", "values"]

/-- A document that describes an attribute: an object, whose other members do not count, or an array
of up to four values. -/
def Described (value : Json) (entry : Attribute) : Prop :=
  ∃ members, Lists fieldNames 1 value members ∧
    Holds IsText (valuesOf "id" members) (some entry.id) ∧
    Gives IsText (valuesOf "data_type" members) stringDataType entry.dataType ∧
    Gives IsTextOrNull (valuesOf "issuer" members) none entry.issuer ∧
    Gives (IsList IsText) (valuesOf "values" members) [] entry.values

section Draft

variable {members : List (String × Json)} {draft : Draft}

theorem readStrings_iff {value : Json} {texts : List String} :
    readList .json (readString .json) value = .ok texts ↔ IsList IsText value texts :=
  readList_iff fun _ _ => readString_iff

theorem serves_id : (record .json).Serves "id" IsText Draft.id := by
  simp [Record.Serves, record, readString_iff]

theorem serves_dataType : (record .json).Serves "data_type" IsText Draft.dataType := by
  simp [Record.Serves, record, readString_iff]

theorem serves_issuer : (record .json).Serves "issuer" IsTextOrNull Draft.issuer := by
  simp [Record.Serves, record, readOption_iff]

theorem serves_values : (record .json).Serves "values" (IsList IsText) Draft.values := by
  simp [Record.Serves, record, readStrings_iff]

theorem reads_draft
    (filled : (record .json).fillMembers members [] (record .json).blank = .ok draft) :
    Holds IsText (valuesOf "id" members) draft.id ∧
      Holds IsText (valuesOf "data_type" members) draft.dataType ∧
      Holds IsTextOrNull (valuesOf "issuer" members) draft.issuer ∧
      Holds (IsList IsText) (valuesOf "values" members) draft.values :=
  ⟨serves_id.holds (by simp [Record.names, record, field]) rfl filled,
    serves_dataType.holds (by simp [Record.names, record, field]) rfl filled,
    serves_issuer.holds (by simp [Record.names, record, field]) rfl filled,
    serves_values.holds (by simp [Record.names, record, field]) rfl filled⟩

theorem exists_draft {id dataType : Option String} {issuer : Option (Option String)}
    {values : Option (List String)} (holdsId : Holds IsText (valuesOf "id" members) id)
    (holdsType : Holds IsText (valuesOf "data_type" members) dataType)
    (holdsIssuer : Holds IsTextOrNull (valuesOf "issuer" members) issuer)
    (holdsValues : Holds (IsList IsText) (valuesOf "values" members) values) :
    (record .json).fillMembers members [] (record .json).blank =
      .ok ⟨id, dataType, issuer, values⟩ := by
  have fits : ∀ field ∈ (record .json).fields, Record.Fits field members := by
    simp only [record, List.forall_mem_cons]
    exact ⟨Record.field_fits (fun _ _ => readString_iff) holdsId,
      Record.field_fits (fun _ _ => readString_iff) holdsType,
      Record.field_fits (fun _ _ => readOption_iff) holdsIssuer,
      Record.field_fits (fun _ _ => readStrings_iff) holdsValues, List.forall_mem_nil _⟩
  refine Record.fillMembers_of_fits (fun strict => by cases strict) fits ?_
  intro draft filled
  obtain ⟨holdsId', holdsType', holdsIssuer', holdsValues'⟩ := reads_draft filled
  rw [holdsId.unique (fun _ _ => readString_iff) holdsId',
    holdsType.unique (fun _ _ => readString_iff) holdsType',
    holdsIssuer.unique (fun _ _ => readOption_iff) holdsIssuer',
    holdsValues.unique (fun _ _ => readStrings_iff) holdsValues']

end Draft

/-- Exactly the documents that describe an attribute are read. -/
theorem read_iff {value : Json} {entry : Attribute} :
    read value = .ok entry ↔ Described value entry := by
  have distinct : (record .json).names.Nodup := by simp [Record.names, record, field]
  rw [read, Record.read_iff distinct 1 (by simp [record]) (by simp [record, field])
    (by simp [record, field])]
  constructor
  · rintro ⟨members, draft, lists, filled, finished⟩
    obtain ⟨holdsId, holdsType, holdsIssuer, holdsValues⟩ := reads_draft filled
    obtain ⟨id, dataType, issuer, values⟩ := draft
    cases id with
    | none => cases finished
    | some id =>
        cases finished
        refine ⟨members, lists, holdsId, ⟨dataType, holdsType, rfl⟩, ⟨issuer, holdsIssuer, ?_⟩,
          values, holdsValues, rfl⟩
        cases issuer <;> rfl
  · rintro ⟨members, lists, holdsId, ⟨dataType, holdsType, typed⟩, ⟨issuer, holdsIssuer, issued⟩,
      values, holdsValues, valued⟩
    refine ⟨members, _, lists, exists_draft holdsId holdsType holdsIssuer holdsValues, ?_⟩
    obtain ⟨id, dataType', issuer', values'⟩ := entry
    cases typed
    cases issued
    cases valued
    cases issuer <;> rfl

end Attribute

namespace AttributeSet

/-- The set that attributes make: their identifiers in the order of first mention, and under each
the last attribute that bears it. -/
structure Gathers (entries : List Attribute) (set : AttributeSet) : Prop where
  order : set.items.map Attribute.id = (entries.map Attribute.id).eraseDups
  last : ∀ id, set.get? id = (entries.filter fun entry => entry.id = id).getLast?

theorem gathers_iff {entries : List Attribute} {set : AttributeSet} :
    Gathers entries set ↔ Keyed.ofList entries = set := by
  constructor
  · rintro ⟨order, last⟩
    refine Keyed.ext_get? ?_ ?_
    · rw [Keyed.map_items_ofList, order]
    · intro id
      rw [Keyed.get?_ofList, last]
  · rintro rfl
    exact ⟨Keyed.map_items_ofList entries, Keyed.get?_ofList entries⟩

/-- A list of attributes, taken as a set. -/
def Described (value : Json) (set : AttributeSet) : Prop :=
  ∃ entries, IsList Attribute.Described value entries ∧ Gathers entries set

theorem read_iff {value : Json} {set : AttributeSet} :
    read value = .ok set ↔ Described value set := by
  simp only [read, Described, map_ok_iff, gathers_iff,
    readList_iff fun _ _ => Attribute.read_iff]

theorem readAll_iff {value : Json} {sets : List AttributeSet} :
    readList .json read value = .ok sets ↔ IsList Described value sets :=
  readList_iff fun _ _ => read_iff

end AttributeSet

/-! ## Requests -/

namespace RequestMessage

def fieldNames : List String :=
  ["request_id", "issuer", "subject", "resources", "action", "environment"]

/-- What a document says about a request. -/
structure Content where
  id : Option String
  issuer : Option String
  subject : AttributeSet
  resources : List AttributeSet
  action : AttributeSet
  environment : AttributeSet

/-- The request that is made of some content; one without an identifier gets the fresh one. -/
def Content.request (fresh : String) (content : Content) : Request :=
  ⟨content.id.getD fresh, content.issuer, content.subject, content.resources, content.action,
    content.environment⟩

/-- Members that describe a request: none of them is unknown or given twice. -/
structure Describes (members : List (String × Json)) (content : Content) : Prop where
  distinct : (members.map Prod.fst).Nodup
  known : ∀ name ∈ members.map Prod.fst, name ∈ fieldNames
  id : Gives IsTextOrNull (valuesOf "request_id" members) none content.id
  issuer : Gives IsTextOrNull (valuesOf "issuer" members) none content.issuer
  subject : Gives AttributeSet.Described (valuesOf "subject" members) .empty content.subject
  resources : Gives (IsList AttributeSet.Described) (valuesOf "resources" members) []
    content.resources
  action : Gives AttributeSet.Described (valuesOf "action" members) .empty content.action
  environment : Gives AttributeSet.Described (valuesOf "environment" members) .empty
    content.environment

/-- A document that describes a request: an object, or an array of up to six values. -/
def Described (value : Json) (content : Content) : Prop :=
  ∃ members, Lists fieldNames 0 value members ∧ Describes members content

section Draft

open Request (Draft)

variable {members : List (String × Json)} {draft : Draft}

theorem serves_id : record.Serves "request_id" IsTextOrNull Draft.id := by
  simp [Record.Serves, record, Request.otherFields, readOption_iff]

theorem serves_issuer : record.Serves "issuer" IsTextOrNull Draft.issuer := by
  simp [Record.Serves, record, Request.otherFields, readOption_iff]

theorem serves_subject : record.Serves "subject" AttributeSet.Described Draft.subject := by
  simp [Record.Serves, record, Request.otherFields, AttributeSet.read_iff]

theorem serves_resources :
    record.Serves "resources" (IsList AttributeSet.Described) Draft.resources := by
  simp [Record.Serves, record, Request.otherFields, AttributeSet.readAll_iff]

theorem serves_action : record.Serves "action" AttributeSet.Described Draft.action := by
  simp [Record.Serves, record, Request.otherFields, AttributeSet.read_iff]

theorem serves_environment :
    record.Serves "environment" AttributeSet.Described Draft.environment := by
  simp [Record.Serves, record, Request.otherFields, AttributeSet.read_iff]

theorem names_record : record.names = fieldNames := rfl

/-- What a draft holds of some members. -/
structure Reads (members : List (String × Json)) (draft : Draft) : Prop where
  id : Holds IsTextOrNull (valuesOf "request_id" members) draft.id
  issuer : Holds IsTextOrNull (valuesOf "issuer" members) draft.issuer
  subject : Holds AttributeSet.Described (valuesOf "subject" members) draft.subject
  resources : Holds (IsList AttributeSet.Described) (valuesOf "resources" members) draft.resources
  action : Holds AttributeSet.Described (valuesOf "action" members) draft.action
  environment : Holds AttributeSet.Described (valuesOf "environment" members) draft.environment

theorem reads_of_filled (filled : record.fillMembers members [] record.blank = .ok draft) :
    Reads members draft where
  id := serves_id.holds (by simp [names_record, fieldNames]) rfl filled
  issuer := serves_issuer.holds (by simp [names_record, fieldNames]) rfl filled
  subject := serves_subject.holds (by simp [names_record, fieldNames]) rfl filled
  resources := serves_resources.holds (by simp [names_record, fieldNames]) rfl filled
  action := serves_action.holds (by simp [names_record, fieldNames]) rfl filled
  environment := serves_environment.holds (by simp [names_record, fieldNames]) rfl filled

theorem Reads.unique {draft' : Draft} (reads : Reads members draft)
    (reads' : Reads members draft') : draft = draft' := by
  obtain ⟨id, issuer, subject, resources, action, environment⟩ := draft
  obtain ⟨id', issuer', subject', resources', action', environment'⟩ := draft'
  congr
  · exact reads.id.unique (fun _ _ => readOption_iff) reads'.id
  · exact reads.issuer.unique (fun _ _ => readOption_iff) reads'.issuer
  · exact reads.subject.unique (fun _ _ => AttributeSet.read_iff) reads'.subject
  · exact reads.resources.unique (fun _ _ => AttributeSet.readAll_iff) reads'.resources
  · exact reads.action.unique (fun _ _ => AttributeSet.read_iff) reads'.action
  · exact reads.environment.unique (fun _ _ => AttributeSet.read_iff) reads'.environment

theorem filled_of_reads (known : ∀ name ∈ members.map Prod.fst, name ∈ fieldNames)
    (reads : Reads members draft) :
    record.fillMembers members [] record.blank = .ok draft := by
  have fits : ∀ field ∈ record.fields, Record.Fits field members := by
    simp only [record, Request.otherFields, List.forall_mem_cons]
    exact ⟨Record.field_fits (fun _ _ => readOption_iff) reads.id,
      Record.field_fits (fun _ _ => readOption_iff) reads.issuer,
      Record.field_fits (fun _ _ => AttributeSet.read_iff) reads.subject,
      Record.field_fits (fun _ _ => AttributeSet.readAll_iff) reads.resources,
      Record.field_fits (fun _ _ => AttributeSet.read_iff) reads.action,
      Record.field_fits (fun _ _ => AttributeSet.read_iff) reads.environment, List.forall_mem_nil _⟩
  exact Record.fillMembers_of_fits (fun _ => known) fits
    fun _ filled => reads.unique (reads_of_filled filled)

def contentOf (draft : Draft) : Content :=
  ⟨draft.id.join, draft.issuer.join, draft.subject.getD .empty, draft.resources.getD [],
    draft.action.getD .empty, draft.environment.getD .empty⟩

theorem join_eq_getD (held : Option (Option String)) : held.join = held.getD none := by
  cases held <;> rfl

theorem exists_read_iff {value : Json} {content : Content} :
    (∃ draft, record.read .json value = .ok draft ∧ contentOf draft = content) ↔
      Described value content := by
  have distinct : record.names.Nodup := by simp [names_record, fieldNames]
  simp only [Record.read_iff distinct 0 (by simp [record]) (by simp [record])
    (by simp [record, Request.otherFields, field])]
  constructor
  · rintro ⟨draft, ⟨members, _, lists, filled, ⟨⟩⟩, rfl⟩
    obtain ⟨once, allowed⟩ := Record.fillMembers_strict rfl filled
    have reads : Reads members draft := reads_of_filled filled
    exact ⟨members, lists,
      { distinct := once
        known := fun name mem => (allowed name mem).1
        id := ⟨_, reads.id, (join_eq_getD _).symm⟩
        issuer := ⟨_, reads.issuer, (join_eq_getD _).symm⟩
        subject := ⟨_, reads.subject, rfl⟩
        resources := ⟨_, reads.resources, rfl⟩
        action := ⟨_, reads.action, rfl⟩
        environment := ⟨_, reads.environment, rfl⟩ }⟩
  · rintro ⟨members, lists, describes⟩
    obtain ⟨-, known, ⟨id, id', named⟩, ⟨issuer, issuer', issued⟩, ⟨subject, subject', subjected⟩,
      ⟨resources, resources', listed⟩, ⟨action, action', acted⟩,
      environment, environment', surrounded⟩ := describes
    have filled : record.fillMembers members [] record.blank =
        .ok ⟨id, issuer, subject, resources, action, environment⟩ :=
      filled_of_reads known ⟨id', issuer', subject', resources', action', environment'⟩
    refine ⟨_, ⟨members, _, lists, filled, rfl⟩, ?_⟩
    obtain ⟨contentId, contentIssuer, _, _, _, _⟩ := content
    simp only [contentOf, join_eq_getD, named, issued, subjected, listed, acted, surrounded]

theorem finish_eq (fresh : String) (draft : Draft) :
    finish fresh draft =
      if (contentOf draft).id = some "" then .error (.invalid "request_id must not be empty")
      else .ok ((contentOf draft).request fresh) := by
  rw [finish]
  split
  · next id named =>
      have same : (contentOf draft).id = some id := named
      by_cases empty : id = ""
      · simp [same, empty]
      · simp [empty, Content.request, Draft.toRequest, contentOf, named]
  · next unnamed =>
      simp [contentOf, unnamed, Content.request, Draft.toRequest]

end Draft

def Spells (body : ByteArray) (document : Json) : Prop :=
  ∃ text : String, body = text.toUTF8 ∧ Json.parse text = some document

/-- What comes of a document: it describes a request or it is malformed. -/
theorem decode_cases (fresh : String) {body : ByteArray} {document : Json}
    (spells : Spells body document) :
    (∃ content, (∀ other, Described document other ↔ other = content) ∧
      decode fresh body =
        if content.id = some "" then .error (.invalid "request_id must not be empty")
        else .ok (content.request fresh)) ∨
    (∀ content, ¬ Described document content) ∧
      ∃ reason, decode fresh body = .error (.malformed reason) := by
  obtain ⟨text, rfl, parsed⟩ := spells
  rw [decode_document fresh parsed]
  simp only [← exists_read_iff]
  cases taken : record.read .json document with
  | error reason => exact .inr ⟨by simp, _, rfl⟩
  | ok draft =>
      refine .inl ⟨contentOf draft, ?_, finish_eq fresh draft⟩
      intro other
      simp [eq_comm]

/-- A body is empty if all its bytes are blank.  Any other body that is a document gives a request
if the document describes one, with the identifier that it gives or else the fresh one, unless the
identifier is empty; a document that describes none is malformed. -/
theorem decode_follows_grammar (fresh : String) (body : ByteArray) :
    (decode fresh body = .error .empty ↔ ∀ byte ∈ body.data.toList, byte ∈ [32, 9, 10, 12, 13]) ∧
    ∀ document, Spells body document →
      decode fresh body ≠ .error .empty ∧
      (∀ request, decode fresh body = .ok request ↔
        ∃ content, Described document content ∧ content.id ≠ some "" ∧
          content.request fresh = request) ∧
      (∀ reason, decode fresh body = .error (.invalid reason) ↔
        reason = "request_id must not be empty" ∧
          ∃ content, Described document content ∧ content.id = some "") ∧
      ((∃ reason, decode fresh body = .error (.malformed reason)) ↔
        ¬ ∃ content, Described document content) := by
  constructor
  · rw [decode_eq_empty_iff]
    simp [isBlankByte, or_assoc]
  · intro document spells
    rcases decode_cases fresh spells with ⟨content, only, decoded⟩ | ⟨none, reason, decoded⟩
    · by_cases empty : content.id = some ""
      · rw [if_pos empty] at decoded
        simp [decoded, only, empty, eq_comm]
      · rw [if_neg empty] at decoded
        simp [decoded, only, empty]
    · simp [decoded, none]

end RequestMessage

end DecisionPoint
