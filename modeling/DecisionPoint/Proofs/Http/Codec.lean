import DecisionPoint.Http.Codec
import DecisionPoint.Proofs.Request.ReadBack
import DecisionPoint.Proofs.Text.ByteOrder

/-!
# Encoding results and decoding requests

The text of a response is read back as the document that it was written from, so whoever receives it
finds the identifier of the request in it.  The message of a request has a record of its own, in
which every field may be left out and no other member may stand.  The document of a request has
exactly these members, so nothing of it is refused and nothing is lost.
-/

set_option autoImplicit false

namespace DecisionPoint

namespace ResponseMessage

theorem isPlain_document (entityId : String) (result : FinalResult) :
    (document entityId result).isPlain = true := by
  have text (name : String) (value : Option String) :=
    Json.plain_member? name Json.string (fun _ => rfl) value
  rw [document, Json.isPlain, Json.arePlainMembers_iff]
  intro member mem
  rw [List.mem_append, List.mem_append] at mem
  rcases mem with (field | resource) | obligations
  · simp only [List.mem_cons, List.not_mem_nil, or_false] at field
    rcases field with rfl | rfl | rfl | rfl | rfl | rfl
    · rfl
    · rfl
    · rfl
    · rfl
    · rfl
    · rw [Json.isPlain, Json.arePlainMembers_iff, List.forall_mem_cons]
      exact ⟨rfl, text "message" result.outcome.status.message⟩
  · exact text "resource_id" result.outcome.resourceId member resource
  · split at obligations
    · cases obligations
    · cases List.mem_singleton.mp obligations
      rw [Json.isPlain, Json.arePlainElements_iff]
      intro element own
      obtain ⟨obligation, -, rfl⟩ := List.mem_map.mp own
      exact obligation.isPlain_toJson

/-- Whoever reads a response finds the request that it answers. -/
theorem parse_encode (entityId : String) (result : FinalResult) :
    ∃ members, Json.parse (encode entityId result) = some (.object members) ∧
      members.lookup "in_response_to" = some (.string result.requestId) := by
  refine ⟨_, Json.parse_text _ (isPlain_document entityId result), ?_⟩
  rfl

end ResponseMessage

theorem Text.fromUTF8?_toUTF8 (text : String) : String.fromUTF8? text.toUTF8 = some text := by
  rw [String.fromUTF8?, String.toUTF8_eq_toByteArray, dif_pos text.isValidUTF8]
  rfl

theorem Text.bytes_injective {first second : String} (same : bytes first = bytes second) :
    first = second := by
  have encoded : first.toUTF8 = second.toUTF8 := ByteArray.ext (Array.toList_inj.mp same)
  have read := Text.fromUTF8?_toUTF8 first
  rw [encoded, Text.fromUTF8?_toUTF8] at read
  exact (Option.some.inj read).symm

namespace RequestMessage

/-! ## Blank bodies -/

theorem utf8EncodeChar_blank {byte : UInt8} (blank : isBlankByte byte = true) :
    String.utf8EncodeChar (Char.ofNat byte.toNat) = [byte] := by
  simp only [isBlankByte, Bool.or_eq_true, decide_eq_true_eq] at blank
  rcases blank with (((rfl | rfl) | rfl) | rfl) | rfl <;> rfl

theorem isBlank_or_formFeed {byte : UInt8} (blank : isBlankByte byte = true) :
    Json.isBlank (Char.ofNat byte.toNat) = true ∨ Char.ofNat byte.toNat = Char.ofNat 12 := by
  simp only [isBlankByte, Bool.or_eq_true, decide_eq_true_eq] at blank
  rcases blank with (((rfl | rfl) | rfl) | rfl) | rfl <;> decide

theorem toList_of_blank {text : String}
    (blank : ∀ byte ∈ Text.bytes text, isBlankByte byte = true) :
    text.toList = (Text.bytes text).map fun byte => Char.ofNat byte.toNat := by
  have same : Text.bytes (String.ofList ((Text.bytes text).map fun byte => Char.ofNat byte.toNat)) =
      Text.bytes text := by
    rw [Text.bytes_eq_flatMap, String.toList_ofList, List.flatMap_map]
    calc (Text.bytes text).flatMap (fun byte => String.utf8EncodeChar (Char.ofNat byte.toNat))
        = (Text.bytes text).flatMap fun byte => [byte] :=
          List.flatMap_congr fun byte mem => utf8EncodeChar_blank (blank byte mem)
      _ = Text.bytes text := List.flatMap_singleton' _
  conv_lhs => rw [← Text.bytes_injective same, String.toList_ofList]

theorem parse_blank {text : String}
    (blank : ∀ byte ∈ Text.bytes text, isBlankByte byte = true) : Json.parse text = none := by
  rw [Json.parse, Json.parseChars]
  cases left : Json.skipBlanks text.toList with
  | nil => rfl
  | cons c rest =>
      have black := List.head?_dropWhile_not Json.isBlank text.toList
      rw [show text.toList.dropWhile Json.isBlank = c :: rest from left] at black
      have mem : c ∈ text.toList := (List.dropWhile_suffix _).subset (left ▸ List.mem_cons_self)
      rw [toList_of_blank blank] at mem
      obtain ⟨byte, mem', rfl⟩ := List.mem_map.mp mem
      rcases isBlank_or_formFeed (blank byte mem') with white | feed
      · exact absurd (white.symm.trans black) (by decide)
      · rw [feed]
        simp [Json.spanValue, Json.spanNumeral, Json.spanDigits]

theorem finish_ne_empty (fresh : String) (draft : Request.Draft) :
    finish fresh draft ≠ .error .empty := by
  rw [finish]
  split
  · split <;> simp
  · simp

theorem decodeText_ne_empty (fresh text : String) : decodeText fresh text ≠ .error .empty := by
  rw [decodeText]
  split
  · simp
  · simp
  · exact finish_ne_empty fresh _

theorem decode_eq_empty_iff (fresh : String) (body : ByteArray) :
    decode fresh body = .error .empty ↔ ∀ byte ∈ body.data.toList, isBlankByte byte = true := by
  rw [← List.all_eq_true, Array.all_toList]
  constructor
  · intro empty
    by_contra black
    rw [decode, if_neg black] at empty
    split at empty
    · cases empty
    · exact decodeText_ne_empty fresh _ empty
  · intro blank
    rw [decode, if_pos blank]

theorem decode_document (fresh : String) {text : String} {document : Json}
    (parsed : Json.parse text = some document) :
    decode fresh text.toUTF8 =
      match record.read .json document with
      | .ok draft => finish fresh draft
      | .error reason =>
        .error (.malformed (if document.hasValueAt 0 then reason.message else illFormed)) := by
  have black : text.toUTF8.data.all isBlankByte ≠ true := by
    intro blank
    rw [← Array.all_toList, List.all_eq_true] at blank
    rw [parse_blank blank] at parsed
    cases parsed
  rw [decode, if_neg black, Text.fromUTF8?_toUTF8]
  simp only [decodeText, Json.decode, parsed]
  cases record.read .json document with
  | ok draft => rfl
  | error reason => cases document.hasValueAt 0 <;> rfl

/-! ## Written requests -/

/-- What the record of a message holds of a written request. -/
theorem read_toJson (request : Request) :
    record.read .json request.toJson =
      .ok ⟨some (some request.id), request.issuer.map some, some request.subject,
        some request.resources, some request.action, some request.environment⟩ := by
  obtain ⟨id, issuer, subject, resources, action, environment⟩ := request
  have resources := Json.readList_map .json resources
    fun resource _ => AttributeSet.read_toJson resource
  cases issuer with
  | none =>
      simp [record, Request.otherFields, Request.toJson, Json.member?, Json.Record.read,
        Json.Record.fillMembers, Json.field, resources, AttributeSet.read_toJson]
      rfl
  | some issuer =>
      simp [record, Request.otherFields, Request.toJson, Json.member?, Json.Record.read,
        Json.Record.fillMembers, Json.field, resources, AttributeSet.read_toJson]
      rfl

theorem decode_toJson (fresh : String) (request : Request) :
    decode fresh request.toJson.text.toUTF8 =
      finish fresh ⟨some (some request.id), request.issuer.map some, some request.subject,
        some request.resources, some request.action, some request.environment⟩ := by
  rw [decode_document fresh (Json.parse_text _ request.isPlain_toJson), read_toJson]

/-- Nothing but an empty identifier keeps a request from coming in. -/
theorem decode_of_named (fresh : String) {request : Request} (named : request.id.isEmpty = false) :
    decode fresh request.toJson.text.toUTF8 = .ok request := by
  rw [decode_toJson]
  simp only [finish, Option.join_some, named]
  obtain ⟨id, issuer, subject, resources, action, environment⟩ := request
  cases issuer <;> rfl

/-- A request that is sent as its own document arrives as it was sent, unless its identifier is
empty: then it is refused for that. -/
theorem decode_sent (fresh : String) (request : Request) :
    decode fresh request.toJson.text.toUTF8 =
      if request.id.isEmpty then .error (.invalid "request_id must not be empty")
      else .ok request := by
  rw [decode_toJson]
  obtain ⟨id, issuer, subject, resources, action, environment⟩ := request
  cases issuer <;> rfl

end RequestMessage

end DecisionPoint
