import DecisionPoint.Json.Reader
import DecisionPoint.Proofs.Json.ReadBack

/-!
# Readers undo writers

What a reader makes of the document that a list of values is written as, and which documents of
this kind are plain, so that a text shows them whole.
-/

set_option autoImplicit false

namespace DecisionPoint.Json

theorem arePlainElements_iff (elements : List Json) :
    arePlainElements elements = true ↔ ∀ element ∈ elements, element.isPlain = true := by
  induction elements with
  | nil => simp [arePlainElements]
  | cons element rest ih => simp [arePlainElements, ih]

theorem arePlainMembers_iff (members : List (String × Json)) :
    arePlainMembers members = true ↔ ∀ member ∈ members, member.2.isPlain = true := by
  induction members with
  | nil => simp [arePlainMembers]
  | cons member rest ih => simp [arePlainMembers, ih]

theorem isPlain_strings (values : List String) : (strings values).isPlain = true := by
  simp [strings, isPlain, arePlainElements_iff]

theorem plain_member? {α : Type} (name : String) (encode : α → Json)
    (plain : ∀ a, (encode a).isPlain = true) (value : Option α) :
    ∀ member ∈ member? name encode value, member.2.isPlain = true := by
  cases value <;> simp [member?, plain]

theorem readList_map {α : Type} (dialect : Dialect) {read : Reader α} {encode : α → Json}
    (values : List α) (undone : ∀ value ∈ values, read (encode value) = .ok value) :
    readList dialect read (.array (values.map encode)) = .ok values := by
  rw [readList]
  induction values with
  | nil => rfl
  | cons value rest ih =>
      rw [List.map_cons, List.mapM_cons, undone value List.mem_cons_self,
        ih fun other among => undone other (List.mem_cons_of_mem _ among)]
      rfl

theorem readMembers_map {α δ : Type} (dialect : Dialect) {read : Reader α} {encode : α → Json}
    (undone : ∀ value, read (encode value) = .ok value) (insert : δ → String → α → δ)
    (items : List (String × α)) (start : δ) :
    readMembers dialect read insert start
        (.object (items.map fun (name, value) => (name, encode value))) =
      .ok (items.foldl (fun placed item => insert placed item.1 item.2) start) := by
  rw [readMembers]
  induction items generalizing start with
  | nil => rfl
  | cons item rest ih =>
      simp only [List.map_cons, List.foldlM_cons, undone, List.foldl_cons]
      exact ih (insert start item.1 item.2)

theorem plain_option {α : Type} (encode : α → Json) (plain : ∀ a, (encode a).isPlain = true)
    (value : Option α) : (option encode value).isPlain = true := by
  cases value with
  | none => rfl
  | some held => exact plain held

theorem readOption_option {α : Type} {read : Reader α} {encode : α → Json} (value : Option α)
    (undone : ∀ held ∈ value, read (encode held) = .ok held)
    (present : ∀ held, encode held ≠ .null) :
    readOption read (option encode value) = .ok value := by
  cases value with
  | none => rfl
  | some held =>
      rw [option]
      unfold readOption
      split
      · next absent => exact absurd absent (present held)
      · rw [undone held rfl]
        rfl

theorem readList_strings (dialect : Dialect) (values : List String) :
    readList dialect (readString dialect) (strings values) = .ok values :=
  readList_map dialect values fun _ _ => rfl

theorem readOption_string (dialect : Dialect) (value : Option String) :
    readOption (readString dialect) (option .string value) = .ok value :=
  readOption_option value (fun _ _ => rfl) fun _ => nofun

theorem readWord_nat (dialect : Dialect) (label : String) (word : UInt64) :
    readWord dialect label (nat word.toNat) = .ok word := by
  have fits : (0 : Int) ≤ word.toNat ∧ (word.toNat : Int) < Nat.pow 2 64 := by
    have small := word.toNat_lt
    exact ⟨Int.natCast_nonneg _, Int.ofNat_lt.mpr small⟩
  rw [readWord, nat, readUnsigned, if_pos fits]
  exact congrArg Except.ok (UInt64.ofNat_toNat)

theorem isPlain_nat (word : UInt64) : (nat word.toNat).isPlain = true := by
  have small : word.toNat ≤ maxWord := Nat.le_pred_of_lt word.toNat_lt
  simp only [nat, isPlain, Number.isWord, Bool.and_eq_true, decide_eq_true_eq]
  omega

theorem decode_ok_iff {α : Type} {read : Reader α} {text : String} {value : α} :
    decode read text = .ok value ↔
      ∃ document, parse text = some document ∧ read document = .ok value := by
  unfold decode
  cases parse text with
  | none => simp
  | some document =>
      cases taken : read document with
      | ok found => simp [taken]
      | error reason =>
          simp only [taken]
          cases document.hasValueAt 0 <;> simp [taken]

theorem decode_congr {α : Type} {read : Reader α} {text text' : String} {document document' : Json}
    (parsed : parse text = some document) (parsed' : parse text' = some document')
    (alike : read document = read document')
    (value : document.hasValueAt 0 = document'.hasValueAt 0) :
    decode read text = decode read text' := by
  simp only [decode, parsed, parsed', alike, value]

theorem decode_text {α : Type} {read : Reader α} {document : Json} {value : α}
    (plain : document.isPlain = true) (taken : read document = .ok value) :
    decode read document.text = .ok value :=
  decode_ok_iff.mpr ⟨document, parse_text document plain, taken⟩

end DecisionPoint.Json
