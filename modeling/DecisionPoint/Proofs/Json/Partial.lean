import DecisionPoint.Proofs.Json.Canonical
import DecisionPoint.Proofs.Json.Fields

/-!
# Documents in part

What a record reads when members are left out of a document, and what it refuses when there are
members too many.  A record whose fields all have a default skips what is left out; one that is
strict has no place for a stranger, however deep the stranger stands.
-/

set_option autoImplicit false

namespace DecisionPoint.Json

/-! ## Leaving members out -/

mutual

/-- A document without the members at some paths, each a list of names from the root. -/
def without (deleted : List String → Bool) : Json → Json
  | .object members => .object (membersWithout deleted members)
  | other => other

def membersWithout (deleted : List String → Bool) :
    List (String × Json) → List (String × Json)
  | [] => []
  | (name, value) :: rest =>
    if deleted [name] then membersWithout deleted rest
    else (name, value.without fun path => deleted (name :: path)) :: membersWithout deleted rest

end

theorem mem_membersWithout {deleted : List String → Bool} {members : List (String × Json)}
    {member : String × Json} (mem : member ∈ membersWithout deleted members) :
    ∃ original ∈ members,
      member = (original.1, original.2.without fun path => deleted (original.1 :: path)) := by
  induction members with
  | nil => cases mem
  | cons first rest ih =>
      unfold membersWithout at mem
      split at mem
      · obtain ⟨original, own, same⟩ := ih mem
        exact ⟨original, List.mem_cons_of_mem _ own, same⟩
      · rcases List.mem_cons.mp mem with same | mem
        · exact ⟨first, List.mem_cons_self, same⟩
        · obtain ⟨original, own, same⟩ := ih mem
          exact ⟨original, List.mem_cons_of_mem _ own, same⟩

theorem isPlain_without (deleted : List String → Bool) {document : Json}
    (plain : document.isPlain = true) : (document.without deleted).isPlain = true := by
  induction document using byParts generalizing deleted with
  | object members ih =>
      refine (arePlainMembers_iff _).mpr ?_
      intro member mem
      obtain ⟨original, own, rfl⟩ := mem_membersWithout mem
      exact ih original own _ ((arePlainMembers_iff _).mp plain original own)
  | _ => exact plain

theorem without_nothing (document : Json) : document.without (fun _ => false) = document := by
  induction document using byParts with
  | object members ih =>
      have same : membersWithout (fun _ => false) members = members := by
        induction members with
        | nil => rfl
        | cons member rest ih' =>
            obtain ⟨here, later⟩ := List.forall_mem_cons.mp ih
            rw [membersWithout, ih' later, here]
            rfl
      rw [without, same]
  | _ => rfl

/-! ## Strangers -/

/-- A document has a member that an outline does not know, at a place that the outline has. -/
inductive HasStranger : Json → Json → Prop where
  | here {fields members : List (String × Json)} {name : String} {value : Json}
      (given : (name, value) ∈ members) (unknown : name ∉ fields.map Prod.fst) :
      HasStranger (.object fields) (.object members)
  | within {fields members : List (String × Json)} {document outline part : Json} {name : String}
      (lists : Lists (fields.map Prod.fst) 0 document members) (known : (name, outline) ∈ fields)
      (given : (name, part) ∈ members) (stranger : HasStranger outline part) :
      HasStranger (.object fields) document

theorem not_hasStranger {outline document : Json} (leaf : ∀ fields, outline ≠ .object fields) :
    ¬HasStranger outline document := by
  intro stranger
  cases stranger with
  | here => exact leaf _ rfl
  | within => exact leaf _ rfl

/-- A field that stands in an outline and takes no strangers to it. -/
structure Field.Outlined {δ : Type} (field : Field δ) (place : String × Json) : Prop where
  named : field.name = place.1
  refuses : ∀ draft value draft', field.fill draft value = .ok draft' →
    ¬HasStranger place.2 value

theorem field_outlined {δ β : Type} {name : String} {omissible : Bool} {read : Reader β}
    {set : δ → β → δ} {outline : Json}
    (refuses : ∀ value held, read value = .ok held → ¬HasStranger outline value) :
    (field name omissible read set).Outlined (name, outline) := by
  refine ⟨rfl, ?_⟩
  intro draft value draft' filled
  obtain ⟨held, taken, -⟩ := field_fill_iff.mp filled
  exact refuses value held taken

@[simp] theorem field_outlined_leaf {δ β : Type} {name : String} {omissible : Bool}
    {read : Reader β} {set : δ → β → δ} {outline : Json}
    (leaf : ∀ fields, outline ≠ .object fields) :
    (field name omissible read set).Outlined (name, outline) :=
  field_outlined fun _ _ _ => not_hasStranger leaf

theorem Lists.unique {names : List String} {least : Nat} {document : Json}
    {first second : List (String × Json)} (lists : Lists names least document first)
    (lists' : Lists names least document second) : first = second := by
  cases lists <;> cases lists' <;> rfl

namespace Record

variable {δ α : Type} {record : Record δ α} {name : String} {members : List (String × Json)}
  {seen : List String} {draft draft' : δ}

/-- That a name was seen matters only where it comes again. -/
theorem fillMembers_seen (absent : name ∉ members.map Prod.fst) :
    record.fillMembers members (name :: seen) draft = record.fillMembers members seen draft := by
  have forget {members : List (String × Json)} {first second : List String} {draft : δ}
      (alike : ∀ other ∈ members.map Prod.fst, other ∈ first ↔ other ∈ second) :
      record.fillMembers members first draft = record.fillMembers members second draft := by
    induction members generalizing first second draft with
    | nil => rfl
    | cons member rest ih =>
        obtain ⟨other, value⟩ := member
        obtain ⟨here, later⟩ := List.forall_mem_cons.mp alike
        have later' : ∀ another ∈ rest.map Prod.fst,
            another ∈ other :: first ↔ another ∈ other :: second := by
          intro another mem
          simp only [List.mem_cons, later another mem]
        simp only [fillMembers, here, ih later, ih later']
  refine forget ?_
  intro other mem
  have different : other ≠ name := fun same => absent (same ▸ mem)
  rw [List.mem_cons, or_iff_right different]

/-- What fields make of their members in order, some of which are left out: a field whose member is
left out keeps what it is seen to hold. -/
inductive Completes (deleted : List String → Bool) :
    List (Field δ) → List (String × Json) → δ → δ → Prop where
  | nil {draft : δ} : Completes deleted [] [] draft draft
  | cons {β : Type} {omissible : Bool} {read : Reader β} {set : δ → β → δ} {value : Json} {held : β}
      {fields : List (Field δ)} {members : List (String × Json)} {draft draft' : δ} {name : String}
      (get : δ → β) (self : ∀ draft, set draft (get draft) = draft)
      (taken : read (value.without fun path => deleted (name :: path)) = .ok held)
      (rest : Completes deleted fields members
        (set draft (if deleted [name] then get draft else held)) draft') :
      Completes deleted (field name omissible read set :: fields) ((name, value) :: members) draft
        draft'

namespace Completes

variable {deleted : List String → Bool} {fields : List (Field δ)}

theorem names_eq (completes : Completes deleted fields members draft draft') :
    members.map Prod.fst = fields.map Field.name := by
  induction completes with
  | nil => rfl
  | cons get self taken rest ih => exact congrArg (_ :: ·) ih

theorem fillMembers_eq (completes : Completes deleted fields members draft draft')
    (distinct : record.names.Nodup) (own : fields.Sublist record.fields) :
    record.fillMembers (membersWithout deleted members) [] draft = .ok draft' := by
  induction completes with
  | nil => rfl
  | @cons _ omissible read set value held fields members draft draft' name get self taken rest ih =>
      have later := ih (List.sublist_of_cons_sublist own)
      rw [membersWithout]
      split
      · next gone =>
          rw [if_pos gone, self] at later
          exact later
      · next kept =>
          rw [if_neg kept] at later
          have mem : field name omissible read set ∈ record.fields :=
            own.subset List.mem_cons_self
          have found : record.fields.find? (fun other => other.name = name) =
              some (field name omissible read set) := find?_of_mem distinct mem
          have apart : name ∉ (membersWithout deleted members).map Prod.fst := by
            have split : (name :: members.map Prod.fst).Nodup := by
              rw [rest.names_eq]
              exact distinct.sublist (own.map Field.name)
            intro again
            obtain ⟨member, mem', same⟩ := List.mem_map.mp again
            obtain ⟨original, own', rfl⟩ := mem_membersWithout mem'
            have again' : original.1 ∈ members.map Prod.fst := List.mem_map_of_mem own'
            exact (List.nodup_cons.mp split).1 (same ▸ again')
          rw [fillMembers, found]
          dsimp only
          rw [if_neg List.not_mem_nil, bind_ok_iff]
          exact ⟨_, field_fill_iff.mpr ⟨held, taken, rfl⟩, (fillMembers_seen apart).trans later⟩

end Completes

theorem read_without (distinct : record.names.Nodup) {deleted : List String → Bool}
    (completes : Completes deleted record.fields members record.blank draft) :
    record.read .json ((Json.object members).without deleted) = record.finish draft := by
  rw [without, read, completes.fillMembers_eq distinct (List.Sublist.refl _)]
  rfl

theorem fillMembers_insert {field : Field δ} {value : Json} {before after : List (String × Json)}
    (found : record.fields.find? (fun field => field.name = name) = some field)
    (absent : name ∉ (before ++ after).map Prod.fst) (unseen : name ∉ seen)
    (idle : ∀ between, record.fillMembers before seen draft = .ok between →
      field.fill between value = .ok between) :
    record.fillMembers (before ++ (name, value) :: after) seen draft =
      record.fillMembers (before ++ after) seen draft := by
  induction before generalizing seen draft with
  | nil =>
      rw [List.nil_append, fillMembers, found]
      dsimp only
      rw [if_neg unseen, idle draft rfl]
      exact fillMembers_seen absent
  | cons member rest ih =>
      obtain ⟨other, given⟩ := member
      have different : name ≠ other := fun same => absent (same ▸ List.mem_cons_self)
      have absent' : name ∉ (rest ++ after).map Prod.fst :=
        fun later => absent (List.mem_cons_of_mem _ later)
      rw [List.cons_append, List.cons_append, fillMembers, fillMembers]
      cases lookup : record.fields.find? fun field => field.name = other with
      | none =>
          dsimp only
          split
          · rfl
          · next lax =>
              refine ih absent' unseen fun between filled => idle between ?_
              rw [fillMembers, lookup]
              dsimp only
              rw [if_neg lax, filled]
      | some known =>
          dsimp only
          split
          · rfl
          · next fresh =>
              cases filled : known.fill draft given with
              | error reason => rfl
              | ok next =>
                  refine ih absent' (List.not_mem_cons_of_ne_of_not_mem different unseen) ?_
                  intro between filled'
                  refine idle between ?_
                  rw [fillMembers, lookup]
                  dsimp only
                  rw [if_neg fresh, filled]
                  exact filled'

theorem fillMembers_congr {field : Field δ} {value value' : Json}
    {before after : List (String × Json)}
    (found : record.fields.find? (fun field => field.name = name) = some field)
    (alike : ∀ draft, field.fill draft value = field.fill draft value') :
    record.fillMembers (before ++ (name, value) :: after) seen draft =
      record.fillMembers (before ++ (name, value') :: after) seen draft := by
  induction before generalizing seen draft with
  | nil => simp only [List.nil_append, fillMembers, found, alike]
  | cons member rest ih => simp only [List.cons_append, fillMembers, ih]

/-- A record holds another one, as its fields show through getters. -/
structure HasPart {β : Type} (record : Record δ α) (name : String) (part : Record β β)
    (get : δ → β) (set : δ → β → δ) : Prop where
  found : record.fields.find? (fun field => field.name = name) =
    some (field name true (part.read .json) set)
  serves : record.Serves name (fun value held => part.read .json value = .ok held)
    fun draft => some (get draft)
  self : ∀ draft, set draft (get draft) = draft
  blank : get record.blank = part.blank
  finish : part.finish part.blank = .ok part.blank

theorem HasPart.read_insert {β : Type} {part : Record β β} {get : δ → β} {set : δ → β → δ}
    (has : record.HasPart name part get set) {before after : List (String × Json)}
    (absent : name ∉ (before ++ after).map Prod.fst) :
    record.read .json (.object (before ++ (name, .object []) :: after)) =
      record.read .json (.object (before ++ after)) := by
  have idle (between : δ) (filled : record.fillMembers before [] record.blank = .ok between) :
      (field name true (part.read .json) set).fill between (.object []) = .ok between := by
    have known : name ∈ record.names := by
      have mem := List.mem_of_find?_eq_some has.found
      exact List.mem_map.mpr ⟨_, mem, rfl⟩
    have nothing : valuesOf name before = [] := by
      rw [valuesOf_eq_nil]
      intro given
      refine absent ?_
      rw [List.map_append]
      exact List.mem_append_left _ given
    have reads := (fillMembers_reads has.serves known filled).2
    rw [nothing] at reads
    have kept : get between = part.blank := by
      rw [← has.blank]
      exact Option.some.inj reads.nil
    refine field_fill_iff.mpr ⟨part.blank, ?_, ?_⟩
    · exact has.finish
    · rw [← kept, has.self]
  rw [read, read, fillMembers_insert has.found absent List.not_mem_nil idle]

theorem HasPart.read_congr {β : Type} {part : Record β β} {get : δ → β} {set : δ → β → δ}
    (has : record.HasPart name part get set) {value value' : Json}
    (alike : part.read .json value = part.read .json value') (before after : List (String × Json)) :
    record.read .json (.object (before ++ (name, value) :: after)) =
      record.read .json (.object (before ++ (name, value') :: after)) := by
  have fills (draft : δ) : (field name true (part.read .json) set).fill draft value =
      (field name true (part.read .json) set).fill draft value' := by
    simp only [field, alike]
  rw [read, read, fillMembers_congr has.found fills]

/-- Each member of a known name is taken by its field. -/
theorem exists_fill (filled : record.fillMembers members seen draft = .ok draft')
    {field : Field δ} (found : record.fields.find? (fun field => field.name = name) = some field)
    {value : Json} (given : (name, value) ∈ members) :
    ∃ before after, field.fill before value = .ok after := by
  induction members generalizing seen draft with
  | nil => cases given
  | cons member rest ih =>
      obtain ⟨other, first⟩ := member
      rw [fillMembers] at filled
      split at filled
      · next absent =>
          split at filled
          · cases filled
          · rcases List.mem_cons.mp given with same | given
            · cases same
              rw [absent] at found
              cases found
            · exact ih filled given
      · next known lookup =>
          split at filled
          · cases filled
          · obtain ⟨between, fills, filled'⟩ := (bind_ok_iff _ _ _).mp filled
            rcases List.mem_cons.mp given with same | given
            · cases same
              rw [lookup] at found
              cases found
              exact ⟨draft, between, fills⟩
            · exact ih filled' given

/-- A strict record whose fields take no strangers takes none. -/
theorem no_stranger (strict : record.strict = true) (distinct : record.names.Nodup)
    (omissible : ∀ field ∈ record.fields, field.omissible = true)
    {fields : List (String × Json)}
    (outlined : List.Forall₂ Field.Outlined record.fields fields)
    {document : Json} {value : α} (taken : record.read .json document = .ok value) :
    ¬HasStranger (.object fields) document := by
  have names : record.names = fields.map Prod.fst := by
    refine List.forall₂_eq_eq_eq ▸ List.forall₂_map_left_iff.mpr (List.forall₂_map_right_iff.mpr ?_)
    exact outlined.imp fun _ _ both => both.named
  obtain ⟨members, draft, lists, filled, -⟩ :=
    (read_iff distinct 0 (Nat.zero_le _) (by simp) omissible).mp taken
  obtain ⟨-, known⟩ := fillMembers_strict strict filled
  intro stranger
  cases stranger with
  | here given unknown =>
      cases lists
      exact unknown (names ▸ (known _ (List.mem_map_of_mem given)).1)
  | within lists' place given stranger =>
      cases lists.unique (names ▸ lists')
      obtain ⟨field, mem, named, refuses⟩ := exists_related outlined place
      have found := find?_of_mem distinct mem
      rw [named] at found
      obtain ⟨before, after, fills⟩ := exists_fill filled found given
      exact refuses before _ after fills stranger

end Record

/-! ## What a value is worth -/

theorem hasValueAt_object_iff (members : List (String × Json)) (level : Nat) :
    (Json.object members).hasValueAt level = true ↔
      level < maxDepth ∧ ∀ member ∈ members, member.2.hasValueAt (level + 1) = true := by
  simp only [hasValueAt, Bool.and_eq_true, decide_eq_true_eq]
  simp only [readable, depth, readableMembers_iff]
  constructor
  · rintro ⟨sound, deep⟩
    refine ⟨by omega, fun member mem => ⟨sound member mem, ?_⟩⟩
    have within := depthOfMembers_le_iff.mp (Nat.le_refl _) member mem
    omega
  · rintro ⟨shallow, values⟩
    refine ⟨fun member mem => (values member mem).1, ?_⟩
    have within : depthOfMembers members ≤ maxDepth - (level + 1) :=
      depthOfMembers_le_iff.mpr fun member mem => by
        have deep := (values member mem).2
        omega
    omega

end DecisionPoint.Json
