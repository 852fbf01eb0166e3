import Mathlib.Data.List.Nodup
import DecisionPoint.Json.Reader
import DecisionPoint.Proofs.Successes

/-!
# What a record reads

A record takes an object whose members give each of its fields at most one value, or an array that
gives values to the first fields in order.  `Record.read_iff` says this without the order in which
the reader goes through a document: what the getters of a draft give in the end is what the fields
hold.
-/

set_option autoImplicit false

namespace DecisionPoint.Json

/-- The values that some members give to a name, in order. -/
def valuesOf (name : String) (members : List (String × Json)) : List Json :=
  (members.filter fun member => member.1 = name).map Prod.snd

theorem valuesOf_cons (name other : String) (value : Json) (rest : List (String × Json)) :
    valuesOf name ((other, value) :: rest) =
      if other = name then value :: valuesOf name rest else valuesOf name rest := by
  by_cases same : other = name <;> simp [valuesOf, same]

theorem valuesOf_eq_nil (name : String) (members : List (String × Json)) :
    valuesOf name members = [] ↔ name ∉ members.map Prod.fst := by
  simp only [valuesOf, List.map_eq_nil_iff, List.filter_eq_nil_iff, List.mem_map, decide_eq_true_eq]
  constructor
  · rintro none ⟨member, mem, same⟩
    exact none member mem same
  · intro absent member mem same
    exact absent ⟨member, mem, same⟩

/-- The members that a document gives to the fields of some names, the first of which an array may
not leave out. -/
inductive Lists (names : List String) (least : Nat) : Json → List (String × Json) → Prop where
  | object (members : List (String × Json)) : Lists names least (.object members) members
  | array (elements : List Json) (enough : least ≤ elements.length)
      (few : elements.length ≤ names.length) :
      Lists names least (.array elements) (names.zip elements)
  | rows (elements : List Json) (enough : least ≤ elements.length)
      (few : elements.length ≤ names.length) :
      Lists names least (.rows elements) (names.zip elements)

inductive Holds {β : Type} (takes : Json → β → Prop) : List Json → Option β → Prop where
  | absent : Holds takes [] none
  | given {value : Json} {held : β} (taken : takes value held) : Holds takes [value] (some held)

theorem Holds.unique {β : Type} {read : Reader β} {takes : Json → β → Prop} {values : List Json}
    {first second : Option β} (reads : ∀ value held, read value = .ok held ↔ takes value held)
    (holds : Holds takes values first) (holds' : Holds takes values second) : first = second := by
  cases holds with
  | absent =>
      cases holds'
      rfl
  | given taken =>
      cases holds' with
      | given taken' =>
          have same := ((reads _ _).mpr taken).symm.trans ((reads _ _).mpr taken')
          rw [Except.ok.inj same]

/-! ## Fields -/

/-- A field as it is seen through a getter: if it is the one of this name, the getter gives what is
taken from the value, and otherwise the getter gives what it gave before. -/
structure Field.Serves {δ β : Type} (field : Field δ) (name : String) (takes : Json → β → Prop)
    (get : δ → Option β) : Prop where
  own : field.name = name → ∀ draft value draft', field.fill draft value = .ok draft' →
    ∃ held, takes value held ∧ get draft' = some held
  other : field.name ≠ name → ∀ draft value draft', field.fill draft value = .ok draft' →
    get draft' = get draft

theorem field_fill_iff {δ β : Type} {name : String} {omissible : Bool} {read : Reader β}
    {set : δ → β → δ} {draft draft' : δ} {value : Json} :
    (field name omissible read set).fill draft value = .ok draft' ↔
      ∃ held, read value = .ok held ∧ set draft held = draft' :=
  map_ok_iff _ _ _

@[simp] theorem field_serves {δ β : Type} {name : String} {omissible : Bool} {read : Reader β}
    {takes : Json → β → Prop} {set : δ → β → δ} {get : δ → Option β}
    (reads : ∀ value held, read value = .ok held ↔ takes value held)
    (gives : ∀ draft held, get (set draft held) = some held) :
    (field name omissible read set).Serves name takes get := by
  refine ⟨?_, fun different => absurd rfl different⟩
  intro _ draft value draft' filled
  obtain ⟨held, taken, rfl⟩ := field_fill_iff.mp filled
  exact ⟨held, (reads value held).mp taken, gives draft held⟩

@[simp] theorem field_serves_other {δ β γ : Type} {name other : String} {omissible : Bool}
    {read : Reader γ} {takes : Json → β → Prop} {set : δ → γ → δ} {get : δ → Option β}
    (different : other ≠ name) (leaves : ∀ draft held, get (set draft held) = get draft) :
    (field other omissible read set).Serves name takes get := by
  refine ⟨fun same => absurd same different, ?_⟩
  intro _ draft value draft' filled
  obtain ⟨held, -, rfl⟩ := field_fill_iff.mp filled
  exact leaves draft held

/-- What a field keeps of a draft, when it is given an allowed value. -/
def Field.Keeps {δ : Type} (field : Field δ) (allowed : Json → Prop) (invariant : δ → Prop) :
    Prop :=
  ∀ draft value draft', allowed value → field.fill draft value = .ok draft' →
    invariant draft → invariant draft'

theorem field_keeps {δ β : Type} {name : String} {omissible : Bool} {read : Reader β}
    {set : δ → β → δ} {allowed : Json → Prop} {invariant : δ → Prop}
    (keeps : ∀ draft value held, allowed value → read value = .ok held → invariant draft →
      invariant (set draft held)) :
    (field name omissible read set).Keeps allowed invariant := by
  intro draft value draft' allow filled kept
  obtain ⟨held, taken, rfl⟩ := field_fill_iff.mp filled
  exact keeps draft value held allow taken kept

namespace Record

variable {δ α β : Type} {record : Record δ α} {name : String} {takes : Json → β → Prop}
  {get : δ → Option β} {members : List (String × Json)} {seen : List String} {draft draft' : δ}

/-- All fields of a record as they are seen through a getter. -/
def Serves (record : Record δ α) (name : String) (takes : Json → β → Prop) (get : δ → Option β) :
    Prop :=
  ∀ field ∈ record.fields, field.Serves name takes get

/-- What a getter gives after the members have been read. -/
inductive Reads (takes : Json → β → Prop) (before : Option β) : List Json → Option β → Prop where
  | kept : Reads takes before [] before
  | given {value : Json} {held : β} (taken : takes value held) :
      Reads takes before [value] (some held)

theorem Reads.nil {before after : Option β} (reads : Reads takes before [] after) :
    after = before := by
  cases reads
  rfl

theorem Reads.holds {values : List Json} {after : Option β}
    (reads : Reads takes none values after) : Holds takes values after := by
  cases reads with
  | kept => exact .absent
  | given taken => exact .given taken

theorem find?_name {field : Field δ}
    (found : record.fields.find? (fun field => field.name = name) = some field) :
    field ∈ record.fields ∧ field.name = name :=
  ⟨List.mem_of_find?_eq_some found, by simpa using List.find?_some found⟩

theorem find?_name_eq_none :
    record.fields.find? (fun field => field.name = name) = none ↔ name ∉ record.names := by
  simp [names]

/-- Once the members have been read, a getter gives what its reader takes from the value of its
field, of which there is at most one. -/
theorem fillMembers_reads (serves : record.Serves name takes get) (known : name ∈ record.names)
    (filled : record.fillMembers members seen draft = .ok draft') :
    (name ∈ seen → valuesOf name members = []) ∧
      Reads takes (get draft) (valuesOf name members) (get draft') := by
  induction members generalizing seen draft with
  | nil =>
      cases filled
      exact ⟨fun _ => rfl, .kept⟩
  | cons member rest ih =>
      obtain ⟨other, value⟩ := member
      rw [fillMembers] at filled
      rw [valuesOf_cons]
      split at filled
      · next absent =>
          have different : other ≠ name := by
            rintro rfl
            exact find?_name_eq_none.mp absent known
          rw [if_neg different]
          split at filled
          · cases filled
          · exact ih filled
      · next field found =>
          obtain ⟨mem, named⟩ := find?_name found
          split at filled
          · cases filled
          · next unseen =>
              obtain ⟨between, fills, filled'⟩ := (bind_ok_iff _ _ _).mp filled
              obtain ⟨nothing, reads⟩ := ih filled'
              by_cases same : other = name
              · subst same
                obtain ⟨held, taken, got⟩ := (serves field mem).own named _ _ _ fills
                have last := nothing List.mem_cons_self
                rw [last] at reads
                rw [if_pos rfl, last, reads.nil, got]
                exact ⟨fun already => absurd already unseen, .given taken⟩
              · have kept := (serves field mem).other (named ▸ same) _ _ _ fills
                rw [if_neg same]
                rw [kept] at reads
                exact ⟨fun already => nothing (List.mem_cons_of_mem _ already), reads⟩

theorem Serves.holds (serves : record.Serves name takes get) (known : name ∈ record.names)
    (blank : get draft = none) (filled : record.fillMembers members [] draft = .ok draft') :
    Holds takes (valuesOf name members) (get draft') := by
  have reads := (fillMembers_reads serves known filled).2
  rw [blank] at reads
  exact reads.holds

structure Fits (field : Field δ) (members : List (String × Json)) : Prop where
  single : (valuesOf field.name members).length ≤ 1
  fills : ∀ value ∈ valuesOf field.name members, ∀ draft, ∃ draft',
    field.fill draft value = .ok draft'

theorem field_fits {read : Reader β} {omissible : Bool} {set : δ → β → δ} {held : Option β}
    (reads : ∀ value held, read value = .ok held ↔ takes value held)
    (holds : Holds takes (valuesOf name members) held) :
    Fits (field name omissible read set) members := by
  generalize given : valuesOf name members = values at holds
  have same : valuesOf (field name omissible read set).name members = values := given
  cases holds with
  | absent => exact ⟨by simp [same], by simp [same]⟩
  | given taken =>
      refine ⟨by simp [same], ?_⟩
      intro value mem draft
      rw [same] at mem
      cases List.mem_singleton.mp mem
      exact ⟨_, field_fill_iff.mpr ⟨_, (reads _ _).mpr taken, rfl⟩⟩

theorem Fits.tail {field : Field δ} {other : String} {value : Json}
    {rest : List (String × Json)} (fits : Fits field ((other, value) :: rest)) :
    Fits field rest := by
  obtain ⟨single, fills⟩ := fits
  rw [valuesOf_cons] at single fills
  split at single
  · next same =>
      rw [if_pos same] at fills
      have last : valuesOf field.name rest = [] := by
        rw [List.length_cons] at single
        exact List.length_eq_zero_iff.mp (by omega)
      exact ⟨by simp [last], by simp [last]⟩
  · next different =>
      rw [if_neg different] at fills
      exact ⟨single, fills⟩

/-- Members that fit the fields are read, unless a name is refused. -/
theorem exists_fillMembers
    (known : record.strict = true → ∀ name ∈ members.map Prod.fst, name ∈ record.names)
    (fits : ∀ field ∈ record.fields, Fits field members)
    (unseen : ∀ name ∈ seen, name ∉ members.map Prod.fst) :
    ∃ draft', record.fillMembers members seen draft = .ok draft' := by
  induction members generalizing seen draft with
  | nil => exact ⟨draft, rfl⟩
  | cons member rest ih =>
      obtain ⟨other, value⟩ := member
      have known' : record.strict = true → ∀ name ∈ rest.map Prod.fst, name ∈ record.names :=
        fun strict name mem => known strict name (List.mem_cons_of_mem _ mem)
      have fits' : ∀ field ∈ record.fields, Fits field rest :=
        fun field mem => (fits field mem).tail
      have unseen' : ∀ name ∈ seen, name ∉ rest.map Prod.fst :=
        fun name mem mem' => unseen name mem (List.mem_cons_of_mem _ mem')
      rw [fillMembers]
      split
      · next absent =>
          split
          · next strict =>
              exact absurd (known strict other List.mem_cons_self) (find?_name_eq_none.mp absent)
          · exact ih known' fits' unseen'
      · next field found =>
          obtain ⟨mem, rfl⟩ := find?_name found
          obtain ⟨single, fills⟩ := fits field mem
          rw [valuesOf_cons, if_pos rfl] at single fills
          obtain ⟨between, filled⟩ := fills value List.mem_cons_self draft
          have last : field.name ∉ rest.map Prod.fst := by
            rw [← valuesOf_eq_nil]
            rw [List.length_cons] at single
            exact List.length_eq_zero_iff.mp (by omega)
          have later : ∃ draft', record.fillMembers rest (field.name :: seen) between =
              .ok draft' := ih known' fits' (List.forall_mem_cons.mpr ⟨last, unseen'⟩)
          obtain ⟨draft', filled'⟩ := later
          refine ⟨draft', ?_⟩
          rw [if_neg fun already => unseen _ already List.mem_cons_self, bind_ok_iff]
          exact ⟨between, filled, filled'⟩

theorem fillMembers_of_fits
    (known : record.strict = true → ∀ name ∈ members.map Prod.fst, name ∈ record.names)
    (fits : ∀ field ∈ record.fields, Fits field members)
    (only : ∀ other, record.fillMembers members [] draft = .ok other → draft' = other) :
    record.fillMembers members [] draft = .ok draft' := by
  obtain ⟨other, filled⟩ : ∃ other, record.fillMembers members [] draft = .ok other :=
    exists_fillMembers known fits (by simp)
  rw [only other filled]
  exact filled

/-- A record that refuses other names takes members with distinct names that it knows. -/
theorem fillMembers_strict (strict : record.strict = true)
    (filled : record.fillMembers members seen draft = .ok draft') :
    (members.map Prod.fst).Nodup ∧
      ∀ name ∈ members.map Prod.fst, name ∈ record.names ∧ name ∉ seen := by
  induction members generalizing seen draft with
  | nil => simp
  | cons member rest ih =>
      obtain ⟨other, value⟩ := member
      rw [fillMembers] at filled
      split at filled
      · rw [if_pos strict] at filled
        cases filled
      · next field found =>
          obtain ⟨mem, rfl⟩ := find?_name found
          split at filled
          · cases filled
          · next unseen =>
              obtain ⟨between, -, filled'⟩ := (bind_ok_iff _ _ _).mp filled
              obtain ⟨distinct, allowed⟩ := ih filled'
              have apart : field.name ∉ rest.map Prod.fst :=
                fun again => (allowed _ again).2 List.mem_cons_self
              refine ⟨List.nodup_cons.mpr ⟨apart, distinct⟩, ?_⟩
              rw [List.map_cons, List.forall_mem_cons]
              refine ⟨⟨List.mem_map_of_mem mem, unseen⟩, ?_⟩
              intro name mem'
              obtain ⟨known, new⟩ := allowed name mem'
              exact ⟨known, fun already => new (List.mem_cons_of_mem _ already)⟩

/-! ## Arrays -/

theorem find?_of_mem (distinct : record.names.Nodup) {field : Field δ}
    (mem : field ∈ record.fields) :
    record.fields.find? (fun other => other.name = field.name) = some field := by
  cases found : record.fields.find? (fun other => other.name = field.name) with
  | none =>
      have nothing := List.find?_eq_none.mp found field mem
      simp at nothing
  | some other =>
      obtain ⟨mem', named⟩ := find?_name found
      rw [List.inj_on_of_nodup_map distinct mem' mem named]

theorem fillElements_iff (distinct : record.names.Nodup) {fields : List (Field δ)}
    (split : ∃ earlier, record.fields = earlier ++ fields) {elements : List Json} {index : Nat}
    (unseen : ∀ field ∈ fields, field.name ∉ seen) :
    record.fillElements .json fields elements index draft = .ok draft' ↔
      elements.length ≤ fields.length ∧
        (∀ field ∈ fields.drop elements.length, field.omissible = true) ∧
        record.fillMembers ((fields.map Field.name).zip elements) seen draft = .ok draft' := by
  induction fields generalizing elements index seen draft with
  | nil => cases elements <;> simp [fillElements, fillMembers]
  | cons field fields ih =>
      obtain ⟨earlier, split⟩ := split
      have split' : ∃ earlier, record.fields = earlier ++ fields :=
        ⟨earlier ++ [field], by rw [split, List.append_assoc, List.singleton_append]⟩
      obtain ⟨unseenHere, unseenLater⟩ := List.forall_mem_cons.mp unseen
      cases elements with
      | nil =>
          have rest : record.fillElements .json fields [] (index + 1) draft = .ok draft' ↔ _ :=
            ih split' unseenLater
          rw [fillElements]
          split
          · next omissible =>
              rw [rest]
              simp [omissible, fillMembers]
          · next needed => simp [needed]
      | cons value values =>
          have mem : field ∈ record.fields := by simp [split]
          have apart : ∀ other ∈ fields, other.name ≠ field.name := by
            rw [names, split, List.map_append, List.map_cons] at distinct
            intro other mem' same
            have later := (List.nodup_cons.mp (List.nodup_append.mp distinct).2.1).1
            exact later (List.mem_map.mpr ⟨other, mem', same⟩)
          simp only [fillElements, List.map_cons, List.zip_cons_cons, fillMembers,
            find?_of_mem distinct mem, if_neg unseenHere, bind_ok_iff, List.length_cons,
            List.drop_succ_cons, Nat.add_le_add_iff_right]
          have unseen' : ∀ other ∈ fields, other.name ∉ field.name :: seen :=
            fun other mem' already => (List.mem_cons.mp already).elim (apart other mem')
              (unseenLater other mem')
          constructor
          · rintro ⟨between, filled, rest⟩
            obtain ⟨few, omitted, rest⟩ := (ih split' unseen').mp rest
            exact ⟨few, omitted, between, filled, rest⟩
          · rintro ⟨few, omitted, between, filled, rest⟩
            exact ⟨between, filled, (ih split' unseen').mpr ⟨few, omitted, rest⟩⟩

theorem omissible_iff_le {fields : List (Field δ)} {least : Nat} (within : least ≤ fields.length)
    (needed : ∀ field ∈ fields.take least, field.omissible = false)
    (spare : ∀ field ∈ fields.drop least, field.omissible = true) (count : Nat) :
    (∀ field ∈ fields.drop count, field.omissible = true) ↔ least ≤ count := by
  constructor
  · intro omissible
    by_contra early
    have inside : count < fields.length := by omega
    have later : fields[count] ∈ fields.drop count :=
      List.mem_drop_iff_getElem.mpr ⟨0, by omega, rfl⟩
    have earlier : fields[count] ∈ fields.take least :=
      List.mem_take_iff_getElem.mpr ⟨count, by omega, rfl⟩
    have taken := needed _ earlier
    rw [omissible _ later] at taken
    cases taken
  · intro enough field mem
    exact spare field ((List.drop_subset_drop_left fields enough) mem)

theorem read_iff (distinct : record.names.Nodup) (least : Nat)
    (within : least ≤ record.fields.length)
    (needed : ∀ field ∈ record.fields.take least, field.omissible = false)
    (spare : ∀ field ∈ record.fields.drop least, field.omissible = true) {document : Json}
    {value : α} :
    record.read .json document = .ok value ↔
      ∃ members draft, Lists record.names least document members ∧
        record.fillMembers members [] record.blank = .ok draft ∧
        record.finish draft = .ok value := by
  have leading := omissible_iff_le within needed spare
  have listed (elements : List Json) :
      (∃ draft, record.fillElements .json record.fields elements 0 record.blank = .ok draft ∧
        record.finish draft = .ok value) ↔
      ∃ draft, (least ≤ elements.length ∧ elements.length ≤ record.names.length) ∧
        record.fillMembers (record.names.zip elements) [] record.blank = .ok draft ∧
        record.finish draft = .ok value := by
    have unseen : ∀ field ∈ record.fields, field.name ∉ ([] : List String) := by simp
    simp only [fillElements_iff distinct ⟨[], rfl⟩ unseen, leading, names, List.length_map]
    constructor
    · rintro ⟨draft, ⟨few, enough, filled⟩, finished⟩
      exact ⟨draft, ⟨enough, few⟩, filled, finished⟩
    · rintro ⟨draft, ⟨enough, few⟩, filled, finished⟩
      exact ⟨draft, ⟨few, enough, filled⟩, finished⟩
  cases document with
  | object members =>
      rw [read, bind_ok_iff]
      constructor
      · rintro ⟨draft, filled, finished⟩
        exact ⟨members, draft, .object members, filled, finished⟩
      · rintro ⟨_, draft, ⟨_⟩, filled, finished⟩
        exact ⟨draft, filled, finished⟩
  | array elements =>
      rw [read, bind_ok_iff, listed]
      constructor
      · rintro ⟨draft, ⟨enough, few⟩, filled, finished⟩
        exact ⟨_, draft, .array elements enough few, filled, finished⟩
      · rintro ⟨_, draft, ⟨⟩ | ⟨_, enough, few⟩, filled, finished⟩
        exact ⟨draft, ⟨enough, few⟩, filled, finished⟩
  | rows elements =>
      rw [read, bind_ok_iff, listed]
      constructor
      · rintro ⟨draft, ⟨enough, few⟩, filled, finished⟩
        exact ⟨_, draft, .rows elements enough few, filled, finished⟩
      · rintro ⟨_, draft, ⟨⟩ | ⟨⟩ | ⟨_, enough, few⟩, filled, finished⟩
        exact ⟨draft, ⟨enough, few⟩, filled, finished⟩
  | _ =>
      constructor
      · intro taken
        cases taken
      · rintro ⟨_, _, ⟨⟩, _⟩

/-! ## What drafts keep -/

/-- The values that a document gives to the fields of a record. -/
def given : Json → List Json
  | .object members => members.map Prod.snd
  | .array elements | .rows elements => elements
  | _ => []

def Keeps (record : Record δ α) (allowed : Json → Prop) (invariant : δ → Prop) : Prop :=
  ∀ field ∈ record.fields, field.Keeps allowed invariant

theorem fillMembers_keeps {allowed : Json → Prop} {invariant : δ → Prop}
    (keeps : record.Keeps allowed invariant) (within : ∀ member ∈ members, allowed member.2)
    (filled : record.fillMembers members seen draft = .ok draft') (start : invariant draft) :
    invariant draft' := by
  induction members generalizing seen draft with
  | nil =>
      cases filled
      exact start
  | cons member rest ih =>
      obtain ⟨name, value⟩ := member
      obtain ⟨here, later⟩ := List.forall_mem_cons.mp within
      rw [fillMembers] at filled
      split at filled
      · split at filled
        · cases filled
        · exact ih later filled start
      · next field found =>
          split at filled
          · cases filled
          · obtain ⟨between, fills, filled'⟩ := (bind_ok_iff _ _ _).mp filled
            exact ih later filled' (keeps field (find?_name found).1 _ _ _ here fills start)

theorem fillElements_keeps {allowed : Json → Prop} {invariant : δ → Prop} {dialect : Dialect}
    (keeps : record.Keeps allowed invariant) {fields : List (Field δ)}
    (own : ∀ field ∈ fields, field ∈ record.fields) {elements : List Json} {index : Nat}
    (within : ∀ element ∈ elements, allowed element)
    (filled : record.fillElements dialect fields elements index draft = .ok draft')
    (start : invariant draft) : invariant draft' := by
  induction fields generalizing elements index draft with
  | nil =>
      cases elements with
      | nil =>
          cases filled
          exact start
      | cons value rest =>
          cases dialect with
          | json => cases filled
          | toml =>
              cases filled
              exact start
  | cons field fields ih =>
      obtain ⟨mem, own'⟩ := List.forall_mem_cons.mp own
      cases elements with
      | nil =>
          rw [fillElements] at filled
          split at filled
          · exact ih own' within filled start
          · cases filled
      | cons value rest =>
          obtain ⟨here, later⟩ := List.forall_mem_cons.mp within
          obtain ⟨between, fills, filled'⟩ := (bind_ok_iff _ _ _).mp filled
          exact ih own' later filled' (keeps field mem _ _ _ here fills start)

theorem read_keeps {allowed : Json → Prop} {invariant : δ → Prop} {dialect : Dialect}
    (keeps : record.Keeps allowed invariant) (start : invariant record.blank) {document : Json}
    (within : ∀ value ∈ given document, allowed value) {value : α}
    (taken : record.read dialect document = .ok value) :
    ∃ draft, invariant draft ∧ record.finish draft = .ok value := by
  unfold read at taken
  split at taken
  · obtain ⟨draft, filled, finished⟩ := (bind_ok_iff _ _ _).mp taken
    refine ⟨draft, fillMembers_keeps keeps ?_ filled start, finished⟩
    intro member mem
    exact within member.2 (List.mem_map_of_mem mem)
  · obtain ⟨draft, filled, finished⟩ := (bind_ok_iff _ _ _).mp taken
    exact ⟨draft, fillElements_keeps keeps (fun _ mem => mem) within filled start, finished⟩
  · obtain ⟨draft, filled, finished⟩ := (bind_ok_iff _ _ _).mp taken
    exact ⟨draft, fillElements_keeps keeps (fun _ mem => mem) within filled start, finished⟩
  · cases taken

end Record

theorem required_ok_iff {β : Type} {name : String} {held? : Option β} {held : β} :
    required name held? = .ok held ↔ held? = some held := by
  cases held? <;> simp [required]

/-! ## Values -/

def IsText (value : Json) (text : String) : Prop := value = .string text

def IsTextOrNull (value : Json) (text? : Option String) : Prop :=
  (value = .null ∧ text? = none) ∨ ∃ text, value = .string text ∧ text? = some text

def IsList {α : Type} (takes : Json → α → Prop) (value : Json) (items : List α) : Prop :=
  ∃ elements, (value = .array elements ∨ value = .rows elements) ∧
    List.Forall₂ takes elements items

def Gives {β : Type} (takes : Json → β → Prop) (values : List Json) (default value : β) : Prop :=
  ∃ held, Holds takes values held ∧ held.getD default = value

theorem readString_iff {value : Json} {text : String} :
    readString .json value = .ok text ↔ IsText value text := by
  unfold IsText
  cases value <;> simp [readString]

theorem readOption_iff {value : Json} {text? : Option String} :
    readOption (readString .json) value = .ok text? ↔ IsTextOrNull value text? := by
  unfold IsTextOrNull
  cases value <;> simp [readOption, readString, Except.map, eq_comm]

theorem readList_iff {α : Type} {read : Reader α} {takes : Json → α → Prop}
    (reads : ∀ value item, read value = .ok item ↔ takes value item) {value : Json}
    {items : List α} : readList .json read value = .ok items ↔ IsList takes value items := by
  have same : (fun value item => read value = .ok item) = takes := by
    funext value item
    exact propext (reads value item)
  unfold IsList
  rw [← same]
  cases value <;> simp [readList, mapM_ok_iff]

end DecisionPoint.Json
