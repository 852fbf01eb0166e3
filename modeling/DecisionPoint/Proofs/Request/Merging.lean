import DecisionPoint.Proofs.Keyed
import DecisionPoint.Request.Attribute

/-!
# Merging attributes

A merge puts a new attribute behind the others, and new values behind those that are there.  So what
a set holds stays in its place, with the values it has in front, and only an attribute of another
type stands in the way.
-/

set_option autoImplicit false

namespace DecisionPoint

/-- An attribute that may have got further values. -/
structure Attribute.Grows (before after : Attribute) : Prop where
  id : after.id = before.id
  dataType : after.dataType = before.dataType
  issuer : after.issuer = before.issuer
  values : before.values <+: after.values

theorem Attribute.Grows.refl (entry : Attribute) : entry.Grows entry :=
  ⟨rfl, rfl, rfl, List.prefix_refl _⟩

theorem Attribute.Grows.trans {first second third : Attribute} (left : first.Grows second)
    (right : second.Grows third) : first.Grows third where
  id := right.id.trans left.id
  dataType := right.dataType.trans left.dataType
  issuer := right.issuer.trans left.issuer
  values := left.values.trans right.values

namespace AttributeSet

/-! ## Values -/

/-- The values that are not held yet, each once, follow those that are. -/
theorem addMissing_eq (held new : List String) :
    addMissing held new = held ++ (new.filter fun value => value ∉ held).eraseDups := by
  induction new generalizing held with
  | nil => exact (List.append_nil held).symm
  | cons value rest ih =>
      have step : addMissing held (value :: rest) =
          addMissing (if value ∈ held then held else held ++ [value]) rest := rfl
      by_cases present : value ∈ held
      · rw [step, if_pos present, ih, List.filter_cons_of_neg (by simp [present])]
      · have others : rest.filter (fun other => other ∉ held ++ [value]) =
            (rest.filter fun other => other ∉ held).filter fun other => !other == value := by
          rw [List.filter_filter]
          apply List.filter_congr
          intro other _
          by_cases same : other = value <;> by_cases there : other ∈ held <;> simp [same, there]
        rw [step, if_neg present, ih, List.filter_cons_of_pos (by simp [present]),
          List.eraseDups_cons, others, List.append_assoc, List.singleton_append]

theorem addMissing_split (held new : List String) :
    ∃ fresh, addMissing held new = held ++ fresh ∧ ∀ value ∈ fresh, value ∉ held := by
  refine ⟨_, addMissing_eq held new, ?_⟩
  intro value member
  have kept := List.mem_eraseDups.mp member
  simpa using (List.mem_filter.mp kept).2

theorem mem_addMissing (held new : List String) (value : String) (member : value ∈ new) :
    value ∈ addMissing held new := by
  rw [addMissing_eq, List.mem_append]
  by_cases there : value ∈ held
  · exact .inl there
  · exact .inr (List.mem_eraseDups.mpr (List.mem_filter.mpr ⟨member, by simp [there]⟩))

theorem head?_addMissing (held new : List String) :
    (addMissing held new).head? = held.head?.or new.head? := by
  rw [addMissing_eq, List.head?_append]
  cases held with
  | nil => cases new <;> simp [List.eraseDups_cons]
  | cons value rest => rfl

/-! ## Merges -/

/-- The attribute with the values that another one adds. -/
def joined (held entry : Attribute) : Attribute :=
  { held with values := addMissing held.values entry.values }

theorem joined_grows (held entry : Attribute) : held.Grows (joined held entry) := by
  refine ⟨rfl, rfl, rfl, ?_⟩
  obtain ⟨fresh, split, -⟩ := addMissing_split held.values entry.values
  exact ⟨fresh, split.symm⟩

inductive Merges (set : AttributeSet) (entry : Attribute) :
    Except InformationFault (AttributeSet × Bool) → Prop where
  | appends (absent : set.get? entry.id = none) : Merges set entry (.ok (set.insert entry, true))
  | joins (held : Attribute) (found : set.get? entry.id = some held)
      (alike : held.dataType = entry.dataType) :
      Merges set entry
        (.ok (set.insert (joined held entry),
          held.values.length < (joined held entry).values.length))
  | refuses (held : Attribute) (found : set.get? entry.id = some held)
      (other : held.dataType ≠ entry.dataType) :
      Merges set entry (.error (.conflict entry.id held.dataType entry.dataType))

theorem merges (set : AttributeSet) (entry : Attribute) : Merges set entry (merge set entry) := by
  unfold merge
  split
  · next absent => exact .appends absent
  · next held found =>
    split
    · next other => exact .refuses held found other
    · next alike => exact .joins held found (Decidable.of_not_not alike)

theorem joined_id {set : AttributeSet} {held entry : Attribute}
    (found : set.get? entry.id = some held) : (joined held entry).id = entry.id :=
  (Keyed.split_of_get? found).1

/-- Only an attribute of the same identifier and of another type is in the way of a merge. -/
theorem merge_error_iff (set : AttributeSet) (entry : Attribute) (fault : InformationFault) :
    merge set entry = .error fault ↔
      ∃ held, set.get? entry.id = some held ∧ held.dataType ≠ entry.dataType ∧
        fault = .conflict entry.id held.dataType entry.dataType := by
  have ended := merges set entry
  generalize merge set entry = answer at ended
  cases ended with
  | appends absent => simp [absent]
  | joins held found alike => simp [found, alike]
  | refuses held found other =>
      constructor
      · intro same
        cases same
        exact ⟨held, found, other, rfl⟩
      · rintro ⟨another, foundToo, -, rfl⟩
        rw [found] at foundToo
        cases foundToo
        rfl

/-! ## What stays -/

/-- The attributes stand where they stood, and others may follow. -/
def Keeps (before after : AttributeSet) : Prop :=
  ∀ (place : Nat) (held : Attribute), before.items[place]? = some held →
    ∃ kept, after.items[place]? = some kept ∧ held.Grows kept

theorem Keeps.refl (set : AttributeSet) : Keeps set set :=
  fun _ held there => ⟨held, there, .refl held⟩

theorem Keeps.trans {first second third : AttributeSet} (left : Keeps first second)
    (right : Keeps second third) : Keeps first third := by
  intro place held there
  obtain ⟨kept, stays, grows⟩ := left place held there
  obtain ⟨last, lasts, more⟩ := right place kept stays
  exact ⟨last, lasts, grows.trans more⟩

theorem keeps_append (set : AttributeSet) (entry : Attribute)
    (absent : set.get? entry.id = none) : Keeps set (set.insert entry) := by
  intro place held there
  refine ⟨held, ?_, .refl held⟩
  rw [set.insert_absent entry absent]
  exact List.getElem?_append_left (List.getElem?_eq_some_iff.mp there).1 ▸ there

theorem keeps_join (set : AttributeSet) (held entry : Attribute)
    (found : set.get? entry.id = some held) : Keeps set (set.insert (joined held entry)) := by
  have named : set.get? (joined held entry).id = some held := by
    rw [joined_id found]
    exact found
  obtain ⟨earlier, later, split, placed⟩ := set.insert_held (joined held entry) held named
  intro place other there
  rw [split] at there
  rw [placed]
  rcases Nat.lt_trichotomy place earlier.length with before | here | behind
  · rw [List.getElem?_append_left before] at there ⊢
    exact ⟨other, there, .refl other⟩
  · subst here
    simp only [List.getElem?_append_right (Nat.le_refl _), Nat.sub_self, List.getElem?_cons_zero,
      Option.some.injEq] at there ⊢
    exact ⟨_, rfl, there ▸ joined_grows held entry⟩
  · obtain ⟨more, rfl⟩ := Nat.exists_eq_add_of_lt behind
    rw [List.getElem?_append_right (by omega)] at there ⊢
    have distance : earlier.length + more + 1 - earlier.length = more + 1 := by omega
    rw [distance, List.getElem?_cons_succ] at there ⊢
    exact ⟨other, there, .refl other⟩

section Successes

variable {set after : AttributeSet} {entry : Attribute} {changed : Bool}

theorem keeps_of_merge (merged : merge set entry = .ok (after, changed)) : Keeps set after := by
  have ended := merges set entry
  rw [merged] at ended
  cases ended with
  | appends absent => exact keeps_append set entry absent
  | joins held found alike => exact keeps_join set held entry found

/-- A merge brings its identifier in, behind the others if it is new. -/
theorem ids_of_merge (merged : merge set entry = .ok (after, changed)) :
    after.items.map Attribute.id =
      if entry.id ∈ set.items.map Attribute.id then set.items.map Attribute.id
      else set.items.map Attribute.id ++ [entry.id] := by
  have ended := merges set entry
  rw [merged] at ended
  cases ended with
  | appends absent => exact map_placeByKey Attribute.id entry set.items
  | joins held found alike =>
      have placed := map_placeByKey Attribute.id (joined held entry) set.items
      rw [joined_id found] at placed
      exact placed

theorem get?_of_merge (merged : merge set entry = .ok (after, changed)) (name : String) :
    after.get? name =
      if entry.id = name then
        some ((set.get? name).elim entry fun held => joined held entry)
      else set.get? name := by
  have ended := merges set entry
  rw [merged] at ended
  cases ended with
  | appends absent =>
      rw [Keyed.get?_insert]
      split
      · next same => rw [← same, absent, Option.elim_none]
      · rfl
  | joins held found alike =>
      rw [Keyed.get?_insert, joined_id found]
      split
      · next same => rw [← same, found, Option.elim_some]
      · rfl

theorem changed_iff_of_merge (merged : merge set entry = .ok (after, changed)) :
    changed = true ↔ after ≠ set := by
  have ended := merges set entry
  rw [merged] at ended
  cases ended with
  | appends absent =>
      refine ⟨fun _ same => ?_, fun _ => rfl⟩
      have longer := congrArg (fun result => result.items.length) same
      rw [set.insert_absent entry absent, List.length_append] at longer
      exact Nat.succ_ne_self _ longer
  | joins held found alike =>
      obtain ⟨fresh, split, -⟩ := addMissing_split held.values entry.values
      have values : (joined held entry).values = held.values ++ fresh := split
      have under : (set.insert (joined held entry)).get? entry.id = some (joined held entry) := by
        rw [Keyed.get?_insert, if_pos (joined_id found)]
      rw [decide_eq_true_iff]
      constructor
      · intro longer same
        rw [same, found] at under
        rw [← Option.some.inj under] at longer
        exact Nat.lt_irrefl _ longer
      · intro different
        rw [values, List.length_append]
        apply Nat.lt_add_of_pos_right
        apply List.length_pos_iff.mpr
        intro nothing
        have same : joined held entry = held := by
          rw [nothing, List.append_nil] at split
          rw [joined, split]
        apply different
        rw [same]
        exact set.insert_self held ((Keyed.split_of_get? found).1 ▸ found)

end Successes

end AttributeSet

end DecisionPoint
