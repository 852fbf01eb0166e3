import DecisionPoint.Proofs.Request.Merging

/-!
# The normal form of attributes

A set made of a list has the identifiers of the list in the order in which they first occur, and
under each of them the last attribute that has it.  An insertion or a merge appends an identifier
that is new and touches nothing but the attribute of its own.  What a sequence of them leaves
follows by induction.
-/

set_option autoImplicit false

namespace DecisionPoint

namespace AttributeSet

/-- Something that is done to a set. -/
inductive Change where
  | insert (entry : Attribute)
  | merge (entry : Attribute)
deriving DecidableEq, Repr

def Change.entry : Change → Attribute
  | insert entry | merge entry => entry

/-- A set after a change.  A merge that is refused leaves it as it is. -/
def change (set : AttributeSet) : Change → AttributeSet
  | .insert entry => set.insert entry
  | .merge entry =>
    match merge set entry with
    | .ok (after, _) => after
    | .error _ => set

def changed (set : AttributeSet) (changes : List Change) : AttributeSet :=
  changes.foldl change set

/-! ## One change -/

section OneChange

variable (set : AttributeSet) (next : Change)

/-- A change leaves the set as it is, or puts an attribute of its identifier in. -/
theorem change_cases :
    (change set next = set ∧ next.entry.id ∈ set.items.map Attribute.id) ∨
      ∃ placed, placed.id = next.entry.id ∧ change set next = set.insert placed := by
  cases next with
  | insert entry => exact .inr ⟨entry, rfl, rfl⟩
  | merge entry =>
      rw [change]
      have ended := merges set entry
      generalize merge set entry = answer at ended
      cases ended with
      | appends absent => exact .inr ⟨entry, rfl, rfl⟩
      | joins held found alike => exact .inr ⟨joined held entry, joined_id found, rfl⟩
      | refuses held found other => exact .inl ⟨rfl, Keyed.mem_of_get? found⟩

theorem ids_change :
    (change set next).items.map Attribute.id =
      addMissing (set.items.map Attribute.id) [next.entry.id] := by
  have single (ids : List String) (id : String) :
      addMissing ids [id] = if id ∈ ids then ids else ids ++ [id] := rfl
  rcases change_cases set next with ⟨same, known⟩ | ⟨placed, named, same⟩
  · rw [same, single, if_pos known]
  · rw [same, single, ← named]
    exact map_placeByKey Attribute.id placed set.items

theorem others_change (kept : String → Bool) (left : kept next.entry.id = false) :
    (change set next).items.filter (fun entry => kept entry.id) =
      set.items.filter fun entry => kept entry.id := by
  rcases change_cases set next with ⟨same, -⟩ | ⟨placed, named, same⟩
  · rw [same]
  · rw [← named] at left
    rw [same]
    exact filter_placeByKey Attribute.id placed set.items kept left

end OneChange

/-! ## Many changes -/

theorem ids_changed (set : AttributeSet) (changes : List Change) :
    (changed set changes).items.map Attribute.id =
      addMissing (set.items.map Attribute.id) (changes.map fun next => next.entry.id) := by
  induction changes generalizing set with
  | nil => rfl
  | cons next rest ih =>
      have later := ih (change set next)
      rw [ids_change] at later
      exact later

theorem others_changed (set : AttributeSet) (changes : List Change) (kept : String → Bool)
    (left : ∀ next ∈ changes, kept next.entry.id = false) :
    (changed set changes).items.filter (fun entry => kept entry.id) =
      set.items.filter fun entry => kept entry.id := by
  induction changes generalizing set with
  | nil => rfl
  | cons next rest ih =>
      have first := others_change set next kept (left next List.mem_cons_self)
      have later := ih (change set next) fun other mem => left other (List.mem_cons_of_mem next mem)
      exact later.trans first

theorem changed_inserts (entries : List Attribute) :
    changed Keyed.empty (entries.map .insert) = Keyed.ofList entries := by
  rw [changed, List.foldl_map]
  rfl

theorem mem_items_iff (set : AttributeSet) (entry : Attribute) :
    entry ∈ set.items ↔ set.get? entry.id = some entry :=
  ⟨Keyed.get?_key, List.mem_of_find?_eq_some⟩

/-- Attributes are kept in a normal form.  A list gives its identifiers in the order in which they
first occur, and under each the last attribute that has it.  From any set on, whatever is inserted
and merged, identifiers stay distinct and in their order, new ones follow in the order in which they
were first mentioned, each attribute is found under its own identifier, and attributes that were not
mentioned are the same in the same order.  An insertion replaces the attribute of its identifier in
place, or else appends. -/
theorem attributes_are_in_normal_form :
    (∀ entries : List Attribute,
      let set : AttributeSet := Keyed.ofList entries
      changed Keyed.empty (entries.map .insert) = set ∧
        set.items.map Attribute.id = (entries.map Attribute.id).eraseDups ∧
        ∀ entry ∈ set.items,
          (entries.filter fun other => other.id = entry.id).getLast? = some entry) ∧
    ∀ (set : AttributeSet) (changes : List Change),
      let known := set.items.map Attribute.id
      let mentioned := changes.map fun next => next.entry.id
      let reached := changed set changes
      Keyed.ofList reached.items = reached ∧
        (reached.items.map Attribute.id).Nodup ∧
        reached.items.map Attribute.id =
          known ++ (mentioned.filter fun name => name ∉ known).eraseDups ∧
        (∀ entry, entry ∈ reached.items ↔ reached.get? entry.id = some entry) ∧
        reached.items.filter (fun entry => entry.id ∉ mentioned) =
          set.items.filter (fun entry => entry.id ∉ mentioned) ∧
        (∀ next,
          (change reached next).items.filter (fun entry => entry.id ≠ next.entry.id) =
            reached.items.filter fun entry => entry.id ≠ next.entry.id) ∧
        ∀ entry,
          match reached.get? entry.id with
          | none => (reached.insert entry).items = reached.items ++ [entry]
          | some held =>
            ∃ earlier later, reached.items = earlier ++ held :: later ∧
              (reached.insert entry).items = earlier ++ entry :: later := by
  constructor
  · intro entries set
    refine ⟨changed_inserts entries, Keyed.map_items_ofList entries, ?_⟩
    intro entry mem
    rw [← Keyed.get?_ofList]
    exact Keyed.get?_key mem
  · intro set changes known mentioned reached
    refine ⟨reached.ofList_items, reached.distinct, ?_, mem_items_iff reached, ?_, ?_, ?_⟩
    · exact (ids_changed set changes).trans (addMissing_eq known mentioned)
    · refine others_changed set changes (fun name => name ∉ mentioned) ?_
      intro next mem
      have there : next.entry.id ∈ mentioned := List.mem_map_of_mem mem
      simp [there]
    · intro next
      exact others_change reached next (fun name => name ≠ next.entry.id) (by simp)
    · intro entry
      split
      · next absent => exact reached.insert_absent entry absent
      · next held found => exact reached.insert_held entry held found

/-- The identifier `a` keeps its first place and its last attribute. -/
example :
    (Keyed.ofList [.single "a" "1", .single "b" "2", .single "a" "3"] : AttributeSet).items =
      [.single "a" "3", .single "b" "2"] := rfl

end AttributeSet

end DecisionPoint
