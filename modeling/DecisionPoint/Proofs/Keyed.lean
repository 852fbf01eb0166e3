import Mathlib.Data.List.Induction
import Mathlib.Data.List.Nodup
import DecisionPoint.Keyed

/-!
# What a list with a key holds

Putting items in one after the other leaves for each key the last item that has it.
-/

set_option autoImplicit false

namespace DecisionPoint

theorem find?_placeByKey {α : Type} (key : α → String) (item : α) (items : List α)
    (name : String) :
    (placeByKey key item items).find? (fun other => key other = name) =
      if key item = name then some item else items.find? fun other => key other = name := by
  induction items with
  | nil => by_cases same : key item = name <;> simp [placeByKey, same]
  | cons other rest ih =>
      by_cases replaced : key other = key item
      · by_cases same : key item = name <;> simp [placeByKey, replaced, same]
      · by_cases same : key other = name
        · have different : key item ≠ name := fun h => replaced (same.trans h.symm)
          rw [placeByKey, if_neg replaced, List.find?_cons_of_pos (by simp [same]),
            List.find?_cons_of_pos (by simp [same]), if_neg different]
        · simp [placeByKey, replaced, same, ih]

theorem placeByKey_absent {α : Type} (key : α → String) (item : α) (items : List α)
    (absent : key item ∉ items.map key) : placeByKey key item items = items ++ [item] := by
  induction items with
  | nil => rfl
  | cons other rest ih =>
      simp only [List.map_cons, List.mem_cons, not_or] at absent
      rw [placeByKey, if_neg (Ne.symm absent.1), ih absent.2, List.cons_append]

theorem placeByKey_middle {α : Type} (key : α → String) (item held : α) (earlier later : List α)
    (same : key held = key item) (absent : key item ∉ earlier.map key) :
    placeByKey key item (earlier ++ held :: later) = earlier ++ item :: later := by
  induction earlier with
  | nil => rw [List.nil_append, placeByKey, if_pos same, List.nil_append]
  | cons other rest ih =>
      simp only [List.map_cons, List.mem_cons, not_or] at absent
      rw [List.cons_append, placeByKey, if_neg (Ne.symm absent.1), ih absent.2, List.cons_append]

/-- Items of other keys keep their order, whichever of them are looked at. -/
theorem filter_placeByKey {α : Type} (key : α → String) (item : α) (items : List α)
    (kept : String → Bool) (left : kept (key item) = false) :
    (placeByKey key item items).filter (fun other => kept (key other)) =
      items.filter fun other => kept (key other) := by
  induction items with
  | nil => simp [placeByKey, left]
  | cons other rest ih =>
      by_cases same : key other = key item
      · simp [placeByKey, same, left]
      · simp [placeByKey, same, List.filter_cons, ih]

theorem lookup_eq_some_iff_mem {κ α : Type} [BEq κ] [LawfulBEq κ] {items : List (κ × α)}
    (distinct : (items.map Prod.fst).Nodup) (key : κ) (value : α) :
    items.lookup key = some value ↔ (key, value) ∈ items := by
  constructor
  · intro found
    obtain ⟨earlier, later, split, -⟩ := List.lookup_eq_some_iff.mp found
    simp [split]
  · intro member
    obtain ⟨earlier, later, rfl⟩ := List.append_of_mem member
    refine List.lookup_eq_some_iff.mpr ⟨earlier, later, rfl, fun item present => ?_⟩
    -- An earlier item of the same key would be a second one.
    rw [List.map_append, List.nodup_append] at distinct
    have other := distinct.2.2 _ (List.mem_map.mpr ⟨item, present, rfl⟩) key (by simp)
    simpa using Ne.symm other

namespace Keyed

variable {α : Type} {key : α → String}

theorem get?_eq_none_iff (set : Keyed key) (name : String) :
    set.get? name = none ↔ name ∉ set.items.map key := by
  rw [get?, List.find?_eq_none]
  simp

theorem split_of_get? {set : Keyed key} {name : String} {held : α}
    (found : set.get? name = some held) :
    key held = name ∧ ∃ earlier later,
      set.items = earlier ++ held :: later ∧ name ∉ earlier.map key := by
  obtain ⟨same, earlier, later, split, before⟩ := List.find?_eq_some_iff_append.mp found
  refine ⟨of_decide_eq_true same, earlier, later, split, ?_⟩
  intro present
  obtain ⟨other, member, equal⟩ := List.mem_map.mp present
  have different := before other member
  simp [equal] at different

theorem mem_of_get? {set : Keyed key} {name : String} {held : α}
    (found : set.get? name = some held) : name ∈ set.items.map key := by
  obtain ⟨same, earlier, later, split, -⟩ := split_of_get? found
  rw [split]
  simp [same]

theorem insert_absent (set : Keyed key) (item : α) (absent : set.get? (key item) = none) :
    (set.insert item).items = set.items ++ [item] :=
  placeByKey_absent key item set.items ((get?_eq_none_iff set (key item)).mp absent)

theorem insert_held (set : Keyed key) (item held : α) (found : set.get? (key item) = some held) :
    ∃ earlier later, set.items = earlier ++ held :: later ∧
      (set.insert item).items = earlier ++ item :: later := by
  obtain ⟨same, earlier, later, split, absent⟩ := split_of_get? found
  refine ⟨earlier, later, split, ?_⟩
  rw [items_insert, split]
  exact placeByKey_middle key item held earlier later same absent

theorem insert_self (set : Keyed key) (item : α) (found : set.get? (key item) = some item) :
    set.insert item = set := by
  obtain ⟨earlier, later, split, placed⟩ := set.insert_held item item found
  exact ext (placed.trans split.symm)

theorem get?_insert (set : Keyed key) (item : α) (name : String) :
    (set.insert item).get? name = if key item = name then some item else set.get? name :=
  find?_placeByKey key item set.items name

theorem get?_foldl_insert (items : List α) (set : Keyed key) (name : String) :
    (items.foldl insert set).get? name =
      ((items.filter fun item => key item = name).getLast?).or (set.get? name) := by
  induction items generalizing set with
  | nil => rfl
  | cons item rest ih =>
      rw [List.foldl_cons, ih, get?_insert]
      by_cases same : key item = name
      · rw [List.filter_cons_of_pos (by simp [same]), List.getLast?_cons]
        cases (rest.filter fun item => key item = name).getLast? <;> simp [same]
      · rw [List.filter_cons_of_neg (by simp [same])]
        simp [same]

theorem get?_ofList (items : List α) (name : String) :
    (ofList items : Keyed key).get? name =
      (items.filter fun item => key item = name).getLast? := by
  have nothing : (empty : Keyed key).get? name = none := rfl
  rw [ofList, get?_foldl_insert, nothing, Option.or_none]

/-- The keys stand in the order in which they are first put in. -/
theorem map_items_ofList (items : List α) :
    (ofList items : Keyed key).items.map key = (items.map key).eraseDups := by
  induction items using List.reverseRecOn with
  | nil => rfl
  | append_singleton earlier item ih =>
      have last : (ofList (earlier ++ [item]) : Keyed key) = (ofList earlier).insert item := by
        simp [ofList]
      have others : [key item].removeAll (earlier.map key) =
          if key item ∈ earlier.map key then [] else [key item] := by
        generalize earlier.map key = names
        by_cases held : key item ∈ names <;> simp [List.removeAll, held]
      rw [last, items_insert, map_placeByKey, ih, List.map_append, List.map_singleton,
        List.eraseDups_append, others]
      by_cases held : key item ∈ earlier.map key
      · rw [if_pos (List.mem_eraseDups.mpr held), if_pos held]
        exact (List.append_nil _).symm
      · rw [if_neg (mt List.mem_eraseDups.mp held), if_neg held]
        rfl

theorem get?_key {set : Keyed key} {item : α} (mem : item ∈ set.items) :
    set.get? (key item) = some item := by
  cases found : set.get? (key item) with
  | none => exact absurd (List.mem_map_of_mem mem) ((get?_eq_none_iff _ _).mp found)
  | some held =>
      have mem' : held ∈ set.items := List.mem_of_find?_eq_some found
      rw [List.inj_on_of_nodup_map set.distinct mem' mem (split_of_get? found).1]

theorem filterMap_get? (set : Keyed key) : (set.items.map key).filterMap set.get? = set.items := by
  rw [List.filterMap_map]
  calc set.items.filterMap (set.get? ∘ key)
      = set.items.filterMap some := List.filterMap_congr fun item mem => get?_key mem
    _ = set.items := List.filterMap_some

/-- Such a list is known by the order of its keys and by what it holds under each. -/
theorem ext_get? {first second : Keyed key}
    (order : first.items.map key = second.items.map key)
    (same : ∀ name, first.get? name = second.get? name) : first = second := by
  refine ext ?_
  rw [← filterMap_get? first, ← filterMap_get? second, order, funext same]

theorem items_foldl_insert (items : List α) (set : Keyed key)
    (distinct : ((set.items ++ items).map key).Nodup) :
    (items.foldl insert set).items = set.items ++ items := by
  induction items generalizing set with
  | nil => exact (List.append_nil _).symm
  | cons item rest ih =>
      have absent : key item ∉ set.items.map key := by
        rw [List.map_append, List.nodup_append] at distinct
        exact fun present => distinct.2.2 _ present _ List.mem_cons_self rfl
      have appended : (set.insert item).items = set.items ++ [item] :=
        placeByKey_absent key item set.items absent
      rw [List.append_cons, ← appended] at distinct
      rw [List.foldl_cons, ih _ distinct, appended, List.append_assoc, List.singleton_append]

theorem ofList_items (set : Keyed key) : ofList set.items = set :=
  ext (items_foldl_insert set.items empty set.distinct)

end Keyed

end DecisionPoint
