/-!
# Lists with a key

A `Keyed key` is a list in which no two items have the same key.  Putting an item in replaces the
one that holds its key, in place, or appends.  So the position of a key is that of its first item
and the content that of its last.
-/

set_option autoImplicit false

namespace DecisionPoint

/-- Puts an item in the place of the first one with its key, or at the end. -/
def placeByKey {α : Type} (key : α → String) (item : α) : List α → List α
  | [] => [item]
  | other :: rest =>
    if key other = key item then item :: rest else other :: placeByKey key item rest

theorem map_placeByKey {α : Type} (key : α → String) (item : α) (items : List α) :
    (placeByKey key item items).map key =
      if key item ∈ items.map key then items.map key else items.map key ++ [key item] := by
  induction items with
  | nil => simp [placeByKey]
  | cons other rest ih =>
    by_cases same : key other = key item
    · simp [placeByKey, same]
    · have different : key item ≠ key other := fun h => same h.symm
      by_cases found : key item ∈ rest.map key
      · simp only [placeByKey, same, if_false, List.map_cons, ih, found, if_true]
        simp [found]
      · simp only [placeByKey, same, if_false, List.map_cons, ih, found]
        simp [different, found]

theorem nodup_placeByKey {α : Type} (key : α → String) (item : α) (items : List α)
    (distinct : (items.map key).Nodup) : ((placeByKey key item items).map key).Nodup := by
  rw [map_placeByKey]
  split
  · exact distinct
  · next absent =>
    rw [List.nodup_append]
    refine ⟨distinct, by simp, ?_⟩
    intro a ha b hb
    simp only [List.mem_singleton] at hb
    subst hb
    exact fun h => absent (h ▸ ha)

/-- A list without two items of one key. -/
structure Keyed {α : Type} (key : α → String) where
  items : List α
  distinct : (items.map key).Nodup

namespace Keyed

variable {α : Type} {key : α → String}

@[ext] theorem ext {a b : Keyed key} (h : a.items = b.items) : a = b := by
  cases a
  cases b
  cases h
  rfl

instance [DecidableEq α] : DecidableEq (Keyed key) := fun a b =>
  if h : a.items = b.items then isTrue (ext h) else isFalse fun same => h (same ▸ rfl)

def empty : Keyed key := ⟨[], by simp⟩

instance : Inhabited (Keyed key) := ⟨empty⟩

def insert (set : Keyed key) (item : α) : Keyed key :=
  ⟨placeByKey key item set.items, nodup_placeByKey key item set.items set.distinct⟩

def get? (set : Keyed key) (name : String) : Option α :=
  set.items.find? fun item => key item = name

def ofList (items : List α) : Keyed key :=
  items.foldl insert empty

def size (set : Keyed key) : Nat :=
  set.items.length

def isEmpty (set : Keyed key) : Bool :=
  set.items.isEmpty

@[simp] theorem items_insert (set : Keyed key) (item : α) :
    (set.insert item).items = placeByKey key item set.items := rfl

end Keyed

end DecisionPoint
