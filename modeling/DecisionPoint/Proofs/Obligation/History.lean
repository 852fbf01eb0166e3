import DecisionPoint.Proofs.Obligation.Order
import Mathlib.Logic.Function.Basic

/-!
# The history of a registry

A registry comes about by registering and unregistering handlers.  What counts in the end is which
handler each identifier has.  The registry's two tables always agree on that, and the order of the
first is that of the handlers.
-/

set_option autoImplicit false

namespace DecisionPoint

inductive RegistryAction where
  | register (handler : Handler)
  | unregister (handler : Handler)
  | unregisterId (obligationId : String)

namespace HandlerRegistry

/-- The registry after a change; one that is refused leaves it alone. -/
def act (registry : HandlerRegistry) : RegistryAction → HandlerRegistry
  | .register handler =>
    match registry.register handler with
    | .ok registry' => registry'
    | .error _ => registry
  | .unregister handler => (registry.unregister handler).1
  | .unregisterId obligationId => (registry.unregisterId obligationId).1

/-- The registry after all changes, in order. -/
def after (actions : List RegistryAction) : HandlerRegistry :=
  actions.foldl act empty

end HandlerRegistry

/-! ## The handler of each identifier -/

abbrev Holding : Type := String → Option Handler

namespace Holding

/-- A free identifier takes a handler, and one that is taken keeps its own. -/
def act (holding : Holding) : RegistryAction → Holding
  | .register handler =>
    match holding handler.obligationId with
    | none => Function.update holding handler.obligationId (some handler)
    | some _ => holding
  | .unregister handler =>
    match holding handler.obligationId with
    | none => holding
    | some held =>
      if held.name = handler.name then Function.update holding handler.obligationId none
      else holding
  | .unregisterId obligationId => Function.update holding obligationId none

/-- The handlers after all changes, in order. -/
def after (actions : List RegistryAction) : Holding :=
  actions.foldl act fun _ => none

end Holding

namespace HandlerRegistry

/-- A registry whose tables agree on the handler of each identifier. -/
structure Represents (registry : HandlerRegistry) (holding : Holding) : Prop where
  ascending : Ascending registry.ordered
  members : ∀ key handler, (key, handler) ∈ registry.ordered ↔
    key = .ofHandler handler ∧ holding handler.obligationId = some handler
  index : ∀ obligationId,
    registry.index.lookup obligationId = (holding obligationId).map HandlerKey.ofHandler
  own : ∀ obligationId handler,
    holding obligationId = some handler → handler.obligationId = obligationId

namespace Represents

variable {registry : HandlerRegistry} {holding : Holding}

theorem lookup_ordered (represents : registry.Represents holding) {obligationId : String}
    {handler : Handler} (held : holding obligationId = some handler) :
    registry.ordered.lookup (.ofHandler handler) = some handler := by
  have sameId := represents.own obligationId handler held
  apply lookup_of_mem represents.ascending
  rw [represents.members]
  exact ⟨rfl, sameId ▸ held⟩

theorem place (represents : registry.Represents holding) (handler : Handler)
    (free : holding handler.obligationId = none) :
    Represents
      ⟨HandlerRegistry.place (.ofHandler handler) handler registry.ordered,
        (handler.obligationId, .ofHandler handler) :: registry.index⟩
      (Function.update holding handler.obligationId (some handler)) := by
  have absent : ∀ item ∈ registry.ordered, item.1 ≠ HandlerKey.ofHandler handler := by
    intro item member same
    obtain ⟨key, held⟩ := (represents.members item.1 item.2).mp member
    have sameId : item.2.obligationId = handler.obligationId :=
      congrArg HandlerKey.obligationId (key.symm.trans same)
    rw [sameId, free] at held
    cases held
  refine ⟨ascending_place represents.ascending absent, ?_, ?_, ?_⟩
  · intro key other
    rw [mem_place absent, represents.members]
    by_cases sameId : other.obligationId = handler.obligationId
    · rw [sameId, Function.update_self, free]
      constructor
      · rintro (same | ⟨-, impossible⟩)
        · cases same
          exact ⟨rfl, rfl⟩
        · cases impossible
      · rintro ⟨rfl, same⟩
        cases same
        exact .inl rfl
    · rw [Function.update_of_ne sameId]
      constructor
      · rintro (same | present)
        · cases same
          exact absurd rfl sameId
        · exact present
      · exact .inr
  · intro obligationId
    by_cases sameId : obligationId = handler.obligationId
    · rw [sameId, Function.update_self, List.lookup_cons_self]
      rfl
    · have further : (obligationId == handler.obligationId) = false := by simp [sameId]
      rw [Function.update_of_ne sameId, List.lookup_cons, further, represents.index]
  · intro obligationId other held
    by_cases sameId : obligationId = handler.obligationId
    · rw [sameId, Function.update_self] at held
      cases held
      exact sameId.symm
    · rw [Function.update_of_ne sameId] at held
      exact represents.own obligationId other held

theorem erase (represents : registry.Represents holding) {obligationId : String}
    {handler : Handler} (held : holding obligationId = some handler) :
    Represents
      ⟨HandlerRegistry.erase (HandlerKey.ofHandler handler) registry.ordered,
        HandlerRegistry.erase obligationId registry.index⟩
      (Function.update holding obligationId none) := by
  have handlerId := represents.own obligationId handler held
  refine ⟨ascending_erase represents.ascending _, ?_, ?_, ?_⟩
  · intro key other
    rw [mem_erase, represents.members]
    by_cases sameId : other.obligationId = obligationId
    · rw [sameId, Function.update_self, held]
      constructor
      · rintro ⟨⟨rfl, same⟩, different⟩
        cases same
        exact absurd rfl different
      · rintro ⟨-, impossible⟩
        cases impossible
    · rw [Function.update_of_ne sameId]
      constructor
      · rintro ⟨present, -⟩
        exact present
      · rintro ⟨rfl, present⟩
        refine ⟨⟨rfl, present⟩, ?_⟩
        intro same
        exact sameId ((congrArg HandlerKey.obligationId same).trans handlerId)
  · intro other
    rw [lookup_erase, represents.index]
    by_cases sameId : other = obligationId
    · rw [if_pos sameId, sameId, Function.update_self]
      rfl
    · rw [if_neg sameId, Function.update_of_ne sameId]
  · intro other kept present
    by_cases sameId : other = obligationId
    · rw [sameId, Function.update_self] at present
      cases present
    · rw [Function.update_of_ne sameId] at present
      exact represents.own other kept present

theorem register (represents : registry.Represents holding) (handler : Handler) :
    (registry.act (.register handler)).Represents (holding.act (.register handler)) := by
  have index := represents.index handler.obligationId
  cases held : holding handler.obligationId with
  | none =>
      rw [held] at index
      simp only [act, Holding.act, HandlerRegistry.register, index, held, Option.map_none]
      exact represents.place handler held
  | some other =>
      rw [held] at index
      have present := represents.lookup_ordered held
      simp only [act, Holding.act, HandlerRegistry.register, index, held, Option.map_some, present]
      by_cases same : other.name = handler.name
      · rw [if_pos same]
        exact represents
      · rw [if_neg same]
        exact represents

theorem unregister (represents : registry.Represents holding) (handler : Handler) :
    (registry.act (.unregister handler)).Represents (holding.act (.unregister handler)) := by
  have index := represents.index handler.obligationId
  cases held : holding handler.obligationId with
  | none =>
      rw [held] at index
      simp only [act, Holding.act, HandlerRegistry.unregister, index, held, Option.map_none]
      exact represents
  | some other =>
      rw [held] at index
      have present := represents.lookup_ordered held
      have otherId := represents.own _ other held
      simp only [act, Holding.act, HandlerRegistry.unregister, index, held, Option.map_some,
        present]
      by_cases same : other.name = handler.name
      · rw [if_pos same, if_pos same]
        have erased := represents.erase held
        rw [← otherId] at erased ⊢
        exact erased
      · rw [if_neg same, if_neg same]
        exact represents

theorem unregisterId (represents : registry.Represents holding) (obligationId : String) :
    (registry.act (.unregisterId obligationId)).Represents
      (holding.act (.unregisterId obligationId)) := by
  have index := represents.index obligationId
  cases held : holding obligationId with
  | none =>
      rw [held] at index
      have unchanged : Function.update holding obligationId none = holding := by
        rw [← held, Function.update_eq_self]
      simp only [act, Holding.act, HandlerRegistry.unregisterId, index, Option.map_none, unchanged]
      exact represents
  | some handler =>
      rw [held] at index
      simp only [act, Holding.act, HandlerRegistry.unregisterId, index, Option.map_some]
      exact represents.erase held

theorem act (represents : registry.Represents holding) (action : RegistryAction) :
    (registry.act action).Represents (holding.act action) := by
  cases action with
  | register handler => exact represents.register handler
  | unregister handler => exact represents.unregister handler
  | unregisterId obligationId => exact represents.unregisterId obligationId

theorem empty : HandlerRegistry.empty.Represents fun _ => none where
  ascending := .nil
  members := by
    intro key handler
    constructor
    · intro member
      cases member
    · rintro ⟨-, impossible⟩
      cases impossible
  index _ := rfl
  own _ _ impossible := by cases impossible

theorem foldl_act (actions : List RegistryAction) (represents : registry.Represents holding) :
    (actions.foldl HandlerRegistry.act registry).Represents
      (actions.foldl Holding.act holding) := by
  induction actions generalizing registry holding with
  | nil => exact represents
  | cons action rest ih => exact ih (represents.act action)

end Represents

/-- However a registry came about, its tables agree. -/
theorem after_represents (actions : List RegistryAction) :
    (after actions).Represents (Holding.after actions) :=
  Represents.foldl_act actions .empty

end HandlerRegistry

end DecisionPoint
