import DecisionPoint.Proofs.Keyed
import DecisionPoint.Proofs.Obligation.History
import Mathlib.Data.List.Perm.Basic

/-!
# Two tables of one set of handlers

A registry has its handlers in a table in the order of their places, and finds them by an index.
Over all calls, those that fulfil obligations among them, the two tables describe one set with at
most one handler for each identifier.  So each call can be told by that set alone.
-/

set_option autoImplicit false

namespace DecisionPoint

inductive RegistryCall where
  | register (handler : Handler)
  | unregister (handler : Handler)
  | unregisterId (obligationId : String)
  | process (request : Request) (outcome : Outcome)

inductive RegistryReply where
  | registered (fault : Option RegistryFault)
  | removed (found : Bool)
  | processed (processing : HandlerRegistry.Processing)

def RegistryCall.action? : RegistryCall → Option RegistryAction
  | register handler => some (.register handler)
  | unregister handler => some (.unregister handler)
  | unregisterId obligationId => some (.unregisterId obligationId)
  | process _ _ => none

namespace HandlerRegistry

def call (registry : HandlerRegistry) : RegistryCall → HandlerRegistry × RegistryReply
  | .register handler =>
    match registry.register handler with
    | .ok registry' => (registry', .registered none)
    | .error fault => (registry, .registered (some fault))
  | .unregister handler =>
    let (registry', found) := registry.unregister handler
    (registry', .removed found)
  | .unregisterId obligationId =>
    let (registry', found) := registry.unregisterId obligationId
    (registry', .removed found)
  | .process request outcome => (registry, .processed (registry.process request outcome))

def afterCalls (calls : List RegistryCall) : HandlerRegistry :=
  calls.foldl (fun registry call => (registry.call call).1) empty

def handlers (registry : HandlerRegistry) : List Handler := registry.ordered.map Prod.snd

def Holds (registry : HandlerRegistry) (handler : Handler) : Prop :=
  ∃ held ∈ registry.handlers, held.obligationId = handler.obligationId ∧ held.name = handler.name

def without (registry : HandlerRegistry) (obligationId : String) : HandlerRegistry :=
  ⟨registry.ordered.filter fun item => item.2.obligationId ≠ obligationId,
    registry.index.filter fun item => item.1 ≠ obligationId⟩

/-! ## Calls and changes -/

theorem call_register (registry : HandlerRegistry) (handler : Handler) :
    (registry.call (.register handler)).1 = registry.act (.register handler) := by
  simp only [call, act]
  cases registry.register handler <;> rfl

theorem foldl_call (calls : List RegistryCall) (registry : HandlerRegistry) :
    calls.foldl (fun registry call => (registry.call call).1) registry =
      (calls.filterMap RegistryCall.action?).foldl act registry := by
  induction calls generalizing registry with
  | nil => rfl
  | cons call rest ih =>
      rw [List.foldl_cons, ih]
      cases call with
      | register handler =>
          rw [call_register]
          rfl
      | _ => rfl

theorem afterCalls_eq (calls : List RegistryCall) :
    afterCalls calls = after (calls.filterMap RegistryCall.action?) :=
  foldl_call calls empty

/-! ## The index -/

def Indexed (registry : HandlerRegistry) : Prop := (registry.index.map Prod.fst).Nodup

theorem Indexed.erase {registry : HandlerRegistry} (indexed : registry.Indexed)
    (ordered : List (HandlerKey × Handler)) (obligationId : String) :
    Indexed ⟨ordered, HandlerRegistry.erase obligationId registry.index⟩ :=
  indexed.sublist (List.filter_sublist.map _)

theorem Indexed.act {registry : HandlerRegistry} (indexed : registry.Indexed)
    (action : RegistryAction) : (registry.act action).Indexed := by
  cases action with
  | register handler =>
      cases found : registry.index.lookup handler.obligationId with
      | none =>
          have absent : handler.obligationId ∉ registry.index.map Prod.fst := by
            rintro present
            obtain ⟨item, member, same⟩ := List.mem_map.mp present
            have other := List.lookup_eq_none_iff.mp found item member
            simp [same] at other
          simp only [HandlerRegistry.act, HandlerRegistry.register, found]
          exact List.nodup_cons.mpr ⟨absent, indexed⟩
      | some key =>
          cases held : registry.ordered.lookup key with
          | none =>
              simpa only [HandlerRegistry.act, HandlerRegistry.register, found, held] using indexed
          | some other =>
              simp only [HandlerRegistry.act, HandlerRegistry.register, found, held]
              by_cases same : other.name = handler.name
              · simpa only [if_pos same] using indexed
              · simpa only [if_neg same] using indexed
  | unregister handler =>
      simp only [HandlerRegistry.act, HandlerRegistry.unregister]
      split
      · exact indexed
      · split
        · split
          · exact indexed.erase _ _
          · exact indexed
        · exact indexed
  | unregisterId obligationId =>
      simp only [HandlerRegistry.act, HandlerRegistry.unregisterId]
      split
      · exact indexed
      · exact indexed.erase _ _

theorem indexed_foldl_act (actions : List RegistryAction) {registry : HandlerRegistry}
    (indexed : registry.Indexed) : (actions.foldl act registry).Indexed := by
  induction actions generalizing registry with
  | nil => exact indexed
  | cons action rest ih => exact ih (indexed.act action)

/-! ## One set of handlers -/

/-- The two tables describe one set, in which each identifier has at most one handler. -/
structure Consistent (registry : HandlerRegistry) : Prop where
  places : ∀ item ∈ registry.ordered, item.1 = .ofHandler item.2
  /-- The index has the places of the ordered handlers, and no others. -/
  index : registry.index.Perm (registry.ordered.map fun item => (item.2.obligationId, item.1))
  ascending : registry.handlers.Pairwise Handler.Precedes
  single : ∀ a ∈ registry.handlers, ∀ b ∈ registry.handlers,
    a.obligationId = b.obligationId → a = b
  handlerIds : registry.handlerIds = registry.handlers.map Handler.obligationId
  distinct : registry.handlerIds.Nodup
  size : registry.size = registry.handlerIds.length
  contains : ∀ obligationId,
    registry.contains obligationId = true ↔ obligationId ∈ registry.handlerIds

/-- Each call answers by the set of handlers, and does to it what it is for. -/
structure Obeys (registry : HandlerRegistry) : Prop where
  refuses : ∀ handler fault,
    (registry.call (.register handler)).2 = .registered (some fault) ↔
      fault = .duplicateHandler handler.obligationId ∧
        ∃ held ∈ registry.handlers,
          held.obligationId = handler.obligationId ∧ held.name ≠ handler.name
  refused : ∀ handler fault,
    (registry.call (.register handler)).2 = .registered (some fault) →
      (registry.call (.register handler)).1 = registry
  registersAgain : ∀ handler, registry.Holds handler →
    registry.call (.register handler) = (registry, .registered none)
  registers : ∀ handler, handler.obligationId ∉ registry.handlerIds →
    (registry.call (.register handler)).2 = .registered none ∧
      ∀ other, other ∈ (registry.call (.register handler)).1.handlers ↔
        other = handler ∨ other ∈ registry.handlers
  unregisters : ∀ handler, registry.Holds handler →
    registry.call (.unregister handler) =
      (registry.without handler.obligationId, .removed true)
  leaves : ∀ handler, ¬ registry.Holds handler →
    registry.call (.unregister handler) = (registry, .removed false)
  unregistersId : ∀ obligationId, registry.call (.unregisterId obligationId) =
    (registry.without obligationId, .removed (registry.contains obligationId))
  processes : ∀ request outcome, registry.call (.process request outcome) =
    (registry, .processed (registry.process request outcome))

namespace Represents

variable {registry : HandlerRegistry} {holding : Holding}

theorem mem_handlers (represents : registry.Represents holding) (handler : Handler) :
    handler ∈ registry.handlers ↔ holding handler.obligationId = some handler := by
  constructor
  · intro member
    obtain ⟨⟨key, handler'⟩, placed, rfl⟩ := List.mem_map.mp member
    exact ((represents.members key handler').mp placed).2
  · intro held
    exact List.mem_map.mpr ⟨_, (represents.members _ handler).mpr ⟨rfl, held⟩, rfl⟩

theorem mem_ordered (represents : registry.Represents holding) (item : HandlerKey × Handler) :
    item ∈ registry.ordered ↔ item.1 = .ofHandler item.2 ∧ item.2 ∈ registry.handlers := by
  rw [represents.mem_handlers]
  exact represents.members item.1 item.2

theorem handlers_ascending (represents : registry.Represents holding) :
    registry.handlers.Pairwise Handler.Precedes := by
  rw [handlers, List.pairwise_map]
  refine represents.ascending.imp_of_mem ?_
  intro a b ha hb before
  rw [((represents.mem_ordered a).mp ha).1, ((represents.mem_ordered b).mp hb).1] at before
  exact (HandlerKey.before_ofHandler_iff _ _).mp before

theorem handlers_single (represents : registry.Represents holding) {a b : Handler}
    (ha : a ∈ registry.handlers) (hb : b ∈ registry.handlers)
    (same : a.obligationId = b.obligationId) : a = b := by
  rw [represents.mem_handlers] at ha hb
  rw [same, hb] at ha
  exact (Option.some.inj ha).symm

theorem handlerIds_eq (represents : registry.Represents holding) :
    registry.handlerIds = registry.handlers.map Handler.obligationId := by
  rw [handlerIds, handlers, List.map_map]
  refine List.map_congr_left fun item member => ?_
  rw [((represents.mem_ordered item).mp member).1]
  rfl

theorem handlerIds_nodup (represents : registry.Represents holding) :
    registry.handlerIds.Nodup := by
  rw [represents.handlerIds_eq]
  refine List.Nodup.map_on ?_ ?_
  · exact fun a ha b hb same => represents.handlers_single ha hb same
  · refine represents.handlers_ascending.imp ?_
    rintro a b earlier rfl
    exact a.not_precedes_self earlier

theorem mem_handlerIds (represents : registry.Represents holding) (obligationId : String) :
    obligationId ∈ registry.handlerIds ↔ (holding obligationId).isSome = true := by
  rw [represents.handlerIds_eq, List.mem_map, Option.isSome_iff_exists]
  constructor
  · rintro ⟨handler, member, rfl⟩
    exact ⟨handler, (represents.mem_handlers handler).mp member⟩
  · rintro ⟨handler, held⟩
    have own := represents.own obligationId handler held
    exact ⟨handler, (represents.mem_handlers handler).mpr (own ▸ held), own⟩

theorem index_perm (represents : registry.Represents holding) (indexed : registry.Indexed) :
    registry.index.Perm (registry.ordered.map fun item => (item.2.obligationId, item.1)) := by
  have keys : (registry.ordered.map fun item => (item.2.obligationId, item.1)).map Prod.fst =
      registry.handlers.map Handler.obligationId := by
    simp [handlers, Function.comp_def]
  have distinct := represents.handlerIds_nodup
  rw [represents.handlerIds_eq, ← keys] at distinct
  rw [List.perm_ext_iff_of_nodup (List.Nodup.of_map _ indexed) (List.Nodup.of_map _ distinct)]
  rintro ⟨obligationId, key⟩
  rw [← lookup_eq_some_iff_mem indexed, represents.index, Option.map_eq_some_iff, List.mem_map]
  constructor
  · rintro ⟨handler, held, rfl⟩
    have own := represents.own obligationId handler held
    exact ⟨(_, handler), (represents.members _ handler).mpr ⟨rfl, own ▸ held⟩,
      by rw [own]⟩
  · rintro ⟨⟨key', handler⟩, placed, same⟩
    cases same
    obtain ⟨place, held⟩ := (represents.members key' handler).mp placed
    exact ⟨handler, held, place.symm⟩

theorem consistent (represents : registry.Represents holding) (indexed : registry.Indexed) :
    registry.Consistent where
  places item member := ((represents.mem_ordered item).mp member).1
  index := represents.index_perm indexed
  ascending := represents.handlers_ascending
  single _ ha _ hb same := represents.handlers_single ha hb same
  handlerIds := represents.handlerIds_eq
  distinct := represents.handlerIds_nodup
  size := by rw [size, HandlerRegistry.handlerIds, List.length_map]
  contains obligationId := by
    rw [represents.mem_handlerIds, HandlerRegistry.contains, represents.index, Option.isSome_map]

/-! ## What the calls do -/

theorem holds_iff (represents : registry.Represents holding) (handler : Handler) :
    registry.Holds handler ↔
      ∃ held, holding handler.obligationId = some held ∧ held.name = handler.name := by
  constructor
  · rintro ⟨held, member, sameId, same⟩
    exact ⟨held, sameId ▸ (represents.mem_handlers held).mp member, same⟩
  · rintro ⟨held, here, same⟩
    have own := represents.own _ held here
    exact ⟨held, (represents.mem_handlers held).mpr (own ▸ here), own, same⟩

/-- Erasing the place of a handler takes out what has its identifier, and nothing else. -/
theorem erase_eq_without (represents : registry.Represents holding) {obligationId : String}
    {handler : Handler} (held : holding obligationId = some handler) :
    ⟨HandlerRegistry.erase (.ofHandler handler) registry.ordered,
      HandlerRegistry.erase obligationId registry.index⟩ = registry.without obligationId := by
  have own := represents.own obligationId handler held
  have same : HandlerRegistry.erase (.ofHandler handler) registry.ordered =
      registry.ordered.filter fun item => item.2.obligationId ≠ obligationId := by
    refine List.filter_congr fun item member => decide_eq_decide.mpr (not_congr ?_)
    obtain ⟨place, here⟩ := (represents.members item.1 item.2).mp member
    constructor
    · intro sameKey
      exact (congrArg HandlerKey.obligationId (place.symm.trans sameKey)).trans own
    · intro sameId
      rw [sameId, held] at here
      rw [place, Option.some.inj here]
  rw [same]
  rfl

/-- There is nothing to take out of a registry that has no handler of an identifier. -/
theorem without_absent (represents : registry.Represents holding) {obligationId : String}
    (free : holding obligationId = none) : registry.without obligationId = registry := by
  have ordered : registry.ordered.filter (fun item => item.2.obligationId ≠ obligationId) =
      registry.ordered := by
    refine List.filter_eq_self.mpr fun item member => decide_eq_true fun sameId => ?_
    have here := ((represents.members item.1 item.2).mp member).2
    rw [sameId, free] at here
    cases here
  have index : registry.index.filter (fun item => item.1 ≠ obligationId) = registry.index := by
    have missing := represents.index obligationId
    rw [free, Option.map_none, List.lookup_eq_none_iff] at missing
    refine List.filter_eq_self.mpr fun item member => decide_eq_true fun sameId => ?_
    have other := missing item member
    simp [sameId] at other
  rw [without, ordered, index]

theorem call_register_free (represents : registry.Represents holding) {handler : Handler}
    (free : holding handler.obligationId = none) :
    registry.call (.register handler) =
      (⟨HandlerRegistry.place (.ofHandler handler) handler registry.ordered,
        (handler.obligationId, .ofHandler handler) :: registry.index⟩, .registered none) := by
  have index := represents.index handler.obligationId
  rw [free, Option.map_none] at index
  simp only [call, HandlerRegistry.register, index]

theorem call_register_held (represents : registry.Represents holding) {handler held : Handler}
    (here : holding handler.obligationId = some held) :
    registry.call (.register handler) =
      (registry, .registered
        (if held.name = handler.name then none
          else some (.duplicateHandler handler.obligationId))) := by
  have index := represents.index handler.obligationId
  rw [here, Option.map_some] at index
  have present := represents.lookup_ordered here
  by_cases same : held.name = handler.name
  · simp only [call, HandlerRegistry.register, index, present, if_pos same]
  · simp only [call, HandlerRegistry.register, index, present, if_neg same]

theorem call_unregister_free (represents : registry.Represents holding) {handler : Handler}
    (free : holding handler.obligationId = none) :
    registry.call (.unregister handler) = (registry, .removed false) := by
  have index := represents.index handler.obligationId
  rw [free, Option.map_none] at index
  simp only [call, HandlerRegistry.unregister, index]

theorem call_unregister_held (represents : registry.Represents holding) {handler held : Handler}
    (here : holding handler.obligationId = some held) :
    registry.call (.unregister handler) =
      if held.name = handler.name then (registry.without handler.obligationId, .removed true)
      else (registry, .removed false) := by
  have index := represents.index handler.obligationId
  rw [here, Option.map_some] at index
  have present := represents.lookup_ordered here
  by_cases same : held.name = handler.name
  · have erased := represents.erase_eq_without here
    have own : (HandlerKey.ofHandler held).obligationId = handler.obligationId :=
      represents.own _ held here
    simp only [call, HandlerRegistry.unregister, index, present, if_pos same, remove, own, erased]
  · simp only [call, HandlerRegistry.unregister, index, present, if_neg same]

theorem call_unregisterId (represents : registry.Represents holding) (obligationId : String) :
    registry.call (.unregisterId obligationId) =
      (registry.without obligationId, .removed (registry.contains obligationId)) := by
  have index := represents.index obligationId
  cases here : holding obligationId with
  | none =>
      rw [here, Option.map_none] at index
      simp only [call, HandlerRegistry.unregisterId, HandlerRegistry.contains, index,
        represents.without_absent here, Option.isSome_none]
  | some held =>
      rw [here, Option.map_some] at index
      simp only [call, HandlerRegistry.unregisterId, HandlerRegistry.contains, index,
        represents.erase_eq_without here, Option.isSome_some]

theorem obeys (represents : registry.Represents holding) : registry.Obeys where
  refuses handler fault := by
    cases here : holding handler.obligationId with
    | none =>
        rw [represents.call_register_free here]
        refine ⟨nofun, ?_⟩
        rintro ⟨-, held, member, sameId, -⟩
        rw [represents.mem_handlers, sameId, here] at member
        cases member
    | some held =>
        have own := represents.own _ held here
        have mine := (represents.mem_handlers held).mpr (own ▸ here)
        rw [represents.call_register_held here]
        by_cases same : held.name = handler.name
        · rw [if_pos same]
          refine ⟨nofun, ?_⟩
          rintro ⟨-, other, member, sameId, different⟩
          rw [represents.handlers_single member mine (sameId.trans own.symm)] at different
          exact absurd same different
        · rw [if_neg same]
          constructor
          · intro answer
            cases answer
            exact ⟨rfl, held, mine, own, same⟩
          · rintro ⟨rfl, -⟩
            rfl
  refused handler fault answer := by
    cases here : holding handler.obligationId with
    | none =>
        rw [represents.call_register_free here] at answer
        cases answer
    | some held => rw [represents.call_register_held here]
  registersAgain handler holds := by
    obtain ⟨held, here, same⟩ := (represents.holds_iff handler).mp holds
    rw [represents.call_register_held here, if_pos same]
  registers handler absent := by
    rw [represents.mem_handlerIds, Option.not_isSome_iff_eq_none] at absent
    have placed := represents.place handler absent
    rw [represents.call_register_free absent]
    refine ⟨rfl, fun other => ?_⟩
    rw [placed.mem_handlers, represents.mem_handlers]
    by_cases sameId : other.obligationId = handler.obligationId
    · rw [sameId, Function.update_self, absent]
      simp [eq_comm]
    · have differs : other ≠ handler := fun same => sameId (congrArg Handler.obligationId same)
      simp [Function.update_of_ne sameId, differs]
  unregisters handler holds := by
    obtain ⟨held, here, same⟩ := (represents.holds_iff handler).mp holds
    rw [represents.call_unregister_held here, if_pos same]
  leaves handler other := by
    rw [represents.holds_iff] at other
    cases here : holding handler.obligationId with
    | none => exact represents.call_unregister_free here
    | some held =>
        have differs : ¬ held.name = handler.name := fun same => other ⟨held, here, same⟩
        rw [represents.call_unregister_held here, if_neg differs]
  unregistersId := represents.call_unregisterId
  processes _ _ := rfl

end Represents

/-- Over all calls the two tables of a registry describe one set of handlers in its order, and each
further call answers by that set and changes it as it should, or not at all. -/
theorem registry_stays_consistent (calls : List RegistryCall) :
    (afterCalls calls).Consistent ∧ (afterCalls calls).Obeys := by
  have represents := after_represents (calls.filterMap RegistryCall.action?)
  have indexed : (after (calls.filterMap RegistryCall.action?)).Indexed :=
    indexed_foldl_act _ List.nodup_nil
  rw [← afterCalls_eq] at represents indexed
  exact ⟨represents.consistent indexed, represents.obeys⟩

/-- A handler stays when another one of its identifier is to be removed, and it can come back at
another place. -/
example :
    let mail (name : String) (precedence : Int32) : Handler :=
      ⟨name, "mail", precedence, none, fun _ _ _ => .panicked⟩
    let log : Handler := .plain "log" "log" fun _ _ _ => .fulfilled
    (afterCalls [.register (mail "a" 1), .register log, .unregister (mail "b" 1)]).handlerIds =
        ["log", "mail"] ∧
      (afterCalls [.register (mail "a" 1), .register log, .unregisterId "mail",
          .register (mail "a" (-1))]).handlerIds = ["mail", "log"] := by
  decide

end HandlerRegistry

end DecisionPoint
