import DecisionPoint.Obligation.Handler

/-!
# The registry of obligation handlers

The registry walks its handlers in one fixed order: by precedence and then by identifier.  An index
finds the place of an identifier in that order.  For each identifier there is at most one handler;
a second one is refused, and registering the same one again changes nothing.
-/

set_option autoImplicit false

namespace DecisionPoint

/-- The place of a handler in the order. -/
structure HandlerKey where
  precedence : Int32
  obligationId : String
deriving DecidableEq, Repr, Inhabited

namespace HandlerKey

def before (a b : HandlerKey) : Bool :=
  a.precedence < b.precedence ||
    (a.precedence == b.precedence && decide (a.obligationId < b.obligationId))

def ofHandler (handler : Handler) : HandlerKey :=
  ⟨handler.precedence, handler.obligationId⟩

end HandlerKey

structure HandlerRegistry where
  ordered : List (HandlerKey × Handler)
  index : List (String × HandlerKey)
deriving Inhabited

namespace HandlerRegistry

def empty : HandlerRegistry := ⟨[], []⟩

/-- Puts a handler in its place; one that holds the place gives way. -/
def place (key : HandlerKey) (handler : Handler) :
    List (HandlerKey × Handler) → List (HandlerKey × Handler)
  | [] => [(key, handler)]
  | (other, held) :: rest =>
    if key = other then (key, handler) :: rest
    else if key.before other then (key, handler) :: (other, held) :: rest
    else (other, held) :: place key handler rest

def erase {κ α : Type} [DecidableEq κ] (key : κ) : List (κ × α) → List (κ × α) :=
  List.filter fun item => item.1 ≠ key

def register (registry : HandlerRegistry) (handler : Handler) :
    Except RegistryFault HandlerRegistry :=
  match registry.index.lookup handler.obligationId with
  | some key =>
    match registry.ordered.lookup key with
    | some held =>
      if held.name = handler.name then .ok registry
      else .error (.duplicateHandler handler.obligationId)
    | none => .error (.duplicateHandler handler.obligationId)
  | none =>
    let key := HandlerKey.ofHandler handler
    .ok ⟨place key handler registry.ordered, (handler.obligationId, key) :: registry.index⟩

def remove (registry : HandlerRegistry) (key : HandlerKey) : HandlerRegistry :=
  ⟨erase key registry.ordered, erase key.obligationId registry.index⟩

def unregister (registry : HandlerRegistry) (handler : Handler) : HandlerRegistry × Bool :=
  match registry.index.lookup handler.obligationId with
  | none => (registry, false)
  | some key =>
    match registry.ordered.lookup key with
    | some held =>
      if held.name = handler.name then (registry.remove key, true) else (registry, false)
    | none => (registry, false)

/-- Removes whichever handler fulfils an obligation.  Tells whether there was one. -/
def unregisterId (registry : HandlerRegistry) (obligationId : String) : HandlerRegistry × Bool :=
  match registry.index.lookup obligationId with
  | none => (registry, false)
  | some key => (⟨erase key registry.ordered, erase obligationId registry.index⟩, true)

def contains (registry : HandlerRegistry) (obligationId : String) : Bool :=
  (registry.index.lookup obligationId).isSome

def size (registry : HandlerRegistry) : Nat :=
  registry.ordered.length

def isEmpty (registry : HandlerRegistry) : Bool :=
  registry.size = 0

/-- The obligation identifiers in the order in which their handlers run. -/
def handlerIds (registry : HandlerRegistry) : List String :=
  registry.ordered.map fun item => item.1.obligationId

/-! ## Fulfilling obligations -/

/-- What became of the obligations of an outcome. -/
structure Processing where
  calls : List (Handler × Obligation)
  fulfilled : List String
  fault : Option ObligationFault
deriving Inhabited

namespace Processing

def nothing : Processing := ⟨[], [], none⟩

def result (processing : Processing) : Except ObligationFault (List String) :=
  match processing.fault with
  | none => .ok processing.fulfilled
  | some fault => .error fault

end Processing

def task? (effective : Keyed Obligation.id) (decision : Decision)
    (item : HandlerKey × Handler) : Option Obligation :=
  match effective.get? item.1.obligationId with
  | none => none
  | some obligation => if item.2.admits decision then some obligation else none

/-- Calls handlers in order until one fails. -/
def walk (effective : Keyed Obligation.id) (request : Request) (outcome : Outcome) :
    List (HandlerKey × Handler) → Processing
  | [] => .nothing
  | item :: rest =>
    match task? effective outcome.decision item with
    | none => walk effective request outcome rest
    | some obligation =>
      match item.2.run item.1.obligationId request outcome obligation with
      | .error fault => ⟨[(item.2, obligation)], [], some fault⟩
      | .ok () =>
        let later := walk effective request outcome rest
        ⟨(item.2, obligation) :: later.calls, item.1.obligationId :: later.fulfilled, later.fault⟩

/-- Fulfils the effective obligations of an outcome. -/
def process (registry : HandlerRegistry) (request : Request) (outcome : Outcome) : Processing :=
  walk outcome.effective request outcome registry.ordered

end HandlerRegistry

end DecisionPoint
