import DecisionPoint.Shutdown.Connections
import Mathlib.Data.List.Nodup

/-!
# Connections that come and go

A `Traffic` is a count of connections with all who have to do with it: handles through which
connections are tracked and drained, guards that keep connections counted, and drains.  They take
their steps in any order.  Others may come in between any two steps of a drain, and between the two
parts of a drop, which takes the connection off the count and then, if it was the last one, tells
those who wait.  A drop takes no time, so the clock stands still while that has yet to be told.
-/

set_option autoImplicit false

namespace DecisionPoint

structure DrainCall where
  began : Nat
  limit : Nat
  progress : Progress Bool Drain
deriving DecidableEq

/-- Connections and all who have to do with them. -/
structure Traffic where
  now : Nat
  connections : Connections
  /-- How many handles there are, the first one and its clones.  They share the connections. -/
  handles : Nat
  guards : List Nat
  nextGuard : Nat
  /-- How many have taken the last connection off the count and have yet to tell so. -/
  untold : Nat
  drains : List DrainCall

inductive Incident where
  | time
  | cloned
  | tracked (guard : Nat)
  /-- A guard is dropped, which takes its connection off the count. -/
  | dropped (guard : Nat)
  /-- Those who wait are told that the last connection has closed. -/
  | told
  | begun (number : Nat)
  | turn (number : Nat) (drain : Drain) (active : Nat) (progress : Progress Bool Drain)

namespace Incident

def isTracking : Incident → Bool
  | tracked _ => true
  | _ => false

def isTurnOf (number : Nat) : Incident → Bool
  | turn other _ _ _ => other = number
  | _ => false

/-- The count that a drain finds when it looks at it. -/
def found? (number : Nat) : Incident → Option Nat
  | turn other ⟨_, .looking _⟩ active _ => if other = number then some active else none
  | _ => none

theorem found?_of_other {number : Nat} {incident : Incident}
    (other : incident.isTurnOf number = false) : incident.found? number = none := by
  cases incident with
  | turn who drain active progress =>
      obtain ⟨deadline, stage⟩ := drain
      have apart : who ≠ number := of_decide_eq_false other
      cases stage with
      | looking seen => exact if_neg apart
      | arriving => rfl
      | resting seen => rfl
  | _ => rfl

end Incident

/-- The count that a drain found when it last looked at it. -/
def lastFound? (number : Nat) (history : List Incident) : Option Nat :=
  history.reverse.findSome? (Incident.found? number)

theorem lastFound?_snoc (number : Nat) (history : List Incident) (incident : Incident) :
    lastFound? number (history ++ [incident]) =
      (incident.found? number).or (lastFound? number history) := by
  rw [lastFound?, List.reverse_append, List.reverse_singleton, List.singleton_append,
    List.findSome?_cons]
  cases incident.found? number <;> rfl

namespace Traffic

def start : Traffic := ⟨0, .empty, 1, [], 0, 0, []⟩

inductive Step (traffic : Traffic) : Incident → Traffic → Prop where
  | time (later : Nat) (forward : traffic.now ≤ later) (settled : traffic.untold = 0) :
      Step traffic .time { traffic with now := later }
  | clones (handle : Nat) (known : handle < traffic.handles) :
      Step traffic .cloned { traffic with handles := traffic.handles + 1 }
  | tracks (handle : Nat) (known : handle < traffic.handles) :
      Step traffic (.tracked traffic.nextGuard)
        { traffic with
          connections := traffic.connections.track
          guards := traffic.guards ++ [traffic.nextGuard]
          nextGuard := traffic.nextGuard + 1 }
  | drops (guard : Nat) (rest : Connections) (last : Bool) (alive : guard ∈ traffic.guards)
      (taken : traffic.connections.takeOff = (rest, last)) :
      Step traffic (.dropped guard)
        { traffic with
          connections := rest
          guards := traffic.guards.erase guard
          untold := traffic.untold + last.toNat }
  | tells (pending : 0 < traffic.untold) :
      Step traffic .told
        { traffic with
          connections := traffic.connections.tell
          untold := traffic.untold - 1 }
  | begins (handle limit : Nat) (known : handle < traffic.handles) :
      Step traffic (.begun traffic.drains.length)
        { traffic with
          drains :=
            traffic.drains ++ [⟨traffic.now, limit, .waiting (.start limit traffic.now)⟩] }
  | turns (number : Nat) (call : DrainCall) (drain : Drain) (progress : Progress Bool Drain)
      (called : traffic.drains[number]? = some call) (waits : call.progress = .waiting drain)
      (ran : drain.step traffic.connections traffic.now = progress) :
      Step traffic (.turn number drain traffic.connections.active progress)
        { traffic with drains := traffic.drains.set number { call with progress := progress } }

/-- What has happened from a beginning on, and the traffic that came of it. -/
inductive Run (beginning : Traffic) : List Incident → Traffic → Prop where
  | start : Run beginning [] beginning
  | step {history : List Incident} {traffic next : Traffic} {incident : Incident}
      (earlier : Run beginning history traffic) (step : Step traffic incident next) :
      Run beginning (history ++ [incident]) next

/-! ## Guards -/

/-- The guards that are alive are those that were made and not dropped, and they are what is
counted. -/
structure Counts (history : List Incident) (traffic : Traffic) : Prop where
  active : traffic.connections.active = traffic.guards.length
  distinct : traffic.guards.Nodup
  alive : ∀ guard, guard ∈ traffic.guards ↔ .tracked guard ∈ history ∧ .dropped guard ∉ history
  made : ∀ guard, .tracked guard ∈ history → guard < traffic.nextGuard
  gone : ∀ guard, .dropped guard ∈ history → guard < traffic.nextGuard

variable {history : List Incident} {traffic next : Traffic} {incident : Incident}

theorem Counts.aside (counts : Counts history traffic)
    (tracks : ∀ guard, incident ≠ .tracked guard) (drops : ∀ guard, incident ≠ .dropped guard)
    (active : next.connections.active = traffic.connections.active)
    (guards : next.guards = traffic.guards) (nextGuard : next.nextGuard = traffic.nextGuard) :
    Counts (history ++ [incident]) next := by
  have tracked (guard : Nat) :
      .tracked guard ∈ history ++ [incident] ↔ .tracked guard ∈ history := by
    simp [Ne.symm (tracks guard)]
  have dropped (guard : Nat) :
      .dropped guard ∈ history ++ [incident] ↔ .dropped guard ∈ history := by
    simp [Ne.symm (drops guard)]
  constructor
  · rw [active, guards, counts.active]
  · rw [guards]
    exact counts.distinct
  · intro guard
    rw [guards, tracked, dropped]
    exact counts.alive guard
  · intro guard mem
    rw [nextGuard]
    exact counts.made guard ((tracked guard).mp mem)
  · intro guard mem
    rw [nextGuard]
    exact counts.gone guard ((dropped guard).mp mem)

theorem Counts.tracks (counts : Counts history traffic) :
    Counts (history ++ [.tracked traffic.nextGuard])
      { traffic with
        connections := traffic.connections.track
        guards := traffic.guards ++ [traffic.nextGuard]
        nextGuard := traffic.nextGuard + 1 } := by
  have unmade : .tracked traffic.nextGuard ∉ history :=
    fun mem => Nat.lt_irrefl _ (counts.made _ mem)
  have ungone : .dropped traffic.nextGuard ∉ history :=
    fun mem => Nat.lt_irrefl _ (counts.gone _ mem)
  have fresh : traffic.nextGuard ∉ traffic.guards :=
    fun mem => unmade ((counts.alive _).mp mem).1
  constructor
  · simp [Connections.track, counts.active]
  · simp [List.nodup_append, counts.distinct]
    exact fun guard mem same => fresh (same ▸ mem)
  · intro guard
    by_cases same : guard = traffic.nextGuard
    · simp [same, ungone]
    · simp [same, counts.alive guard]
  · intro guard mem
    rcases List.mem_append.mp mem with earlier | now
    · exact Nat.lt_succ_of_lt (counts.made guard earlier)
    · cases List.mem_singleton.mp now
      exact Nat.lt_succ_self _
  · intro guard mem
    have earlier : .dropped guard ∈ history := by simpa using mem
    exact Nat.lt_succ_of_lt (counts.gone guard earlier)

theorem Counts.drops (counts : Counts history traffic) {guard : Nat} {rest : Connections}
    {last : Bool} (alive : guard ∈ traffic.guards)
    (taken : traffic.connections.takeOff = (rest, last)) :
    Counts (history ++ [.dropped guard])
      { traffic with
        connections := rest
        guards := traffic.guards.erase guard
        untold := traffic.untold + last.toNat } := by
  have active : rest.active = traffic.connections.active - 1 := by
    cases taken
    rfl
  constructor
  · simp [active, counts.active, List.length_erase_of_mem alive]
  · exact counts.distinct.erase guard
  · intro other
    rw [counts.distinct.mem_erase_iff]
    by_cases same : other = guard
    · simp [same]
    · simp [same, counts.alive other]
  · intro other mem
    have earlier : .tracked other ∈ history := by simpa using mem
    exact counts.made other earlier
  · intro other mem
    rcases List.mem_append.mp mem with earlier | now
    · exact counts.gone other earlier
    · cases List.mem_singleton.mp now
      exact counts.made guard ((counts.alive guard).mp alive).1

theorem Step.counts (step : Step traffic incident next) (counts : Counts history traffic) :
    Counts (history ++ [incident]) next := by
  cases step with
  | time later forward settled => exact counts.aside nofun nofun rfl rfl rfl
  | clones handle known => exact counts.aside nofun nofun rfl rfl rfl
  | tracks handle known => exact counts.tracks
  | drops guard rest last alive taken => exact counts.drops alive taken
  | tells pending => exact counts.aside nofun nofun rfl rfl rfl
  | begins handle limit known => exact counts.aside nofun nofun rfl rfl rfl
  | turns number call drain progress called waits ran =>
      exact counts.aside nofun nofun rfl rfl rfl

theorem Run.counts (run : Run .start history traffic) : Counts history traffic := by
  induction run with
  | start => exact ⟨rfl, List.nodup_nil, by simp [Traffic.start], nofun, nofun⟩
  | step _ step ih => exact step.counts ih

end Traffic

end DecisionPoint
