import DecisionPoint.Schedule.Activity

/-!
# Activities in any order

A `World` is a service with everything that goes on in it.  Its activities take turns in any order,
each up to the next point where it waits.  Callers begin activities and let go of them at any time,
the clock moves on as it likes, and the policy source and the handlers change between turns.
-/

set_option autoImplicit false

namespace DecisionPoint

/-- The service and what goes on in it. -/
structure World where
  now : Nat
  service : Service
  surroundings : Surroundings
  tasks : List Activity

namespace Progress

variable {α φ : Type}

def rest : Progress α φ → List φ
  | done _ => []
  | waiting phase => [phase]

end Progress

namespace Activity

/-- One part of an activity.  A start and a shutdown wait for each information point, so others may
come between their parts. -/
def part (service : Service) (surroundings : Surroundings) (now : Nat) : Activity → Run
  | starting phase =>
    let (service, progress) := service.start now phase
    (service, progress.map .started .starting)
  | stopping phase =>
    let (service, progress) := service.shutdown phase
    (service, progress.map (fun _ => .stopped) .stopping)
  | other => other.run service surroundings now

def isFresh : Activity → Bool
  | starting .fresh | stopping .fresh | refreshing _ none | gating _ _ none | stoppingLoop none
  | evaluating _ none | authorizing _ _ none | answering _ _ .fresh | pausing _ => true
  | _ => false

/-- Whether an activity ends when its caller goes away.  The loop, the workers and a reload go on
by themselves. -/
def isDroppable : Activity → Bool
  | loop _ _ | worker _ _ | answering _ _ (.reloading _) => false
  | _ => true

def isFetching : Activity → Bool
  | loop _ (.fetching _ _) | starting (.gating (.fetching _ _)) | refreshing _ (some _)
  | gating _ _ (some (.fetching _ _)) | answering _ _ (.reloading _) => true
  | _ => false

/-- The service after the caller of an activity has gone away. -/
def dropFrom (service : Service) (activity : Activity) : Service :=
  if activity.isFetching then service.withCache service.cache.release service.journal
  else
    match activity with
    | authorizing _ _ (some ticket) | answering _ _ (.authorizing ticket _) => service.leave ticket
    | _ => service

end Activity

inductive Happening where
  | time
  | source
  | registry
  | loopStarted
  /-- What the service has set going takes its place among the activities. -/
  | joined
  | begun (activity : Activity)
  | turn (activity : Activity) (progress : Progress Answer Activity)
  | dropped (activity : Activity)

namespace World

def start (service : Service) (surroundings : Surroundings) : World :=
  ⟨0, service, surroundings, []⟩

/-- One step of a world. -/
inductive Step (world : World) : Happening → World → Prop where
  | time (later : Nat) (forward : world.now ≤ later) : Step world .time { world with now := later }
  | source (source : ScriptedSource) :
      Step world .source
        { world with
          service :=
            { world.service with cache := { world.service.cache with source := source } } }
  | registry (registry : HandlerRegistry) :
      Step world .registry { world with service := { world.service with registry := registry } }
  | loopStarts (service : Service) (started : world.service.startRefresh = .ok service) :
      Step world .loopStarted { world with service := service }
  | joins :
      Step world .joined
        { world with
          service := { world.service with spawned := [] }
          tasks := world.tasks ++ world.service.spawned.map Spawned.activity }
  | begins (activity : Activity) (fresh : activity.isFresh = true) :
      Step world (.begun activity) { world with tasks := world.tasks ++ [activity] }
  | turns (left right : List Activity) (activity : Activity) (service : Service)
      (progress : Progress Answer Activity) (split : world.tasks = left ++ activity :: right)
      (ran : activity.part world.service world.surroundings world.now = (service, progress)) :
      Step world (.turn activity progress)
        { world with service := service, tasks := left ++ progress.rest ++ right }
  /-- A loop that was told to stop may serve what is due before it notices. -/
  | overlooks (left right : List Activity) (number : Nat) (phase phase' : LoopPhase)
      (cache : PolicyCache) (journal : Journal)
      (split : world.tasks = left ++ .loop number phase :: right)
      (ran : world.service.cache.runLoop world.service.journal world.now false phase =
        (cache, journal, .waiting phase')) :
      Step world (.turn (.loop number phase) (.waiting (.loop number phase')))
        { world with
          service := world.service.withCache cache journal
          tasks := left ++ .loop number phase' :: right }
  | drops (left right : List Activity) (activity : Activity)
      (split : world.tasks = left ++ activity :: right) (droppable : activity.isDroppable = true) :
      Step world (.dropped activity)
        { world with service := activity.dropFrom world.service, tasks := left ++ right }

theorem Step.forward {world next : World} {happening : Happening}
    (step : Step world happening next) : world.now ≤ next.now := by
  cases step with
  | time later forward => exact forward
  | _ => exact Nat.le_refl _

theorem Step.surroundings {world next : World} {happening : Happening}
    (step : Step world happening next) : next.surroundings = world.surroundings := by
  cases step <;> rfl

/-- What has happened from a beginning on, and the world that came of it. -/
inductive Run (beginning : World) : List Happening → World → Prop where
  | start : Run beginning [] beginning
  | step {happenings : List Happening} {world next : World} {happening : Happening}
      (earlier : Run beginning happenings world) (step : Step world happening next) :
      Run beginning (happenings ++ [happening]) next

theorem Run.surroundings {beginning world : World} {happenings : List Happening}
    (run : Run beginning happenings world) : world.surroundings = beginning.surroundings := by
  induction run with
  | start => rfl
  | step _ step ih => exact step.surroundings.trans ih

theorem Run.trans {a b c : World} {earlier later : List Happening} (first : Run a earlier b)
    (second : Run b later c) : Run a (earlier ++ later) c := by
  induction second with
  | start =>
      rw [List.append_nil]
      exact first
  | step _ step ih =>
      rw [← List.append_assoc]
      exact .step ih step

end World

end DecisionPoint
