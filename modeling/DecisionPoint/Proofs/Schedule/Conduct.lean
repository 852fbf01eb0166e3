import DecisionPoint.Proofs.Schedule.Launch
import DecisionPoint.Proofs.Service.Moves

/-!
# Starts and shutdowns in any order

A `Conduct` is what became of any number of starts and shutdowns of one service, with whatever else
happens in its world.  Its log lists the starts and stops of information points, each with the
operation that made it and the place at which the point stands.  What a point will answer may change
at any time, so a point can fail in one start and succeed in the next.
-/

set_option autoImplicit false

namespace DecisionPoint

/-- A start or a shutdown, and how far it has come. -/
inductive Operation where
  | start (progress : Progress (Except ServiceFault Unit) StartPhase)
  | shutdown (progress : Progress Unit StopPhase)

namespace Operation

def isDone : Operation → Bool
  | start progress => progress.isDone
  | shutdown progress => progress.isDone

def isFresh : Operation → Bool
  | start (.waiting .fresh) | shutdown (.waiting .fresh) => true
  | _ => false

/-- The place of the point that an operation has called last. -/
def place : Operation → Nat
  | start (.waiting (.startingPoint started _ _)) => started.length
  | start (.waiting (.stoppingPoint later _)) => later.length
  | shutdown (.waiting (.stoppingPoint later)) => later.length
  | _ => 0

end Operation

/-- A start or a stop of a point. -/
structure Entry where
  operation : Nat
  place : Nat
  call : Call

/-- The entries of the calls that an operation has made in a turn. -/
def entriesOf (number : Nat) (operation : Operation) (calls : List Call) : List Entry :=
  calls.map fun call => ⟨number, operation.place, call⟩

theorem map_entriesOf (number : Nat) (operation : Operation) (calls : List Call) :
    (entriesOf number operation calls).map Entry.call = calls := by
  simp [entriesOf, Function.comp_def]

namespace World

/-- What became of starts and shutdowns from the beginning of a service on; `admits` tells which
operation may begin after which others. -/
inductive Conduct (options : ServiceOptions) (admits : List Operation → Operation → Prop) :
    World → List Operation → List Entry → Prop where
  | new {world : World} (new : world.IsNew options) : Conduct options admits world [] []
  | meanwhile {world next : World} {happening : Happening} {operations : List Operation}
      {log : List Entry} (earlier : Conduct options admits world operations log)
      (other : happening.steers = false) (step : Step world happening next) :
      Conduct options admits next operations log
  | changes {world : World} {operations : List Operation} {log : List Entry} (points : List Point)
      (earlier : Conduct options admits world operations log)
      (same : points.map Point.id = world.service.pipeline.points.map Point.id) :
      Conduct options admits
        { world with
          service :=
            { world.service with pipeline := { world.service.pipeline with points := points } } }
        operations log
  | startBegins {world next : World} {operations : List Operation} {log : List Entry}
      (earlier : Conduct options admits world operations log)
      (admitted : admits operations (.start (.waiting .fresh)))
      (step : Step world (.begun (.starting .fresh)) next) :
      Conduct options admits next (operations ++ [.start (.waiting .fresh)]) log
  | stopBegins {world next : World} {operations : List Operation} {log : List Entry}
      (earlier : Conduct options admits world operations log)
      (admitted : admits operations (.shutdown (.waiting .fresh)))
      (step : Step world (.begun (.stopping .fresh)) next) :
      Conduct options admits next (operations ++ [.shutdown (.waiting .fresh)]) log
  | startGoesOn {world next : World} {before after : List Operation} {phase : StartPhase}
      {progress : Progress (Except ServiceFault Unit) StartPhase} {log : List Entry}
      {calls : List Call}
      (earlier : Conduct options admits world (before ++ .start (.waiting phase) :: after) log)
      (step : Step world (.turn (.starting phase) (progress.map .started .starting)) next)
      (made : governingCalls next.service.calls = governingCalls world.service.calls ++ calls) :
      Conduct options admits next (before ++ .start progress :: after)
        (log ++ entriesOf before.length (.start progress) calls)
  | stopGoesOn {world next : World} {before after : List Operation} {phase : StopPhase}
      {progress : Progress Unit StopPhase} {log : List Entry} {calls : List Call}
      (earlier : Conduct options admits world (before ++ .shutdown (.waiting phase) :: after) log)
      (step :
        Step world (.turn (.stopping phase) (progress.map (fun _ => .stopped) .stopping)) next)
      (made : governingCalls next.service.calls = governingCalls world.service.calls ++ calls) :
      Conduct options admits next (before ++ .shutdown progress :: after)
        (log ++ entriesOf before.length (.shutdown progress) calls)

variable {options : ServiceOptions} {admits : List Operation → Operation → Prop}
  {world next : World} {operations : List Operation} {log : List Entry}

/-- The log tells which starts and stops the service has recorded, in order. -/
theorem Conduct.calls (conduct : Conduct options admits world operations log) :
    log.map Entry.call = governingCalls world.service.calls := by
  induction conduct with
  | new new =>
      obtain ⟨source, engine, points, handlers, startedAt, surroundings, rfl⟩ := new
      rfl
  | meanwhile earlier other step ih => rw [ih, (step.aside other).calls]
  | changes points earlier same ih => exact ih
  | startBegins earlier admitted step ih | stopBegins earlier admitted step ih =>
      cases step
      exact ih
  | startGoesOn earlier step made ih | stopGoesOn earlier step made ih =>
      rw [List.map_append, ih, map_entriesOf, made]

/-! ## Operations seen from the points -/

/-- What became of operations, as far as it depends on how things stand. -/
inductive Annals (admits : List Operation → Operation → Prop) (ids : List String) :
    Stand → List Operation → List Entry → Prop where
  | new : Annals admits ids ⟨false, false⟩ [] []
  | begins {stand : Stand} {operations : List Operation} {log : List Entry} {operation : Operation}
      (earlier : Annals admits ids stand operations log) (fresh : operation.isFresh = true)
      (admitted : admits operations operation) :
      Annals admits ids stand (operations ++ [operation]) log
  | starts {points : List Point} {stand stand' : Stand} {before after : List Operation}
      {phase : StartPhase} {progress : Progress (Except ServiceFault Unit) StartPhase}
      {log : List Entry} {calls : List Call}
      (earlier : Annals admits ids stand (before ++ .start (.waiting phase) :: after) log)
      (same : points.map Point.id = ids)
      (moves : Service.StartMoves points stand phase stand' progress calls) :
      Annals admits ids stand' (before ++ .start progress :: after)
        (log ++ entriesOf before.length (.start progress) calls)
  | stops {points : List Point} {stand stand' : Stand} {before after : List Operation}
      {phase : StopPhase} {progress : Progress Unit StopPhase} {log : List Entry}
      {calls : List Call}
      (earlier : Annals admits ids stand (before ++ .shutdown (.waiting phase) :: after) log)
      (same : points.map Point.id = ids)
      (moves : Service.StopMoves points stand phase stand' progress calls) :
      Annals admits ids stand' (before ++ .shutdown progress :: after)
        (log ++ entriesOf before.length (.shutdown progress) calls)

def pointIds (world : World) : List String :=
  world.service.pipeline.points.map Point.id

end World

namespace World

variable {options : ServiceOptions} {admits : List Operation → Operation → Prop}
  {world next : World} {operations : List Operation} {log : List Entry}

theorem Step.startMoves {phase : StartPhase}
    {progress : Progress (Except ServiceFault Unit) StartPhase} {calls : List Call}
    (step : Step world (.turn (.starting phase) (progress.map .started .starting)) next)
    (made : governingCalls next.service.calls = governingCalls world.service.calls ++ calls) :
    Service.StartMoves world.service.pipeline.points world.service.stand phase next.service.stand
        progress calls ∧ next.service.pipeline = world.service.pipeline := by
  generalize reached : progress.map Answer.started Activity.starting = progress' at step
  obtain ⟨calls', moves, moved⟩ := world.service.start_moves world.now phase
  cases step with
  | turns left right _ service _ split ran =>
      have ran' : world.service.start world.now phase = (service, progress) := by
        simp only [Activity.part, Prod.mk.injEq] at ran
        obtain ⟨rfl, same⟩ := ran
        rw [← reached] at same
        have same := Progress.map_injective (fun _ _ => Answer.started.inj)
          (fun _ _ => Activity.starting.inj) same
        rw [← same]
      rw [ran'] at moves moved
      rw [moved.calls] at made
      exact ⟨List.append_cancel_left made ▸ moves, moved.pipeline⟩

theorem Step.stopTurn {phase : StopPhase} {progress : Progress Unit StopPhase}
    (step :
      Step world (.turn (.stopping phase) (progress.map (fun _ => .stopped) .stopping)) next) :
    world.service.shutdown phase = (next.service, progress) ∧
      ∃ left right, world.tasks = left ++ .stopping phase :: right ∧
        next.tasks = left ++ progress.rest.map .stopping ++ right := by
  generalize reached : progress.map (fun _ => Answer.stopped) Activity.stopping = progress' at step
  cases step with
  | turns left right _ service _ split ran =>
      simp only [Activity.part, Prod.mk.injEq] at ran
      obtain ⟨rfl, same⟩ := ran
      rw [← reached] at same
      have same := Progress.map_injective (fun _ _ _ => rfl)
        (fun _ _ => Activity.stopping.inj) same
      refine ⟨by rw [← same], left, right, split, ?_⟩
      rw [← reached, Progress.rest_map]

theorem Step.stopMoves {phase : StopPhase} {progress : Progress Unit StopPhase}
    {calls : List Call}
    (step : Step world (.turn (.stopping phase) (progress.map (fun _ => .stopped) .stopping)) next)
    (made : governingCalls next.service.calls = governingCalls world.service.calls ++ calls) :
    Service.StopMoves world.service.pipeline.points world.service.stand phase next.service.stand
        progress calls ∧ next.service.pipeline = world.service.pipeline := by
  obtain ⟨calls', moves, moved⟩ := world.service.shutdown_moves phase
  obtain ⟨ran, -⟩ := step.stopTurn
  rw [ran] at moves moved
  rw [moved.calls] at made
  exact ⟨List.append_cancel_left made ▸ moves, moved.pipeline⟩

theorem Conduct.annals (conduct : Conduct options admits world operations log) :
    Annals admits world.pointIds world.service.stand operations log := by
  induction conduct with
  | new new =>
      obtain ⟨source, engine, points, handlers, startedAt, surroundings, rfl⟩ := new
      exact .new
  | meanwhile earlier other step ih =>
      have aside := step.aside other
      rw [pointIds, aside.pipeline, Service.stand, Service.isRefreshRunning, Service.isRunning,
        aside.loop, aside.admission]
      exact ih
  | changes points earlier same ih =>
      rw [pointIds] at ih ⊢
      rw [same]
      exact ih
  | startBegins earlier admitted step ih | stopBegins earlier admitted step ih =>
      cases step
      exact ih.begins rfl admitted
  | startGoesOn earlier step made ih =>
      obtain ⟨moves, pipeline⟩ := step.startMoves made
      rw [pointIds, pipeline]
      exact .starts ih rfl moves
  | stopGoesOn earlier step made ih =>
      obtain ⟨moves, pipeline⟩ := step.stopMoves made
      rw [pointIds, pipeline]
      exact .stops ih rfl moves

end World

/-! ## Places -/

/-- The points that an operation holds stand where the service has them. -/
def Operation.Fits (ids : List String) : Operation → Prop
  | start (.waiting (.startingPoint started point later)) =>
    (started ++ point :: later).map Point.id = ids
  | start (.waiting (.stoppingPoint later _)) | shutdown (.waiting (.stoppingPoint later)) =>
    later.length < ids.length ∧ later.reverse.map Point.id <+: ids
  | _ => True

/-- The call of an entry is a start or a stop of the point at its place. -/
def Entry.Fits (ids : List String) (entry : Entry) : Prop :=
  ∃ point, (entry.call = .start point ∨ entry.call = .stop point) ∧
    ids[entry.place]? = some point.id

section Places

variable {points : List Point} {stand stand' : Stand} {number : Nat} {calls : List Call}

/-- The last of some points that come first among all of them has its place behind the others. -/
theorem last_fits {ids : List String} {point : Point} {later : List Point}
    (first : (point :: later).reverse.map Point.id <+: ids) :
    ids[later.length]? = some point.id ∧ later.length < ids.length ∧
      later.reverse.map Point.id <+: ids := by
  obtain ⟨rest, rfl⟩ := first
  simp only [List.reverse_cons, List.map_append, List.append_assoc]
  refine ⟨?_, ?_, List.prefix_append _ _⟩
  · rw [List.getElem?_append_right (by simp)]
    simp
  · simp

theorem allReversed (points : List Point) :
    points.reverse.reverse.map Point.id <+: points.map Point.id := by
  simp

theorem Service.RollsBack.fits {ids : List String} {fault : ServiceFault}
    {progress : Progress (Except ServiceFault Unit) StartPhase}
    (rolls : RollsBack fault points progress calls)
    (first : points.reverse.map Point.id <+: ids) :
    (Operation.start progress).Fits ids ∧
      ∀ entry ∈ entriesOf number (.start progress) calls, entry.Fits ids := by
  cases rolls with
  | ends => exact ⟨trivial, by simp [entriesOf]⟩
  | @stops point later =>
      obtain ⟨here, fewer, first'⟩ := last_fits first
      refine ⟨⟨fewer, first'⟩, ?_⟩
      intro entry mem
      cases List.mem_singleton.mp mem
      exact ⟨point, .inr rfl, here⟩

theorem Service.Stops.fits {ids : List String} {progress : Progress Unit StopPhase}
    (stops : Stops points progress calls) (first : points.reverse.map Point.id <+: ids) :
    (Operation.shutdown progress).Fits ids ∧
      ∀ entry ∈ entriesOf number (.shutdown progress) calls, entry.Fits ids := by
  cases stops with
  | ends => exact ⟨trivial, by simp [entriesOf]⟩
  | @stops point later =>
      obtain ⟨here, fewer, first'⟩ := last_fits first
      refine ⟨⟨fewer, first'⟩, ?_⟩
      intro entry mem
      cases List.mem_singleton.mp mem
      exact ⟨point, .inr rfl, here⟩

theorem Service.Remains.fits {phase : StartPhase} {started later : List Point}
    (remains : Remains points stand phase started later)
    (fits : (Operation.start (.waiting phase)).Fits (points.map Point.id)) :
    (started ++ later).map Point.id = points.map Point.id := by
  cases remains with
  | begins shut => rfl
  | succeeds succeeded =>
      rw [List.append_assoc]
      exact fits

theorem Service.StartMoves.fits {phase : StartPhase}
    {progress : Progress (Except ServiceFault Unit) StartPhase}
    (moves : StartMoves points stand phase stand' progress calls)
    (fits : (Operation.start (.waiting phase)).Fits (points.map Point.id)) :
    (Operation.start progress).Fits (points.map Point.id) ∧
      ∀ entry ∈ entriesOf number (.start progress) calls, entry.Fits (points.map Point.id) := by
  have all := allReversed points
  cases moves with
  | @starts _ started later point remains =>
      have placed := remains.fits fits
      refine ⟨placed, ?_⟩
      intro entry mem
      cases List.mem_singleton.mp mem
      refine ⟨point, .inl rfl, ?_⟩
      rw [← placed, List.map_append]
      simp [Operation.place]
  | @fails started later point fault _ _ failed rolls =>
      refine rolls.fits ?_
      simp only [Operation.Fits, List.map_append] at fits
      rw [List.reverse_reverse, ← fits]
      exact List.prefix_append _ _
  | blocked remains taken rolls => exact rolls.fits all
  | gaveUp atGate rolls => exact rolls.fits all
  | stopsLoop rolls => exact rolls.fits all
  | stops rolls => exact rolls.fits fits.2
  | _ => exact ⟨trivial, by simp [entriesOf]⟩

theorem Service.StopMoves.fits {phase : StopPhase} {progress : Progress Unit StopPhase}
    (moves : StopMoves points stand phase stand' progress calls)
    (fits : (Operation.shutdown (.waiting phase)).Fits (points.map Point.id)) :
    (Operation.shutdown progress).Fits (points.map Point.id) ∧
      ∀ entry ∈ entriesOf number (.shutdown progress) calls, entry.Fits (points.map Point.id) := by
  have all := allReversed points
  cases moves with
  | skips atLoop free stops => exact stops.fits all
  | stopsLoop stops => exact stops.fits all
  | stops stops => exact stops.fits fits.2
  | _ => exact ⟨trivial, by simp [entriesOf]⟩

end Places

/-- Every entry of the log is about the point at its place. -/
theorem World.Annals.fits {admits : List Operation → Operation → Prop} {ids : List String}
    {stand : Stand} {operations : List Operation} {log : List Entry}
    (annals : Annals admits ids stand operations log) :
    (∀ operation ∈ operations, operation.Fits ids) ∧ ∀ entry ∈ log, entry.Fits ids := by
  have replaced {before after : List Operation} {operation operation' : Operation}
      (fits : ∀ other ∈ before ++ operation :: after, other.Fits ids)
      (fits' : operation'.Fits ids) :
      ∀ other ∈ before ++ operation' :: after, other.Fits ids := by
    intro other mem
    rcases List.mem_append.mp mem with left | mem
    · exact fits other (List.mem_append_left _ left)
    · rcases List.mem_cons.mp mem with rfl | right
      · exact fits'
      · exact fits other (List.mem_append_right _ (List.mem_cons_of_mem _ right))
  induction annals with
  | new => exact ⟨by simp, by simp⟩
  | begins earlier fresh admitted ih =>
      obtain ⟨fits, placed⟩ := ih
      refine ⟨?_, placed⟩
      intro operation mem
      rcases List.mem_append.mp mem with old | new
      · exact fits operation old
      · cases List.mem_singleton.mp new
        unfold Operation.isFresh at fresh
        split at fresh
        · trivial
        · trivial
        · cases fresh
  | starts earlier same moves ih | stops earlier same moves ih =>
      obtain ⟨fits, placed⟩ := ih
      subst same
      obtain ⟨fits', placed'⟩ := moves.fits (fits _ (by simp))
      refine ⟨replaced fits fits', ?_⟩
      intro entry mem
      exact (List.mem_append.mp mem).elim (placed entry) (placed' entry)

end DecisionPoint
