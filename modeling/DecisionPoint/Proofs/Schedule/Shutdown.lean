import DecisionPoint.Proofs.Admission.Conservation
import DecisionPoint.Proofs.Schedule.Draining
import DecisionPoint.Proofs.Schedule.Orderly

/-!
# Shutdowns drain

A shutdown of a running service waits until every accepted request is evaluated and every requester
has its result or has given up.  Only then it stops the loop and the points, and from its first turn
on whoever asks is turned away.
-/

set_option autoImplicit false

namespace DecisionPoint

namespace World

/-- Whoever asks is turned away, and nothing changes by it. -/
def TurnsAway (world : World) : Prop :=
  (∀ request, world.service.submit request = (world.service, .error .closed)) ∧
    ∀ giveUp request answer next,
      Step world (.turn (.authorizing giveUp request none) answer) next →
        next.service = world.service ∧ answer = .done (.authorized (.error .closed))

/-- Who waits for a result gets that of its own request, unless it gives up. -/
def GivesResults (world : World) (deeds : List Deed) : Prop :=
  ∀ giveUp request ticket answer next,
    Step world (.turn (.authorizing giveUp request (some ticket)) answer) next →
      (∃ result, answer = .done (.authorized (.ok result)) ∧
        (⟨ticket.number, request⟩, result) ∈ jobsFinished (dealingsAt ticket.shell deeds)) ∨
      answer = .done .abandoned ∧ hasCome world.now giveUp = true ∨
      answer = .waiting (.authorizing giveUp request (some ticket))

/-- All requests that a shell has accepted were evaluated to their ends, and nobody waits for their
results any more. -/
structure Finished (world beginning : World) (number : Nat) (deeds : List Deed) : Prop where
  evaluated : ∀ job ∈ jobsAccepted (dealingsAt number deeds), ∃ result,
    (job, result) ∈ jobsFinished (dealingsAt number deeds) ∧
      ∃ policy past middle look, Pursuit beginning job.request policy past middle look ∧
        look.run.2 = .done result
  answered : ∀ activity ∈ world.tasks, ∀ ticket ∈ activity.tickets, ticket.shell ≠ number

section Safety

variable {beginning origin world next : World} {options : ServiceOptions}
  {happenings : List Happening} {number : Nat} {deeds : List Deed} {phase : StopPhase}
  {progress : Progress Unit StopPhase}

theorem turnsAway_of_shut (shut : world.service.admission = none) : world.TurnsAway := by
  have refused (request : Request) :
      world.service.submit request = (world.service, .error .closed) := by
    rw [Service.submit, shut]
  refine ⟨refused, ?_⟩
  intro giveUp request answer next step
  cases step with
  | turns left right _ service _ split ran =>
      simp only [Activity.part, Activity.run, refused] at ran
      cases ran
      exact ⟨rfl, rfl⟩

theorem Ledger.givesResults (ledger : Ledger beginning happenings world deeds)
    (new : beginning.IsNew options) : world.GivesResults deeds := by
  intro giveUp request ticket answer next step
  cases step with
  | turns left right _ service _ split ran =>
      have mem : .authorizing giveUp request (some ticket) ∈ world.tasks := by simp [split]
      obtain ⟨request', asks, -, own⟩ :=
        (ledger.admits new).requesters _ mem ticket (List.mem_singleton_self _)
      have same : request' = request := asks
      subst same
      simp only [Activity.part, Activity.run, Activity.awaitTicket] at ran
      cases answered : world.service.answer? ticket with
      | some result =>
          simp only [Service.collect, answered] at ran
          cases ran
          refine .inl ⟨result, rfl, (own result).mp ?_⟩
          simp [Service.collect, answered]
      | none =>
          simp only [Service.collect, answered] at ran
          split at ran
          · next come =>
              cases ran
              exact .inr (.inl ⟨rfl, come⟩)
          · cases ran
            exact .inr (.inr rfl)

/-- When all workers of a shell have ended, everything it has accepted is finished. -/
theorem Ledger.finished_of_drained (ledger : Ledger beginning happenings world deeds)
    (new : beginning.IsNew options) {shell : Shell}
    (found : world.service.shell? number = some shell)
    (drained : Drained options.admission (dealingsAt number deeds)) :
    world.Finished beginning number deeds := by
  obtain ⟨life, -⟩ := (ledger.accounts new).shells number shell found
  constructor
  · intro job accepted
    obtain ⟨empty, rest⟩ := life.rest_of_drained drained
    obtain ⟨result, finished⟩ := life.finished_of_rest empty rest job accepted
    refine ⟨result, finished, ?_⟩
    obtain ⟨dealing, mem, here⟩ := List.mem_filterMap.mp finished
    cases dealing with
    | finished worker job' result' =>
        cases here
        rw [mem_dealingsAt] at mem
        obtain ⟨source, engine, points, handlers, startedAt, surroundings, rfl⟩ := new
        exact ledger.finished (by simp [World.start]) mem
    | _ => cases here
  · -- Whoever still held a ticket would be expected by the shell, which expects nobody.
    rintro activity mem ticket held rfl
    have holders := ledger.holders new
    obtain ⟨request, accepted, -⟩ := holders.asks activity mem ticket held
    have waits := holders.waits activity mem ticket held
    rw [← mem_dealingsAt] at accepted waits
    have expected := life.requesters ⟨ticket.number, request⟩ accepted waits
    rw [life.requesters_of_dismissed (life.dismissed_of_drained drained)] at expected
    cases expected

theorem Ledger.finished_of_missing (ledger : Ledger beginning happenings world deeds)
    (new : beginning.IsNew options) (missing : world.service.shell? number = none) :
    world.Finished beginning number deeds := by
  obtain ⟨nothing, -⟩ := (ledger.accounts new).elsewhere number missing
  constructor
  · intro job accepted
    rw [nothing] at accepted
    cases accepted
  · rintro activity mem ticket held rfl
    obtain ⟨request, accepted, -⟩ := (ledger.holders new).asks activity mem ticket held
    rw [← mem_dealingsAt, nothing] at accepted
    cases accepted

/-- If nobody left a shutdown alone before, nothing is left of earlier shells. -/
theorem Ledger.finished_of_orderly (ledger : Ledger beginning happenings world deeds)
    (new : beginning.IsNew options) (orderly : Orderly beginning happenings world)
    (running : world.service.admission = some number) (called : .stopping .fresh ∈ world.tasks)
    {other : Nat} (differs : other ≠ number) : world.Finished beginning other deeds := by
  obtain ⟨left, right, split⟩ := List.append_of_mem called
  cases found : world.service.shell? other with
  | none => exact ledger.finished_of_missing new found
  | some shell =>
      rcases (orderly.settled new).shell split rfl found with admits | drained | waits
      · rw [running] at admits
        exact absurd (Option.some.inj admits).symm differs
      · have life := ((ledger.accounts new).shells other shell found).1
        exact ledger.finished_of_drained new found (life.drained_iff.mpr drained)
      · cases waits

theorem Stands.finished {service : Service}
    (stands : Stands options service number world progress deeds)
    (ledger : Ledger beginning happenings world deeds) (new : beginning.IsNew options)
    (waited : hasWaited progress = true) : world.Finished beginning number deeds := by
  obtain ⟨shell, found⟩ := stands.shell (ledger.accounts new)
  exact ledger.finished_of_drained new found (stands.drained waited)

/-- While its shell is not empty the turn of a shutdown changes nothing. -/
theorem Ledger.draining (ledger : Ledger beginning happenings world deeds)
    (new : beginning.IsNew options) {shell : Shell}
    (found : world.service.shell? number = some shell)
    (step : Step world
      (.turn (.stopping (.draining number)) (progress.map (fun _ => .stopped) .stopping)) next) :
    progress = .waiting (.draining number) ∧ next.service = world.service ∨
      world.Finished beginning number deeds := by
  obtain ⟨ran, -⟩ := step.stopTurn
  cases drained : world.service.hasDrained number with
  | false =>
      simp only [Service.shutdown, drained, Bool.false_eq_true, if_false] at ran
      obtain ⟨service, reached⟩ := Prod.mk.inj ran
      exact .inl ⟨reached.symm, service.symm⟩
  | true =>
      obtain ⟨life, -⟩ := (ledger.accounts new).shells number shell found
      refine .inr (ledger.finished_of_drained new found (life.drained_iff.mpr ?_))
      simpa [Service.hasDrained, found] using drained

end Safety

/-! ## A shutdown ends -/

section Ends

variable {beginning world : World} {options : ServiceOptions} {happenings : List Happening}
  {service : Service} {number : Nat} {deeds : List Deed} {phase : StopPhase}

theorem Stands.awaits (stands : Stands options service number world (.waiting phase) deeds)
    (ledger : Ledger beginning happenings world deeds) (new : beginning.IsNew options)
    (limited : beginning.service.pipeline.Limited) :
    ∃ next later, Closing Happening.isOwn world phase next (.waiting phase) later ∧
      next.service.stopCanGoOn phase = true := by
  cases phase with
  | fresh => exact ⟨world, [], .here, rfl⟩
  | stoppingPoint later => exact ⟨world, [], .here, rfl⟩
  | draining shell =>
      have same : shell = number := by
        cases stands.stage with
        | draining follows shut loop => rfl
      subst same
      exact ledger.drains new limited (stands.closed nofun) (.draining shell)
  | stoppingLoop loop =>
      have told : loop ∈ world.service.stopping := by
        cases stands.stage with
        | stoppingLoop follows shut ran noLoop told => exact told
      -- Whatever was set going takes its place first.
      obtain ⟨joined, step, told, none, acts⟩ : ∃ joined, Step world .joined joined ∧
          loop ∈ joined.service.stopping ∧ joined.service.spawned = [] ∧
            Acts world .joined [] joined.service :=
        ⟨_, .joins, told, rfl, .joins⟩
      have closing : Closing Happening.isOwn world (.stoppingLoop loop) joined _ [] :=
        Closing.here.meanwhile rfl step acts
      have run := (ledger.step step acts).run
      obtain ⟨-, ended | here | spawned⟩ := (run.loops new).stopping loop told
      · exact ⟨joined, _, closing, List.contains_iff_mem.mpr ended⟩
      · obtain ⟨phase, progress, next, turn, ended⟩ := loopEnds joined told here
        obtain ⟨later, acts'⟩ := turn.acts
        exact ⟨next, _, closing.meanwhile rfl turn acts', List.contains_iff_mem.mpr ended⟩
      · rw [none] at spawned
        cases spawned

theorem Stands.ends (stands : Stands options service number world (.waiting phase) deeds)
    (ledger : Ledger beginning happenings world deeds) (new : beginning.IsNew options)
    (limited : beginning.service.pipeline.Limited) :
    ∃ next later, Closing Happening.isOwn world phase next (.done ()) later := by
  generalize far : phase.distance service.pipeline.points.length = distance
  -- Waiting keeps the phase and its distance; only a turn that can go on lessens it.
  induction distance using Nat.strongRecOn generalizing world happenings deeds phase with
  | ind distance ih =>
      obtain ⟨ready, later, closing, goesOn⟩ := stands.awaits ledger new limited
      obtain ⟨more, ledger'⟩ := closing.ledger ledger
      have stands' := closing.stands (fun _ => Happening.steers_of_isOwn) ledger new stands
      obtain ⟨shell, found⟩ := stands'.shell (ledger'.accounts new)
      have here : phase = .fresh → (ready.service.shell? number).isSome = true :=
        fun _ => Option.isSome_iff_exists.mpr ⟨shell, found⟩
      obtain ⟨left, right, split⟩ := List.append_of_mem (stands'.place phase rfl)
      generalize ran : ready.service.shutdown phase = run
      obtain ⟨after, progress⟩ := run
      have part : Activity.part ready.service ready.surroundings ready.now (.stopping phase) =
          (after, progress.map (fun _ => .stopped) .stopping) := by
        simp only [Activity.part, ran]
      have step := Step.turns left right (.stopping phase) _ _ split part
      obtain ⟨rest, acts⟩ := step.acts
      have turned := closing.goesOn step acts
      cases progress with
      | done ended => exact ⟨_, _, turned⟩
      | waiting phase' =>
          have near := stands'.stage.nearer here goesOn (congrArg Prod.snd ran)
          rw [far] at near
          obtain ⟨happenings', ledger''⟩ := turned.ledger ledger
          have stands'' := turned.stands (fun _ => Happening.steers_of_isOwn) ledger new stands
          obtain ⟨next, last, ends⟩ := ih _ near stands'' ledger'' rfl
          exact ⟨next, _, turned.trans ends⟩

end Ends

end World

/-- A shutdown of a running service, whatever else happens meanwhile.  Until its shell has drained
the loop and the points are left alone; by then every request that the shell has accepted was
evaluated, and whoever has not given up has got the result of its own request.  Then the loop is
stopped, and the points are stopped once each, last first.  From its first turn on whoever asks is
turned away, and nothing changes by that.  If no point waits for ever, the shutdown can be brought
to its end from wherever it is.  Earlier shells have nothing left when it begins, if starts and
shutdowns came one after another. -/
theorem shutdown_drains (options : ServiceOptions) (beginning origin : World)
    (happenings : List Happening) (deeds : List Deed) (number : Nat)
    (new : beginning.IsNew options) (ledger : World.Ledger beginning happenings origin deeds)
    (running : origin.service.admission = some number)
    (called : .stopping .fresh ∈ origin.tasks) :
    (∀ world progress later,
      World.Closing Happening.isBeside origin .fresh world progress later →
        Service.StopStage origin.service number world.service progress ∧
        world.GivesResults (deeds ++ later) ∧
        (progress ≠ .waiting .fresh → world.TurnsAway) ∧
        (hasWaited progress = true → world.Finished beginning number (deeds ++ later))) ∧
    (∀ world later next (progress : Progress Unit StopPhase),
      World.Closing Happening.isBeside origin .fresh world (.waiting (.draining number)) later →
      World.Step world (.turn (.stopping (.draining number))
        (progress.map (fun _ => .stopped) .stopping)) next →
        progress = .waiting (.draining number) ∧ next.service = world.service ∨
          world.Finished beginning number (deeds ++ later)) ∧
    (beginning.service.pipeline.Limited → ∀ world phase later,
      World.Closing Happening.isBeside origin .fresh world (.waiting phase) later →
        ∃ next more, World.Closing Happening.isOwn world phase next (.done ()) more) ∧
    (World.Orderly beginning happenings origin →
      ∀ other, other ≠ number → origin.Finished beginning other deeds) := by
  have begins : World.Stands options origin.service number origin (.waiting .fresh) deeds := by
    refine ⟨.fresh ⟨rfl, rfl, rfl, by simp⟩ running rfl, ?_, fun begun => absurd rfl begun, nofun⟩
    intro phase same
    cases same
    exact called
  have stands {world : World} {progress : Progress Unit StopPhase} {later : List Deed}
      (closing : World.Closing Happening.isBeside origin .fresh world progress later) :=
    closing.stands (fun happening => happening.isBeside_iff.mp) ledger new begins
  refine ⟨?_, ?_, ?_, ?_⟩
  · intro world progress later closing
    obtain ⟨more, ledger'⟩ := closing.ledger ledger
    exact ⟨(stands closing).stage, ledger'.givesResults new,
      fun begun => World.turnsAway_of_shut ((stands closing).stage.shut begun),
      (stands closing).finished ledger' new⟩
  · intro world later next progress closing step
    obtain ⟨more, ledger'⟩ := closing.ledger ledger
    obtain ⟨shell, found⟩ := (stands closing).shell (ledger'.accounts new)
    exact ledger'.draining new found step
  · intro limited world phase later closing
    obtain ⟨more, ledger'⟩ := closing.ledger ledger
    exact (stands closing).ends ledger' new limited
  · intro orderly other differs
    exact ledger.finished_of_orderly new orderly running called differs

namespace SampleShutdown

def directory : Point := ⟨"directory", false, .ok (), .ok (), .finish .succeeded⟩

/-- An information point that takes three milliseconds, and that cannot be stopped. -/
def clock : Point :=
  ⟨"clock", false, .ok (), .error (.failed "stuck"), .pause 3 (.finish .succeeded)⟩

def permitting : Engine := fun _ _ => .decided (.new .permit [] none)

def options : ServiceOptions := { ServiceOptions.default with admission := ⟨1, some 1⟩ }

def beginning : World :=
  .start
    (.new options (.always (.ok (.new "alpha" "1" .epoch))) permitting [directory, clock] .empty
      .epoch)
    .default

def requester (id : String) : Activity := .authorizing none (.blank id) none

end SampleShutdown

open SampleShutdown in
/-- Two requests are accepted before a shutdown, which stops both points, though one of the stops
fails. -/
theorem two_requests_drain :
    ∃ happenings origin deeds shell world later, World.Ledger beginning happenings origin deeds ∧
      World.Orderly beginning happenings origin ∧ origin.service.admission = some 1 ∧
      .stopping .fresh ∈ origin.tasks ∧ origin.service.shell? 1 = some shell ∧
      shell.accepted = 2 ∧ shell.queue.length = 1 ∧
      World.Closing Happening.isBeside origin .fresh world (.done ()) later ∧
      governingCalls world.service.calls =
        [.start directory, .start clock, .stop clock, .stop directory] ∧
      world.TurnsAway ∧ world.Finished beginning 1 (deeds ++ later) ∧
      ∀ other, other ≠ 1 → origin.Finished beginning other deeds := by
  have opened : World.Orderly beginning _ _ :=
    .step (.step (.step (.step (.step .start (.begins (.starting .fresh) rfl) fun _ => rfl)
      (.turns [] [] _ _ _ rfl rfl) trivial) (.turns [] [] _ _ _ rfl rfl) trivial)
      (.turns [] [] _ _ _ rfl rfl) trivial) .joins trivial
  have taken : World.Orderly beginning _ _ :=
    .step (.step (.step opened (.begins (requester "first") rfl) nofun)
      (.turns [_, _] [] _ _ _ rfl rfl) trivial) (.turns [_] [_] _ _ _ rfl rfl) trivial
  have waits : World.Orderly beginning _ _ :=
    .step (.step taken (.begins (requester "second") rfl) nofun)
      (.turns [_, _, _] [] _ _ _ rfl rfl) trivial
  have orderly : World.Orderly beginning _ _ :=
    .step waits (.begins (.stopping .fresh) rfl) fun _ => rfl
  have new : beginning.IsNew options := ⟨_, _, _, _, _, _, rfl⟩
  obtain ⟨deeds, ledger⟩ := orderly.run.ledger
  have called {tasks : List Activity} : .stopping .fresh ∈ tasks ++ [.stopping .fresh] :=
    List.mem_append_right _ (List.mem_singleton_self _)
  obtain ⟨safe, -, ends, elsewhere⟩ :=
    shutdown_drains options beginning _ _ deeds 1 new ledger rfl called
  have limited : beginning.service.pipeline.Limited := fun point _ => .inl rfl
  obtain ⟨world, later, own⟩ := ends limited _ _ _ .here
  have closing := own.mono fun happening own =>
    happening.isBeside_iff.mpr (Happening.steers_of_isOwn own)
  obtain ⟨stage, -, shut, finished⟩ := safe _ _ _ closing
  refine ⟨_, _, deeds, _, world, later, ledger, orderly, rfl, called, rfl, rfl, rfl, closing, ?_,
    shut nofun, finished rfl, elsewhere orderly⟩
  cases stage with
  | done follows shut noLoop => exact follows.calls

end DecisionPoint
