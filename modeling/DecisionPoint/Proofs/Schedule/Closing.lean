import DecisionPoint.Proofs.Admission.Draining
import DecisionPoint.Proofs.Schedule.Conduct
import DecisionPoint.Proofs.Service.Stopping

/-!
# Shutdowns among other activities

A `Closing` is a shutdown from some phase on, with whatever else happens meanwhile.  Nobody else
starts or stops the service, but requests are made, requesters wait or go away, and workers take
their turns as they like.
-/

set_option autoImplicit false

namespace DecisionPoint

namespace Happening

def isBeside (happening : Happening) : Bool := happening.steers = false

/-- Whether something happens by itself: time passes, or what goes on takes its turn. -/
def isOwn : Happening → Bool
  | time | joined => true
  | turn activity _ => activity.steers = false
  | _ => false

theorem isBeside_iff (happening : Happening) :
    happening.isBeside = true ↔ happening.steers = false :=
  decide_eq_true_iff

theorem steers_of_isOwn {happening : Happening} (own : happening.isOwn = true) :
    happening.steers = false := by
  cases happening with
  | time | joined => rfl
  | turn activity progress => exact of_decide_eq_true own
  | _ => cases own

end Happening

namespace World

/-- What becomes of a shutdown in some world, with what is done for requests, while other things
happen that are allowed. -/
inductive Closing (allowed : Happening → Bool) (origin : World) (phase : StopPhase) :
    World → Progress Unit StopPhase → List Deed → Prop where
  | here : Closing allowed origin phase origin (.waiting phase) []
  | meanwhile {world next : World} {happening : Happening} {progress : Progress Unit StopPhase}
      {deeds later : List Deed} (earlier : Closing allowed origin phase world progress deeds)
      (permitted : allowed happening = true) (step : Step world happening next)
      (acts : Acts world happening later next.service) :
      Closing allowed origin phase next progress (deeds ++ later)
  | goesOn {world next : World} {phase' : StopPhase} {progress : Progress Unit StopPhase}
      {deeds later : List Deed}
      (earlier : Closing allowed origin phase world (.waiting phase') deeds)
      (step :
        Step world (.turn (.stopping phase') (progress.map (fun _ => .stopped) .stopping)) next)
      (acts : Acts world (.turn (.stopping phase') (progress.map (fun _ => .stopped) .stopping))
        later next.service) :
      Closing allowed origin phase next progress (deeds ++ later)

variable {allowed : Happening → Bool} {beginning origin world next : World}
  {options : ServiceOptions} {happenings : List Happening} {happening : Happening} {number : Nat}
  {phase phase' : StopPhase} {progress : Progress Unit StopPhase} {deeds later : List Deed}

theorem Closing.trans (first : Closing allowed origin phase world (.waiting phase') deeds)
    (second : Closing allowed world phase' next progress later) :
    Closing allowed origin phase next progress (deeds ++ later) := by
  induction second with
  | here =>
      rw [List.append_nil]
      exact first
  | meanwhile _ permitted step acts ih =>
      rw [← List.append_assoc]
      exact ih.meanwhile permitted step acts
  | goesOn _ step acts ih =>
      rw [← List.append_assoc]
      exact ih.goesOn step acts

theorem Closing.mono {allowed' : Happening → Bool}
    (closing : Closing allowed origin phase world progress later)
    (more : ∀ happening, allowed happening = true → allowed' happening = true) :
    Closing allowed' origin phase world progress later := by
  induction closing with
  | here => exact .here
  | meanwhile _ permitted step acts ih => exact ih.meanwhile (more _ permitted) step acts
  | goesOn _ step acts ih => exact ih.goesOn step acts

theorem Closing.ledger (closing : Closing allowed origin phase world progress later)
    (ledger : Ledger beginning happenings origin deeds) :
    ∃ more, Ledger beginning (happenings ++ more) world (deeds ++ later) := by
  induction closing with
  | here =>
      refine ⟨[], ?_⟩
      rw [List.append_nil, List.append_nil]
      exact ledger
  | meanwhile _ _ step acts ih | goesOn _ step acts ih =>
      obtain ⟨more, ledger'⟩ := ih
      have next := ledger'.step step acts
      rw [List.append_assoc, List.append_assoc] at next
      exact ⟨_, next⟩

/-! ## Where a shutdown stands -/

/-- Where a shutdown stands among the other activities, and what its shell has come to. -/
structure Stands (options : ServiceOptions) (origin : Service) (number : Nat) (world : World)
    (progress : Progress Unit StopPhase) (deeds : List Deed) : Prop where
  stage : Service.StopStage origin number world.service progress
  place : ∀ phase, progress = .waiting phase → .stopping phase ∈ world.tasks
  closed : progress ≠ .waiting .fresh → .closed ∈ dealingsAt number deeds
  drained : hasWaited progress = true → Drained options.admission (dealingsAt number deeds)

theorem Stands.shell {service : Service}
    (stands : Stands options service number world progress deeds)
    (accounts : Accounts options deeds world.service world.activities) :
    ∃ shell, world.service.shell? number = some shell := by
  by_cases fresh : progress = .waiting .fresh
  · obtain ⟨stage, -, -, -⟩ := stands
    rw [fresh] at stage
    cases stage with
    | fresh follows admits loop =>
        obtain ⟨shell, found, -⟩ := accounts.admits number admits
        exact ⟨shell, found⟩
  · have closed := stands.closed fresh
    cases found : world.service.shell? number with
    | some shell => exact ⟨shell, rfl⟩
    | none =>
        rw [(accounts.elsewhere number found).1] at closed
        cases closed

theorem Stands.meanwhile {service : Service}
    (stands : Stands options service number world progress deeds)
    (step : Step world happening next) (other : happening.steers = false) (later : List Deed) :
    Stands options service number next progress (deeds ++ later) := by
  obtain ⟨stage, place, closed, drained⟩ := stands
  refine ⟨stage.aside (step.aside other), ?_, ?_, ?_⟩
  · intro phase waits
    have mem : .stopping phase ∈ world.tasks.filter Activity.steers :=
      List.mem_filter.mpr ⟨place phase waits, rfl⟩
    rw [← step.steering other] at mem
    exact (List.mem_filter.mp mem).1
  · intro begun
    rw [dealingsAt_append]
    exact List.mem_append_left _ (closed begun)
  · intro waited
    rw [dealingsAt_append]
    exact (drained waited).append _

theorem Stands.goesOn {service : Service}
    (stands : Stands options service number world (.waiting phase) deeds)
    (step :
      Step world (.turn (.stopping phase) (progress.map (fun _ => .stopped) .stopping)) next)
    (accounts : Accounts options deeds world.service world.activities)
    (accounts' : Accounts options (deeds ++ later) next.service next.activities) :
    Stands options service number next progress (deeds ++ later) := by
  obtain ⟨shell, found⟩ := stands.shell accounts
  have here : phase = .fresh → (world.service.shell? number).isSome = true :=
    fun _ => Option.isSome_iff_exists.mpr ⟨shell, found⟩
  obtain ⟨ran, left, right, -, tasks⟩ := step.stopTurn
  obtain ⟨stage, -, closed, drained⟩ := stands
  refine ⟨?_, ?_, ?_, ?_⟩
  · have stage' := stage.shutdown here
    rw [ran] at stage'
    exact stage'
  · rintro phase' rfl
    rw [tasks]
    simp [Progress.rest]
  · intro _
    by_cases fresh : phase = .fresh
    · -- The shutdown has just closed the shell, and only then a shell is closed.
      subst fresh
      cases stage with
      | fresh follows admits loop =>
          simp only [Service.shutdown, admits, found] at ran
          have found' : next.service.shell? number = some shell.close := by
            rw [← (Prod.mk.inj ran).1]
            exact (world.service.shell?_withShell found shell.close number).trans (if_pos rfl)
          have life := (accounts'.shells number shell.close found').1
          by_contra unclosed
          cases life.isOpen.mpr unclosed
    · rw [dealingsAt_append]
      exact List.mem_append_left _ (closed fun same => fresh (Progress.waiting.inj same))
  · intro waited
    rw [dealingsAt_append]
    refine Drained.append ?_ _
    cases before : hasWaited (.waiting phase) with
    | true => exact drained before
    | false =>
        have after : hasWaited (world.service.shutdown phase).2 = true := by
          rw [ran]
          exact waited
        have empty := stage.drains here before after
        rw [(accounts.shells number shell found).1.drained_iff]
        simpa [Service.hasDrained, found] using empty

theorem Closing.stands {service : Service}
    (closing : Closing allowed origin phase world progress later)
    (only : ∀ happening, allowed happening = true → happening.steers = false)
    (ledger : Ledger beginning happenings origin deeds) (new : beginning.IsNew options)
    (stands : Stands options service number origin (.waiting phase) deeds) :
    Stands options service number world progress (deeds ++ later) := by
  induction closing with
  | here =>
      rw [List.append_nil]
      exact stands
  | meanwhile _ permitted step acts ih =>
      rw [← List.append_assoc]
      exact ih.meanwhile step (only _ permitted) _
  | goesOn earlier step acts ih =>
      obtain ⟨more, ledger'⟩ := earlier.ledger ledger
      rw [← List.append_assoc]
      exact ih.goesOn step (ledger'.accounts new) ((ledger'.step step acts).accounts new)

end World

end DecisionPoint
