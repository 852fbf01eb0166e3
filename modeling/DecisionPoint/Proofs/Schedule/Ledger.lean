import DecisionPoint.Proofs.Schedule.Deeds

/-!
# Ledgers

A ledger of a run lists everything that was done for requests, happening by happening.  Each run has
one.
-/

set_option autoImplicit false

namespace DecisionPoint

def Happening.isQuiet : Happening → Bool
  | time | source | registry | begun _ => true
  | _ => false

/-- What a look at an evaluation comes to in an activity that evaluates a request. -/
def Look.progress (look : Look) : Progress Answer Activity :=
  look.run.2.map .evaluated fun evaluation => .evaluating look.request (some evaluation)

namespace World

/-- Something that happens consists of some deeds, and this is the service that comes of it. -/
inductive Acts (world : World) : Happening → List Deed → Service → Prop where
  | rests {happening : Happening} {after : Service} (quiet : happening.isQuiet = true)
      (rests : world.service.Rests after) : Acts world happening [] after
  | joins : Acts world .joined [] { world.service with spawned := [] }
  | loopStarts {after : Service} (governs : world.service.Governs after) :
      Acts world .loopStarted [] after
  | worker {id : WorkerId} {phase : WorkerPhase} {deeds : List Deed} {after : Service}
      {progress : Progress Unit WorkerPhase}
      (turn : WorkerTurn world.now id phase world.service deeds after progress) :
      Acts world (.turn (.worker id phase) (progress.map (fun _ => .ended) (.worker id))) deeds
        after
  | evaluates (look : Look) (service : look.service = world.service) (now : look.now = world.now) :
      Acts world (.turn (.evaluating look.request look.waited) look.progress) [.looked look]
        look.run.1
  | does {activity : Activity} {deeds : List Deed} {after : Service}
      {progress : Progress Answer Activity} (other : activity.isLooking = false)
      (does : activity.Does world.surroundings.codec world.service deeds (after, progress)) :
      Acts world (.turn activity progress) deeds after
  | drops {activity : Activity} {deeds : List Deed} {after : Service}
      (does : activity.Does world.surroundings.codec world.service deeds (after, .done .ended)) :
      Acts world (.dropped activity) deeds after

/-- What was done for requests in a run, in order. -/
inductive Ledger (beginning : World) : List Happening → World → List Deed → Prop where
  | start : Ledger beginning [] beginning []
  | step {happenings : List Happening} {world next : World} {happening : Happening}
      {deeds later : List Deed} (earlier : Ledger beginning happenings world deeds)
      (step : Step world happening next) (acts : Acts world happening later next.service) :
      Ledger beginning (happenings ++ [happening]) next (deeds ++ later)

end World

namespace Activity

variable (service : Service) (surroundings : Surroundings) (now : Nat)

theorem part_evaluating (request : Request) (waited : Option Evaluation) :
    (evaluating request waited).part service surroundings now =
      ((Look.mk service now request waited).run.1,
        (Look.mk service now request waited).progress) := by
  cases waited with
  | none =>
      simp only [part, run, Look.run, Look.progress]
      generalize service.evaluate now request = result
      obtain ⟨service', progress⟩ := result
      cases progress <;> rfl
  | some evaluation =>
      simp only [part, run, Look.run, Look.progress]
      generalize service.resumeEvaluation now evaluation = result
      obtain ⟨service', progress⟩ := result
      cases progress <;> rfl

/-- Whoever goes away lets go of a ticket or of the right to refresh. -/
theorem dropFrom_does (codec : Codec) (activity : Activity) :
    ∃ deeds, activity.Does codec service deeds (activity.dropFrom service, .done .ended) := by
  have released : Steady (service.cache, service.journal)
      (service.cache.release, service.journal) := ⟨rfl, rfl, rfl, rfl⟩
  have lets (activity : Activity) (ticket : Ticket) (held : activity.tickets = [ticket])
      (calm : activity.governs = false) :
      ∃ deeds, activity.Does codec service deeds (service.leave ticket, .done .ended) := by
    obtain ⟨deeds, does, own⟩ := service.leave_does false ticket
    have awaits : Awaits ticket deeds [] := .inr ⟨own, rfl⟩
    refine ⟨deeds, calm ▸ does, held ▸ awaits.hands, ?_⟩
    intro number job accepted
    cases List.mem_singleton.mp (own accepted)
  unfold dropFrom
  split
  · next fetching =>
      have none : activity.tickets = [] := by
        unfold isFetching at fetching
        split at fetching
        case h_6 => cases fetching
        all_goals rfl
      exact ⟨[], .ofNothing (.rests (service.withCache_rests _ _ released)) .nil none rfl⟩
  · cases activity with
    | authorizing giveUp request ticket =>
        cases ticket with
        | none => exact ⟨[], .ofNothing (.refl _ service) .nil rfl rfl⟩
        | some ticket => exact lets _ ticket rfl rfl
    | answering listener request phase =>
        cases phase with
        | authorizing ticket deadline => exact lets _ ticket rfl rfl
        | _ => exact ⟨[], .ofNothing (.refl _ service) .nil rfl rfl⟩
    | _ => exact ⟨[], .ofNothing (.refl _ service) .nil rfl rfl⟩

end Activity

namespace World

theorem Step.acts {world next : World} {happening : Happening} (step : Step world happening next) :
    ∃ deeds, Acts world happening deeds next.service := by
  cases step with
  | time later forward => exact ⟨[], .rests rfl (.refl _)⟩
  | source source =>
      exact ⟨[], .rests rfl ⟨rfl, rfl, rfl, rfl, rfl, rfl, rfl, rfl, ⟨rfl, rfl, rfl, rfl⟩,
        Nat.le_refl _⟩⟩
  | registry registry =>
      exact ⟨[], .rests rfl ⟨rfl, rfl, rfl, rfl, rfl, rfl, rfl, rfl, .refl _, Nat.le_refl _⟩⟩
  | loopStarts service started =>
      exact ⟨[], .loopStarts (world.service.startRefresh_governs service started)⟩
  | joins => exact ⟨[], .joins⟩
  | begins activity fresh => exact ⟨[], .rests rfl (.refl _)⟩
  | turns left right activity service progress split ran =>
      cases looking : activity.isLooking with
      | false =>
          obtain ⟨deeds, does⟩ :=
            Activity.part_does world.service world.surroundings world.now activity looking
          rw [ran] at does
          exact ⟨deeds, .does looking does⟩
      | true =>
          cases activity with
          | worker id phase =>
              obtain ⟨deeds, turn⟩ := world.service.runWorker_turn world.now id phase
              simp only [Activity.part, Activity.run, Prod.mk.injEq] at ran
              obtain ⟨rfl, rfl⟩ := ran
              exact ⟨deeds, .worker turn⟩
          | evaluating request waited =>
              rw [Activity.part_evaluating, Prod.mk.injEq] at ran
              obtain ⟨rfl, rfl⟩ := ran
              exact ⟨_, .evaluates ⟨world.service, world.now, request, waited⟩ rfl rfl⟩
          | _ => cases looking
  | overlooks left right number phase phase' cache journal split ran =>
      have steady := world.service.cache.runLoop_steady world.service.journal world.now false phase
      rw [ran] at steady
      exact ⟨[],
        .does rfl (.ofNothing (.rests (Service.withCache_rests _ _ _ steady)) .nil rfl rfl)⟩
  | drops left right activity split droppable =>
      obtain ⟨deeds, does⟩ := Activity.dropFrom_does world.service world.surroundings.codec activity
      exact ⟨deeds, .drops does⟩

theorem Run.ledger {beginning world : World} {happenings : List Happening}
    (run : Run beginning happenings world) :
    ∃ deeds, Ledger beginning happenings world deeds := by
  induction run with
  | start => exact ⟨[], .start⟩
  | step _ step ih =>
      obtain ⟨deeds, earlier⟩ := ih
      obtain ⟨later, acts⟩ := step.acts
      exact ⟨deeds ++ later, earlier.step step acts⟩

theorem Ledger.run {beginning world : World} {happenings : List Happening} {deeds : List Deed}
    (ledger : Ledger beginning happenings world deeds) : Run beginning happenings world := by
  induction ledger with
  | start => exact .start
  | step _ step _ ih => exact ih.step step

end World

end DecisionPoint
