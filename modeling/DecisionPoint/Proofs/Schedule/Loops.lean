import DecisionPoint.Proofs.Admission.Account
import DecisionPoint.Proofs.Service.Loops

/-!
# Loops in any order

Whatever happens, the loop of the cache keeps its place among the activities until it is told to
stop.
-/

set_option autoImplicit false

namespace DecisionPoint

def Hosts (tasks : List Activity) (number : Nat) : Prop := ∃ phase, .loop number phase ∈ tasks

theorem PolicyCache.runLoop_waiting (cache : PolicyCache) (journal : Journal) (now : Nat)
    (phase : LoopPhase) :
    ∃ phase', (cache.runLoop journal now false phase).2.2 = .waiting phase' := by
  cases phase with
  | fresh => exact ⟨_, rfl⟩
  | ticking ticker =>
      simp only [runLoop, Bool.false_eq_true, if_false]
      split <;> exact ⟨_, rfl⟩
  | fetching ticker wait =>
      simp only [runLoop, Bool.false_eq_true, if_false]
      split <;> exact ⟨_, rfl⟩

theorem PolicyCache.runLoop_done (cache : PolicyCache) (journal : Journal) (now : Nat)
    (phase : LoopPhase) : (cache.runLoop journal now true phase).2.2 = .done () := by
  cases phase <;> rfl

namespace Service

variable {hosted hosted' : Nat → Prop} {service : Service}

theorem Loops.rehost (loops : Loops hosted service)
    (kept : ∀ number, hosted number → hosted' number) : Loops hosted' service := by
  constructor
  · intro number running
    obtain ⟨given, untold, here⟩ := loops.loop number running
    exact ⟨given, untold, here.imp_left (kept number)⟩
  · intro number told
    obtain ⟨given, here⟩ := loops.stopping number told
    exact ⟨given, here.imp_right (Or.imp_left (kept number))⟩

/-- A loop takes its turn: it goes on, or it was told to stop and ends. -/
theorem Loops.runLoop (loops : Loops hosted service) (now number : Nat) (phase : LoopPhase)
    (kept : ∀ other, hosted other → hosted' other ∨ other = number)
    (waits : ∀ phase', (service.runLoop now number phase).2 = .waiting phase' → hosted' number) :
    Loops hosted' (service.runLoop now number phase).1 := by
  have steady := service.cache.runLoop_steady service.journal now
    (service.stopping.contains number) phase
  have goesOn := service.cache.runLoop_waiting service.journal now phase
  unfold Service.runLoop at waits ⊢
  cases told : service.stopping.contains number with
  | false =>
      obtain ⟨phase', ran⟩ := goesOn
      rw [told] at steady waits
      generalize service.cache.runLoop service.journal now false phase = run at steady ran waits ⊢
      obtain ⟨cache, journal, progress⟩ := run
      cases ran
      exact (loops.withCache steady).rehost fun other here =>
        (kept other here).elim id fun same => same ▸ waits phase' rfl
  | true =>
      have ends := service.cache.runLoop_done service.journal now phase
      rw [told] at steady
      generalize service.cache.runLoop service.journal now true phase = run at steady ends ⊢
      obtain ⟨cache, journal, progress⟩ := run
      cases ends
      have loops' := loops.withCache steady
      have stopped : number ∈ service.stopping := List.contains_iff_mem.mp told
      constructor
      · intro other running
        obtain ⟨given, untold, here⟩ := loops'.loop other running
        refine ⟨given, untold, here.imp_left fun here => ?_⟩
        refine (kept other here).resolve_right ?_
        rintro rfl
        exact untold stopped
      · intro other told'
        obtain ⟨given, here⟩ := loops'.stopping other told'
        refine ⟨given, ?_⟩
        rcases here with ended | here | spawned
        · exact .inl (List.mem_append_left _ ended)
        · rcases kept other here with here' | rfl
          · exact .inr (.inl here')
          · exact .inl (List.mem_append_right _ (List.mem_singleton_self _))
        · exact .inr (.inr spawned)

end Service

namespace Activity

theorem part_calm {activity : Activity} {service after : Service} {surroundings : Surroundings}
    {now : Nat} {progress : Progress Answer Activity} (other : activity.isLooking = false)
    (calm : activity.governs = false)
    (ran : activity.part service surroundings now = (after, progress)) :
    ∃ deeds, Service.Does false service deeds after := by
  obtain ⟨deeds, does⟩ := part_does service surroundings now activity other
  rw [ran] at does
  exact ⟨deeds, calm ▸ does.does⟩

theorem dropFrom_calm (activity : Activity) (service : Service) :
    ∃ deeds, Service.Does false service deeds (activity.dropFrom service) := by
  have released : Steady (service.cache, service.journal)
      (service.cache.release, service.journal) := ⟨rfl, rfl, rfl, rfl⟩
  have left (ticket : Ticket) :
      ∃ deeds, Service.Does false service deeds (service.leave ticket) := by
    obtain ⟨deeds, does, -⟩ := service.leave_does false ticket
    exact ⟨deeds, does⟩
  unfold dropFrom
  split
  · exact ⟨[], .rests (service.withCache_rests _ _ released)⟩
  · split
    · exact left _
    · exact left _
    · exact ⟨[], .refl false service⟩

theorem part_loops {activity : Activity} {hosted : Nat → Prop} {service after : Service}
    {surroundings : Surroundings} {now : Nat} {progress : Progress Answer Activity}
    (other : ∀ number phase, activity ≠ .loop number phase) (loops : service.Loops hosted)
    (ran : activity.part service surroundings now = (after, progress)) : after.Loops hosted := by
  cases activity with
  | loop number phase => exact absurd rfl (other number phase)
  | worker id phase =>
      obtain ⟨deeds, turn⟩ := service.runWorker_turn now id phase
      cases ran
      exact turn.attends.loops loops
  | evaluating request waited =>
      rw [part_evaluating] at ran
      cases ran
      exact (Look.mk service now request waited).evaluates.toAttends.loops loops
  | starting phase =>
      cases ran
      exact loops.start now phase
  | stopping phase =>
      cases ran
      exact loops.shutdown phase
  | stoppingLoop number =>
      rcases number with - | number
      · have dismissed := loops.dismissLoop
        simp only [part, run] at ran
        generalize service.dismissLoop = run at ran dismissed
        obtain ⟨service', loop⟩ := run
        cases loop <;> cases ran <;> exact dismissed
      · simp only [part, run] at ran
        split at ran <;> cases ran <;> exact loops
  | _ =>
      obtain ⟨deeds, does⟩ := part_calm rfl rfl ran
      exact does.loops loops

end Activity

namespace World

/-- The loop of the cache has its place and was not told to stop. -/
def Loops (world : World) : Prop := world.service.Loops (Hosts world.tasks)

variable {world next : World} {happening : Happening}

theorem hosts_split {left right : List Activity} {activity : Activity} {number : Nat}
    (here : Hosts (left ++ activity :: right) number) :
    (∃ phase, activity = .loop number phase) ∨
      ∀ rest, Hosts (left ++ rest ++ right) number := by
  obtain ⟨phase, mem⟩ := here
  rcases List.mem_append.mp mem with before | later
  · exact .inr fun rest => ⟨phase, List.mem_append_left _ (List.mem_append_left _ before)⟩
  · rcases List.mem_cons.mp later with same | after
    · exact .inl ⟨phase, same.symm⟩
    · exact .inr fun rest => ⟨phase, List.mem_append_right _ after⟩

theorem hosts_rest {left right rest : List Activity} {number : Nat} {phase : LoopPhase}
    (mem : .loop number phase ∈ rest) : Hosts (left ++ rest ++ right) number :=
  ⟨phase, List.mem_append_left _ (List.mem_append_right _ mem)⟩

theorem Loops.joins (loops : world.Loops) :
    { world.service with spawned := [] }.Loops
      (Hosts (world.tasks ++ world.service.spawned.map Spawned.activity)) := by
  have joined (number : Nat)
      (here : Hosts world.tasks number ∨ .loop number ∈ world.service.spawned) :
      Hosts (world.tasks ++ world.service.spawned.map Spawned.activity) number := by
    rcases here with ⟨phase, mem⟩ | mem
    · exact ⟨phase, List.mem_append_left _ mem⟩
    · exact ⟨.fresh, List.mem_append_right _ (List.mem_map.mpr ⟨_, mem, rfl⟩)⟩
  constructor
  · intro number running
    obtain ⟨given, untold, here⟩ := Service.Loops.loop loops number running
    exact ⟨given, untold, .inl (joined number here)⟩
  · intro number told
    obtain ⟨given, here⟩ := Service.Loops.stopping loops number told
    exact ⟨given, here.imp_right fun here => .inl (joined number here)⟩

theorem Step.loops (step : Step world happening next) (loops : world.Loops) : next.Loops := by
  cases step with
  | time later forward => exact loops
  | source source =>
      exact loops.still rfl rfl (List.Subset.refl _) (List.Subset.refl _) (Nat.le_refl _)
  | registry registry =>
      exact loops.still rfl rfl (List.Subset.refl _) (List.Subset.refl _) (Nat.le_refl _)
  | loopStarts service started => exact Service.Loops.startRefresh loops started
  | joins => exact loops.joins
  | begins activity fresh =>
      exact Service.Loops.rehost loops fun number ⟨phase, mem⟩ =>
        ⟨phase, List.mem_append_left _ mem⟩
  | turns left right activity service progress split ran =>
      rw [World.Loops, split] at loops
      by_cases other : ∀ number phase, activity ≠ .loop number phase
      · refine (Activity.part_loops other loops ran).rehost fun number here => ?_
        rcases hosts_split here with ⟨phase, same⟩ | kept
        · exact absurd same (other number phase)
        · exact kept _
      · -- The turn of a loop, which may be its last one.
        simp only [not_forall, not_not] at other
        obtain ⟨number, phase, rfl⟩ := other
        simp only [Activity.part, Activity.run, Prod.mk.injEq] at ran
        obtain ⟨rfl, rfl⟩ := ran
        refine Service.Loops.runLoop loops world.now number phase (fun other here => ?_) ?_
        · rcases hosts_split here with ⟨phase', same⟩ | kept
          · cases same
            exact .inr rfl
          · exact .inl (kept _)
        · intro phase' waits
          rw [waits]
          exact hosts_rest (List.mem_singleton_self _)
  | overlooks left right number phase phase' cache journal split ran =>
      have steady := world.service.cache.runLoop_steady world.service.journal world.now false phase
      rw [ran] at steady
      rw [World.Loops, split] at loops
      refine (Service.Loops.withCache loops steady).rehost fun other here => ?_
      rw [List.append_cons]
      rcases hosts_split here with ⟨phase'', same⟩ | kept
      · cases same
        exact hosts_rest (List.mem_singleton_self _)
      · exact kept _
  | drops left right activity split droppable =>
      obtain ⟨deeds, does⟩ := activity.dropFrom_calm world.service
      rw [World.Loops, split] at loops
      refine (does.loops loops).rehost fun number here => ?_
      rcases hosts_split here with ⟨phase, rfl⟩ | kept
      · cases droppable
      · have moved := kept []
        rwa [List.append_nil] at moved

theorem Run.loops {options : ServiceOptions} {beginning : World} {happenings : List Happening}
    (run : Run beginning happenings world) (new : beginning.IsNew options) : world.Loops := by
  induction run with
  | start =>
      obtain ⟨source, engine, points, handlers, startedAt, surroundings, rfl⟩ := new
      constructor
      · intro number running
        cases running
      · intro number told
        cases told
  | step _ step ih => exact step.loops ih

end World

end DecisionPoint
