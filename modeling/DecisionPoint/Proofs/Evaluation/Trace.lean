import DecisionPoint.Proofs.Evaluation.FailClosed
import DecisionPoint.Proofs.Evaluation.Looks

/-!
# The calls of an evaluation

An evaluation asks the information points in order, then the engine, and then the handlers that the
registry chooses.  Its first failure ends the calls, and the result names the step at which they
stopped.  Other activities may call collaborators between its looks, so the calls of an evaluation
are read off what each of its looks adds to the calls of the service.
-/

set_option autoImplicit false

namespace DecisionPoint

/-- The calls of information points that have ended.  Each point sees the request as those before it
have left it. -/
def enrichments (request : Request) : List Consultation → List Call
  | [] => []
  | past :: later => .enrich past.point request :: enrichments past.request later

theorem enrichments_append (request : Request) (earlier ends : List Consultation) :
    enrichments request (earlier ++ ends) =
      enrichments request earlier ++ enrichments (lastRequest request earlier) ends := by
  induction earlier generalizing request with
  | nil => rfl
  | cons past later ih =>
      rw [List.cons_append, enrichments, enrichments, ih, List.cons_append]
      rfl

def HandlerRegistry.Task.fulfilment (request : Request) (outcome : Outcome)
    (task : HandlerRegistry.Task) : Call :=
  .fulfil task.item.2 task.obligation outcome request

/-! ## Enrichments -/

namespace Pipeline

def underWay (request : Request) : Progress (Except Verdict Request) PointWait → List Call
  | .waiting wait => [.enrich wait.point request]
  | .done _ => []

theorem enrichBy_calls (timeout : Option Span) (now : Nat) (points : List Point)
    (request : Request) :
    (enrichBy timeout now points request).calls =
      enrichments request (endsBy timeout now points request) ++
        underWay (lastRequest request (endsBy timeout now points request))
          (enrichBy timeout now points request).progress := by
  induction points generalizing request with
  | nil => rfl
  | cons point later ih =>
      simp only [endsBy, enrichBy, endsOf]
      obtain ⟨enrichment, progress⟩ := point.enrich.run (.start request) now
      cases progress with
      | done answer =>
          cases answer with
          | succeeded => exact congrArg (Call.enrich point request :: ·) (ih enrichment.request)
          | failed fault => rfl
          | panicked => rfl
      | waiting phase =>
          obtain ⟨resumesAt, script⟩ := phase
          by_cases late : hasCome now (timeout.map fun limit => now + limit.millis) = true
          · simp only [CallEnd.seen?, late, if_true]
            rfl
          · simp only [CallEnd.seen?, late]
            rfl

theorem resumeEnriching_calls (timeout : Option Span) (now : Nat) (wait : PointWait)
    (request : Request) :
    .enrich wait.point request :: (resumeEnriching timeout now wait).calls =
      enrichments request (endsAfter timeout now wait) ++
        underWay (lastRequest request (endsAfter timeout now wait))
          (resumeEnriching timeout now wait).progress := by
  rw [resumeEnriching_eq]
  unfold endsAfter endsOf
  obtain ⟨enrichment, progress⟩ := wait.look now
  match progress with
  | .done .succeeded =>
      exact congrArg (Call.enrich wait.point request :: ·)
        (enrichBy_calls timeout now wait.later enrichment.request)
  | .done (.failed fault) => rfl
  | .done .panicked => rfl
  | .waiting (resumesAt, script) =>
      by_cases late : hasCome now wait.deadline = true
      · simp only [CallEnd.seen?, late, if_true]
        rfl
      · simp only [CallEnd.seen?, late]
        rfl

theorem endsBy_inOrder (timeout : Option Span) (now : Nat) (points : List Point)
    (request : Request) :
    (endsBy timeout now points request).map Consultation.point <+: points := by
  induction points generalizing request with
  | nil => exact List.nil_prefix
  | cons point later ih =>
      simp only [endsBy, endsOf]
      split
      · exact List.nil_prefix
      · refine List.cons_prefix_cons.mpr ⟨rfl, ?_⟩
        split
        · exact ih _
        · exact List.nil_prefix

theorem endsAfter_inOrder (timeout : Option Span) (now : Nat) (wait : PointWait) :
    (endsAfter timeout now wait).map Consultation.point <+: wait.point :: wait.later := by
  simp only [endsAfter, endsOf]
  split
  · exact List.nil_prefix
  · refine List.cons_prefix_cons.mpr ⟨rfl, ?_⟩
    split
    · exact endsBy_inOrder timeout now wait.later _
    · exact List.nil_prefix

end Pipeline

/-! ## Traces -/

/-- The course of an evaluation with the calls that its looks have made, in order. -/
inductive TracedCourse (pipeline : Pipeline) (policy : Option PolicySnapshot) (request : Request) :
    List Consultation → List Call → Service → Progress FinalResult Evaluation → Prop where
  | begun (service : Service) (now : Nat) (fixed : service.pipeline = pipeline)
      (inEffect : service.cache.current = policy) (made : List Call)
      (logged : (service.evaluate now request).1.calls = service.calls ++ made) :
      TracedCourse pipeline policy request (pipeline.firstEnds policy now request) made service
        (service.evaluate now request).2
  | resumed {ends : List Consultation} {calls : List Call} {before : Service}
      {evaluation : Evaluation}
      (earlier : TracedCourse pipeline policy request ends calls before (.waiting evaluation))
      (service : Service) (now : Nat) (fixed : service.pipeline = pipeline) (made : List Call)
      (logged : (service.resumeEvaluation now evaluation).1.calls = service.calls ++ made) :
      TracedCourse pipeline policy request
        (ends ++ Pipeline.endsAfter pipeline.timeout now evaluation.wait) (calls ++ made) service
        (service.resumeEvaluation now evaluation).2

/-- The calls of an evaluation so far, with what its result says of the step at which they
stopped.  `ends` are the calls of information points that have ended. -/
inductive Pipeline.Trace (pipeline : Pipeline) (registry : HandlerRegistry) (request : Request)
    (ends : List Consultation) :
    Option PolicySnapshot → List Call → Progress FinalResult Evaluation → Prop where
  | unavailable {result : FinalResult} (nobody : ends = [])
      (failure : result.failure = some .policyUnavailable)
      (resource : result.outcome.resourceId = none) :
      Trace pipeline registry request ends none [] (.done result)
  | waits {policy : PolicySnapshot} {evaluation : Evaluation}
      (inOrder : pipeline.points =
        ends.map Consultation.point ++ evaluation.wait.point :: evaluation.wait.later)
      (succeeded : ∀ past ∈ ends, past.Succeeded) :
      Trace pipeline registry request ends (some policy)
        (enrichments request ends ++
          [.enrich evaluation.wait.point (lastRequest request ends)])
        (.waiting evaluation)
  | pointFails {policy : PolicySnapshot} {result : FinalResult} {earlier : List Consultation}
      {last : Consultation} {fault : InformationFault} (stops : ends = earlier ++ [last])
      (inOrder : ends.map Consultation.point <+: pipeline.points)
      (succeeded : ∀ past ∈ earlier, past.Succeeded) (fails : last.ending.fault? = some fault)
      (failure : result.failure = some (.enrichment last.point.id fault.message))
      (resource : result.outcome.resourceId = last.request.resourceId?) :
      Trace pipeline registry request ends (some policy) (enrichments request ends) (.done result)
  | engineFails {policy : PolicySnapshot} {result : FinalResult} {reason : String}
      (all : ends.map Consultation.point = pipeline.points)
      (succeeded : ∀ past ∈ ends, past.Succeeded)
      (fails : Engine.ask pipeline.engine (lastRequest request ends) policy = .error reason)
      (failure : result.failure = some (.evaluation reason))
      (resource : result.outcome.resourceId = (lastRequest request ends).resourceId?) :
      Trace pipeline registry request ends (some policy)
        (enrichments request ends ++ [.decide policy (lastRequest request ends)]) (.done result)
  /-- The tasks that the registry chooses are carried out up to the first that fails. -/
  | handlerFails {policy : PolicySnapshot} {result : FinalResult} {outcome final : Outcome}
      {earlier later : List HandlerRegistry.Task} {failing : HandlerRegistry.Task}
      {fault : ObligationFault} (all : ends.map Consultation.point = pipeline.points)
      (succeeded : ∀ past ∈ ends, past.Succeeded)
      (decides : Engine.ask pipeline.engine (lastRequest request ends) policy = .ok outcome)
      (filled : final = outcome.completedBy (lastRequest request ends))
      (chosen : HandlerRegistry.tasks final.effective final.decision registry.ordered =
        earlier ++ failing :: later)
      (fulfilled : ∀ task ∈ earlier, task.Fulfilled (lastRequest request ends) final)
      (fails : failing.run (lastRequest request ends) final = .error fault)
      (failure : result.failure = some (.obligation fault.obligationId fault.reason))
      (resource : result.outcome.resourceId = final.resourceId) :
      Trace pipeline registry request ends (some policy)
        (enrichments request ends ++ .decide policy (lastRequest request ends) ::
          (earlier ++ [failing]).map
            (HandlerRegistry.Task.fulfilment (lastRequest request ends) final))
        (.done result)
  | ready {policy : PolicySnapshot} {result : FinalResult} {outcome final : Outcome}
      {tasks : List HandlerRegistry.Task} (all : ends.map Consultation.point = pipeline.points)
      (succeeded : ∀ past ∈ ends, past.Succeeded)
      (decides : Engine.ask pipeline.engine (lastRequest request ends) policy = .ok outcome)
      (filled : final = outcome.completedBy (lastRequest request ends))
      (chosen : HandlerRegistry.tasks final.effective final.decision registry.ordered = tasks)
      (fulfilled : ∀ task ∈ tasks, task.Fulfilled (lastRequest request ends) final)
      (failure : result.failure = none) (answer : result.outcome = final)
      (applied : result.appliedObligations = tasks.map HandlerRegistry.Task.id) :
      Trace pipeline registry request ends (some policy)
        (enrichments request ends ++ .decide policy (lastRequest request ends) ::
          tasks.map (HandlerRegistry.Task.fulfilment (lastRequest request ends) final))
        (.done result)

/-! ## After the enrichment -/

namespace HandlerRegistry

theorem fulfilled_or_fails (request : Request) (outcome : Outcome) (tasks : List Task) :
    (∀ task ∈ tasks, task.Fulfilled request outcome) ∨
      ∃ earlier failing later fault, tasks = earlier ++ failing :: later ∧
        (∀ task ∈ earlier, task.Fulfilled request outcome) ∧
        failing.run request outcome = .error fault := by
  induction tasks with
  | nil => exact .inl (by simp)
  | cons task rest ih =>
      cases ran : task.run request outcome with
      | error fault => exact .inr ⟨[], task, rest, fault, rfl, by simp, ran⟩
      | ok _ =>
          have first := (task.run_eq_ok_iff request outcome).mp ran
          rcases ih with all | ⟨earlier, failing, later, fault, split, before, fails⟩
          · exact .inl (List.forall_mem_cons.mpr ⟨first, all⟩)
          · refine .inr ⟨task :: earlier, failing, later, fault, ?_, ?_, fails⟩
            · rw [split, List.cons_append]
            · exact List.forall_mem_cons.mpr ⟨first, before⟩

end HandlerRegistry

section Conclusions

variable {pipeline : Pipeline} {registry : HandlerRegistry} {policy : PolicySnapshot}
  {request : Request}

theorem Pipeline.conclude_of_error {reason : String}
    (fails : Engine.ask pipeline.engine request policy = .error reason) :
    pipeline.conclude registry policy request =
      ⟨[.decide policy request], [], .failed (.evaluation reason) request.resourceId?⟩ := by
  simp only [conclude, fails]

theorem Pipeline.conclude_of_ok {outcome : Outcome}
    (decides : Engine.ask pipeline.engine request policy = .ok outcome) :
    pipeline.conclude registry policy request =
      let processing := registry.process request (outcome.completedBy request)
      ⟨.decide policy request :: processing.calls.map fun (handler, obligation) =>
          .fulfil handler obligation (outcome.completedBy request) request,
        processing.fulfilled,
        match processing.fault with
        | none => .decided (outcome.completedBy request) processing.fulfilled
        | some fault =>
          .failed (.obligation fault.obligationId fault.reason)
            (outcome.completedBy request).resourceId⟩ := by
  simp only [conclude, decides, fillResource_eq_completedBy, HandlerRegistry.Processing.result]
  cases (registry.process request (outcome.completedBy request)).fault <;> rfl

/-- The calls after an enrichment that has succeeded, and the result that comes of them. -/
theorem Pipeline.conclude_traces {ends : List Consultation}
    (all : ends.map Consultation.point = pipeline.points)
    (succeeded : ∀ past ∈ ends, past.Succeeded) (occasion : Occasion) (responseId : String)
    (completedAt : Instant) :
    pipeline.Trace registry request ends (some policy)
      (enrichments request ends ++
        (pipeline.conclude registry policy (lastRequest request ends)).calls)
      (.done (occasion.result (some policy) responseId completedAt
        (pipeline.conclude registry policy (lastRequest request ends)).verdict)) := by
  cases answer : Engine.ask pipeline.engine (lastRequest request ends) policy with
  | error reason =>
      rw [conclude_of_error answer]
      exact .engineFails all succeeded answer rfl rfl
  | ok outcome =>
      rw [conclude_of_ok answer]
      rcases HandlerRegistry.fulfilled_or_fails (lastRequest request ends)
        (outcome.completedBy (lastRequest request ends))
        (HandlerRegistry.tasks (outcome.completedBy (lastRequest request ends)).effective
          (outcome.completedBy (lastRequest request ends)).decision registry.ordered) with
        fulfilled | ⟨earlier, failing, later, fault, chosen, fulfilled, fails⟩
      · simp only [HandlerRegistry.process,
          HandlerRegistry.walk_of_fulfilled _ _ _ registry.ordered fulfilled, List.map_map]
        exact .ready all succeeded answer rfl rfl fulfilled rfl rfl rfl
      · simp only [HandlerRegistry.process, HandlerRegistry.walk_of_failure _ _ _ registry.ordered
          earlier later failing fault chosen fulfilled fails, List.map_map]
        exact .handlerFails all succeeded answer rfl chosen fulfilled fails rfl rfl

end Conclusions

/-! ## Looks -/

/-- The calls of a look: those of its part of the enrichment, and those that follow it when it has
succeeded. -/
theorem Service.proceed_calls (service : Service) (now : Nat) (occasion : Occasion)
    (policy : PolicySnapshot) (work : Pipeline.Enriching) :
    (service.proceed now occasion policy work).1.calls =
      service.calls ++ (work.calls ++
        match work.progress with
        | .done (.ok request) =>
          (service.pipeline.conclude service.registry policy request).calls
        | _ => []) := by
  obtain ⟨calls, progress⟩ := work
  match progress with
  | .waiting wait => simp [proceed, called]
  | .done (.error verdict) => simp [proceed, called, complete, freshNumber]
  | .done (.ok request) => simp [proceed, called, complete, freshNumber]

theorem Service.proceed_traces {service : Service} {request : Request} {policy : PolicySnapshot}
    {ends : List Consultation} {work : Pipeline.Enriching} {made : List Call} (now : Nat)
    (before : List Call)
    (outlined : Pipeline.Outlines service.pipeline.points request ends work.progress)
    (inOrder : ends.map Consultation.point <+: service.pipeline.points)
    (called : before ++ work.calls =
      enrichments request ends ++ Pipeline.underWay (lastRequest request ends) work.progress)
    (logged : (service.proceed now (.of request) policy work).1.calls = service.calls ++ made) :
    service.pipeline.Trace service.registry request ends (some policy) (before ++ made)
      (service.proceed now (.of request) policy work).2 := by
  rw [service.proceed_calls, List.append_cancel_left_eq] at logged
  rw [← logged, ← List.append_assoc, called]
  cases reached : work.progress with
  | waiting wait =>
      rw [reached] at outlined
      obtain ⟨succeeded, split⟩ := outlined
      rw [service.proceed_waiting now (.of request) policy work wait reached, List.append_nil]
      exact @Pipeline.Trace.waits _ _ _ _ policy ⟨_, policy, wait⟩ split succeeded
  | done ended =>
      obtain ⟨responseId, result⟩ :=
        service.proceed_done now (.of request) policy work ended reached
      rw [reached] at outlined
      rw [result, Pipeline.underWay, List.append_nil]
      cases ended with
      | error verdict =>
          obtain ⟨earlier, last, fault, stops, succeeded, fails, rfl⟩ := outlined
          rw [List.append_nil]
          exact .pointFails stops inOrder succeeded fails rfl rfl
      | ok enriched =>
          obtain ⟨all, succeeded, rfl⟩ := outlined
          exact Pipeline.conclude_traces all succeeded _ _ _

/-! ## Whole evaluations -/

section Courses

variable {pipeline : Pipeline} {policy : Option PolicySnapshot} {request : Request}
  {ends : List Consultation} {calls : List Call} {service : Service}
  {progress : Progress FinalResult Evaluation}

theorem TracedCourse.course
    (traced : TracedCourse pipeline policy request ends calls service progress) :
    Course pipeline policy request ends service progress := by
  induction traced with
  | begun service now fixed inEffect _ _ => exact .begun service now fixed inEffect
  | resumed _ service now fixed _ _ ih => exact .resumed ih service now fixed

/-- Every course has a trace: a look only adds to the calls of the service. -/
theorem Course.traced (course : Course pipeline policy request ends service progress) :
    ∃ calls, TracedCourse pipeline policy request ends calls service progress := by
  induction course with
  | begun service now fixed inEffect =>
      obtain ⟨made, pins⟩ := service.evaluate_pins now request
      exact ⟨made, .begun service now fixed inEffect made pins.calls⟩
  | @resumed ends before evaluation earlier service now fixed ih =>
      obtain ⟨calls, earlier⟩ := ih
      obtain ⟨made, pins⟩ := service.resumeEvaluation_pins now evaluation
      exact ⟨calls ++ made, .resumed earlier service now fixed made pins.calls⟩

/-- The induction is on the looks; a waiting evaluation has made the calls that have ended and the
one that it waits for. -/
theorem TracedCourse.trace
    (traced : TracedCourse pipeline policy request ends calls service progress) :
    pipeline.Trace service.registry request ends policy calls progress := by
  induction traced with
  | begun service now fixed inEffect made logged =>
      subst fixed inEffect
      unfold Service.evaluate at logged ⊢
      unfold Pipeline.firstEnds
      cases current : service.cache.current with
      | none =>
          simp only [current, Service.complete, Service.freshNumber] at logged ⊢
          have nothing : made = [] := by simpa using logged
          subst nothing
          exact .unavailable rfl rfl rfl
      | some snapshot =>
          simp only [current] at logged ⊢
          exact Service.proceed_traces now [] (Pipeline.enrichBy_outlines _ now _ request)
            (Pipeline.endsBy_inOrder _ now _ request)
            (Pipeline.enrichBy_calls _ now _ request) logged
  | @resumed ends calls before evaluation earlier service now fixed made logged ih =>
      subst fixed
      obtain ⟨pinned, occasion, succeeded, split⟩ := earlier.course.tells
      cases ih with
      | @waits policy =>
          cases pinned
          unfold Service.resumeEvaluation at logged ⊢
          rw [occasion] at logged ⊢
          refine Service.proceed_traces now _ ?_ ?_ ?_ logged
          · rw [split]
            exact Pipeline.Outlines.after ends _ _ request _ succeeded
              (Pipeline.resumeEnriching_outlines _ now evaluation.wait _)
          · rw [split, List.map_append, List.prefix_append_right_inj]
            exact Pipeline.endsAfter_inOrder _ now evaluation.wait
          · rw [List.append_assoc, List.singleton_append,
              Pipeline.resumeEnriching_calls _ now evaluation.wait (lastRequest request ends),
              enrichments_append, lastRequest_append, List.append_assoc]

/-- The calls of an evaluation are those of its trace and no others: the information points in
order, each with the request as the earlier ones left it, then the engine with the enriched request,
then the handlers that the registry chooses for the completed outcome.  They stop at the first
failure, which is the one that the result names. -/
theorem evaluation_calls_in_order (pipeline : Pipeline) (policy : Option PolicySnapshot)
    (request : Request) (ends : List Consultation) (service : Service)
    (progress : Progress FinalResult Evaluation)
    (course : Course pipeline policy request ends service progress) :
    (∃ calls, TracedCourse pipeline policy request ends calls service progress) ∧
      ∀ calls, TracedCourse pipeline policy request ends calls service progress →
        pipeline.Trace service.registry request ends policy calls progress :=
  ⟨course.traced, fun _ traced => traced.trace⟩

end Courses

/-! ## A trace that a handler ends -/

namespace SampleTrace

/-- An information point that finds the resource after three milliseconds. -/
def resolver : Point :=
  .ofScript "resolver" (.pause 3
    (.add .resource (.single resourceIdAttribute "printer") fun _ => .finish .succeeded))

/-- What the engine decides names no resource. -/
def permitting : Outcome :=
  .new .permit [⟨"log", .permit, .empty⟩, ⟨"mail", .permit, .empty⟩, ⟨"page", .permit, .empty⟩] none

def pipeline : Pipeline :=
  ⟨fun _ _ => .decided permitting, [resolver], some (.ofSecs 5)⟩

def snapshot : PolicySnapshot :=
  .new "alpha" "1" .epoch

def logger : Handler := .plain "logger" "log" fun _ _ _ => .fulfilled

def mailer : Handler := .plain "mailer" "mail" fun _ _ _ => .failed ⟨"mail", "down"⟩

def pager : Handler := .plain "pager" "page" fun _ _ _ => .fulfilled

def registry : HandlerRegistry :=
  ⟨[(⟨0, "log"⟩, logger), (⟨0, "mail"⟩, mailer), (⟨0, "page"⟩, pager)],
    [("log", ⟨0, "log"⟩), ("mail", ⟨0, "mail"⟩), ("page", ⟨0, "page"⟩)]⟩

def service : Service :=
  let idle := Service.new .default .unavailable pipeline.engine [resolver] registry .epoch
  { idle with cache := idle.cache.publish snapshot }

def request : Request := .blank "r"

/-- The request with what the information point has added. -/
def enriched : Request :=
  { request with resources := [Keyed.empty.insert (.single resourceIdAttribute "printer")] }

end SampleTrace

open SampleTrace in
/-- The mail fails, so the page is not sent; the result names the resource that the information
point has found. -/
theorem mail_failure_ends_the_calls :
    ∃ calls result,
      calls = [.enrich resolver request, .decide snapshot enriched,
        .fulfil logger ⟨"log", .permit, .empty⟩ (permitting.completedBy enriched) enriched,
        .fulfil mailer ⟨"mail", .permit, .empty⟩ (permitting.completedBy enriched) enriched] ∧
      pipeline.Trace registry request [⟨resolver, .answered .succeeded, enriched⟩] (some snapshot)
        calls (.done result) ∧
      result.failure = some (.obligation "mail" "down") ∧
      result.outcome.resourceId = some "printer" := by
  have first : TracedCourse pipeline (some snapshot) request [] [.enrich resolver request] service
      (service.evaluate 0 request).2 :=
    .begun service 0 rfl rfl [.enrich resolver request] rfl
  have traced : TracedCourse pipeline (some snapshot) request
      [⟨resolver, .answered .succeeded, enriched⟩] _ service _ :=
    .resumed first service 3 rfl
      [.decide snapshot enriched,
        .fulfil logger ⟨"log", .permit, .empty⟩ (permitting.completedBy enriched) enriched,
        .fulfil mailer ⟨"mail", .permit, .empty⟩ (permitting.completedBy enriched) enriched] rfl
  have trace := (evaluation_calls_in_order pipeline (some snapshot) request _ service _
    traced.course).2 _ traced
  exact ⟨_, _, rfl, trace, rfl, rfl⟩

end DecisionPoint
