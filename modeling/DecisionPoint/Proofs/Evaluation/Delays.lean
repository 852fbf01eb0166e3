import DecisionPoint.Proofs.Evaluation.Alone
import Mathlib.Data.List.Induction

/-!
# Evaluations with the same delays

An evaluation goes on when it is looked at, and it may be looked at late.  What it comes to depends
on the times that have passed since it began, and on nothing else: it comes to the same whenever it
begins, and whatever else is going on.
-/

set_option autoImplicit false

namespace DecisionPoint

theorem hasCome_shift (now delay : Nat) (time : Option Nat) :
    hasCome (now + delay) (time.map (· + delay)) = hasCome now time := by
  cases time with
  | none => rfl
  | some time => simp [hasCome]

theorem Script.run_shift (delay : Nat) (script : Script) (enrichment : Enrichment) (now : Nat) :
    script.run enrichment (now + delay) =
      ((script.run enrichment now).1,
        (script.run enrichment now).2.map id fun rest => (rest.1.map (· + delay), rest.2)) := by
  induction script generalizing enrichment now with
  | finish answer => rfl
  | pause millis next ih =>
      rw [run, run]
      split
      · exact ih enrichment now
      · simp [Progress.map, Nat.add_right_comm]
  | hang => rfl
  | add category entry next ih =>
      simp only [run]
      split
      · exact ih _ _ _
      · exact ih _ _ _
  | look next ih => exact ih _ _ _

def PointWait.shift (wait : PointWait) (delay : Nat) : PointWait :=
  { wait with
    resumesAt := wait.resumesAt.map (· + delay)
    deadline := wait.deadline.map (· + delay) }

theorem PointWait.look_shift (wait : PointWait) (now delay : Nat) :
    (wait.shift delay).look (now + delay) =
      ((wait.look now).1,
        (wait.look now).2.map id fun rest => (rest.1.map (· + delay), rest.2)) := by
  simp only [look, shift, hasCome_shift]
  split
  · exact wait.script.run_shift delay wait.enrichment now
  · rfl

namespace Pipeline

variable (timeout : Option Span) (now delay : Nat)

def Enriching.shift (work : Enriching) (delay : Nat) : Enriching :=
  ⟨work.calls, work.progress.map id (·.shift delay)⟩

theorem enrichBy_shift (points : List Point) (request : Request) :
    enrichBy timeout (now + delay) points request =
      (enrichBy timeout now points request).shift delay := by
  induction points generalizing request with
  | nil => rfl
  | cons point later ih =>
      have limits : timeout.map (fun limit => now + delay + limit.millis) =
          (timeout.map fun limit => now + limit.millis).map (· + delay) := by
        cases timeout <;> simp [Nat.add_right_comm]
      rw [enrichBy, enrichBy, point.enrich.run_shift, limits]
      obtain ⟨enrichment, progress⟩ := point.enrich.run (.start request) now
      cases progress with
      | done answer =>
          cases answer with
          | succeeded =>
              simp only [Progress.map, id, ih]
              rfl
          | failed fault => rfl
          | panicked => rfl
      | waiting rest =>
          simp only [Progress.map, hasCome_shift]
          split <;> rfl

theorem resumeEnriching_shift (wait : PointWait) :
    resumeEnriching timeout (now + delay) (wait.shift delay) =
      (resumeEnriching timeout now wait).shift delay := by
  rw [resumeEnriching_eq, resumeEnriching_eq, wait.look_shift]
  obtain ⟨enrichment, progress⟩ := wait.look now
  cases progress with
  | done answer =>
      cases answer with
      | succeeded => exact enrichBy_shift timeout now delay wait.later enrichment.request
      | failed fault => rfl
      | panicked => rfl
  | waiting rest =>
      simp only [Progress.map, PointWait.shift, hasCome_shift]
      split <;> rfl

end Pipeline

/-! ## Lone evaluations -/

namespace Service

def lookAgain (time : Nat) : Service × Progress FinalResult Evaluation →
    Service × Progress FinalResult Evaluation
  | (service, .done result) => (service, .done result)
  | (service, .waiting evaluation) => service.resumeEvaluation time evaluation

/-- The evaluation of a request while nothing else happens, looked at again when so much time has
passed since it began. -/
def evaluateAlone (service : Service) (now : Nat) (request : Request) (passed : List Nat) :
    Service × Progress FinalResult Evaluation :=
  passed.foldl (fun state time => lookAgain (now + time) state) (service.evaluate now request)

theorem evaluateAlone_snoc (service : Service) (now : Nat) (request : Request)
    (passed : List Nat) (time : Nat) :
    service.evaluateAlone now request (passed ++ [time]) =
      lookAgain (now + time) (service.evaluateAlone now request passed) := by
  rw [evaluateAlone, List.foldl_append]
  rfl

theorem evaluateAlone_rules (service : Service) (now : Nat) (request : Request)
    (passed : List Nat) : (service.evaluateAlone now request passed).1.rules = service.rules := by
  induction passed using List.reverseRecOn with
  | nil => exact service.evaluate_rules now request
  | append_singleton passed time ih =>
      rw [evaluateAlone_snoc]
      generalize service.evaluateAlone now request passed = state at ih ⊢
      obtain ⟨after, progress⟩ := state
      cases progress with
      | done result => exact ih
      | waiting evaluation => exact (after.resumeEvaluation_rules _ evaluation).trans ih

end Service

/-- Two evaluations that began at these times are equally far. -/
inductive Abreast (start start' : Nat) :
    Progress FinalResult Evaluation → Progress FinalResult Evaluation → Prop where
  | ended {result result' : FinalResult} (same : result.SameAnswer result') :
      Abreast start start' (.done result) (.done result')
  | waiting (occasion : Occasion) (policy : PolicySnapshot) {wait wait' : PointWait}
      (same : wait.shift start' = wait'.shift start) :
      Abreast start start' (.waiting ⟨occasion, policy, wait⟩) (.waiting ⟨occasion, policy, wait'⟩)

namespace Service

variable {service service' : Service} {start start' : Nat}

theorem proceed_abreast (alike : service'.rules = service.rules) (now now' : Nat)
    (occasion : Occasion) (policy : PolicySnapshot) {work work' : Pipeline.Enriching}
    (same : work.shift start' = work'.shift start) :
    Abreast start start' (service.proceed now occasion policy work).2
      (service'.proceed now' occasion policy work').2 := by
  obtain ⟨pipeline, registry, -⟩ := Rules.mk.inj alike
  have both : work.progress.map id (·.shift start') = work'.progress.map id (·.shift start) :=
    congrArg Work.progress same
  cases reached : work.progress with
  | waiting wait =>
      cases reached' : work'.progress with
      | waiting wait' =>
          rw [reached, reached'] at both
          rw [service.proceed_waiting now occasion policy work wait reached,
            service'.proceed_waiting now' occasion policy work' wait' reached']
          exact .waiting occasion policy (Progress.waiting.inj both)
      | done ended =>
          rw [reached, reached'] at both
          cases both
  | done ended =>
      cases reached' : work'.progress with
      | waiting wait' =>
          rw [reached, reached'] at both
          cases both
      | done ended' =>
          rw [reached, reached'] at both
          cases both
          obtain ⟨responseId, result⟩ := service.proceed_done now occasion policy work ended reached
          obtain ⟨responseId', result'⟩ :=
            service'.proceed_done now' occasion policy work' ended reached'
          rw [result, result', pipeline, registry]
          generalize service.pipeline.verdictOf service.registry policy ended = verdict
          cases verdict <;> exact .ended rfl

theorem evaluate_abreast (alike : service'.rules = service.rules) (request : Request) :
    Abreast start start' (service.evaluate start request).2
      (service'.evaluate start' request).2 := by
  obtain ⟨pipeline, -, current⟩ := Rules.mk.inj alike
  unfold evaluate
  rw [current]
  cases service.cache.current with
  | none => exact .ended rfl
  | some policy =>
      refine proceed_abreast alike start start' (.of request) policy ?_
      rw [pipeline, ← Pipeline.enrichBy_shift, ← Pipeline.enrichBy_shift, Nat.add_comm]

theorem lookAgain_abreast (alike : service'.rules = service.rules) (time : Nat)
    {evaluation : Evaluation} {progress' : Progress FinalResult Evaluation}
    (abreast : Abreast start start' (.waiting evaluation) progress') :
    Abreast start start' (service.resumeEvaluation (start + time) evaluation).2
      (lookAgain (start' + time) (service', progress')).2 := by
  obtain ⟨pipeline, -, -⟩ := Rules.mk.inj alike
  cases abreast with
  | @waiting occasion policy wait wait' same =>
      refine proceed_abreast alike _ _ occasion policy ?_
      have moment : start + time + start' = start' + time + start := by omega
      rw [pipeline, ← Pipeline.resumeEnriching_shift, ← Pipeline.resumeEnriching_shift, same,
        moment]

end Service

/-! ## Looks at one evaluation -/

/-- The looks at one evaluation of a request, from its beginning on, and how far it is after
them. -/
inductive Followed (request : Request) : List Look → Progress FinalResult Evaluation → Prop where
  | begins {look : Look} (asked : look.request = request) (new : look.waited = none) :
      Followed request [look] look.run.2
  | goesOn {looks : List Look} {look : Look} {evaluation : Evaluation}
      (earlier : Followed request looks (.waiting evaluation)) (asked : look.request = request)
      (same : look.waited = some evaluation) : Followed request (looks ++ [look]) look.run.2

/-- The times that have passed since the first look, at each look after it. -/
def timesPassed : List Look → List Nat
  | [] => []
  | first :: later => later.map fun look => look.now - first.now

/-- A look that does not come too late for a call that has a limit. -/
def Look.InTime (look : Look) : Prop :=
  ∀ evaluation, look.waited = some evaluation → evaluation.wait.Punctual look.now

namespace Followed

variable {request : Request} {looks : List Look} {progress : Progress FinalResult Evaluation}
  {rules : Rules}

/-- Alone, a request that is looked at after the same times comes equally far. -/
theorem alone (followed : Followed request looks progress)
    (governed : ∀ look ∈ looks, look.service.rules = rules)
    (ordered : looks.Pairwise (·.now ≤ ·.now)) (service : Service) (same : service.rules = rules)
    (now : Nat) :
    ∃ first later, looks = first :: later ∧
      Abreast first.now now progress
        (service.evaluateAlone now request (timesPassed looks)).2 := by
  induction followed with
  | @begins look asked new =>
      refine ⟨look, [], rfl, ?_⟩
      have alike := same.trans (governed look List.mem_cons_self).symm
      rw [Look.run, new]
      exact asked ▸ Service.evaluate_abreast alike look.request
  | @goesOn looks look evaluation earlier asked waited ih =>
      obtain ⟨before, -, late⟩ := List.pairwise_append.mp ordered
      obtain ⟨first, later, rfl, abreast⟩ :=
        ih (fun look mem => governed look (List.mem_append_left _ mem)) before
      refine ⟨first, later ++ [look], rfl, ?_⟩
      have forward : first.now ≤ look.now := late first List.mem_cons_self look List.mem_cons_self
      have alike : (service.evaluateAlone now request (timesPassed (first :: later))).1.rules =
          look.service.rules := by
        rw [service.evaluateAlone_rules, same]
        exact (governed look (List.mem_append_right _ List.mem_cons_self)).symm
      -- The lone evaluation is looked at again when as much time has passed since its beginning.
      have again := Service.lookAgain_abreast alike (look.now - first.now) abreast
      rw [Nat.add_sub_cancel' forward] at again
      have snoc : timesPassed (first :: later ++ [look]) =
          timesPassed (first :: later) ++ [look.now - first.now] := by
        simp [timesPassed]
      rw [snoc, service.evaluateAlone_snoc, Look.run, waited]
      exact again

/-- Looks in time change nothing of what an evaluation comes to. -/
theorem foretold (followed : Followed request looks progress)
    (governed : ∀ look ∈ looks, look.service.rules = rules) (inTime : ∀ look ∈ looks, look.InTime) :
    rules.Foretells request progress := by
  induction followed with
  | @begins look asked new =>
      rw [← governed look List.mem_cons_self, Look.run, new]
      exact asked ▸ look.service.evaluate_foretold look.now look.request
  | @goesOn looks look evaluation earlier asked waited ih =>
      have here : look ∈ looks ++ [look] := List.mem_append_right _ List.mem_cons_self
      have comes := ih (fun look mem => governed look (List.mem_append_left _ mem))
        fun look mem => inTime look (List.mem_append_left _ mem)
      rw [← governed look here] at comes ⊢
      rw [Look.run, waited]
      exact look.service.resumeEvaluation_foretold look.now comes (inTime look here _ waited)

end Followed

end DecisionPoint
