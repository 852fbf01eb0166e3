import DecisionPoint.Proofs.Evaluation.Consultation
import DecisionPoint.Proofs.Service.Deeds
import DecisionPoint.Proofs.Service.Spares

/-!
# Looks at evaluations

At each look an evaluation keeps to one snapshot: that in effect when it begins, and after that the
one that it has kept.  What a turn asks the engine and what it records is what its looks ask and
record.
-/

set_option autoImplicit false

namespace DecisionPoint

/-! ## Single looks -/

/-- A part of an evaluation that makes some calls keeps to a snapshot. -/
structure Pins (policy : Option PolicySnapshot) (before after : Service)
    (progress : Progress FinalResult Evaluation) (made : List Call) : Prop where
  calls : after.calls = before.calls ++ made
  decides : ∀ asked ∈ decisions made, policy = some asked.1
  /-- The engine is asked at most once, and it is if the evaluation comes so far. -/
  once : (decisions made).length ≤ 1
  reaches : ∀ result, progress = .done result → result.stage ≠ .policyResolved →
    result.stage ≠ .enriched → decisions made ≠ []
  waits : ∀ evaluation, progress = .waiting evaluation →
    policy = some evaluation.policy ∧ after.journal.audit = before.journal.audit
  names : ∀ result, progress = .done result →
    result.policy = policy.map PolicySnapshot.reference
  records : ∀ result, progress = .done result →
    after.journal.audit = before.journal.audit ++ [.ofResult result] ∧
      (AuditRecord.ofResult result).policyId = policy.map PolicySnapshot.policySetId ∧
      (AuditRecord.ofResult result).policyVersion = policy.map PolicySnapshot.version
  unavailable : policy = none → made = [] ∧
    ∃ result, progress = .done result ∧ result.failure = some .policyUnavailable

namespace Pipeline

/-- A part of an enrichment asks information points, and fails only by one of them. -/
def OnlyEnriches (work : Enriching) : Prop :=
  (∀ call ∈ work.calls, ∃ point request, call = .enrich point request) ∧
    ∀ verdict, work.progress = .done (.error verdict) →
      ∃ pointId reason resourceId, verdict = .failed (.enrichment pointId reason) resourceId

theorem OnlyEnriches.decisions {work : Enriching} (enriches : OnlyEnriches work) :
    decisions work.calls = [] := by
  rw [DecisionPoint.decisions, List.filterMap_eq_nil_iff]
  intro call mem
  obtain ⟨point, request, rfl⟩ := enriches.1 call mem
  rfl

theorem onlyEnriches_failure (calls : List Call)
    (asks : ∀ call ∈ calls, ∃ point request, call = .enrich point request) (point : Point)
    (fault : InformationFault) (request : Request) :
    OnlyEnriches ⟨calls, .done (.error (pointFailure point fault request))⟩ := by
  refine ⟨asks, ?_⟩
  intro verdict failed
  cases failed
  exact ⟨_, _, _, rfl⟩

theorem enrichBy_onlyEnriches (timeout : Option Span) (now : Nat) (points : List Point)
    (request : Request) : OnlyEnriches (enrichBy timeout now points request) := by
  induction points generalizing request with
  | nil => exact ⟨by simp [enrichBy], by simp [enrichBy]⟩
  | cons point later ih =>
      have own : ∀ call ∈ [Call.enrich point request],
          ∃ point request, call = .enrich point request :=
        fun call mem => ⟨point, request, List.mem_singleton.mp mem⟩
      unfold enrichBy
      split
      · next enrichment _ =>
          refine ⟨?_, (ih enrichment.request).2⟩
          intro call mem
          rcases List.mem_cons.mp mem with rfl | mem
          · exact ⟨point, request, rfl⟩
          · exact (ih enrichment.request).1 call mem
      · exact onlyEnriches_failure _ own point _ _
      · exact onlyEnriches_failure _ own point _ _
      · simp only
        split
        · exact onlyEnriches_failure _ own point _ _
        · exact ⟨own, by simp⟩

theorem resumeEnriching_onlyEnriches (timeout : Option Span) (now : Nat) (wait : PointWait) :
    OnlyEnriches (resumeEnriching timeout now wait) := by
  rw [resumeEnriching_eq]
  split
  · exact enrichBy_onlyEnriches timeout now wait.later _
  · exact onlyEnriches_failure _ (by simp) wait.point _ _
  · exact onlyEnriches_failure _ (by simp) wait.point _ _
  · split
    · exact onlyEnriches_failure _ (by simp) wait.point _ _
    · exact ⟨by simp, by simp⟩

theorem conclude_decisions (pipeline : Pipeline) (registry : HandlerRegistry)
    (policy : PolicySnapshot) (request : Request) :
    decisions (pipeline.conclude registry policy request).calls = [(policy, request)] := by
  have fulfilments (calls : List (Handler × Obligation)) (outcome : Outcome) :
      decisions (calls.map fun item => .fulfil item.1 item.2 outcome request) = [] := by
    simp [decisions, Call.decided?]
  unfold conclude
  simp only
  split
  · rfl
  · split
    · exact congrArg ((policy, request) :: ·) (fulfilments _ _)
    · exact congrArg ((policy, request) :: ·) (fulfilments _ _)

end Pipeline

theorem Occasion.result_policy (occasion : Occasion) (policy : Option PolicySnapshot)
    (responseId : String) (completedAt : Instant) (verdict : Verdict) :
    (occasion.result policy responseId completedAt verdict).policy =
      policy.map PolicySnapshot.reference := by
  cases verdict <;> rfl

namespace Service

variable (service : Service) (now : Nat)

theorem complete_records (occasion : Occasion) (policy : Option PolicySnapshot)
    (verdict : Verdict) :
    (service.complete now occasion policy verdict).1.journal.audit =
        service.journal.audit ++ [.ofResult (service.complete now occasion policy verdict).2] ∧
      (AuditRecord.ofResult (service.complete now occasion policy verdict).2).policyId =
        policy.map PolicySnapshot.policySetId ∧
      (AuditRecord.ofResult (service.complete now occasion policy verdict).2).policyVersion =
        policy.map PolicySnapshot.version := by
  refine ⟨?_, ?_, ?_⟩
  · simp only [complete, freshNumber, Journal.completed, Journal.countEvaluation]
    split <;> split <;> rfl
  · simp only [complete, freshNumber, AuditRecord.ofResult, Occasion.result_policy, Option.map_map]
    rfl
  · simp only [complete, freshNumber, AuditRecord.ofResult, Occasion.result_policy, Option.map_map]
    rfl

theorem proceed_pins (occasion : Occasion) (policy : PolicySnapshot) (work : Pipeline.Enriching)
    (enriches : Pipeline.OnlyEnriches work) :
    ∃ made, Pins (some policy) service (service.proceed now occasion policy work).1
      (service.proceed now occasion policy work).2 made := by
  have none := enriches.decisions
  obtain ⟨-, failures⟩ := enriches
  unfold proceed
  simp only
  split
  · next wait waits =>
      refine ⟨work.calls, rfl, by simp [none], by simp [none], by simp, ?_, by simp, by simp,
        by simp⟩
      intro evaluation same
      cases same
      exact ⟨rfl, rfl⟩
  · next verdict failed =>
      -- The enrichment has failed, and the engine is not asked.
      obtain ⟨pointId, reason, resourceId, rfl⟩ := failures verdict failed
      refine ⟨work.calls, rfl, by simp [none], by simp [none], ?_, by simp, ?_, ?_, by simp⟩
      · intro result same _ reached
        cases same
        exact absurd rfl reached
      · intro result same
        cases same
        exact Occasion.result_policy _ _ _ _ _
      · intro result same
        cases same
        exact (service.called work.calls).complete_records now occasion (some policy)
          (.failed (.enrichment pointId reason) resourceId)
  · next request done =>
      have asked := service.pipeline.conclude_decisions service.registry policy request
      refine ⟨work.calls ++ (service.pipeline.conclude service.registry policy request).calls,
        ?_, ?_, ?_, ?_, by simp, ?_, ?_, by simp⟩
      · simp [complete, called, freshNumber]
      · simp [decisions_append, none, asked]
      · simp [decisions_append, none, asked]
      · simp [decisions_append, none, asked]
      · intro result same
        cases same
        exact Occasion.result_policy _ _ _ _ _
      · intro result same
        cases same
        exact complete_records _ now occasion (some policy) _

theorem evaluate_pins (request : Request) :
    ∃ made, Pins service.cache.current service (service.evaluate now request).1
      (service.evaluate now request).2 made := by
  unfold evaluate
  split
  · next empty =>
      rw [empty]
      refine ⟨[], by simp [complete, freshNumber], by simp [decisions], by simp [decisions], ?_,
        by simp, ?_, ?_, ?_⟩
      · intro result same reached
        cases same
        exact absurd rfl reached
      · intro result same
        cases same
        rfl
      · intro result same
        cases same
        exact service.complete_records now (.of request) none (.failed .policyUnavailable none)
      · intro _
        exact ⟨rfl, _, rfl, rfl⟩
  · next policy inEffect =>
      rw [inEffect]
      exact service.proceed_pins now (.of request) policy _
        (Pipeline.enrichBy_onlyEnriches _ now _ request)

theorem resumeEvaluation_pins (evaluation : Evaluation) :
    ∃ made, Pins (some evaluation.policy) service (service.resumeEvaluation now evaluation).1
      (service.resumeEvaluation now evaluation).2 made :=
  service.proceed_pins now evaluation.occasion evaluation.policy _
    (Pipeline.resumeEnriching_onlyEnriches _ now evaluation.wait)

end Service

namespace Look

def made (look : Look) : List Call := look.run.1.calls.drop look.service.calls.length

def policy (look : Look) : Option PolicySnapshot :=
  match look.waited with
  | none => look.service.cache.current
  | some evaluation => some evaluation.policy

def Pinned (look : Look) (policy : Option PolicySnapshot) : Prop :=
  Pins policy look.service look.run.1 look.run.2 look.made

theorem pinned (look : Look) : look.Pinned look.policy := by
  obtain ⟨made, pins⟩ : ∃ made, Pins look.policy look.service look.run.1 look.run.2 made := by
    unfold policy run
    cases look.waited with
    | none => exact look.service.evaluate_pins look.now look.request
    | some evaluation => exact look.service.resumeEvaluation_pins look.now evaluation
  have same : look.made = made := by
    rw [Look.made, pins.calls, List.drop_left]
  rw [Pinned, same]
  exact pins

theorem run_cache (look : Look) : look.run.1.cache = look.service.cache := by
  unfold run
  cases look.waited with
  | none => exact (look.service.evaluate_spares look.now look.request).cache
  | some evaluation => exact (look.service.resumeEvaluation_spares look.now evaluation).cache

end Look

/-! ## Looks in turns -/

def Activity.evaluation? : Activity → Option (Request × Evaluation)
  | worker _ (.evaluating job evaluation) => some (job.request, evaluation)
  | evaluating request (some evaluation) => some (request, evaluation)
  | _ => none

theorem Activity.evaluation?_of_isFresh (activity : Activity) (fresh : activity.isFresh = true) :
    activity.evaluation? = none := by
  unfold isFresh at fresh
  split at fresh
  case h_10 => cases fresh
  all_goals rfl

/-- A look either begins an evaluation or goes on with the one that was waited in. -/
def Look.Continues (look : Look) (waited : Option (Request × Evaluation)) : Prop :=
  look.waited = none ∨
    ∃ evaluation, look.waited = some evaluation ∧ waited = some (look.request, evaluation)

section WorkerTurns

variable {now : Nat} {id : WorkerId} {phase : WorkerPhase} {service after : Service}
  {deeds : List Deed} {progress : Progress Unit WorkerPhase}

/-- What neither jobs nor looks change is the same at all looks of a turn, and these are taken at
one time. -/
theorem WorkerTurn.looks_keep {α : Type} (part : Service → α)
    (shelves : ∀ (service : Service) (number : Nat) (shell : Shell),
      part (service.withShell number shell) = part service)
    (keeps : ∀ look : Look, part look.run.1 = part look.service)
    (turn : WorkerTurn now id phase service deeds after progress) (look : Look)
    (looked : .looked look ∈ deeds) : part look.service = part service ∧ look.now = now := by
  have updates (service : Service) (number : Nat) (update : Shell → Shell) :
      part (service.updateShell number update) = part service := by
    unfold Service.updateShell
    split
    · rfl
    · exact shelves _ _ _
  induction turn with
  | arrives rest ih =>
      obtain ⟨same, time⟩ := ih (by simpa using looked)
      exact ⟨same.trans (updates _ _ _), time⟩
  | stands => cases looked
  | lost missing => cases looked
  | ends found first done => simp at looked
  | begins found took waits =>
      simp only [List.mem_cons, reduceCtorEq, false_or, List.not_mem_nil, or_false,
        Deed.looked.injEq] at looked
      subst looked
      exact ⟨shelves _ _ _, rfl⟩
  | @serves service middle after shell shell' job result deeds progress found took done rest ih =>
      simp only [List.mem_cons, reduceCtorEq, false_or, Deed.looked.injEq] at looked
      rcases looked with rfl | later
      · exact ⟨shelves _ _ _, rfl⟩
      · obtain ⟨same, time⟩ := ih later
        -- The looks before left this alone, so it is still the same.
        have kept := keeps ⟨service.withShell id.shell shell', now, job.request, none⟩
        rw [done] at kept
        exact ⟨(same.trans (updates _ _ _)).trans (kept.trans (shelves _ _ _)), time⟩
  | resumes waits =>
      simp only [List.mem_cons, List.not_mem_nil, or_false, Deed.looked.injEq] at looked
      subst looked
      exact ⟨rfl, rfl⟩
  | @finishes service middle after job evaluation result deeds progress done rest ih =>
      simp only [List.mem_cons, reduceCtorEq, false_or, Deed.looked.injEq] at looked
      rcases looked with rfl | later
      · exact ⟨rfl, rfl⟩
      · obtain ⟨same, time⟩ := ih later
        have kept := keeps ⟨service, now, job.request, some evaluation⟩
        rw [done] at kept
        exact ⟨(same.trans (updates _ _ _)).trans kept, time⟩

theorem WorkerTurn.looks (turn : WorkerTurn now id phase service deeds after progress)
    (look : Look) (looked : .looked look ∈ deeds) :
    look.service.cache = service.cache ∧
      look.Continues (Activity.worker id phase).evaluation? := by
  refine ⟨(turn.looks_keep Service.cache (fun _ _ _ => rfl) Look.run_cache look looked).1, ?_⟩
  induction turn with
  | arrives rest ih => exact ih (by simpa using looked)
  | stands => cases looked
  | lost missing => cases looked
  | ends found first done => simp at looked
  | begins found took waits =>
      simp only [List.mem_cons, reduceCtorEq, false_or, List.not_mem_nil, or_false,
        Deed.looked.injEq] at looked
      subst looked
      exact .inl rfl
  | serves found took done rest ih =>
      simp only [List.mem_cons, reduceCtorEq, false_or, Deed.looked.injEq] at looked
      rcases looked with rfl | later
      · exact .inl rfl
      · exact ih later
  | resumes waits =>
      simp only [List.mem_cons, List.not_mem_nil, or_false, Deed.looked.injEq] at looked
      subst looked
      exact .inr ⟨_, rfl, rfl⟩
  | finishes done rest ih =>
      simp only [List.mem_cons, reduceCtorEq, false_or, Deed.looked.injEq] at looked
      rcases looked with rfl | later
      · exact .inr ⟨_, rfl, rfl⟩
      · rcases ih later with begins | ⟨other, -, none⟩
        · exact .inl begins
        · cases none

theorem WorkerTurn.waiting (turn : WorkerTurn now id phase service deeds after progress)
    (job : Job) (evaluation : Evaluation)
    (waits : progress = .waiting (.evaluating job evaluation)) :
    ∃ look, .looked look ∈ deeds ∧ look.request = job.request ∧
      look.run.2 = .waiting evaluation := by
  induction turn with
  | arrives rest ih =>
      obtain ⟨look, looked, seen⟩ := ih waits
      exact ⟨look, List.mem_cons_of_mem _ looked, seen⟩
  | stands => cases waits
  | lost missing => cases waits
  | ends found first done => cases waits
  | begins found took looks =>
      cases waits
      exact ⟨_, List.mem_cons_of_mem _ List.mem_cons_self, rfl, by rw [looks]⟩
  | serves found took done rest ih =>
      obtain ⟨look, looked, seen⟩ := ih waits
      exact ⟨look, by simp [looked], seen⟩
  | resumes looks =>
      cases waits
      exact ⟨_, List.mem_cons_self, rfl, by rw [looks]⟩
  | finishes done rest ih =>
      obtain ⟨look, looked, seen⟩ := ih waits
      exact ⟨look, by simp [looked], seen⟩

end WorkerTurns

theorem Service.Does.looks {governing : Bool} {before after : Service} {deeds : List Deed}
    (does : Service.Does governing before deeds after) (look : Look) : .looked look ∉ deeds := by
  induction does with
  | followed _ _ ih ih' => exact fun looked => (List.mem_append.mp looked).elim ih ih'
  | _ => simp

/-! ## What looks leave behind -/

def Deed.look? : Deed → Option Look
  | looked look => some look
  | _ => none

def looksIn (deeds : List Deed) : List Look := deeds.filterMap Deed.look?

theorem looksIn_append (deeds later : List Deed) :
    looksIn (deeds ++ later) = looksIn deeds ++ looksIn later :=
  List.filterMap_append

theorem mem_looksIn {deeds : List Deed} {look : Look} :
    look ∈ looksIn deeds ↔ .looked look ∈ deeds := by
  rw [looksIn, List.mem_filterMap]
  constructor
  · rintro ⟨deed, mem, here⟩
    cases deed with
    | looked other =>
        cases here
        exact mem
    | _ => cases here
  · intro mem
    exact ⟨_, mem, rfl⟩

def Look.result? (look : Look) : Option FinalResult := look.run.2.result?

/-- The engine was asked, and results were recorded, at some looks only and in their order. -/
structure Service.Records (before after : Service) (looks : List Look) : Prop where
  decisions : decisions after.calls =
    decisions before.calls ++ looks.flatMap fun look => decisions look.made
  audit : after.journal.audit =
    before.journal.audit ++ (looks.filterMap Look.result?).map .ofResult

namespace Service

theorem Records.ofSame {before after : Service}
    (calls : DecisionPoint.decisions after.calls = DecisionPoint.decisions before.calls)
    (audit : after.journal.audit = before.journal.audit) : before.Records after [] := by
  constructor
  · simpa using calls
  · simpa using audit

theorem Records.trans {a b c : Service} {looks later : List Look} (first : a.Records b looks)
    (second : b.Records c later) : a.Records c (looks ++ later) := by
  constructor
  · rw [second.decisions, first.decisions, List.flatMap_append, List.append_assoc]
  · rw [second.audit, first.audit, List.filterMap_append, List.map_append, List.append_assoc]

theorem Records.ofLook (look : Look) : look.service.Records look.run.1 [look] := by
  have pinned := look.pinned
  constructor
  · rw [pinned.calls, decisions_append]
    simp
  · cases seen : look.run.2 with
    | done result => simp [(pinned.records result seen).1, Look.result?, seen, Progress.result?]
    | waiting evaluation =>
        simp [(pinned.waits evaluation seen).2, Look.result?, seen, Progress.result?]

theorem updateShell_records (service : Service) (number : Nat) (update : Shell → Shell) :
    service.Records (service.updateShell number update) [] := by
  unfold updateShell
  split <;> exact .ofSame rfl rfl

theorem Does.records {governing : Bool} {before after : Service} {deeds : List Deed}
    (does : Does governing before deeds after) : before.Records after (looksIn deeds) := by
  induction does with
  | rests rests => exact .ofSame (by rw [rests.calls]) rests.policy.audit
  | governs governs => exact .ofSame governs.decisions governs.audit
  | isBusy admits found answer =>
      refine .ofSame rfl ?_
      simp only [Journal.rejected]
      split <;> rfl
  | @followed governing a b c deeds later _ _ ih ih' =>
      rw [looksIn_append]
      exact ih.trans ih'
  | _ => exact .ofSame rfl rfl

end Service

theorem WorkerTurn.records {now : Nat} {id : WorkerId} {phase : WorkerPhase}
    {service after : Service} {deeds : List Deed} {progress : Progress Unit WorkerPhase}
    (turn : WorkerTurn now id phase service deeds after progress) :
    service.Records after (looksIn deeds) := by
  induction turn with
  | arrives rest ih => exact (Service.updateShell_records _ _ _).trans ih
  | stands => exact .ofSame rfl rfl
  | lost missing => exact .ofSame rfl rfl
  | ends found first done => exact .ofSame rfl rfl
  | @begins service after shell shell' job evaluation found took waits =>
      have looked := Service.Records.ofLook
        ⟨service.withShell id.shell shell', now, job.request, none⟩
      rw [waits] at looked
      have taken : service.Records (service.withShell id.shell shell') [] := .ofSame rfl rfl
      exact taken.trans looked
  | @serves service middle after shell shell' job result deeds progress found took done rest ih =>
      have looked := Service.Records.ofLook
        ⟨service.withShell id.shell shell', now, job.request, none⟩
      rw [done] at looked
      have taken : service.Records (service.withShell id.shell shell') [] := .ofSame rfl rfl
      exact (taken.trans looked).trans ((Service.updateShell_records _ _ _).trans ih)
  | @resumes service after job evaluation evaluation' waits =>
      have looked := Service.Records.ofLook ⟨service, now, job.request, some evaluation⟩
      rw [waits] at looked
      exact looked
  | @finishes service middle after job evaluation result deeds progress done rest ih =>
      have looked := Service.Records.ofLook ⟨service, now, job.request, some evaluation⟩
      rw [done] at looked
      exact looked.trans ((Service.updateShell_records _ _ _).trans ih)

end DecisionPoint
