import DecisionPoint.Proofs.Evaluation.FailClosed
import DecisionPoint.Proofs.Request.NamedResource

/-!
# What information points make of a request

Whatever the points of an evaluation do, they make calls on enrichments, one after the other.  So
what holds of a request after any calls holds of the one that is decided, and of the one of which a
failure reports the resource.
-/

set_option autoImplicit false

namespace DecisionPoint

def Request.enrichedBy (request : Request) (calls : List Addition) : Request :=
  ((Enrichment.start request).after calls).request

/-- Some calls make the second request of the first. -/
def Request.Becomes (request enriched : Request) : Prop :=
  ∃ calls, enriched = request.enrichedBy calls

namespace Enrichment

/-- How much has been added so far makes no difference to the request. -/
theorem request_after_congr (calls : List Addition) {enrichment other : Enrichment}
    (same : enrichment.request = other.request) :
    (enrichment.after calls).request = (other.after calls).request := by
  induction calls generalizing enrichment other with
  | nil => exact same
  | cons addition rest ih =>
      apply ih
      obtain ⟨request, added⟩ := enrichment
      obtain ⟨request', added'⟩ := other
      cases same
      unfold perform
      dsimp only
      split <;> rfl

theorem request_after (enrichment : Enrichment) (calls : List Addition) :
    (enrichment.after calls).request = enrichment.request.enrichedBy calls :=
  request_after_congr calls rfl

end Enrichment

namespace Request.Becomes

theorem refl (request : Request) : request.Becomes request :=
  ⟨[], rfl⟩

theorem trans {first second third : Request} (earlier : first.Becomes second)
    (later : second.Becomes third) : first.Becomes third := by
  obtain ⟨calls, rfl⟩ := earlier
  obtain ⟨more, rfl⟩ := later
  refine ⟨calls ++ more, ?_⟩
  have split := congrArg Enrichment.request ((Enrichment.start first).after_append calls more)
  rw [Enrichment.request_after ((Enrichment.start first).after calls) more] at split
  exact split.symm

end Request.Becomes

/-! ## Scripts and points -/

theorem Script.run_becomes (script : Script) (enrichment : Enrichment) (now : Nat) :
    enrichment.request.Becomes (script.run enrichment now).1.request := by
  induction script generalizing enrichment with
  | finish answer => exact .refl _
  | pause millis next ih =>
      by_cases instant : millis = 0
      · rw [run, if_pos instant]
        exact ih enrichment
      · rw [run, if_neg instant]
        exact .refl _
  | hang => exact .refl _
  | add category entry next ih =>
      have performed := enrichment.perform_eq ⟨category, entry⟩
      have call : enrichment.request.Becomes (enrichment.perform ⟨category, entry⟩).1.request :=
        ⟨[⟨category, entry⟩], enrichment.request_after [⟨category, entry⟩]⟩
      rw [run]
      cases added : enrichment.add category entry with
      | ok enriched =>
          rw [performed, added] at call
          exact call.trans (ih (.ok ()) enriched)
      | error fault => exact ih (.error fault) enrichment
  | look next ih => exact ih enrichment.request enrichment

theorem PointWait.look_becomes (wait : PointWait) (now : Nat) :
    wait.enrichment.request.Becomes (wait.look now).1.request := by
  unfold look
  split
  · exact wait.script.run_becomes wait.enrichment now
  · exact .refl _

namespace Pipeline

/-- Calls on a request lead to what the ended ones have left and to what a waiting one has
reached. -/
structure Leads (request : Request) (ends : List Consultation)
    (progress : Progress (Except Verdict Request) PointWait) : Prop where
  ended : ∀ past ∈ ends, request.Becomes past.request
  waiting : ∀ wait, progress = .waiting wait → request.Becomes wait.enrichment.request

theorem leads_done (request : Request) (ended : Except Verdict Request) :
    Leads request [] (.done ended) where
  ended := by simp
  waiting := by simp

theorem leads_waiting (request : Request) (wait : PointWait)
    (reached : request.Becomes wait.enrichment.request) : Leads request [] (.waiting wait) where
  ended := by simp
  waiting := by
    rintro _ ⟨⟩
    exact reached

theorem Leads.after_call {before left : Request} {point : Point} {ending : CallEnd}
    {ends : List Consultation} {progress : Progress (Except Verdict Request) PointWait}
    (call : before.Becomes left) (leads : Leads left ends progress) :
    Leads before (⟨point, ending, left⟩ :: ends) progress where
  ended past member := by
    rcases List.mem_cons.mp member with rfl | member
    · exact call
    · exact call.trans (leads.ended past member)
  waiting wait waits := call.trans (leads.waiting wait waits)

theorem enrichBy_leads (timeout : Option Span) (now : Nat) (points : List Point)
    (request : Request) :
    Leads request (endsBy timeout now points request)
      (enrichBy timeout now points request).progress := by
  induction points generalizing request with
  | nil => exact leads_done request _
  | cons point later ih =>
      have call := point.enrich.run_becomes (.start request) now
      simp only [endsBy, enrichBy, endsOf]
      generalize point.enrich.run (.start request) now = ran at call
      obtain ⟨enrichment, progress⟩ := ran
      cases progress with
      | done answer =>
          cases answer with
          | succeeded => exact Leads.after_call call (ih enrichment.request)
          | failed fault => exact Leads.after_call call (leads_done _ _)
          | panicked => exact Leads.after_call call (leads_done _ _)
      | waiting next =>
          by_cases late : hasCome now (timeout.map fun limit => now + limit.millis) = true
          · simp only [CallEnd.seen?, late, if_true]
            exact Leads.after_call call (leads_done _ _)
          · simp only [CallEnd.seen?, late]
            exact leads_waiting _ _ call

theorem resumeEnriching_leads (timeout : Option Span) (now : Nat) (wait : PointWait)
    (request : Request) (reached : request.Becomes wait.enrichment.request) :
    Leads request (endsAfter timeout now wait) (resumeEnriching timeout now wait).progress := by
  have call := reached.trans (wait.look_becomes now)
  rw [resumeEnriching_eq]
  unfold endsAfter endsOf
  generalize wait.look now = looked at call
  obtain ⟨enrichment, progress⟩ := looked
  cases progress with
  | done answer =>
      cases answer with
      | succeeded =>
          exact Leads.after_call call (enrichBy_leads timeout now wait.later enrichment.request)
      | failed fault => exact Leads.after_call call (leads_done _ _)
      | panicked => exact Leads.after_call call (leads_done _ _)
  | waiting next =>
      by_cases late : hasCome now wait.deadline = true
      · simp only [CallEnd.seen?, late, if_true]
        exact Leads.after_call call (leads_done _ _)
      · simp only [CallEnd.seen?, late]
        exact leads_waiting _ _ call

end Pipeline

/-! ## Courses -/

/-- What the calls of an evaluation have made of its request so far. -/
def Course.Reaches (request : Request) (ends : List Consultation) :
    Progress FinalResult Evaluation → Prop
  | .waiting evaluation =>
    (∀ past ∈ ends, request.Becomes past.request) ∧
      request.Becomes evaluation.wait.enrichment.request
  | .done _ => ∀ past ∈ ends, request.Becomes past.request

theorem Service.proceed_reaches (service : Service) (now : Nat) (occasion : Occasion)
    (policy : PolicySnapshot) (work : Pipeline.Enriching) (request : Request)
    (ends : List Consultation) (ended : ∀ past ∈ ends, request.Becomes past.request)
    (waiting : ∀ wait, work.progress = .waiting wait → request.Becomes wait.enrichment.request) :
    Course.Reaches request ends (service.proceed now occasion policy work).2 := by
  cases reached : work.progress with
  | waiting wait =>
      rw [service.proceed_waiting now occasion policy work wait reached]
      exact ⟨ended, waiting wait reached⟩
  | done outcome =>
      obtain ⟨responseId, result⟩ := service.proceed_done now occasion policy work outcome reached
      rw [result]
      exact ended

/-- The induction is on the looks; a waiting evaluation carries what its points have reached. -/
theorem Course.reaches {pipeline : Pipeline} {policy : Option PolicySnapshot} {request : Request}
    {ends : List Consultation} {service : Service} {progress : Progress FinalResult Evaluation}
    (course : Course pipeline policy request ends service progress) :
    Reaches request ends progress := by
  induction course with
  | begun service now fixed inEffect =>
      subst pipeline
      unfold Service.evaluate
      cases current : service.cache.current with
      | none =>
          rw [← inEffect, current]
          simp [Reaches, Pipeline.firstEnds]
      | some snapshot =>
          rw [← inEffect, current]
          have leads := Pipeline.enrichBy_leads service.pipeline.timeout now
            service.pipeline.points request
          exact service.proceed_reaches now _ snapshot _ request _ leads.ended leads.waiting
  | @resumed ends before evaluation earlier service now fixed ih =>
      subst pipeline
      have leads := Pipeline.resumeEnriching_leads service.pipeline.timeout now evaluation.wait
        request ih.2
      refine service.proceed_reaches now _ _ _ request _ ?_ leads.waiting
      intro past member
      rcases List.mem_append.mp member with member | member
      · exact ih.1 past member
      · exact leads.ended past member

theorem becomes_lastRequest (request : Request) (ends : List Consultation)
    (ended : ∀ past ∈ ends, request.Becomes past.request) :
    request.Becomes (lastRequest request ends) := by
  rcases List.eq_nil_or_concat ends with rfl | ⟨earlier, last, rfl⟩
  · exact .refl request
  · rw [List.concat_eq_append] at ended ⊢
    rw [lastRequest_append]
    exact ended last (List.mem_append_right _ List.mem_cons_self)

/-! ## The resource that a request keeps -/

namespace Request

/-- The first identifier that calls bring into the first resource. -/
def offered? (request : Request) (calls : List Addition) : Option String :=
  (Enrichment.start request).offered? calls

theorem resourceId?_enrichedBy (request : Request) (calls : List Addition) :
    (request.enrichedBy calls).resourceId? =
      request.firstNamed?.or ((request.offered? calls).or request.laterNamed?) :=
  (Enrichment.start request).resourceId?_after calls

/-- Where the first resource has no identifier, one call gives it any. -/
theorem exists_offer (request : Request) (target : String) :
    ∃ addition, request.offered? [addition] = some target := by
  let held := (Enrichment.attributes request .resource).get? resourceIdAttribute
  let entry : Attribute :=
    ⟨resourceIdAttribute, (held.map Attribute.dataType).getD stringDataType, none, [target]⟩
  refine ⟨⟨.resource, entry⟩, ?_⟩
  rcases (Enrichment.start request).perform_cases ⟨.resource, entry⟩ with
    ⟨fault, refused, -⟩ | ⟨set, changed, -, performed⟩
  · obtain ⟨other, found, apart, -⟩ := (AttributeSet.merge_error_iff _ entry fault).mp refused
    have same : held = some other := found
    exact absurd (by simp [entry, same]) apart
  · rw [offered?, Enrichment.offered?, Enrichment.offer?, performed]
    rfl

end Request

/-! ## The resource of a result -/

/-- A result carries the resource of the request as its points have left it, unless the engine has
named one of its own.  Without a policy it carries none. -/
def Pipeline.Reports (pipeline : Pipeline) (policy : Option PolicySnapshot) (enriched : Request)
    (reported : Option String) : Prop :=
  match policy with
  | none => reported = none
  | some snapshot =>
    reported = enriched.resourceId? ∨
      ∃ outcome, pipeline.engine enriched snapshot = .decided outcome ∧
        outcome.resourceId.isSome = true ∧ reported = outcome.resourceId

theorem Pipeline.reports_completedBy {pipeline : Pipeline} {snapshot : PolicySnapshot}
    {enriched : Request} {outcome : Outcome}
    (decided : pipeline.engine enriched snapshot = .decided outcome) :
    pipeline.Reports (some snapshot) enriched (outcome.completedBy enriched).resourceId := by
  cases own : outcome.resourceId with
  | none =>
      refine .inl ?_
      rw [Outcome.completedBy, own, Option.none_or]
  | some resource =>
      refine .inr ⟨outcome, decided, by rw [own]; rfl, ?_⟩
      rw [Outcome.completedBy, own, Option.some_or]

theorem Pipeline.verdictOf_reports (pipeline : Pipeline) (registry : HandlerRegistry)
    (snapshot : PolicySnapshot) (request : Request) (ends : List Consultation)
    (ended : Except Verdict Request) (occasion : Occasion) (responseId : String)
    (completedAt : Instant) (outlined : Outlines pipeline.points request ends (.done ended)) :
    pipeline.Reports (some snapshot) (lastRequest request ends)
      (occasion.result (some snapshot) responseId completedAt
        (pipeline.verdictOf registry snapshot ended)).outcome.resourceId := by
  match ended with
  | .error verdict =>
      obtain ⟨earlier, last, fault, split, -, -, failed⟩ := outlined
      have left : lastRequest request ends = last.request := by
        rw [split, lastRequest_append]
        rfl
      rw [failed, left]
      exact .inl rfl
  | .ok enriched =>
      obtain ⟨-, -, left⟩ := outlined
      subst left
      rw [verdictOf]
      by_cases decided :
          ∃ outcome, pipeline.engine (lastRequest request ends) snapshot = .decided outcome
      · obtain ⟨outcome, decided⟩ := decided
        rw [pipeline.conclude_of_decided registry snapshot _ outcome decided]
        -- Whether the obligations are fulfilled or not, the resource is that of the outcome.
        split
        · exact reports_completedBy decided
        · exact reports_completedBy decided
      · obtain ⟨_, verdict⟩ := pipeline.conclude_of_undecided registry snapshot
          (lastRequest request ends) fun outcome answer => decided ⟨outcome, answer⟩
        rw [verdict]
        exact .inl rfl

theorem Course.reports {pipeline : Pipeline} {policy : Option PolicySnapshot} {request : Request}
    {ends : List Consultation} {service : Service} {result : FinalResult}
    (course : Course pipeline policy request ends service (.done result)) :
    pipeline.Reports policy (lastRequest request ends) result.outcome.resourceId := by
  obtain ⟨responseId, completedAt, ⟨absent, -, same⟩ |
    ⟨snapshot, ended, present, outlined, same⟩⟩ := course.tells
  · rw [absent, same]
    rfl
  · rw [present, same]
    exact pipeline.verdictOf_reports service.registry snapshot request ends ended _ _ _ outlined

/-- Enrichment keeps the resource that a request names exactly where the first of its resources
names it.  Otherwise the first identifier that a point brings in comes before it, and any other can
be brought in by one call.  The resource that a result reports is that of the request as its points
have left it, unless the engine has named one. -/
theorem resource_kept_iff_named_first (request : Request) (named : String)
    (names : request.resourceId? = some named) :
    (∀ calls, (request.enrichedBy calls).resourceId? =
      if request.firstNamed?.isSome then some named
      else (request.offered? calls).or (some named)) ∧
      ((∀ calls, (request.enrichedBy calls).resourceId? = some named) ↔
        request.firstNamed?.isSome = true) ∧
      ∀ pipeline policy ends service result,
        Course pipeline policy request ends service (.done result) →
          ∃ calls, lastRequest request ends = request.enrichedBy calls ∧
            pipeline.Reports policy (request.enrichedBy calls) result.outcome.resourceId := by
  have kept (calls : List Addition) : (request.enrichedBy calls).resourceId? =
      if request.firstNamed?.isSome then some named
      else (request.offered? calls).or (some named) := by
    rw [request.resourceId?_enrichedBy]
    rw [request.resourceId?_eq] at names
    cases first : request.firstNamed? with
    | none =>
        rw [first, Option.none_or] at names
        rw [names, Option.none_or]
        rfl
    | some other =>
        rw [first, Option.some_or] at names
        rw [Option.some_or, names]
        rfl
  refine ⟨kept, ?_, ?_⟩
  · constructor
    · intro always
      by_cases first : request.firstNamed?.isSome = true
      · exact first
      · -- A name that differs from the one given is brought in.
        obtain ⟨addition, offered⟩ := request.exists_offer (named ++ "/")
        have redirected := kept [addition]
        rw [always, if_neg first, offered, Option.some_or, Option.some_inj] at redirected
        have longer := congrArg String.length redirected
        simp at longer
    · intro first calls
      rw [kept, if_pos first]
  · intro pipeline policy ends service result course
    obtain ⟨calls, enriched⟩ := becomes_lastRequest request ends course.reaches
    exact ⟨calls, enriched, enriched ▸ course.reports⟩

namespace TwoResources

def naming (resource : String) : AttributeSet :=
  Keyed.empty.insert (.single resourceIdAttribute resource)

/-- A request for `queue/b`, with another resource in front, of which it says nothing. -/
def behind : Request :=
  { Request.blank "r" with resources := [.empty, naming "queue/b"] }

def inFront : Request :=
  { Request.blank "r" with resources := [naming "queue/a", naming "queue/b"] }

def locating : Addition :=
  ⟨.resource, .single resourceIdAttribute "queue/c"⟩

def locator : Point :=
  .ofScript "locator" (.add locating.category locating.entry fun _ => .finish .succeeded)

def pipeline : Pipeline :=
  ⟨fun _ _ => .decided (.new .permit [] none), [locator], none⟩

def service : Service :=
  { SampleCourse.service with pipeline := pipeline }

end TwoResources

open TwoResources in
theorem resource_named_in_front_is_kept :
    inFront.resourceId? = some "queue/a" ∧
      ∀ calls, (inFront.enrichedBy calls).resourceId? = some "queue/a" := by
  have names : inFront.resourceId? = some "queue/a" := by decide
  exact ⟨names, (resource_kept_iff_named_first inFront "queue/a" names).2.1.mpr (by decide)⟩

open TwoResources in
/-- A request for one resource that is decided, and reported, as one for another. -/
theorem resource_named_behind_is_redirected :
    behind.resourceId? = some "queue/b" ∧
      (behind.enrichedBy [locating]).resourceId? = some "queue/c" ∧
      ∃ ends result,
        Course pipeline (some SampleCourse.snapshot) behind ends service (.done result) ∧
          result.outcome.resourceId = some "queue/c" := by
  refine ⟨by decide, by decide, _, _, .begun service 0 rfl rfl, ?_⟩
  decide

end DecisionPoint
