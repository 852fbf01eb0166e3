import DecisionPoint.Evaluation.Pipeline

/-!
# Consultations of information points

A call of an information point ends when it is looked at and has an answer, or when its time is up.
Here the ends of the calls in one part of an evaluation are read off the scripts alone.  The main
statements say that an enrichment comes to what these ends say: it goes on past a point exactly
when the point has succeeded, and it waits only in a call that has not ended.
-/

set_option autoImplicit false

namespace DecisionPoint

inductive CallEnd where
  | answered (answer : PointAnswer)
  | timedOut (limit : Span)
deriving DecidableEq, Repr

namespace CallEnd

/-- How a call ends when it is looked at.  An answer counts even if the time is up. -/
def seen? (limit : Span) (timeIsUp : Bool) :
    Progress PointAnswer (Option Nat × Script) → Option CallEnd
  | .done answer => some (.answered answer)
  | .waiting _ => if timeIsUp then some (.timedOut limit) else none

def fault? : CallEnd → Option InformationFault
  | answered .succeeded => none
  | answered (.failed fault) => some fault
  | answered .panicked => some Pipeline.enrichBy.panic
  | timedOut limit => some (.timeout limit)

end CallEnd

/-- A call of an information point that has ended, with the request that it left. -/
structure Consultation where
  point : Point
  ending : CallEnd
  request : Request

/-- Whether the call ended without an error, a panic or a timeout. -/
def Consultation.Succeeded (consultation : Consultation) : Prop :=
  consultation.ending = .answered .succeeded

def lastRequest (request : Request) (ends : List Consultation) : Request :=
  ends.foldl (fun _ consultation => consultation.request) request

theorem lastRequest_append (request : Request) (earlier ends : List Consultation) :
    lastRequest request (earlier ++ ends) = lastRequest (lastRequest request earlier) ends := by
  simp [lastRequest]

def PointWait.look (wait : PointWait) (now : Nat) :
    Enrichment × Progress PointAnswer (Option Nat × Script) :=
  if hasCome now wait.resumesAt then wait.script.run wait.enrichment now
  else (wait.enrichment, .waiting (wait.resumesAt, wait.script))

namespace Pipeline

def endsOf (point : Point) (limit : Span) (timeIsUp : Bool)
    (look : Enrichment × Progress PointAnswer (Option Nat × Script))
    (rest : Request → List Consultation) : List Consultation :=
  match CallEnd.seen? limit timeIsUp look.2 with
  | none => []
  | some ending =>
    ⟨point, ending, look.1.request⟩ ::
      if ending = .answered .succeeded then rest look.1.request else []

/-- The calls that end at once when points are asked in order. -/
def endsBy (timeout : Option Span) (now : Nat) : List Point → Request → List Consultation
  | [], _ => []
  | point :: later, request =>
    endsOf point (timeout.getD default) (hasCome now (timeout.map fun limit => now + limit.millis))
      (point.enrich.run (.start request) now) (endsBy timeout now later)

/-- The calls that end when a waiting one is looked at again. -/
def endsAfter (timeout : Option Span) (now : Nat) (wait : PointWait) : List Consultation :=
  endsOf wait.point wait.limit (hasCome now wait.deadline) (wait.look now)
    (endsBy timeout now wait.later)

/-- What the ends of calls say about the enrichment of a request by points. -/
def Outlines (points : List Point) (request : Request) (ends : List Consultation) :
    Progress (Except Verdict Request) PointWait → Prop
  | .done (.ok enriched) =>
    ends.map Consultation.point = points ∧ (∀ past ∈ ends, past.Succeeded) ∧
      enriched = lastRequest request ends
  | .done (.error verdict) =>
    ∃ earlier last fault, ends = earlier ++ [last] ∧ (∀ past ∈ earlier, past.Succeeded) ∧
      last.ending.fault? = some fault ∧ verdict = pointFailure last.point fault last.request
  | .waiting wait =>
    (∀ past ∈ ends, past.Succeeded) ∧
      points = ends.map Consultation.point ++ wait.point :: wait.later

theorem Outlines.after (earlier ends : List Consultation) (points : List Point)
    (request : Request) (progress : Progress (Except Verdict Request) PointWait)
    (succeeded : ∀ past ∈ earlier, past.Succeeded)
    (outlined : Outlines points (lastRequest request earlier) ends progress) :
    Outlines (earlier.map Consultation.point ++ points) request (earlier ++ ends) progress := by
  have allSucceeded (rest : List Consultation) (later : ∀ past ∈ rest, past.Succeeded) :
      ∀ past ∈ earlier ++ rest, past.Succeeded := by
    intro past member
    rcases List.mem_append.mp member with member | member
    · exact succeeded past member
    · exact later past member
  match progress with
  | .done (.ok enriched) =>
      obtain ⟨same, later, left⟩ := outlined
      refine ⟨?_, allSucceeded ends later, ?_⟩
      · rw [List.map_append, same]
      · rw [left, lastRequest_append]
  | .done (.error verdict) =>
      obtain ⟨before, last, fault, split, later, faulty, failed⟩ := outlined
      refine ⟨earlier ++ before, last, fault, ?_, allSucceeded before later, faulty, failed⟩
      rw [split, List.append_assoc]
  | .waiting wait =>
      obtain ⟨later, split⟩ := outlined
      refine ⟨allSucceeded ends later, ?_⟩
      rw [split, List.map_append, List.append_assoc]

/-- A single call that did not succeed ends an enrichment. -/
theorem outlines_failure (point : Point) (later : List Point) (request left : Request)
    (ending : CallEnd) (fault : InformationFault) (faulty : ending.fault? = some fault) :
    Outlines (point :: later) request [⟨point, ending, left⟩]
      (.done (.error (pointFailure point fault left))) :=
  ⟨[], ⟨point, ending, left⟩, fault, rfl, by simp, faulty, rfl⟩

/-- A single call that has succeeded hands its request on to the other points. -/
theorem outlines_success (point : Point) (later : List Point) (request left : Request)
    (ends : List Consultation) (progress : Progress (Except Verdict Request) PointWait)
    (outlined : Outlines later left ends progress) :
    Outlines (point :: later) request (⟨point, .answered .succeeded, left⟩ :: ends) progress := by
  have first : ∀ past ∈ [(⟨point, .answered .succeeded, left⟩ : Consultation)],
      past.Succeeded := by
    intro past member
    rw [List.mem_singleton.mp member]
    rfl
  exact Outlines.after _ ends later request progress first outlined

theorem enrichBy_outlines (timeout : Option Span) (now : Nat) (points : List Point)
    (request : Request) :
    Outlines points request (endsBy timeout now points request)
      (enrichBy timeout now points request).progress := by
  induction points generalizing request with
  | nil => exact ⟨rfl, by simp [endsBy], rfl⟩
  | cons point later ih =>
      simp only [endsBy, enrichBy, endsOf]
      obtain ⟨enrichment, progress⟩ := point.enrich.run (.start request) now
      match progress with
      | .done .succeeded =>
          exact outlines_success point later request _ _ _ (ih enrichment.request)
      | .done (.failed fault) => exact outlines_failure point later request _ _ fault rfl
      | .done .panicked => exact outlines_failure point later request _ _ _ rfl
      | .waiting (resumesAt, script) =>
          by_cases late : hasCome now (timeout.map fun limit => now + limit.millis) = true
          · simp only [CallEnd.seen?, late, if_true]
            exact outlines_failure point later request _ _ _ rfl
          · simp only [CallEnd.seen?, late]
            exact ⟨by simp, rfl⟩

theorem resumeEnriching_eq (timeout : Option Span) (now : Nat) (wait : PointWait) :
    resumeEnriching timeout now wait =
      match wait.look now with
      | (enrichment, .done .succeeded) => enrichBy timeout now wait.later enrichment.request
      | (enrichment, .done (.failed fault)) =>
        ⟨[], .done (.error (pointFailure wait.point fault enrichment.request))⟩
      | (enrichment, .done .panicked) =>
        ⟨[], .done (.error (pointFailure wait.point enrichBy.panic enrichment.request))⟩
      | (enrichment, .waiting (resumesAt, script)) =>
        if hasCome now wait.deadline then
          ⟨[], .done (.error (pointFailure wait.point (.timeout wait.limit) enrichment.request))⟩
        else
          ⟨[], .waiting
            { wait with enrichment := enrichment, script := script, resumesAt := resumesAt }⟩ := by
  have found :
      (if hasCome now wait.resumesAt then wait.script.run wait.enrichment now
        else (wait.enrichment, .waiting (wait.resumesAt, wait.script))) = wait.look now := rfl
  unfold resumeEnriching
  rw [found]
  obtain ⟨enrichment, progress⟩ := wait.look now
  match progress with
  | .done .succeeded => rfl
  | .done (.failed fault) => rfl
  | .done .panicked => rfl
  | .waiting (resumesAt, script) => rfl

theorem resumeEnriching_outlines (timeout : Option Span) (now : Nat) (wait : PointWait)
    (request : Request) :
    Outlines (wait.point :: wait.later) request (endsAfter timeout now wait)
      (resumeEnriching timeout now wait).progress := by
  rw [resumeEnriching_eq]
  unfold endsAfter endsOf
  obtain ⟨enrichment, progress⟩ := wait.look now
  match progress with
  | .done .succeeded =>
      exact outlines_success wait.point wait.later request _ _ _
        (enrichBy_outlines timeout now wait.later enrichment.request)
  | .done (.failed fault) => exact outlines_failure wait.point wait.later request _ _ fault rfl
  | .done .panicked => exact outlines_failure wait.point wait.later request _ _ _ rfl
  | .waiting (resumesAt, script) =>
      by_cases late : hasCome now wait.deadline = true
      · simp only [CallEnd.seen?, late, if_true]
        exact outlines_failure wait.point wait.later request _ _ _ rfl
      · simp only [CallEnd.seen?, late]
        exact ⟨by simp, rfl⟩

end Pipeline

end DecisionPoint
