import DecisionPoint.Proofs.Evaluation.Completion

/-!
# What enrichments come to

What a call of an information point comes to, when it is looked at whenever it can go on, can be
told from its script and the limit on it: `Script.settle` counts the time from the beginning of the
call.  So the enrichment of a request comes to the same whenever it begins.  A look changes nothing
of that, unless it comes too late for a call that has a limit.
-/

set_option autoImplicit false

namespace DecisionPoint

/-! ## Calls -/

/-- How a call ends that is looked at whenever it can go on, with the enrichment that it leaves.
There is no end if it waits for ever. -/
def Script.settle (limit : Span) (deadline : Option Nat) :
    Script → Enrichment → Nat → Option (Enrichment × CallEnd)
  | finish answer, enrichment, _ => some (enrichment, .answered answer)
  | pause millis next, enrichment, now =>
    if millis = 0 then next.settle limit deadline enrichment now
    else if deadline.any (· < now + millis) then some (enrichment, .timedOut limit)
    else next.settle limit deadline enrichment (now + millis)
  | hang, enrichment, _ => deadline.map fun _ => (enrichment, .timedOut limit)
  | add category entry next, enrichment, now =>
    match enrichment.add category entry with
    | .ok enriched => (next (.ok ())).settle limit deadline enriched now
    | .error fault => (next (.error fault)).settle limit deadline enrichment now
  | look next, enrichment, now => (next enrichment.request).settle limit deadline enrichment now

namespace PointWait

/-- How a waiting call ends that is looked at whenever it can go on. -/
def settled (wait : PointWait) : Option (Enrichment × CallEnd) :=
  match wait.resumesAt with
  | none => wait.deadline.map fun _ => (wait.enrichment, .timedOut wait.limit)
  | some time =>
    if wait.deadline.any (· < time) then some (wait.enrichment, .timedOut wait.limit)
    else wait.script.settle wait.limit wait.deadline wait.enrichment time

def Pauses (wait : PointWait) (now : Nat) : Prop :=
  ∀ time, wait.resumesAt = some time → now < time

/-- A call that has a limit is not looked at after it could go on. -/
def Punctual (wait : PointWait) (now : Nat) : Prop :=
  wait.deadline = none ∨ ∀ time, wait.wake = some time → now ≤ time

def left (wait : PointWait) (enrichment : Enrichment) (resumesAt : Option Nat) (script : Script) :
    PointWait :=
  { wait with enrichment := enrichment, script := script, resumesAt := resumesAt }

end PointWait

namespace Script

theorem settle_shift (limit : Span) (deadline : Option Nat) (delay : Nat) (script : Script)
    (enrichment : Enrichment) (now : Nat) :
    script.settle limit (deadline.map (· + delay)) enrichment (now + delay) =
      script.settle limit deadline enrichment now := by
  induction script generalizing enrichment now with
  | finish answer => rfl
  | pause millis next ih =>
      have sum : now + delay + millis = now + millis + delay := by omega
      have due : (deadline.map (· + delay)).any (· < now + millis + delay) =
          deadline.any (· < now + millis) := by
        cases deadline with
        | none => rfl
        | some time => simp
      rw [settle, settle, sum, due, ih, ih]
  | hang => simp only [settle, Option.map_map, Function.comp_def]
  | add category entry next ih =>
      simp only [settle]
      split
      · exact ih _ _ _
      · exact ih _ _ _
  | look next ih => exact ih _ _ _

/-- Without a limit the time makes no difference. -/
theorem settle_unlimited (limit : Span) (script : Script) (enrichment : Enrichment)
    (now now' : Nat) :
    script.settle limit none enrichment now = script.settle limit none enrichment now' := by
  have fromStart (time : Nat) :
      script.settle limit none enrichment time = script.settle limit none enrichment 0 := by
    have shifted := settle_shift limit none time script enrichment 0
    rw [Nat.zero_add] at shifted
    exact shifted
  rw [fromStart now, fromStart now']

theorem settle_of_answer (limit : Span) (deadline : Option Nat) {script : Script}
    {enrichment enrichment' : Enrichment} {now : Nat} {answer : PointAnswer}
    (ran : script.run enrichment now = (enrichment', .done answer)) :
    script.settle limit deadline enrichment now = some (enrichment', .answered answer) := by
  induction script generalizing enrichment now with
  | finish answer' =>
      cases ran
      rfl
  | pause millis next ih =>
      rw [run] at ran
      rw [settle]
      split at ran
      · next instant => rw [if_pos instant, ih ran]
      · cases ran
  | hang => cases ran
  | add category entry next ih =>
      cases added : enrichment.add category entry with
      | ok enriched =>
          simp only [run, added] at ran
          simp only [settle, added]
          exact ih _ ran
      | error fault =>
          simp only [run, added] at ran
          simp only [settle, added]
          exact ih _ ran
  | look next ih => exact ih _ ran

/-- A script that pauses goes on later, and it comes to what the rest of it comes to. -/
theorem settle_of_rest (wait : PointWait) {script rest : Script}
    {enrichment enrichment' : Enrichment} {now : Nat} {resumesAt : Option Nat}
    (ran : script.run enrichment now = (enrichment', .waiting (resumesAt, rest))) :
    script.settle wait.limit wait.deadline enrichment now =
        (wait.left enrichment' resumesAt rest).settled ∧
      (wait.left enrichment' resumesAt rest).Pauses now := by
  induction script generalizing enrichment now with
  | finish answer => cases ran
  | pause millis next ih =>
      rw [run] at ran
      rw [settle]
      split at ran
      · next instant =>
          rw [if_pos instant]
          exact ih ran
      · next takesTime =>
          cases ran
          rw [if_neg takesTime]
          refine ⟨rfl, ?_⟩
          intro time same
          cases same
          omega
  | hang =>
      cases ran
      refine ⟨rfl, ?_⟩
      intro time same
      cases same
  | add category entry next ih =>
      cases added : enrichment.add category entry with
      | ok enriched =>
          simp only [run, added] at ran
          simp only [settle, added]
          exact ih _ ran
      | error fault =>
          simp only [run, added] at ran
          simp only [settle, added]
          exact ih _ ran
  | look next ih => exact ih _ ran

/-- What follows for a script from all that it may go on with holds of every script. -/
theorem rest_induction (holds : Script → Prop)
    (step : ∀ script : Script,
      (∀ enrichment now enrichment' time rest,
        script.run enrichment now = (enrichment', .waiting (some time, rest)) → holds rest) →
      holds script)
    (script : Script) : holds script := by
  -- The script itself is not among what it goes on with, so all of that is shown beside it.
  refine step script ?_
  induction script with
  | finish answer =>
      intro enrichment now enrichment' time rest ran
      cases ran
  | pause millis next ih =>
      intro enrichment now enrichment' time rest ran
      rw [run] at ran
      split at ran
      · exact ih _ _ _ _ _ ran
      · cases ran
        exact step next ih
  | hang =>
      intro enrichment now enrichment' time rest ran
      cases ran
  | add category entry next ih =>
      intro enrichment now enrichment' time rest ran
      simp only [run] at ran
      split at ran
      · exact ih _ _ _ _ _ _ ran
      · exact ih _ _ _ _ _ _ ran
  | look next ih =>
      intro enrichment now enrichment' time rest ran
      exact ih _ _ _ _ _ _ ran

end Script

namespace PointWait

variable {wait : PointWait} {now : Nat}

theorem punctual_of_wake (wakes : wait.wake = some now) : wait.Punctual now := by
  refine .inr ?_
  intro time wakes'
  rw [wakes] at wakes'
  cases wakes'
  exact Nat.le_refl _

theorem settled_of_late (pauses : wait.Pauses now) (late : hasCome now wait.deadline = true) :
    wait.settled = some (wait.enrichment, .timedOut wait.limit) := by
  unfold settled
  cases due : wait.deadline with
  | none =>
      rw [due] at late
      cases late
  | some deadline =>
      have up : deadline ≤ now := by simpa [due, hasCome] using late
      cases goesOn : wait.resumesAt with
      | none => rfl
      | some time =>
          have later := pauses time goesOn
          simp only [Option.any_some, decide_eq_true (Nat.lt_of_le_of_lt up later), if_true]

/-- A call that goes on in time comes to what its script comes to from then on. -/
theorem settled_of_come (punctual : wait.Punctual now)
    (come : hasCome now wait.resumesAt = true) :
    wait.settled = wait.script.settle wait.limit wait.deadline wait.enrichment now := by
  unfold settled
  cases goesOn : wait.resumesAt with
  | none =>
      rw [goesOn] at come
      cases come
  | some time =>
      have due : time ≤ now := by simpa [goesOn, hasCome] using come
      cases limited : wait.deadline with
      | none => exact Script.settle_unlimited _ _ _ _ _
      | some deadline =>
          have inTime : now ≤ min time deadline := by
            rcases punctual with unlimited | early
            · rw [limited] at unlimited
              cases unlimited
            · exact early _ (by rw [wake, goesOn, limited, earlier])
          obtain rfl : time = now := by omega
          have notUp : ¬ deadline < time := by omega
          simp only [Option.any_some, decide_eq_true_eq, if_neg notUp]

theorem settled_of_answer (punctual : wait.Punctual now) {enrichment : Enrichment}
    {answer : PointAnswer} (looked : wait.look now = (enrichment, .done answer)) :
    wait.settled = some (enrichment, .answered answer) := by
  unfold look at looked
  split at looked
  · next come =>
      rw [settled_of_come punctual come]
      exact Script.settle_of_answer _ _ looked
  · cases looked

theorem settled_of_rest (punctual : wait.Punctual now) {enrichment : Enrichment}
    {resumesAt : Option Nat} {rest : Script}
    (looked : wait.look now = (enrichment, .waiting (resumesAt, rest))) :
    wait.settled = (wait.left enrichment resumesAt rest).settled ∧
      (wait.left enrichment resumesAt rest).Pauses now := by
  unfold look at looked
  split at looked
  · next come =>
      rw [settled_of_come punctual come]
      exact Script.settle_of_rest wait looked
  · next early =>
      cases looked
      refine ⟨rfl, ?_⟩
      intro time goesOn
      have still : wait.resumesAt = some time := goesOn
      simpa [still, hasCome] using early

end PointWait

/-! ## Enrichments -/

namespace Pipeline

def endOf (point : Point) (rest : Request → Option (Except Verdict Request)) :
    Option (Enrichment × CallEnd) → Option (Except Verdict Request)
  | none => none
  | some (enrichment, ending) =>
    match ending.fault? with
    | none => rest enrichment.request
    | some fault => some (.error (pointFailure point fault enrichment.request))

/-- What the enrichment of a request by points comes to, if it does not wait for ever. -/
def enrichAlone (timeout : Option Span) : List Point → Request → Option (Except Verdict Request)
  | [], request => some (.ok request)
  | point :: later, request =>
    endOf point (enrichAlone timeout later)
      (point.enrich.settle (timeout.getD default) (timeout.map Span.millis) (.start request) 0)

def comesTo (timeout : Option Span) :
    Progress (Except Verdict Request) PointWait → Option (Except Verdict Request)
  | .done ended => some ended
  | .waiting wait => endOf wait.point (enrichAlone timeout wait.later) wait.settled

/-- The enrichment ends if it is looked at whenever it can go on. -/
inductive Elapses (timeout : Option Span) :
    Progress (Except Verdict Request) PointWait → Prop where
  | done (ended : Except Verdict Request) : Elapses timeout (.done ended)
  | waiting {wait : PointWait} {time : Nat} (wakes : wait.wake = some time)
      (later : Elapses timeout (resumeEnriching timeout time wait).progress) :
      Elapses timeout (.waiting wait)

variable (timeout : Option Span) (now : Nat)

theorem enrichBy_comesTo (points : List Point) (request : Request) :
    comesTo timeout (enrichBy timeout now points request).progress =
      enrichAlone timeout points request := by
  induction points generalizing request with
  | nil => rfl
  | cons point later ih =>
      have limits : timeout.map (fun limit => now + limit.millis) =
          (timeout.map Span.millis).map (· + now) := by
        rw [Option.map_map]
        exact congrArg (timeout.map ·) (funext fun limit => Nat.add_comm now limit.millis)
      have shifted := Script.settle_shift (timeout.getD default) (timeout.map Span.millis) now
        point.enrich (.start request) 0
      rw [← limits, Nat.zero_add] at shifted
      rw [enrichAlone, ← shifted, enrichBy]
      cases ran : point.enrich.run (.start request) now with
      | mk enrichment progress =>
          cases progress with
          | done answer =>
              rw [Script.settle_of_answer _ _ ran]
              cases answer with
              | succeeded => exact ih enrichment.request
              | failed fault => rfl
              | panicked => rfl
          | waiting next =>
              obtain ⟨resumesAt, rest⟩ := next
              obtain ⟨same, pauses⟩ := Script.settle_of_rest
                ⟨point, later, .start request, point.enrich, none,
                  timeout.map fun limit => now + limit.millis, timeout.getD default⟩ ran
              rw [same]
              simp only
              split
              · next late =>
                  rw [PointWait.settled_of_late pauses late]
                  rfl
              · rfl

variable {now}

theorem resumeEnriching_comesTo {wait : PointWait} (punctual : wait.Punctual now) :
    comesTo timeout (resumeEnriching timeout now wait).progress =
      comesTo timeout (.waiting wait) := by
  rw [resumeEnriching_eq, comesTo.eq_2]
  cases looked : wait.look now with
  | mk enrichment progress =>
      cases progress with
      | done answer =>
          rw [PointWait.settled_of_answer punctual looked]
          cases answer with
          | succeeded => exact enrichBy_comesTo timeout now wait.later enrichment.request
          | failed fault => rfl
          | panicked => rfl
      | waiting next =>
          obtain ⟨resumesAt, rest⟩ := next
          obtain ⟨same, pauses⟩ := PointWait.settled_of_rest punctual looked
          rw [same]
          simp only
          split
          · next late =>
              rw [PointWait.settled_of_late pauses late]
              rfl
          · rfl

/-! ### Enrichments that end -/

/-- A call that is looked at when it can go on ends, or it goes on with a part of its script. -/
theorem elapses_of_look {wait : PointWait} {time : Nat} (wakes : wait.wake = some time)
    (ends : (comesTo timeout (.waiting wait)).isSome = true)
    (later : ∀ now request, (enrichAlone timeout wait.later request).isSome = true →
      Elapses timeout (enrichBy timeout now wait.later request).progress)
    (rest : ∀ enrichment resumesAt script,
      wait.look time = (enrichment, .waiting (resumesAt, script)) →
      hasCome time wait.deadline = false →
      (comesTo timeout (.waiting (wait.left enrichment resumesAt script))).isSome = true →
        Elapses timeout (.waiting (wait.left enrichment resumesAt script))) :
    Elapses timeout (.waiting wait) := by
  have punctual := PointWait.punctual_of_wake wakes
  refine .waiting wakes ?_
  rw [comesTo] at ends
  rw [resumeEnriching_eq]
  cases looked : wait.look time with
  | mk enrichment progress =>
      cases progress with
      | done answer =>
          rw [PointWait.settled_of_answer punctual looked] at ends
          cases answer with
          | succeeded => exact later time _ ends
          | failed fault => exact .done _
          | panicked => exact .done _
      | waiting next =>
          obtain ⟨resumesAt, script⟩ := next
          by_cases late : hasCome time wait.deadline = true
          · simp only [late, if_true]
            exact .done _
          · rw [(PointWait.settled_of_rest punctual looked).1] at ends
            simp only [if_neg late]
            exact rest _ _ _ looked (Bool.eq_false_iff.mpr late) ends

/-- A call that never goes on ends at its deadline. -/
theorem elapses_of_hanging {wait : PointWait} (hangs : wait.resumesAt = none)
    (ends : (comesTo timeout (.waiting wait)).isSome = true)
    (later : ∀ now request, (enrichAlone timeout wait.later request).isSome = true →
      Elapses timeout (enrichBy timeout now wait.later request).progress) :
    Elapses timeout (.waiting wait) := by
  cases due : wait.deadline with
  | none =>
      rw [comesTo, PointWait.settled, hangs, due] at ends
      cases ends
  | some deadline =>
      refine elapses_of_look timeout (by rw [PointWait.wake, hangs, due, earlier]) ends later ?_
      intro enrichment resumesAt script _ inTime
      simp [due, hasCome] at inTime

/-- Calls with this script left end if they come to anything. -/
def ElapsesWith (script : Script) : Prop :=
  ∀ wait : PointWait, wait.script = script →
    (comesTo timeout (.waiting wait)).isSome = true →
    (∀ now request, (enrichAlone timeout wait.later request).isSome = true →
      Elapses timeout (enrichBy timeout now wait.later request).progress) →
    Elapses timeout (.waiting wait)

theorem elapsesWith (script : Script) : ElapsesWith timeout script := by
  refine Script.rest_induction (ElapsesWith timeout) ?_ script
  intro script ih wait same ends later
  cases goesOn : wait.resumesAt with
  | none => exact elapses_of_hanging timeout goesOn ends later
  | some time =>
      obtain ⟨woken, wakes⟩ : ∃ woken, wait.wake = some woken := by
        unfold PointWait.wake
        rw [goesOn]
        cases wait.deadline <;> exact ⟨_, rfl⟩
      refine elapses_of_look timeout wakes ends later ?_
      intro enrichment resumesAt rest looked inTime ends'
      -- The deadline has not come, so it is the script that goes on.
      have come : hasCome woken wait.resumesAt = true := by
        rw [goesOn]
        cases due : wait.deadline with
        | none =>
            rw [PointWait.wake, goesOn, due] at wakes
            cases wakes
            simp [hasCome]
        | some deadline =>
            rw [PointWait.wake, goesOn, due] at wakes
            rw [due] at inTime
            cases wakes
            simp only [hasCome, decide_eq_false_iff_not, decide_eq_true_eq] at inTime ⊢
            omega
      rw [PointWait.look, if_pos come, same] at looked
      cases resumesAt with
      | none => exact elapses_of_hanging timeout rfl ends' later
      | some time' => exact ih _ _ _ _ _ looked _ rfl ends' later

/-- An enrichment that comes to anything ends if it is looked at whenever it can go on. -/
theorem enrichBy_elapses (points : List Point) (now : Nat) (request : Request)
    (ends : (enrichAlone timeout points request).isSome = true) :
    Elapses timeout (enrichBy timeout now points request).progress := by
  induction points generalizing now request with
  | nil => exact .done _
  | cons point later ih =>
      have comes := enrichBy_comesTo timeout now (point :: later) request
      rw [← comes] at ends
      rw [enrichBy] at ends ⊢
      cases ran : point.enrich.run (.start request) now with
      | mk enrichment progress =>
          rw [ran] at ends
          cases progress with
          | done answer =>
              cases answer with
              | succeeded => exact ih now _ (by rwa [enrichBy_comesTo] at ends)
              | failed fault => exact .done _
              | panicked => exact .done _
          | waiting next =>
              obtain ⟨resumesAt, rest⟩ := next
              simp only at ends ⊢
              split
              · exact .done _
              · next inTime =>
                  rw [if_neg inTime] at ends
                  exact elapsesWith timeout rest _ rfl ends fun now request => ih now request

end Pipeline

end DecisionPoint
