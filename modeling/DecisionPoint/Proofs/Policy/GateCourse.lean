import Mathlib.Data.ENat.Lattice
import DecisionPoint.Proofs.Policy.Readiness

/-!
# The course of a gate that is left alone

If nobody else touches the cache, and the gate goes on as soon as it can, then what it does is
settled by what the source does with its calls: `GateTerms.course` writes the account down
beforehand.  `GateTerms.Stands` says how much of it is still to come.
-/

set_option autoImplicit false

namespace DecisionPoint

structure SourceAnswer where
  delay : Nat
  fetched : Fetched

/-- What decides about a gate that is left alone. -/
structure GateTerms where
  limit : Option Span
  backoff : Nat
  answers : Nat → SourceAnswer

/-- What is still to be done, and the snapshot that is in effect in the end. -/
abbrev GateCourse : Type := GateAccount × Option PolicySnapshot

def GateCourse.following (account : GateAccount) (course : GateCourse) : GateCourse :=
  (account ++ course.1, course.2)

theorem GateCourse.following_append (first second : GateAccount) (course : GateCourse) :
    GateCourse.following (first ++ second) course =
      GateCourse.following first (GateCourse.following second course) := by
  simp [GateCourse.following]

namespace GateTerms

variable (terms : GateTerms)

def inTime (place : Nat) : Bool :=
  terms.limit.all fun limit => decide ((terms.answers place).delay ≤ limit.millis)

def supplied (place : Nat) : Option PolicySnapshot :=
  if terms.inTime place then (terms.answers place).fetched.toOption else none

def lasts (place : Nat) : Nat :=
  terms.limit.elim (terms.answers place).delay fun limit =>
    min (terms.answers place).delay limit.millis

def ending (place : Nat) : GateMove :=
  if terms.inTime place then .hears (terms.answers place).fetched
  else .timesOut (terms.limit.getD default)

def wait (place time : Nat) : FetchWait :=
  ⟨some (time + (terms.answers place).delay), terms.limit.map (time + ·.millis),
    terms.limit.getD default⟩

def afterCall (place ended : Nat) (later : GateCourse) : GateCourse :=
  match terms.supplied place with
  | some snapshot => ([(ended, .returns true)], some snapshot)
  | none => .following [(ended, .pauses terms.backoff)] later

/-- What a gate does that may make some attempts, when `made` calls have been made. -/
def course (made time : Nat) : Nat → GateCourse
  | 0 => ([(time, .returns false)], none)
  | remaining + 1 =>
    let ended := time + terms.lasts made
    .following
      [(time, .attempts none (some (terms.wait made time))), (ended, terms.ending made)]
      (terms.afterCall made ended (course (made + 1) (ended + terms.backoff) remaining))

/-! ## What the course comes to -/

/-- The number of the first call that supplies a snapshot; infinite if there is none. -/
noncomputable def firstSupplied : ℕ∞ :=
  open Classical in
  if found : ∃ place, (terms.supplied place).isSome = true then (Nat.find found + 1 : Nat) else ⊤

theorem firstSupplied_eq {place : Nat} {snapshot : PolicySnapshot}
    (supplies : terms.supplied place = some snapshot)
    (first : ∀ earlier < place, terms.supplied earlier = none) :
    terms.firstSupplied = (place + 1 : Nat) := by
  classical
  have found : ∃ place, (terms.supplied place).isSome = true := ⟨place, by rw [supplies]; rfl⟩
  have here : Nat.find found = place := by
    rw [Nat.find_eq_iff]
    refine ⟨by rw [supplies]; rfl, ?_⟩
    intro earlier before
    rw [first earlier before]
    exact Bool.false_ne_true
  rw [firstSupplied, dif_pos found, here]

theorem exists_first (found : ∃ place, (terms.supplied place).isSome = true) :
    ∃ place snapshot, terms.supplied place = some snapshot ∧
      ∀ earlier < place, terms.supplied earlier = none := by
  classical
  obtain ⟨snapshot, supplies⟩ := Option.isSome_iff_exists.mp (Nat.find_spec found)
  refine ⟨Nat.find found, snapshot, supplies, ?_⟩
  intro earlier before
  exact Option.not_isSome_iff_eq_none.mp (Nat.find_min found before)

theorem tally_following (kind : GateMove → Bool) (account : GateAccount) (course : GateCourse) :
    GateAccount.tally kind (GateCourse.following account course).1 =
      GateAccount.tally kind account + GateAccount.tally kind course.1 :=
  GateAccount.tally_append kind account course.1

theorem ending_kind (place : Nat) :
    (terms.ending place).isCall = false ∧ (terms.ending place).isPause = false := by
  unfold ending
  split <;> exact ⟨rfl, rfl⟩

theorem course_supplies {made : Nat} (time remaining : Nat) {snapshot : PolicySnapshot}
    (supplies : terms.supplied made = some snapshot) :
    (terms.course made time (remaining + 1)).1.calls = 1 ∧
      (terms.course made time (remaining + 1)).1.pauses = 0 ∧
      (terms.course made time (remaining + 1)).2 = some snapshot := by
  obtain ⟨noCall, noPause⟩ := terms.ending_kind made
  simp only [course, afterCall, supplies]
  refine ⟨?_, ?_, rfl⟩
  · simp only [GateAccount.calls, tally_following, GateAccount.tally_cons, noCall]
    rfl
  · simp only [GateAccount.pauses, tally_following, GateAccount.tally_cons, noPause]
    rfl

theorem course_fails {made : Nat} (time remaining : Nat) (failed : terms.supplied made = none) :
    ∃ later : Nat, (terms.course made time (remaining + 1)).1.calls =
        (terms.course (made + 1) later remaining).1.calls + 1 ∧
      (terms.course made time (remaining + 1)).1.pauses =
        (terms.course (made + 1) later remaining).1.pauses + 1 ∧
      (terms.course made time (remaining + 1)).2 = (terms.course (made + 1) later remaining).2 := by
  obtain ⟨noCall, noPause⟩ := terms.ending_kind made
  refine ⟨time + terms.lasts made + terms.backoff, ?_⟩
  simp only [course, afterCall, failed]
  refine ⟨?_, ?_, rfl⟩
  · simp only [GateAccount.calls, tally_following, GateAccount.tally_cons, noCall]
    simp only [GateMove.isCall, GateAccount.tally_nil, Bool.toNat_true, Bool.toNat_false]
    omega
  · simp only [GateAccount.pauses, tally_following, GateAccount.tally_cons, noPause]
    simp only [GateMove.isPause, GateAccount.tally_nil, Bool.toNat_true, Bool.toNat_false]
    omega

theorem course_of_none (made time remaining : Nat)
    (nothing : ∀ place < made + remaining, made ≤ place → terms.supplied place = none) :
    (terms.course made time remaining).1.calls = remaining ∧
      (terms.course made time remaining).1.pauses = remaining ∧
      (terms.course made time remaining).2 = none := by
  induction remaining generalizing made time with
  | zero => exact ⟨rfl, rfl, rfl⟩
  | succ remaining ih =>
      have failed : terms.supplied made = none := nothing made (by omega) (Nat.le_refl _)
      obtain ⟨later, calls, pauses, left⟩ := terms.course_fails time remaining failed
      obtain ⟨calls', pauses', left'⟩ := ih (made + 1) later
        fun place below above => nothing place (by omega) (by omega)
      exact ⟨by rw [calls, calls'], by rw [pauses, pauses'], left.trans left'⟩

theorem course_of_first (made failures time remaining : Nat) {snapshot : PolicySnapshot}
    (supplies : terms.supplied (made + failures) = some snapshot)
    (first : ∀ place < made + failures, made ≤ place → terms.supplied place = none)
    (within : failures < remaining) :
    (terms.course made time remaining).1.calls = failures + 1 ∧
      (terms.course made time remaining).1.pauses = failures ∧
      (terms.course made time remaining).2 = some snapshot := by
  induction remaining generalizing made failures time with
  | zero => cases within
  | succ remaining ih =>
      cases failures with
      | zero => exact terms.course_supplies time remaining supplies
      | succ failures =>
          have failed : terms.supplied made = none := first made (by omega) (Nat.le_refl _)
          have shifted : made + (failures + 1) = made + 1 + failures := by omega
          obtain ⟨later, calls, pauses, left⟩ := terms.course_fails time remaining failed
          obtain ⟨calls', pauses', left'⟩ := ih (made + 1) failures later
            (shifted ▸ supplies) (fun place below above => first place (by omega) (by omega))
            (by omega)
          exact ⟨by rw [calls, calls'], by rw [pauses, pauses'], left.trans left'⟩

/-- The source is called until it supplies a snapshot or all attempts are made, there is a pause
after each call that fails, and the first snapshot that is supplied is in effect in the end. -/
structure CountsTo (granted : Nat) (course : GateCourse) : Prop where
  calls : (course.1.calls : ℕ∞) = min (granted : ℕ∞) terms.firstSupplied
  pauses : (course.1.pauses : ℕ∞) = min (granted : ℕ∞) (terms.firstSupplied - 1)
  succeeds : course.2.isSome = true ↔ terms.firstSupplied ≤ granted
  snapshot : ∀ place : Nat, terms.firstSupplied = (place + 1 : Nat) → place < granted →
    course.2 = terms.supplied place

theorem course_countsTo (time granted : Nat) :
    terms.CountsTo granted (terms.course 0 time granted) := by
  by_cases found : ∃ place, (terms.supplied place).isSome = true
  · obtain ⟨place, snapshot, supplies, first⟩ := terms.exists_first found
    have number := terms.firstSupplied_eq supplies first
    have lowered : terms.firstSupplied - 1 = (place : ℕ∞) := by
      rw [number]
      norm_cast
    by_cases within : place < granted
    · obtain ⟨calls, pauses, left⟩ := terms.course_of_first 0 place time granted
        (by rwa [Nat.zero_add]) (fun place' below _ => first place' (by omega)) within
      have reached : terms.firstSupplied ≤ granted := by
        rw [number]
        exact_mod_cast within
      refine ⟨?_, ?_, ?_, ?_⟩
      · rw [calls, min_eq_right reached, number]
      · rw [pauses, lowered, min_eq_right (by exact_mod_cast within.le)]
      · rw [left]
        exact iff_of_true rfl reached
      · intro place' same _
        have here : place' = place := by
          rw [number] at same
          have numbers : place + 1 = place' + 1 := by exact_mod_cast same
          omega
        rw [left, here, supplies]
    · obtain ⟨calls, pauses, left⟩ := terms.course_of_none 0 time granted
        (fun place' below _ => first place' (by omega))
      have beyond : ¬terms.firstSupplied ≤ granted := by
        rw [number]
        exact_mod_cast within
      refine ⟨?_, ?_, ?_, ?_⟩
      · rw [calls, min_eq_left (le_of_not_ge beyond)]
      · rw [pauses, lowered, min_eq_left (by exact_mod_cast Nat.le_of_not_lt within)]
      · rw [left]
        exact iff_of_false Bool.false_ne_true beyond
      · intro place' same early
        refine absurd ?_ beyond
        rw [same]
        exact_mod_cast early
  · have never : terms.firstSupplied = ⊤ := dif_neg found
    obtain ⟨calls, pauses, left⟩ := terms.course_of_none 0 time granted
      fun place _ _ => Option.not_isSome_iff_eq_none.mp fun supplies => found ⟨place, supplies⟩
    refine ⟨?_, ?_, ?_, ?_⟩
    · rw [calls, never, min_top_right]
    · rw [pauses, never]
      rfl
    · rw [left, never]
      exact iff_of_false Bool.false_ne_true (by simp)
    · intro place same
      rw [never] at same
      cases same

end GateTerms

/-! ## What the source does -/

def GateMove.Follows (answers : Nat → SourceAnswer) (made time : Nat) : GateMove → Prop
  | attempts _ (some fetch) => fetch.answersAt = some (time + (answers made).delay)
  | hears fetched => fetched = (answers (made - 1)).fetched
  | _ => True

def GateAccount.Follows (answers : Nat → SourceAnswer) : Nat → GateAccount → Prop
  | _, [] => True
  | made, (time, move) :: rest =>
    move.Follows answers made time ∧ Follows answers (made + move.isCall.toNat) rest

theorem GateAccount.follows_append (answers : Nat → SourceAnswer) (made : Nat)
    (first second : GateAccount) :
    Follows answers made (first ++ second) ↔
      Follows answers made first ∧ Follows answers (made + calls first) second := by
  induction first generalizing made with
  | nil => simp [Follows]
  | cons entry rest ih =>
      obtain ⟨time, move⟩ := entry
      simp only [List.cons_append, Follows, ih, calls, tally_cons, Nat.add_assoc, and_assoc]

/-! ## Turns of a gate that is left alone -/

namespace GateTerms

/-- Where the gate stands after some calls, and what it still does.  It has not missed its time. -/
inductive Stands (terms : GateTerms) (granted : Nat) (cache : PolicyCache) (now : Nat) :
    Nat → Progress Bool (Option GatePhase) → GateCourse → Prop where
  | fresh (free : cache.refreshing = false) (empty : cache.current = none) :
      Stands terms granted cache now 0 (.waiting none) (terms.course 0 now granted)
  | fetching {place remaining time : Nat} (mine : cache.refreshing = true)
      (empty : cache.current = none) (inTime : now ≤ time + terms.lasts place) :
      Stands terms granted cache now (place + 1)
        (.waiting (some (.fetching remaining (terms.wait place time))))
        (.following [(time + terms.lasts place, terms.ending place)]
          (terms.afterCall place (time + terms.lasts place)
            (terms.course (place + 1) (time + terms.lasts place + terms.backoff) remaining)))
  | pausing {made remaining time : Nat} (free : cache.refreshing = false)
      (empty : cache.current = none) (inTime : now ≤ time) :
      Stands terms granted cache now made (.waiting (some (.pausing remaining time)))
        (terms.course made time remaining)
  | returned {made : Nat} {snapshot? : Option PolicySnapshot}
      (published : cache.current = snapshot?) :
      Stands terms granted cache now made (.done snapshot?.isSome) ([], snapshot?)

/-- What a turn comes to: it does the first part of what was still to be done. -/
def Keeps (terms : GateTerms) (granted now made : Nat) (course : GateCourse)
    (telling : GateTelling) : Prop :=
  ∃ rest, course = .following (.stamped now telling.1) rest ∧
    terms.Stands granted telling.2.1 now (made + (GateAccount.stamped now telling.1).calls)
      (telling.2.2.2.map id some) rest

variable {terms : GateTerms} {cache : PolicyCache} {journal : Journal}
  {granted now time place made remaining : Nat}

theorem lasts_of_inTime (inTime : terms.inTime place = true) :
    terms.lasts place = (terms.answers place).delay := by
  unfold lasts
  unfold GateTerms.inTime at inTime
  cases limited : terms.limit with
  | none => rfl
  | some limit =>
      simp only [limited, Option.all_some, decide_eq_true_eq] at inTime
      exact Nat.min_eq_left inTime

theorem conclude_alone (cache : PolicyCache) (journal : Journal) (empty : cache.current = none)
    (fetched : Fetched) :
    (cache.conclude journal fetched).1.refreshing = false ∧
      (cache.conclude journal fetched).1.current = fetched.toOption ∧
      (cache.conclude journal fetched).2.2.succeeded = fetched.toOption.isSome := by
  cases fetched with
  | ok snapshot => exact ⟨rfl, rfl, rfl⟩
  | error fault => exact ⟨rfl, empty, rfl⟩

theorem inTime_of_answered (soon : now ≤ time + terms.lasts place)
    (answered : time + (terms.answers place).delay ≤ now) : terms.inTime place = true := by
  unfold lasts at soon
  unfold GateTerms.inTime
  cases limited : terms.limit with
  | none => rfl
  | some limit =>
      simp only [limited, Option.elim_some] at soon
      simp only [Option.all_some, decide_eq_true_eq]
      omega

/-- A call that can go on ends just now. -/
theorem resume_alone (journal : Journal) (empty : cache.current = none)
    (soon : now ≤ time + terms.lasts place)
    (follows : GateAccount.Follows terms.answers (place + 1)
      (.stamped now (cache.heard now (terms.wait place time)))) :
    (cache.heard now (terms.wait place time) = [] ∧
      cache.resume journal now (terms.wait place time) =
        (cache, journal, .waiting (terms.wait place time))) ∨
    (cache.heard now (terms.wait place time) = [terms.ending place] ∧
      now = time + terms.lasts place ∧
      ∃ cache' journal' outcome, cache.resume journal now (terms.wait place time) =
          (cache', journal', .done outcome) ∧
        cache'.refreshing = false ∧ cache'.current = terms.supplied place ∧
        outcome.succeeded = (terms.supplied place).isSome) := by
  by_cases answered : hasCome now (terms.wait place time).answersAt = true
  · have come : time + (terms.answers place).delay ≤ now := of_decide_eq_true answered
    have inTime := inTime_of_answered soon come
    rw [lasts_of_inTime inTime] at soon ⊢
    simp only [PolicyCache.heard, if_pos answered] at follows ⊢
    obtain ⟨heard : cache.source.answer.2 = (terms.answers place).fetched, -⟩ := follows
    obtain ⟨free, current, succeeded⟩ := conclude_alone
      { cache with source := cache.source.answer.1 } journal empty cache.source.answer.2
    refine .inr ⟨?_, Nat.le_antisymm soon come, _, _, _,
      by rw [PolicyCache.resume, if_pos answered], free, ?_, ?_⟩
    · simp only [ending, inTime, heard, if_true]
    · rw [current, heard, supplied, if_pos inTime]
    · rw [succeeded, heard, supplied, if_pos inTime]
  · by_cases late : hasCome now (terms.wait place time).deadline = true
    · have unanswered : now < time + (terms.answers place).delay := by
        simpa [wait, hasCome] using answered
      obtain ⟨limit, limited, expired⟩ :
          ∃ limit, terms.limit = some limit ∧ time + limit.millis ≤ now := by
        cases limited : terms.limit with
        | none => simp [wait, limited, hasCome] at late
        | some limit => exact ⟨limit, rfl, by simpa [wait, limited, hasCome] using late⟩
      have slow : terms.inTime place = false := by
        simp only [GateTerms.inTime, limited, Option.all_some, decide_eq_false_iff_not]
        omega
      have lasts : terms.lasts place = limit.millis := by
        simp only [GateTerms.lasts, limited, Option.elim_some]
        omega
      rw [lasts] at soon ⊢
      obtain ⟨free, current, succeeded⟩ := conclude_alone cache journal empty
        (.error (.timeout (terms.wait place time).limit))
      have nothing : terms.supplied place = none := by simp [supplied, slow]
      refine .inr ⟨?_, Nat.le_antisymm soon expired, _, _, _,
        by rw [PolicyCache.resume, if_neg answered, if_pos late], free, ?_, ?_⟩
      · rw [PolicyCache.heard, if_neg answered, if_pos late, ending, slow]
        rfl
      · rw [current, nothing]
        rfl
      · rw [succeeded, nothing]
        rfl
    · refine .inl ⟨?_, ?_⟩
      · rw [PolicyCache.heard, if_neg answered, if_neg late]
      · rw [PolicyCache.resume, if_neg answered, if_neg late]

theorem tellAfter_keeps {cache : PolicyCache} {outcome : RefreshOutcome}
    (free : cache.refreshing = false) (current : cache.current = terms.supplied place)
    (succeeded : outcome.succeeded = (terms.supplied place).isSome)
    (follows : GateAccount.Follows terms.answers (place + 1)
      (.stamped now (cache.tellAfter journal now terms.backoff remaining outcome
        (cache.tellGate journal now terms.backoff remaining)).1))
    (goesOn : terms.supplied place = none → GateAccount.Follows terms.answers (place + 1)
        (.stamped now (cache.tellGate journal now terms.backoff remaining).1) →
      terms.Keeps granted now (place + 1) (terms.course (place + 1) now remaining)
        (cache.tellGate journal now terms.backoff remaining)) :
    terms.Keeps granted now (place + 1)
      (terms.afterCall place now (terms.course (place + 1) (now + terms.backoff) remaining))
      (cache.tellAfter journal now terms.backoff remaining outcome
        (cache.tellGate journal now terms.backoff remaining)) := by
  cases supplies : terms.supplied place with
  | some snapshot =>
      rw [supplies] at current succeeded
      have ready : cache.isReady = true := by rw [PolicyCache.isReady, current]; rfl
      rw [cache.tellAfter_ready journal now terms.backoff ready]
      simp only [afterCall, supplies]
      exact ⟨([], some snapshot), rfl, .returned current⟩
  | none =>
      rw [supplies] at current succeeded
      have unready : cache.isReady = false := by rw [PolicyCache.isReady, current]; rfl
      have failed : ¬outcome.succeeded = true := by simp [succeeded]
      simp only [afterCall, supplies]
      by_cases pauses : 0 < terms.backoff
      · rw [PolicyCache.tellAfter, if_neg failed, if_pos ⟨unready, pauses⟩]
        exact ⟨_, rfl, .pausing free current (Nat.le_add_right _ _)⟩
      · have atOnce : terms.backoff = 0 := Nat.eq_zero_of_not_pos pauses
        have pauses' : ¬(cache.isReady = false ∧ 0 < terms.backoff) := fun both => pauses both.2
        have told : cache.tellAfter journal now terms.backoff remaining outcome
            (cache.tellGate journal now terms.backoff remaining) =
            (.pauses terms.backoff :: (cache.tellGate journal now terms.backoff remaining).1,
              (cache.tellGate journal now terms.backoff remaining).2) := by
          rw [PolicyCache.tellAfter, if_neg failed, if_neg pauses', unready]
          rfl
        rw [told] at follows ⊢
        obtain ⟨-, later⟩ := follows
        obtain ⟨rest, same, stands⟩ := goesOn supplies later
        refine ⟨rest, ?_, ?_⟩
        · have here : now + terms.backoff = now := by omega
          rw [here, same]
          rfl
        · simpa [GateAccount.tally_cons, GateMove.isCall] using stands

theorem resume_keeps (cache : PolicyCache) (granted remaining : Nat)
    (mine : cache.refreshing = true) (empty : cache.current = none)
    (soon : now ≤ time + terms.lasts place)
    (goesOn : ∀ (cache' : PolicyCache) (journal : Journal),
      cache'.options = cache.options → cache'.refreshing = false → cache'.current = none →
      GateAccount.Follows terms.answers (place + 1)
        (.stamped now (cache'.tellGate journal now terms.backoff remaining).1) →
      terms.Keeps granted now (place + 1) (terms.course (place + 1) now remaining)
        (cache'.tellGate journal now terms.backoff remaining))
    (follows : GateAccount.Follows terms.answers (place + 1)
      (.stamped now (cache.tellTurn journal now terms.backoff granted
        (some (.fetching remaining (terms.wait place time)))).1)) :
    terms.Keeps granted now (place + 1)
      (.following [(time + terms.lasts place, terms.ending place)]
        (terms.afterCall place (time + terms.lasts place)
          (terms.course (place + 1) (time + terms.lasts place + terms.backoff) remaining)))
      (cache.tellTurn journal now terms.backoff granted
        (some (.fetching remaining (terms.wait place time)))) := by
  have told : GateAccount.Follows terms.answers (place + 1)
      (.stamped now (cache.heard now (terms.wait place time))) := by
    simp only [PolicyCache.tellTurn] at follows
    split at follows
    · next ran =>
        rw [cache.heard_of_waiting journal now ran]
        trivial
    · rw [GateAccount.stamped_append, GateAccount.follows_append] at follows
      exact follows.1
  rcases resume_alone journal empty soon told with
    ⟨heard, ran⟩ | ⟨heard, rfl, cache', journal', outcome, ran, free, current, succeeded⟩
  · simp only [PolicyCache.tellTurn, ran]
    exact ⟨_, rfl, .fetching mine empty soon⟩
  · obtain ⟨noCall, -⟩ := terms.ending_kind place
    simp only [PolicyCache.tellTurn, ran, heard] at follows ⊢
    rw [GateAccount.stamped_append, GateAccount.follows_append] at follows
    have calls :
        (GateAccount.stamped (time + terms.lasts place) [terms.ending place]).calls = 0 := by
      simp [GateAccount.tally_cons, noCall]
    rw [calls] at follows
    have options : cache'.options = cache.options := by
      have steady := cache.resume_steady journal (time + terms.lasts place) (terms.wait place time)
      rw [ran] at steady
      exact steady.options
    obtain ⟨rest, same, stands⟩ := tellAfter_keeps free current succeeded follows.2
      fun nothing later => goesOn cache' journal' options free (current.trans nothing) later
    refine ⟨rest, ?_, ?_⟩
    · rw [same, GateAccount.stamped_append, GateCourse.following_append]
      rfl
    · simpa [GateAccount.tally_cons, noCall] using stands

theorem tellGate_keeps (limited : cache.options.fetchTimeout = terms.limit)
    (free : cache.refreshing = false) (empty : cache.current = none)
    (follows : GateAccount.Follows terms.answers made
      (.stamped now (cache.tellGate journal now terms.backoff remaining).1)) :
    terms.Keeps granted now made (terms.course made now remaining)
      (cache.tellGate journal now terms.backoff remaining) := by
  induction remaining generalizing cache journal made with
  | zero =>
      have unready : cache.isReady = false := by rw [PolicyCache.isReady, empty]; rfl
      refine ⟨([], none), ?_, ?_⟩
      · rw [PolicyCache.tellGate, unready]
        rfl
      · rw [PolicyCache.tellGate, unready]
        exact .returned empty
  | succ remaining ih =>
      have unready : cache.isReady = false := by rw [PolicyCache.isReady, empty]; rfl
      rw [cache.tellGate_acquires journal now terms.backoff granted unready free] at follows ⊢
      obtain ⟨answers : (cache.fetchFrom now).answersAt = _, later⟩ := follows
      have waits : cache.fetchFrom now = terms.wait made now := by
        simp only [PolicyCache.fetchFrom, limited] at answers ⊢
        rw [answers, wait]
      rw [waits] at later ⊢
      obtain ⟨rest, same, stands⟩ := resume_keeps { cache with refreshing := true }
        granted remaining rfl empty (Nat.le_add_right _ _)
        (fun cache' journal' same free' empty' follows' =>
          ih (same ▸ limited) free' empty' follows') later
      refine ⟨rest, ?_, ?_⟩
      · rw [course, ← List.singleton_append, GateCourse.following_append, same,
          ← GateCourse.following_append, empty]
        rfl
      · simpa [GateAccount.tally_cons, GateMove.isCall, Nat.add_assoc] using stands

theorem Stands.done {value : Bool} {rest : GateCourse}
    (stands : terms.Stands granted cache now made (.done value) rest) :
    ∃ snapshot?, rest = ([], snapshot?) ∧ value = snapshot?.isSome ∧
      cache.current = snapshot? := by
  generalize reached : Progress.done value = progress at stands
  cases stands with
  | @returned _ snapshot? published =>
      cases reached
      exact ⟨snapshot?, rfl, rfl, published⟩
  | _ => cases reached

theorem Stands.turn {gate : Option GatePhase} {course : GateCourse}
    (stands : terms.Stands granted cache now made (.waiting gate) course)
    (limited : cache.options.fetchTimeout = terms.limit)
    (follows : GateAccount.Follows terms.answers made
      (.stamped now (cache.tellTurn journal now terms.backoff granted gate).1)) :
    terms.Keeps granted now made course
      (cache.tellTurn journal now terms.backoff granted gate) := by
  cases stands with
  | fresh free empty => exact tellGate_keeps limited free empty follows
  | @fetching place remaining time mine empty soon =>
      refine resume_keeps cache granted remaining mine empty soon ?_ follows
      intro cache' journal' same free' empty' follows'
      exact tellGate_keeps (same ▸ limited) free' empty' follows'
  | @pausing _ remaining time free empty soon =>
      by_cases come : time ≤ now
      · obtain rfl := Nat.le_antisymm soon come
        simp only [PolicyCache.tellTurn, if_pos come] at follows ⊢
        exact tellGate_keeps limited free empty follows
      · simp only [PolicyCache.tellTurn, if_neg come]
        exact ⟨_, rfl, .pausing free empty soon⟩

theorem wait_wake (place time : Nat) :
    (terms.wait place time).wake = some (time + terms.lasts place) := by
  cases limited : terms.limit with
  | none => simp [FetchWait.wake, wait, lasts, limited, earlier]
  | some limit =>
      simp only [FetchWait.wake, wait, lasts, limited, Option.map_some, earlier, Option.elim_some,
        Option.some.injEq]
      omega

/-- Time passes, but not so much that the gate misses its time. -/
theorem Stands.later {cache' : PolicyCache} {later : Nat} {gate : Option GatePhase}
    {course : GateCourse} (stands : terms.Stands granted cache now made (.waiting gate) course)
    (current : cache'.current = cache.current) (flag : cache'.refreshing = cache.refreshing)
    (forward : now ≤ later)
    (soon : ∀ wake, GatePhase.wakeOf now gate = some wake → later ≤ max now wake) :
    terms.Stands granted cache' later made (.waiting gate) course := by
  cases stands with
  | fresh free empty =>
      have here : later = now := by
        have same := soon now rfl
        omega
      rw [← here]
      exact .fresh (flag.trans free) (current.trans empty)
  | @fetching place remaining time mine empty inTime =>
      refine .fetching (flag.trans mine) (current.trans empty) ?_
      have reached := soon _ (terms.wait_wake place time)
      omega
  | @pausing _ remaining time free empty inTime =>
      refine .pausing (flag.trans free) (current.trans empty) ?_
      have reached := soon time rfl
      omega

end GateTerms

end DecisionPoint
