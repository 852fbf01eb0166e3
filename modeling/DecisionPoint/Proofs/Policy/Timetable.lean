import DecisionPoint.Proofs.Policy.SingleFlight
import Mathlib.Data.List.Chain

/-!
# The timetable of the background loop

The loop serves one tick after another, and does not look at its ticker while it waits for a fetch
of its own.  A tick that has come meanwhile is served when the fetch ends, so the next fetch begins
at once.  The fetches keep to the times of the ticker exactly if none of them is still under way
when the next tick comes.
-/

set_option autoImplicit false

namespace DecisionPoint

structure Round where
  due : Nat
  began : Nat
  next : Nat
  ended : Option Nat
deriving DecidableEq, Repr

namespace LoopPhase

/-- The ticker of a loop, if it is served now. -/
def due? (period now : Nat) : LoopPhase → Option Ticker
  | fresh => some (.start period now)
  | ticking ticker => if ticker.isDue now then some ticker else none
  | fetching _ _ => none

end LoopPhase

namespace PolicyCache

def period (cache : PolicyCache) : Nat := cache.options.refreshInterval.millis

/-- The fetches of a loop, the latest first, after a turn from one phase to another. -/
def noted (cache : PolicyCache) (now : Nat) (before after : LoopPhase) (rounds : List Round) :
    List Round :=
  match before.due? cache.period now with
  | some ticker =>
    if cache.refreshing then rounds
    else
      ⟨ticker.next, now, (ticker.serve now).next, if after.isFetching then none else some now⟩ ::
        rounds
  | none =>
    match rounds with
    | [] => []
    | last :: earlier =>
      if before.isFetching && !after.isFetching then { last with ended := some now } :: earlier
      else rounds

end PolicyCache

/-- How fetches follow each other, the latest first.  Each serves the tick after the one before, as
soon as that has come and the one before has ended. -/
inductive Timetable (period first : Nat) : List Round → Prop where
  | none : Timetable period first []
  | first (ended : Option Nat) :
      Timetable period first [⟨first, first, ((Ticker.start period first).serve first).next, ended⟩]
  | follows {last : Round} {earlier : List Round} {finish : Nat} (ended : Option Nat)
      (table : Timetable period first (last :: earlier)) (done : last.ended = some finish) :
      Timetable period first
        (⟨last.next, max last.next finish,
          ((⟨period, last.next⟩ : Ticker).serve (max last.next finish)).next, ended⟩ ::
          last :: earlier)

def OnGrid (period first time : Nat) : Prop := ∃ count, time = first + count * period

/-- Fetches begin at times of the ticker only, and no tick that has come during a fetch is served
when that ends. -/
structure SkipsMissed (period first : Nat) (rounds : List Round) : Prop where
  onGrid : ∀ round ∈ rounds, OnGrid period first round.began
  dropped : rounds.IsChain fun round last => ∀ finish ∈ last.ended, finish ≤ round.due

/-- Fetches that others follow last no longer than a period. -/
def Brief (period : Nat) (rounds : List Round) : Prop :=
  rounds.IsChain fun _ last => ∀ finish ∈ last.ended, finish ≤ last.began + period

/-! ## Times of a ticker -/

section Times

variable {period first : Nat}

theorem OnGrid.self (period first : Nat) : OnGrid period first first := ⟨0, by simp⟩

theorem OnGrid.later {time : Nat} (here : OnGrid period first time) :
    OnGrid period first (time + period) := by
  obtain ⟨count, rfl⟩ := here
  exact ⟨count + 1, by rw [Nat.succ_mul, Nat.add_assoc]⟩

theorem OnGrid.serve {next now : Nat} (here : OnGrid period first next) (come : next ≤ now) :
    OnGrid period first ((⟨period, next⟩ : Ticker).serve now).next := by
  unfold Ticker.serve
  split
  · obtain ⟨count, rfl⟩ := here
    refine ⟨count + (now - (first + count * period)) / period + 1, ?_⟩
    have late := Nat.div_add_mod' (now - (first + count * period)) period
    simp only [Nat.add_mul, Nat.one_mul]
    omega
  · exact here.later

theorem Ticker.serve_period (ticker : Ticker) (now : Nat) :
    (ticker.serve now).period = ticker.period := by
  unfold serve
  split <;> rfl

theorem Ticker.serve_inTime (next : Nat) :
    ((⟨period, next⟩ : Ticker).serve next).next = next + period := by
  simp [serve]

end Times

/-! ## Timetables -/

namespace Timetable

variable {period first : Nat} {rounds : List Round}

theorem ticks (table : Timetable period first rounds) :
    ∀ round ∈ rounds, OnGrid period first round.due ∧ OnGrid period first round.next := by
  induction table with
  | none => simp
  | first ended =>
      intro round mem
      cases List.mem_singleton.mp mem
      exact ⟨.self period first, (OnGrid.self period first).serve (Nat.le_refl _)⟩
  | @follows last earlier finish ended table done ih =>
      intro round mem
      rcases List.mem_cons.mp mem with rfl | before
      · have next := (ih last List.mem_cons_self).2
        exact ⟨next, next.serve (Nat.le_max_left _ _)⟩
      · exact ih round before

theorem closes {last : Round} {earlier : List Round}
    (table : Timetable period first (last :: earlier)) (time : Nat) :
    Timetable period first ({ last with ended := some time } :: earlier) := by
  cases table with
  | first ended => exact .first _
  | follows ended table done => exact .follows _ table done

/-- As long as fetches are brief, no tick is late. -/
theorem inTime (table : Timetable period first rounds) (brief : Brief period rounds) :
    ∀ round ∈ rounds, round.began = round.due ∧ round.next = round.began + period := by
  induction table with
  | none => simp
  | first ended =>
      intro round mem
      cases List.mem_singleton.mp mem
      exact ⟨rfl, Ticker.serve_inTime first⟩
  | @follows last earlier finish ended table done ih =>
      obtain ⟨short, brief'⟩ := List.isChain_cons_cons.mp brief
      have before := ih brief'
      have reached : max last.next finish = last.next := by
        have fits := short finish done
        rw [← (before last List.mem_cons_self).2] at fits
        exact Nat.max_eq_left fits
      intro round mem
      rcases List.mem_cons.mp mem with rfl | earlier
      · exact ⟨reached, by rw [reached, Ticker.serve_inTime]⟩
      · exact before round earlier

theorem dropped_of_brief (table : Timetable period first rounds) (brief : Brief period rounds) :
    rounds.IsChain fun round last => ∀ finish ∈ last.ended, finish ≤ round.due := by
  induction table with
  | none => exact .nil
  | first ended => exact .singleton _
  | @follows last earlier finish ended table done ih =>
      obtain ⟨short, brief'⟩ := List.isChain_cons_cons.mp brief
      refine List.isChain_cons_cons.mpr ⟨?_, ih brief'⟩
      rw [← (table.inTime brief' last List.mem_cons_self).2] at short
      exact short

theorem brief_of_dropped (table : Timetable period first rounds)
    (dropped : rounds.IsChain fun round last => ∀ finish ∈ last.ended, finish ≤ round.due) :
    Brief period rounds := by
  induction table with
  | none => exact .nil
  | first ended => exact .singleton _
  | @follows last earlier finish ended table done ih =>
      obtain ⟨short, dropped'⟩ := List.isChain_cons_cons.mp dropped
      have brief := ih dropped'
      refine List.isChain_cons_cons.mpr ⟨?_, brief⟩
      rw [← (table.inTime brief last List.mem_cons_self).2]
      exact short

theorem skipsMissed_iff (table : Timetable period first rounds) :
    SkipsMissed period first rounds ↔ Brief period rounds := by
  constructor
  · intro skips
    exact table.brief_of_dropped skips.dropped
  · intro brief
    refine ⟨?_, table.dropped_of_brief brief⟩
    intro round mem
    rw [(table.inTime brief round mem).1]
    exact (table.ticks round mem).1

end Timetable

/-! ## Turns of the loop -/

/-- Where a loop is in its timetable.  It never waits longer than for the next tick. -/
inductive Abides (period now first : Nat) : LoopPhase → List Round → Prop where
  | fresh : Abides period now first .fresh []
  | ticking {last : Round} {earlier : List Round} {finish : Nat}
      (table : Timetable period first (last :: earlier)) (done : last.ended = some finish)
      (past : finish ≤ now) (inTime : now ≤ max last.next finish) :
      Abides period now first (.ticking ⟨period, last.next⟩) (last :: earlier)
  | fetching {last : Round} {earlier : List Round} {wait : FetchWait}
      (table : Timetable period first (last :: earlier)) :
      Abides period now first (.fetching ⟨period, last.next⟩ wait) (last :: earlier)

theorem PolicyCache.tick_phase (cache : PolicyCache) (journal : Journal) (now : Nat)
    (ticker : Ticker) :
    (cache.tick journal now ticker).2.2 = .ticking (ticker.serve now) ∨
      ∃ wait, (cache.tick journal now ticker).2.2 = .fetching (ticker.serve now) wait := by
  simp only [PolicyCache.tick]
  split
  · exact .inl rfl
  · split
    · exact .inl rfl
    · exact .inr ⟨_, rfl⟩

/-- The flag is set while the loop waits for its fetch, if nobody else refreshes. -/
theorem PolicyCache.runLoop_refreshing {cache after : PolicyCache} {journal journal' : Journal}
    {now : Nat} {phase phase' : LoopPhase} (flag : cache.refreshing = phase.isFetching)
    (ran : cache.runLoop journal now false phase = (after, journal', .waiting phase')) :
    after.refreshing = phase'.isFetching := by
  obtain ⟨events, drives⟩ := cache.runLoop_drives journal now false phase
  rw [ran] at drives
  have balance := drives.balance (fun mine => flag.trans mine)
  simp only [Progress.holds, flag] at balance
  have same : after.refreshing.toNat = phase'.isFetching.toNat := by omega
  revert same
  cases after.refreshing <;> cases phase'.isFetching <;> simp

namespace Abides

variable {period now first : Nat} {phase phase' : LoopPhase} {rounds : List Round}
  {cache after : PolicyCache} {journal journal' : Journal}

theorem table (abides : Abides period now first phase rounds) :
    Timetable period first rounds := by
  cases abides with
  | fresh => exact .none
  | ticking table => exact table
  | fetching table => exact table

theorem later {time : Nat} (abides : Abides period now first phase rounds) (forward : now ≤ time)
    (inTime : ∀ wake, phase.wake = some wake → time ≤ max now wake) :
    Abides period time first phase rounds := by
  cases abides with
  | fresh => exact .fresh
  | @ticking last earlier finish table done past reached =>
      have soon := inTime last.next rfl
      exact .ticking table done (Nat.le_trans past forward) (by omega)
  | fetching table => exact .fetching table

theorem serves {ticker : Ticker}
    (due : phase.due? cache.period now = some ticker) (free : cache.refreshing = false)
    (table : ∀ ended, Timetable cache.period first
      (⟨ticker.next, now, (ticker.serve now).next, ended⟩ :: rounds))
    (period : ticker.period = cache.period)
    (phases : phase' = .ticking (ticker.serve now) ∨
      ∃ wait, phase' = .fetching (ticker.serve now) wait) :
    Abides cache.period now first phase' (cache.noted now phase phase' rounds) := by
  have served : ticker.serve now = ⟨cache.period, (ticker.serve now).next⟩ := by
    rw [← period, ← ticker.serve_period now]
  simp only [PolicyCache.noted, due, free, Bool.false_eq_true, if_false]
  rcases phases with rfl | ⟨wait, rfl⟩
  · rw [served]
    exact .ticking (table _) rfl (Nat.le_refl _) (Nat.le_max_right _ _)
  · rw [served]
    exact .fetching (table _)

theorem turn (abides : Abides cache.period now first phase rounds)
    (flag : cache.refreshing = phase.isFetching)
    (ran : cache.runLoop journal now false phase = (after, journal', .waiting phase')) :
    ∃ first', Abides cache.period now first' phase' (cache.noted now phase phase' rounds) := by
  cases abides with
  | fresh =>
      simp only [PolicyCache.runLoop, Bool.false_eq_true, if_false, Prod.mk.injEq,
        Progress.waiting.injEq] at ran
      obtain ⟨-, -, rfl⟩ := ran
      exact ⟨now, serves rfl flag (fun ended => .first ended) rfl (cache.tick_phase journal now _)⟩
  | @ticking last earlier finish table done past inTime =>
      by_cases due : (⟨cache.period, last.next⟩ : Ticker).isDue now = true
      · simp only [PolicyCache.runLoop, due, Bool.false_eq_true, if_false, if_true, Prod.mk.injEq,
          Progress.waiting.injEq] at ran
        obtain ⟨-, -, rfl⟩ := ran
        -- The loop was ready as soon as the tick had come and the fetch had ended: that is now.
        have here : now = max last.next finish := by
          have come : last.next ≤ now := of_decide_eq_true due
          omega
        refine ⟨first, serves (by simp [LoopPhase.due?, due]) flag ?_ rfl
          (cache.tick_phase journal now _)⟩
        intro ended
        rw [here]
        exact table.follows ended done
      · simp only [PolicyCache.runLoop, due, Bool.false_eq_true, if_false, Prod.mk.injEq,
          Progress.waiting.injEq] at ran
        obtain ⟨-, -, rfl⟩ := ran
        refine ⟨first, ?_⟩
        simp only [PolicyCache.noted, LoopPhase.due?, due, Bool.false_eq_true, if_false,
          LoopPhase.isFetching, Bool.false_and]
        exact .ticking table done past inTime
  | @fetching last earlier wait table =>
      refine ⟨first, ?_⟩
      simp only [PolicyCache.runLoop, Bool.false_eq_true, if_false] at ran
      split at ran
      · cases ran
        exact .ticking (table.closes now) rfl (Nat.le_refl _) (Nat.le_max_right _ _)
      · cases ran
        exact .fetching table

end Abides

end DecisionPoint
