import DecisionPoint.Proofs.Request.Enriching

/-!
# Enriching again

A call that was made has nothing left to do: its values are held under its identifier, or an
attribute of another type is in its way.  As attributes only grow, whatever is called later leaves
that so.  So all calls, made once more, are answered as they were and add nothing.
-/

set_option autoImplicit false

namespace DecisionPoint

namespace AttributeSet

/-- What is held under an identifier is held there later on, perhaps with more values. -/
theorem Keeps.get? {before after : AttributeSet} (keeps : Keeps before after) {name : String}
    {held : Attribute} (found : before.get? name = some held) :
    ∃ kept, after.get? name = some kept ∧ held.Grows kept := by
  obtain ⟨named, earlier, later, split, -⟩ := Keyed.split_of_get? found
  have there : before.items[earlier.length]? = some held := by simp [split]
  obtain ⟨kept, stays, grows⟩ := keeps earlier.length held there
  refine ⟨kept, ?_, grows⟩
  rw [← named, ← grows.id]
  exact Keyed.get?_key (List.mem_of_getElem? stays)

theorem addMissing_of_subset {held new : List String} (there : ∀ value ∈ new, value ∈ held) :
    addMissing held new = held := by
  have nothing : (new.filter fun value => value ∉ held) = [] := by
    rw [List.filter_eq_nil_iff]
    intro value member
    simp [there value member]
  rw [addMissing_eq, nothing]
  exact List.append_nil held

theorem merge_of_held {set : AttributeSet} {held entry : Attribute}
    (found : set.get? entry.id = some held) (alike : held.dataType = entry.dataType)
    (there : ∀ value ∈ entry.values, value ∈ held.values) :
    merge set entry = .ok (set, false) := by
  have same : joined held entry = held := by
    rw [joined, addMissing_of_subset there]
  have ended := merges set entry
  generalize merge set entry = answer at ended
  cases ended with
  | appends absent =>
      rw [absent] at found
      cases found
  | joins other foundToo _ =>
      rw [found] at foundToo
      cases foundToo
      have placed : set.insert held = set :=
        set.insert_self held ((Keyed.split_of_get? found).1 ▸ found)
      simp [same, placed]
  | refuses other foundToo different =>
      rw [found] at foundToo
      cases foundToo
      exact absurd alike different

end AttributeSet

namespace Enrichment

/-! ## Calls that have nothing left to do -/

/-- A call has nothing left to do for a request, and this is its answer. -/
inductive Settles (request : Request) (addition : Addition) :
    Except InformationFault Unit → Prop where
  | holds (held : Attribute)
      (found : (attributes request addition.category).get? addition.entry.id = some held)
      (alike : held.dataType = addition.entry.dataType)
      (there : ∀ value ∈ addition.entry.values, value ∈ held.values) :
      Settles request addition (.ok ())
  | conflicts (held : Attribute)
      (found : (attributes request addition.category).get? addition.entry.id = some held)
      (other : held.dataType ≠ addition.entry.dataType) :
      Settles request addition
        (.error (.conflict addition.entry.id held.dataType addition.entry.dataType))

section Calls

variable {addition : Addition} {answer : Except InformationFault Unit}

theorem settles_of_performed (enrichment : Enrichment) (addition : Addition) :
    Settles (enrichment.perform addition).1.request addition (enrichment.perform addition).2 := by
  have performed := performs enrichment addition
  cases told : (enrichment.perform addition).2 with
  | error fault =>
      obtain ⟨held, found, other, rfl⟩ := (performed.conflict fault).mp told
      rw [performed.unchanged _ told]
      exact .conflicts held found other
  | ok done =>
      obtain ⟨kept, found, alike, there⟩ := performed.arrived told
      exact .holds kept found alike there

theorem Settles.of_grows {before after : Request} (settles : Settles before addition answer)
    (grows : before.Grows after) : Settles after addition answer := by
  have keeps := grows.attributes addition.category
  cases settles with
  | holds held found alike there =>
      obtain ⟨kept, stays, more⟩ := keeps.get? found
      refine .holds kept stays (more.dataType.trans alike) ?_
      intro value member
      exact more.values.subset (there value member)
  | conflicts held found other =>
      obtain ⟨kept, stays, more⟩ := keeps.get? found
      rw [← more.dataType] at other ⊢
      exact .conflicts kept stays other

theorem Settles.perform {enrichment : Enrichment}
    (settles : Settles enrichment.request addition answer) :
    enrichment.perform addition = (enrichment, answer) := by
  cases settles with
  | holds held found alike there =>
      have nothing := AttributeSet.merge_of_held found alike there
      have same := (withAttributes_eq_iff nothing).mpr rfl
      rcases enrichment.perform_cases addition with
        ⟨fault, merged, -⟩ | ⟨set, changed, merged, performed⟩
      · rw [nothing] at merged
        cases merged
      · rw [nothing] at merged
        cases merged
        rw [performed, same]
        rfl
  | conflicts held found other =>
      have refused :=
        (AttributeSet.merge_error_iff _ addition.entry _).mpr ⟨held, found, other, rfl⟩
      rcases enrichment.perform_cases addition with
        ⟨fault, merged, performed⟩ | ⟨set, changed, merged, -⟩
      · rw [refused] at merged
        cases merged
        exact performed
      · rw [refused] at merged
        cases merged

end Calls

/-! ## Making all calls again -/

def answers : Enrichment → List Addition → List (Except InformationFault Unit)
  | _, [] => []
  | enrichment, addition :: rest =>
    let (next, answer) := enrichment.perform addition
    answer :: next.answers rest

theorem answers_settle (enrichment : Enrichment) (calls : List Addition) :
    List.Forall₂ (Settles (enrichment.after calls).request) calls (enrichment.answers calls) := by
  induction calls generalizing enrichment with
  | nil => exact .nil
  | cons addition rest ih =>
      have settled := enrichment.settles_of_performed addition
      -- The calls that follow do not undo what this one has done.
      have grows := (enrichment.perform addition).1.after_grows rest
      exact .cons (settled.of_grows grows) (ih (enrichment.perform addition).1)

theorem replay_of_settled (enrichment : Enrichment) {calls : List Addition}
    {answers : List (Except InformationFault Unit)}
    (settled : List.Forall₂ (Settles enrichment.request) calls answers) :
    enrichment.answers calls = answers ∧ enrichment.after calls = enrichment ∧
      ∀ step ∈ enrichment.course calls, step = (enrichment.request, enrichment.request) := by
  induction settled with
  | nil => exact ⟨rfl, rfl, nofun⟩
  | @cons addition answer rest later settles _ ih =>
      have performed := settles.perform
      obtain ⟨answered, reached, steps⟩ := ih
      refine ⟨?_, ?_, ?_⟩
      · rw [Enrichment.answers, performed]
        exact congrArg (answer :: ·) answered
      · rw [after, List.foldl_cons, performed]
        exact reached
      · rw [course, performed]
        exact List.forall_mem_cons.mpr ⟨rfl, steps⟩

/-- Making calls a second time changes nothing.  Each call is answered as it was the first time, no
call touches the request that the first ones have left, and no addition is counted. -/
theorem enriching_again_changes_nothing (enrichment : Enrichment) (calls : List Addition) :
    let enriched := (enrichment.after calls).request
    (start enriched).answers calls = enrichment.answers calls ∧
      ((start enriched).after calls).request = enriched ∧
      (∀ step ∈ (start enriched).course calls, step = (enriched, enriched)) ∧
      ((start enriched).after calls).added = 0 := by
  intro enriched
  obtain ⟨answered, reached, steps⟩ :=
    (start enriched).replay_of_settled (enrichment.answers_settle calls)
  rw [reached]
  exact ⟨answered, rfl, steps, rfl⟩

/-- The second call is at odds with what the first one has brought in, and stays so. -/
example :
    let calls : List Addition :=
      [⟨.resource, .single "room" "1"⟩, ⟨.resource, ⟨"room", "integer", none, ["2"]⟩⟩,
        ⟨.resource, .single "room" "3"⟩]
    let enriched := (start (.blank "guest")).after calls
    enriched.added = 2 ∧ ((start enriched.request).after calls).added = 0 ∧
      (start enriched.request).answers calls =
        [.ok (), .error (.conflict "room" stringDataType "integer"), .ok ()] :=
  ⟨rfl, rfl, rfl⟩

end Enrichment

end DecisionPoint
