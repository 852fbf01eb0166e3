import DecisionPoint.Proofs.Request.Enriching

/-!
# The resource that a request names

A request names the resource of the first of its resources that gives an identifier, while calls on
an enrichment reach the first resource only.  So an identifier that the first resource gives stays
in front, and one that only a later resource gives comes after whatever is brought into the first.
-/

set_option autoImplicit false

namespace DecisionPoint

/-- The identifier that the first resource gives. -/
def Request.firstNamed? (request : Request) : Option String :=
  AttributeSet.firstValue? (Enrichment.attributes request .resource) resourceIdAttribute

/-- The identifier that the resources behind the first one give. -/
def Request.laterNamed? (request : Request) : Option String :=
  request.resources.tail.findSome? fun resource =>
    AttributeSet.firstValue? resource resourceIdAttribute

theorem Request.resourceId?_eq (request : Request) :
    request.resourceId? = request.firstNamed?.or request.laterNamed? := by
  obtain ⟨id, issuer, subject, resources, action, environment⟩ := request
  cases resources with
  | nil => rfl
  | cons first rest =>
      simp only [resourceId?, firstNamed?, laterNamed?, Enrichment.attributes, List.headD_cons,
        List.tail_cons, List.findSome?_cons]
      cases AttributeSet.firstValue? first resourceIdAttribute <;> rfl

namespace AttributeSet

theorem firstValue?_of_merge {set after : AttributeSet} {entry : Attribute} {changed : Bool}
    (merged : merge set entry = .ok (after, changed)) (name : String) :
    firstValue? after name =
      (firstValue? set name).or (if entry.id = name then entry.values.head? else none) := by
  rw [firstValue?, firstValue?, get?_of_merge merged]
  by_cases same : entry.id = name
  · rw [if_pos same, if_pos same, Option.bind_some]
    cases set.get? name with
    | none => rfl
    | some held => exact head?_addMissing held.values entry.values
  · rw [if_neg same, if_neg same, Option.or_none]

end AttributeSet

namespace Enrichment

/-- The identifier that a call brings into the first resource, if it succeeds. -/
def offer? (enrichment : Enrichment) (addition : Addition) : Option String :=
  match (enrichment.perform addition).2 with
  | .error _ => none
  | .ok () =>
    if addition.category = .resource ∧ addition.entry.id = resourceIdAttribute then
      addition.entry.values.head?
    else none

/-- The first identifier that calls bring into the first resource. -/
def offered? : Enrichment → List Addition → Option String
  | _, [] => none
  | enrichment, addition :: rest =>
    (enrichment.offer? addition).or ((enrichment.perform addition).1.offered? rest)

theorem firstNamed?_perform (enrichment : Enrichment) (addition : Addition) :
    (enrichment.perform addition).1.request.firstNamed? =
      enrichment.request.firstNamed?.or (enrichment.offer? addition) := by
  rcases enrichment.perform_cases addition with
    ⟨fault, merged, performed⟩ | ⟨set, changed, merged, performed⟩
  · rw [offer?, performed, Option.or_none]
  · simp only [offer?, performed, Request.firstNamed?, attributes_withAttributes]
    by_cases resource : addition.category = .resource
    · rw [resource] at merged
      simp only [resource, if_true, true_and]
      exact AttributeSet.firstValue?_of_merge merged resourceIdAttribute
    · simp only [if_neg (Ne.symm resource), resource, false_and, if_false, Option.or_none]

theorem firstNamed?_after (enrichment : Enrichment) (calls : List Addition) :
    (enrichment.after calls).request.firstNamed? =
      enrichment.request.firstNamed?.or (enrichment.offered? calls) := by
  induction calls generalizing enrichment with
  | nil => exact (Option.or_none).symm
  | cons addition rest ih =>
      have later := ih (enrichment.perform addition).1
      rw [firstNamed?_perform, Option.or_assoc] at later
      exact later

/-- What calls bring into the first resource stands between what the first resource gave and what
the others give. -/
theorem resourceId?_after (enrichment : Enrichment) (calls : List Addition) :
    (enrichment.after calls).request.resourceId? =
      enrichment.request.firstNamed?.or
        ((enrichment.offered? calls).or enrichment.request.laterNamed?) := by
  have others : (enrichment.after calls).request.laterNamed? = enrichment.request.laterNamed? := by
    rw [Request.laterNamed?, (enrichment.after_grows calls).otherResources]
    rfl
  rw [Request.resourceId?_eq, firstNamed?_after, others, Option.or_assoc]

end Enrichment

end DecisionPoint
