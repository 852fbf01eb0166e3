import DecisionPoint.Proofs.Request.Merging
import DecisionPoint.Request.Enrichment

/-!
# Enrichment only adds

Calls on an enrichment are made one after the other, in place: the first resource is made before an
attribute is looked at, and a call that fails leaves what it has done so far.  All that a call does
is said once, in `Enrichment.Performs`; what a sequence of calls does follows by induction on it.
-/

set_option autoImplicit false

namespace DecisionPoint

/-- A call that adds an attribute to a part of a request. -/
structure Addition where
  category : Category
  entry : Attribute
deriving DecidableEq, Repr

namespace Enrichment

/-! ## Calls in place -/

/-- The request with a first resource, which is made if there is none. -/
def withResource (request : Request) : Request :=
  { request with resources := if request.resources = [] then [.empty] else request.resources }

def perform (enrichment : Enrichment) (addition : Addition) :
    Enrichment × Except InformationFault Unit :=
  let opened :=
    if addition.category = .resource then withResource enrichment.request else enrichment.request
  match AttributeSet.merge (attributes opened addition.category) addition.entry with
  | .error fault => (⟨opened, enrichment.added⟩, .error fault)
  | .ok (set, changed) =>
    (⟨withAttributes opened set addition.category,
      if changed then enrichment.added + 1 else enrichment.added⟩, .ok ())

def after (enrichment : Enrichment) (calls : List Addition) : Enrichment :=
  calls.foldl (fun reached addition => (reached.perform addition).1) enrichment

def course : Enrichment → List Addition → List (Request × Request)
  | _, [] => []
  | enrichment, addition :: rest =>
    let next := (enrichment.perform addition).1
    (enrichment.request, next.request) :: next.course rest

theorem after_append (enrichment : Enrichment) (earlier later : List Addition) :
    enrichment.after (earlier ++ later) = (enrichment.after earlier).after later :=
  List.foldl_append

theorem after_snoc (enrichment : Enrichment) (calls : List Addition) (addition : Addition) :
    enrichment.after (calls ++ [addition]) = ((enrichment.after calls).perform addition).1 :=
  enrichment.after_append calls [addition]

theorem attributes_withResource (request : Request) (category : Category) :
    attributes (withResource request) category = attributes request category := by
  obtain ⟨id, issuer, subject, resources, action, environment⟩ := request
  cases category with
  | resource => cases resources <;> rfl
  | subject => rfl
  | action => rfl
  | environment => rfl

theorem withAttributes_withResource (request : Request) (set : AttributeSet) :
    withAttributes (withResource request) set .resource = withAttributes request set .resource := by
  obtain ⟨id, issuer, subject, resources, action, environment⟩ := request
  cases resources <;> rfl

/-- Nothing stands in the way of an attribute for a resource that has just been made, so a call in
place fails only before it has done anything. -/
theorem perform_eq (enrichment : Enrichment) (addition : Addition) :
    enrichment.perform addition =
      match enrichment.add addition.category addition.entry with
      | .ok enriched => (enriched, .ok ())
      | .error fault => (enrichment, .error fault) := by
  obtain ⟨category, entry⟩ := addition
  obtain ⟨request, added⟩ := enrichment
  unfold perform add
  by_cases resource : category = .resource
  · subst resource
    simp only [if_true, attributes_withResource, withAttributes_withResource]
    cases merged : AttributeSet.merge (attributes request .resource) entry with
    | ok result => rfl
    | error fault =>
        obtain ⟨held, found, -⟩ := (AttributeSet.merge_error_iff _ entry fault).mp merged
        have present : request.resources ≠ [] := by
          intro nothing
          rw [attributes, nothing] at found
          cases found
        simp only [withResource, if_neg present]
  · simp only [if_neg resource]
    cases AttributeSet.merge (attributes request category) entry <;> rfl

/-- A call fails without a trace, or puts the merged attributes in their place. -/
theorem perform_cases (enrichment : Enrichment) (addition : Addition) :
    (∃ fault,
      AttributeSet.merge (attributes enrichment.request addition.category) addition.entry =
        .error fault ∧
      enrichment.perform addition = (enrichment, .error fault)) ∨
    ∃ set changed,
      AttributeSet.merge (attributes enrichment.request addition.category) addition.entry =
        .ok (set, changed) ∧
      enrichment.perform addition =
        (⟨withAttributes enrichment.request set addition.category,
          if changed then enrichment.added + 1 else enrichment.added⟩, .ok ()) := by
  rw [perform_eq, add]
  cases merged : AttributeSet.merge (attributes enrichment.request addition.category)
      addition.entry with
  | error fault => exact .inl ⟨fault, rfl, rfl⟩
  | ok result => exact .inr ⟨result.1, result.2, rfl, rfl⟩

theorem attributes_withAttributes (request : Request) (set : AttributeSet)
    (category other : Category) :
    attributes (withAttributes request set category) other =
      if other = category then set else attributes request other := by
  cases category <;> cases other <;> rfl

/-- A successful merge changes the request exactly when it says so. -/
theorem withAttributes_eq_iff {request : Request} {category : Category} {entry : Attribute}
    {set : AttributeSet} {changed : Bool}
    (merged : AttributeSet.merge (attributes request category) entry = .ok (set, changed)) :
    withAttributes request set category = request ↔ changed = false := by
  have told := AttributeSet.changed_iff_of_merge merged
  have held := AttributeSet.get?_of_merge merged entry.id
  rw [if_pos rfl] at held
  rw [← Bool.not_eq_true, told, ne_eq, Classical.not_not]
  constructor
  · intro same
    have found := attributes_withAttributes request set category category
    rw [if_pos rfl, same] at found
    exact found.symm
  · intro same
    obtain ⟨id, issuer, subject, resources, action, environment⟩ := request
    subst same
    cases category with
    | resource =>
        cases resources with
        | nil => cases held
        | cons first rest => rfl
    | subject => rfl
    | action => rfl
    | environment => rfl

end Enrichment

/-! ## What one call does -/

structure Request.Grows (before after : Request) : Prop where
  id : after.id = before.id
  issuer : after.issuer = before.issuer
  attributes : ∀ category,
    AttributeSet.Keeps (Enrichment.attributes before category)
      (Enrichment.attributes after category)
  otherResources : after.resources.tail = before.resources.tail
  resources : after.resources.length = before.resources.length ∨
    before.resources = [] ∧ after.resources.length = 1

theorem Request.Grows.refl (request : Request) : request.Grows request :=
  ⟨rfl, rfl, fun _ => .refl _, rfl, .inl rfl⟩

theorem Request.Grows.trans {first second third : Request} (left : first.Grows second)
    (right : second.Grows third) : first.Grows third where
  id := right.id.trans left.id
  issuer := right.issuer.trans left.issuer
  attributes category := (left.attributes category).trans (right.attributes category)
  otherResources := right.otherResources.trans left.otherResources
  resources := by
    rcases right.resources with same | ⟨nothing, one⟩
    · rw [same]
      exact left.resources
    · have few := left.resources
      rw [nothing] at few
      rcases few with none | ⟨-, impossible⟩
      · exact .inr ⟨List.length_eq_zero_iff.mp none.symm, one⟩
      · cases impossible

namespace Enrichment

structure Performs (before : Enrichment) (addition : Addition)
    (outcome : Enrichment × Except InformationFault Unit) : Prop where
  conflict : ∀ fault, outcome.2 = .error fault ↔
    ∃ held, (attributes before.request addition.category).get? addition.entry.id = some held ∧
      held.dataType ≠ addition.entry.dataType ∧
      fault = .conflict addition.entry.id held.dataType addition.entry.dataType
  unchanged : ∀ fault, outcome.2 = .error fault → outcome.1 = before
  counted : outcome.1.added =
    before.added + if outcome.1.request = before.request then 0 else 1
  grows : before.request.Grows outcome.1.request
  fresh : ∀ category name held, (attributes before.request category).get? name = some held →
    ∃ kept more, (attributes outcome.1.request category).get? name = some kept ∧
      kept.values = held.values ++ more ∧ ∀ value ∈ more, value ∉ held.values
  arrived : outcome.2 = .ok () →
    ∃ kept, (attributes outcome.1.request addition.category).get? addition.entry.id = some kept ∧
      kept.dataType = addition.entry.dataType ∧ ∀ value ∈ addition.entry.values, value ∈ kept.values
  others : ∀ category name, (category, name) ≠ (addition.category, addition.entry.id) →
    (attributes outcome.1.request category).get? name =
      (attributes before.request category).get? name

theorem grows_of_merge {request : Request} {category : Category} {entry : Attribute}
    {set : AttributeSet} {changed : Bool}
    (merged : AttributeSet.merge (attributes request category) entry = .ok (set, changed)) :
    request.Grows (withAttributes request set category) where
  id := by cases category <;> rfl
  issuer := by cases category <;> rfl
  attributes other := by
    rw [attributes_withAttributes]
    split
    · next same => exact same ▸ AttributeSet.keeps_of_merge merged
    · exact .refl _
  otherResources := by cases category <;> rfl
  resources := by
    obtain ⟨id, issuer, subject, resources, action, environment⟩ := request
    cases category with
    | resource =>
        cases resources with
        | nil => exact .inr ⟨rfl, rfl⟩
        | cons first rest => exact .inl rfl
    | subject => exact .inl rfl
    | action => exact .inl rfl
    | environment => exact .inl rfl

theorem performs_refused {enrichment : Enrichment} {addition : Addition}
    {fault : InformationFault}
    (merged : AttributeSet.merge (attributes enrichment.request addition.category)
      addition.entry = .error fault) :
    Performs enrichment addition (enrichment, .error fault) where
  conflict other := by
    have reason := AttributeSet.merge_error_iff
      (attributes enrichment.request addition.category) addition.entry other
    rw [merged] at reason
    rw [← reason, Except.error.injEq, Except.error.injEq]
  unchanged _ _ := rfl
  counted := by rw [if_pos rfl, Nat.add_zero]
  grows := .refl _
  fresh category name held found := ⟨held, [], found, (List.append_nil _).symm, nofun⟩
  arrived impossible := by cases impossible
  others _ _ _ := rfl

theorem performs_merged {enrichment : Enrichment} {addition : Addition} {set : AttributeSet}
    {changed : Bool}
    (merged : AttributeSet.merge (attributes enrichment.request addition.category)
      addition.entry = .ok (set, changed)) :
    Performs enrichment addition
      (⟨withAttributes enrichment.request set addition.category,
        if changed then enrichment.added + 1 else enrichment.added⟩, .ok ()) where
  conflict fault := by
    have reason := AttributeSet.merge_error_iff
      (attributes enrichment.request addition.category) addition.entry fault
    rw [merged] at reason
    rw [← reason]
    exact ⟨nofun, nofun⟩
  unchanged _ impossible := by cases impossible
  counted := by
    simp only [withAttributes_eq_iff merged]
    cases changed <;> rfl
  grows := grows_of_merge merged
  fresh category name held found := by
    rw [attributes_withAttributes]
    split
    · next same =>
      rw [AttributeSet.get?_of_merge merged, ← same, found]
      split
      · obtain ⟨more, split, apart⟩ :=
          AttributeSet.addMissing_split held.values addition.entry.values
        exact ⟨_, more, rfl, split, apart⟩
      · exact ⟨held, [], rfl, (List.append_nil _).symm, nofun⟩
    · exact ⟨held, [], found, (List.append_nil _).symm, nofun⟩
  arrived _ := by
    rw [attributes_withAttributes, if_pos rfl, AttributeSet.get?_of_merge merged, if_pos rfl]
    refine ⟨_, rfl, ?_⟩
    cases found : (attributes enrichment.request addition.category).get? addition.entry.id with
    | none => exact ⟨rfl, fun _ member => member⟩
    | some held =>
        refine ⟨?_, fun value member => AttributeSet.mem_addMissing _ _ value member⟩
        by_cases alike : held.dataType = addition.entry.dataType
        · exact alike
        · have refused := (AttributeSet.merge_error_iff _ addition.entry _).mpr
            ⟨held, found, alike, rfl⟩
          rw [merged] at refused
          cases refused
  others category name apart := by
    rw [attributes_withAttributes]
    split
    · next same =>
      rw [AttributeSet.get?_of_merge merged, same, if_neg]
      intro equal
      exact apart (by rw [same, equal])
    · rfl

theorem performs (enrichment : Enrichment) (addition : Addition) :
    Performs enrichment addition (enrichment.perform addition) := by
  rcases enrichment.perform_cases addition with
    ⟨fault, merged, performed⟩ | ⟨set, changed, merged, performed⟩
  · rw [performed]
    exact performs_refused merged
  · rw [performed]
    exact performs_merged merged

/-! ## What a sequence of calls does -/

theorem after_grows (enrichment : Enrichment) (calls : List Addition) :
    enrichment.request.Grows (enrichment.after calls).request := by
  induction calls generalizing enrichment with
  | nil => exact .refl _
  | cons addition rest ih =>
      have first := (enrichment.performs addition).grows
      exact first.trans (ih (enrichment.perform addition).1)

/-- The identifiers that calls mention for a category, in order. -/
def mentions (category : Category) (calls : List Addition) : List String :=
  (calls.filter fun addition => addition.category = category).map fun addition => addition.entry.id

theorem ids_perform (enrichment : Enrichment) (addition : Addition) (category : Category) :
    (attributes (enrichment.perform addition).1.request category).items.map Attribute.id =
      AttributeSet.addMissing ((attributes enrichment.request category).items.map Attribute.id)
        (mentions category [addition]) := by
  by_cases same : addition.category = category
  · have mentioned : mentions category [addition] = [addition.entry.id] := by
      simp [mentions, same]
    rw [mentioned, ← same]
    rcases enrichment.perform_cases addition with
      ⟨fault, merged, performed⟩ | ⟨set, changed, merged, performed⟩
    · obtain ⟨held, found, -⟩ := (AttributeSet.merge_error_iff _ _ _).mp merged
      rw [performed]
      simp [AttributeSet.addMissing, Keyed.mem_of_get? found]
    · rw [performed, attributes_withAttributes, if_pos rfl, AttributeSet.ids_of_merge merged]
      rfl
  · have silent : mentions category [addition] = [] := by simp [mentions, same]
    rw [silent]
    rcases enrichment.perform_cases addition with
      ⟨fault, merged, performed⟩ | ⟨set, changed, merged, performed⟩
    · rw [performed]
      rfl
    · rw [performed, attributes_withAttributes, if_neg (Ne.symm same)]
      rfl

theorem ids_after (enrichment : Enrichment) (calls : List Addition) (category : Category) :
    (attributes (enrichment.after calls).request category).items.map Attribute.id =
      AttributeSet.addMissing ((attributes enrichment.request category).items.map Attribute.id)
        (mentions category calls) := by
  induction calls generalizing enrichment with
  | nil => rfl
  | cons addition rest ih =>
      have split : mentions category (addition :: rest) =
          mentions category [addition] ++ mentions category rest := by
        rw [mentions, ← List.singleton_append, List.filter_append, List.map_append]
        rfl
      have rest := ih (enrichment.perform addition).1
      rw [ids_perform] at rest
      rw [split, AttributeSet.addMissing, List.foldl_append]
      exact rest

theorem added_after (enrichment : Enrichment) (calls : List Addition) :
    (enrichment.after calls).added =
      enrichment.added + (enrichment.course calls).countP fun step => step.2 ≠ step.1 := by
  induction calls generalizing enrichment with
  | nil => rfl
  | cons addition rest ih =>
      have counted := (enrichment.performs addition).counted
      have later := ih (enrichment.perform addition).1
      rw [course, List.countP_cons]
      change (after _ rest).added = _
      rw [later, counted]
      by_cases same : (enrichment.perform addition).1.request = enrichment.request
      · simp [same]
      · simp [same]
        omega

/-- Enrichment only adds, and a call that fails changes nothing.  Whatever calls are made, each
attribute stays where it was, with its values in front; new ones follow in the order in which they
were first mentioned; only the first resource is touched; a call fails exactly where an attribute
of another type stands in its way; and the number of additions is that of the calls that changed the
request.  Calls in place come to the same as `Enrichment.add`. -/
theorem enrichment_only_adds (enrichment : Enrichment) (calls : List Addition) :
    enrichment.request.Grows (enrichment.after calls).request ∧
      (∀ category,
        let known := (attributes enrichment.request category).items.map Attribute.id
        (attributes (enrichment.after calls).request category).items.map Attribute.id =
          known ++ ((mentions category calls).filter fun name => name ∉ known).eraseDups) ∧
      (enrichment.after calls).added =
        enrichment.added + (enrichment.course calls).countP (fun step => step.2 ≠ step.1) ∧
      ∀ addition,
        let reached := enrichment.after calls
        Performs reached addition (reached.perform addition) ∧
          enrichment.after (calls ++ [addition]) = (reached.perform addition).1 ∧
          reached.perform addition =
            match reached.add addition.category addition.entry with
            | .ok enriched => (enriched, .ok ())
            | .error fault => (reached, .error fault) := by
  refine ⟨enrichment.after_grows calls, ?_, enrichment.added_after calls, ?_⟩
  · intro category
    rw [ids_after, AttributeSet.addMissing_eq]
  · intro addition
    exact ⟨performs _ addition, enrichment.after_snoc calls addition, perform_eq _ addition⟩

end Enrichment

end DecisionPoint
