import DecisionPoint.Request.Basic

/-!
# Enrichment

Information points add attributes to a request.  They can add attributes and values but neither
remove nor replace any, and only the first resource is open to them.
-/

set_option autoImplicit false

namespace DecisionPoint

/-- The part of a request that an attribute belongs to. -/
inductive Category where
  | subject
  | resource
  | action
  | environment
deriving DecidableEq, Repr

/-- A request under enrichment and the number of additions that changed it. -/
structure Enrichment where
  request : Request
  added : Nat
deriving Inhabited

namespace Enrichment

def start (request : Request) : Enrichment := ⟨request, 0⟩

/-- The attributes of a category; of the resources, the first one's. -/
def attributes (request : Request) : Category → AttributeSet
  | .subject => request.subject
  | .resource => request.resources.headD .empty
  | .action => request.action
  | .environment => request.environment

def withAttributes (request : Request) (set : AttributeSet) : Category → Request
  | .subject => { request with subject := set }
  | .resource => { request with resources := set :: request.resources.tail }
  | .action => { request with action := set }
  | .environment => { request with environment := set }

/-- Adds an attribute.  A conflict changes nothing. -/
def add (enrichment : Enrichment) (category : Category) (entry : Attribute) :
    Except InformationFault Enrichment :=
  match AttributeSet.merge (attributes enrichment.request category) entry with
  | .error fault => .error fault
  | .ok (set, changed) =>
    .ok ⟨withAttributes enrichment.request set category,
      if changed then enrichment.added + 1 else enrichment.added⟩

end Enrichment

end DecisionPoint
