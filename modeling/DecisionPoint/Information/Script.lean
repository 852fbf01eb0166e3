import DecisionPoint.Progress
import DecisionPoint.Request.Enrichment

/-!
# What an information point does with a request

A script is the behaviour of an information point: it looks at the request, adds attributes, pauses
and ends.  It sees of a request only what an enrichment shows, and can do nothing but add.
-/

set_option autoImplicit false

namespace DecisionPoint

/-- How a call of an information point ended. -/
inductive PointAnswer where
  | succeeded
  | failed (fault : InformationFault)
  | panicked
deriving DecidableEq, Repr, Inhabited

/-- The behaviour of an information point. -/
inductive Script where
  | finish (answer : PointAnswer)
  | pause (millis : Nat) (next : Script)
  | hang
  | add (category : Category) (entry : Attribute) (next : Except InformationFault Unit → Script)
  | look (next : Request → Script)

namespace Script

instance : Inhabited Script := ⟨.finish .succeeded⟩

/-- Runs a script until it ends or pauses: what is left, when it goes on, and the enrichment. -/
def run : Script → Enrichment → Nat → Enrichment × Progress PointAnswer (Option Nat × Script)
  | finish answer, enrichment, _ => (enrichment, .done answer)
  | pause millis next, enrichment, now =>
    if millis = 0 then next.run enrichment now
    else (enrichment, .waiting (some (now + millis), next))
  | hang, enrichment, _ => (enrichment, .waiting (none, hang))
  | add category entry next, enrichment, now =>
    match enrichment.add category entry with
    | .ok enriched => (next (.ok ())).run enriched now
    | .error fault => (next (.error fault)).run enrichment now
  | look next, enrichment, now => (next enrichment.request).run enrichment now

end Script

end DecisionPoint
