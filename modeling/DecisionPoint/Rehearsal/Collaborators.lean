import DecisionPoint.Evaluation.Engine
import DecisionPoint.Information.Point
import DecisionPoint.Obligation.Handler
import DecisionPoint.Rehearsal.Condition

/-!
# Scripted collaborators

Information points, engines and handlers that are lists of actions and rules, for rehearsals of a
service without the real ones.
-/

set_option autoImplicit false

namespace DecisionPoint

/-- Something that a scripted information point does. -/
inductive Act where
  | sleep (millis : Nat)
  | fail (reason : String)
  | panic
  /-- Adds an attribute; a conflict ends the point unless it is tolerated. -/
  | add (category : Category) (entry : Attribute) (tolerant : Bool)
  | nothing
deriving DecidableEq, Repr

/-- An action that is skipped when its condition does not hold. -/
structure Action where
  condition : Option Condition
  act : Act
deriving DecidableEq, Repr

def Act.before (act : Act) (next : Script) : Script :=
  match act with
  | sleep millis => .pause millis next
  | fail reason => .finish (.failed (.failed reason))
  | panic => .finish .panicked
  | add category entry tolerant =>
    .add category entry fun added =>
      match added with
      | .ok () => next
      | .error fault => if tolerant then next else .finish (.failed fault)
  | nothing => next

def Script.ofActions : List Action → Script
  | [] => .finish .succeeded
  | action :: later =>
    let next := ofActions later
    .look fun request =>
      if Condition.holdsIfAny action.condition request then action.act.before next else next

inductive RuleAnswer where
  | outcome (outcome : Outcome)
  | document
  | error (reason : String)
  | panic
deriving Inhabited

structure Rule where
  condition : Option Condition
  version : Option String
  answer : RuleAnswer
deriving Inhabited

namespace Rule

def applies (rule : Rule) (request : Request) (policy : PolicySnapshot) : Bool :=
  Condition.holdsIfAny rule.condition request && rule.version.all (· = policy.version)

def decide (rule : Rule) (policy : PolicySnapshot) : EngineAnswer :=
  match rule.answer with
  | .outcome outcome => .decided outcome
  | .document =>
    match Outcome.read policy.document with
    | .ok outcome => .decided outcome
    | .error _ => .failed "bad document"
  | .error reason => .failed reason
  | .panic => .panicked

end Rule

/-- The engine that takes the first rule for a request; without one no policy applies. -/
def Engine.ofRules (rules : List Rule) : Engine := fun request policy =>
  match rules.find? fun rule => rule.applies request policy with
  | some rule => rule.decide policy
  | none => .decided (Outcome.new .notApplicable [] none)

def Handler.scripted (name obligationId : String) (precedence : Int32) (restriction : Option Effect)
    (answer : HandlerAnswer) : Handler :=
  ⟨name, obligationId, precedence, restriction, fun _ _ _ => answer⟩

end DecisionPoint
