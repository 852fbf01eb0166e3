import DecisionPoint.Request.Basic

/-!
# Building requests

A builder gathers attributes; one that was given no identifier gets a fresh one at the end.
-/

set_option autoImplicit false

namespace DecisionPoint

structure RequestBuilder where
  id : Option String
  issuer : Option String
  subject : AttributeSet
  resources : List AttributeSet
  action : AttributeSet
  environment : AttributeSet

namespace RequestBuilder

def new : RequestBuilder :=
  ⟨none, none, .empty, [], .empty, .empty⟩

def withId (builder : RequestBuilder) (id : String) : RequestBuilder :=
  { builder with id := some id }

def withIssuer (builder : RequestBuilder) (issuer : String) : RequestBuilder :=
  { builder with issuer := some issuer }

def addSubject (builder : RequestBuilder) (entry : Attribute) : RequestBuilder :=
  { builder with subject := builder.subject.insert entry }

def addResource (builder : RequestBuilder) (resource : AttributeSet) : RequestBuilder :=
  { builder with resources := builder.resources ++ [resource] }

/-- Puts an attribute into the first resource, which is made if there is none. -/
def addResourceAttribute (builder : RequestBuilder) (entry : Attribute) : RequestBuilder :=
  match builder.resources with
  | [] => { builder with resources := [Keyed.empty.insert entry] }
  | first :: rest => { builder with resources := first.insert entry :: rest }

def addAction (builder : RequestBuilder) (entry : Attribute) : RequestBuilder :=
  { builder with action := builder.action.insert entry }

def addEnvironment (builder : RequestBuilder) (entry : Attribute) : RequestBuilder :=
  { builder with environment := builder.environment.insert entry }

/-- The request; `fresh` is the identifier of one that was given none. -/
def build (builder : RequestBuilder) (fresh : String) : Request :=
  ⟨builder.id.getD fresh, builder.issuer, builder.subject, builder.resources, builder.action,
    builder.environment⟩

end RequestBuilder

end DecisionPoint
