/-!
# Requests and responses of the listeners
-/

set_option autoImplicit false

namespace DecisionPoint

structure HttpRequest where
  verb : String
  /-- The path with its query, perhaps behind a scheme and an authority. -/
  target : String
  body : ByteArray
  /-- Whether the body ever ends. -/
  isComplete : Bool
deriving Inhabited

namespace HttpRequest

def isSchemeChar (c : Char) : Bool :=
  c.isAlphanum || c = '+' || c = '-' || c = '.'

def afterAuthority (cs : List Char) : List Char :=
  match cs.dropWhile isSchemeChar with
  | ':' :: '/' :: '/' :: rest => rest.dropWhile fun c => c ≠ '/' && c ≠ '?' && c ≠ '#'
  | _ => cs

def path (request : HttpRequest) : String :=
  String.ofList ((afterAuthority request.target.toList).takeWhile fun c => c ≠ '?' && c ≠ '#')

end HttpRequest

structure HttpResponse where
  status : Nat
  contentType : String
  body : String
deriving DecidableEq, Repr, Inhabited

namespace HttpResponse

def plain (status : Nat) (body : String) : HttpResponse :=
  ⟨status, "text/plain; charset=utf-8", body⟩

def notFound : HttpResponse :=
  plain 404 "not found\n"

/-- The response as it is sent: there is no body for a request of the headers alone. -/
def sentTo (response : HttpResponse) (request : HttpRequest) : HttpResponse :=
  if request.verb = "HEAD" then { response with body := "" } else response

end HttpResponse

end DecisionPoint
