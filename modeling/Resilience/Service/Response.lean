import Resilience.Service.Body

/-!
# Requests and responses
-/

namespace Resilience.Service

/-- What a client asks for. -/
structure Request where
  method : String := "GET"
  path : String
deriving DecidableEq, Repr, Inhabited

/-- What a response carries. -/
inductive Body where
  | empty
  | text (s : String)
  | document (d : Document)
deriving Inhabited

/-- What a client is answered. -/
structure Response where
  status : Nat := 200
  contentType? : Option String := none
  /-- The methods that the route allows, if that is said. -/
  allow? : Option String := none
  /-- The origins that may read the response. -/
  allowOrigin : String := "*"
  body : Body := .empty
deriving Inhabited

namespace Response

/-- A response with a document. -/
def ofDocument (d : Document) (status : Nat := 200) : Response :=
  { status, contentType? := some "application/json", body := .document d }

/-- The response to a request that is not served. -/
def ofError (e : Error) : Response := ofDocument (errorDocument (describe e)) e.status

/-- A refusal in plain text. -/
def badText (s : String) : Response :=
  { status := 400, contentType? := some "text/plain; charset=utf-8", body := .text s }

/-- The methods that a known route allows. -/
def allowed : String := "GET,HEAD"

/-- The response to a path that no route has. -/
def notFound : Response := { status := 404 }

/-- The response to a method that the route does not allow. -/
def methodNotAllowed : Response := { status := 405, allow? := some allowed }

/-- The response without its body. -/
def withoutBody (r : Response) : Response := { r with body := .empty }

end Response

end Resilience.Service
