import Resilience.Service.Lookup
import Resilience.Service.Response
import Resilience.Service.Route

/-!
# Answering requests

Every known route answers `GET`, and `HEAD` in the same way but for the body. `OPTIONS` is answered
on every path without asking the route, and other methods are not allowed.
-/

namespace Resilience.Service

variable (s : Service)

/-- The health of the service in a world. -/
def health (w : World) : Health :=
  { uptime := Time.toSeconds (w.now - s.startedAt)
    cacheEnabled := w.cache?.isSome
    entries := w.size
    limiterEnabled := w.limiter?.isSome
    tokens? := w.available? }

/-- The response to a look-up's result. -/
def found : Except Error Found → Response
  | .ok f => .ofDocument f.toDocument
  | .error e => .ofError e

/-- States of a request : about to be routed, or looking up a key. -/
abbrev Serving := Option (String × Option (Cancellation × Looking))

/-- The response of a known route whose answer needs no waiting. -/
def served (w : World) (r : Response) : Turn Serving Response := ⟨w, [], .finished r⟩

/-- A request by `GET`. -/
def getTurn (route : Route) (w : World) : Turn Serving Response :=
  match route with
  | .health => served w (.ofDocument ((s.health w).toDocument (s.timeOfDay w.now)))
  | .stats => served w (.ofDocument (statisticsDocument w.statistics))
  | .lookup segment =>
    match decodeSegment? segment with
    | some key => ⟨w, [], .running (some (key, (s.lookup key).start))⟩
    | none => served w (.badText "Invalid URL: Invalid UTF-8 in \x60key\x60")
  | .unknown => served w .notFound

/-- The response to a request by another method than `GET` and `HEAD`. -/
def otherMethod (method : String) (route : Route) : Response :=
  if method = "OPTIONS" then
    { allow? := if route = .unknown then none else some Response.allowed }
  else if route = .unknown then .notFound
  else .methodNotAllowed

/-- Answers a request. -/
def respond (r : Request) : Activity Serving Response where
  start := none
  turn state w :=
    if r.method = "GET" ∨ r.method = "HEAD" then
      let t := match state with
        | none => s.getTurn (.ofPath r.path) w
        | some (key, inner) =>
          ((s.lookup key).turn inner w).inside (fun inner => some (key, inner)) fun result w =>
            ⟨w, [], .finished (found result)⟩
      t.inside id fun response w =>
        ⟨w, [], .finished (if r.method = "HEAD" then response.withoutBody else response)⟩
    else
      served w (otherMethod r.method (.ofPath r.path))

end Resilience.Service
