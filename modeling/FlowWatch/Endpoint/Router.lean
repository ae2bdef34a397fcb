import FlowWatch.Endpoint.Verdict

/-!
# Answers to requests

One path answers with the verdict, to the methods GET and HEAD only. Every
other path is not found, whatever the method. A verdict for HEAD has no body; a
connection takes away the body of every other answer to HEAD as well. Trackers
are looked at only where the verdict is part of the answer.
-/

namespace FlowWatch.Endpoint

/-- The path of the verdict. -/
def healthPath : String := "/ishealthy"

/-- A request. -/
structure Request where
  /-- The method. -/
  method : String
  /-- The target, perhaps with a query. -/
  target : String
  deriving DecidableEq

/-- An answer. -/
structure Response where
  /-- The status. -/
  status : Nat
  /-- The body. -/
  body : String
  deriving DecidableEq

/-- Where a request leads. -/
inductive Route
  /-- To the verdict. -/
  | verdict
  /-- To the right path with a wrong method. -/
  | wrongMethod
  /-- Nowhere. -/
  | notFound
  deriving DecidableEq

/-- The part of an address behind its scheme and its authority, which is one
slash if nothing follows them. A text without a scheme is kept. -/
def behindAuthority (cs : List Char) : List Char :=
  match cs.dropWhile (· != ':') with
  | ':' :: '/' :: '/' :: rest =>
    let path := rest.dropWhile (· != '/')
    if path.isEmpty then ['/'] else path
  | _ => cs

/-- The path of a target: all before a query or a fragment. A target may also be
a whole address, whose path stands behind its authority. -/
def pathOf (target : String) : String :=
  let cs := target.toList.takeWhile fun c => c != '?' && c != '#'
  String.ofList (if cs.head? = some '/' then cs else behindAuthority cs)

/-- Whether the answer leaves its body out. -/
def Request.isHead (r : Request) : Bool := r.method == "HEAD"

/-- Where a request leads. -/
def Request.route (r : Request) : Route :=
  if pathOf r.target = healthPath then
    if r.method = "GET" || r.isHead then .verdict else .wrongMethod
  else .notFound

/-- The answer without its body, if it is one to HEAD. -/
def Request.bodiless (r : Request) (answer : Response) : Response :=
  if r.isHead then { answer with body := "" } else answer

/-- What a request leads to. -/
structure Answered where
  /-- The monitor afterwards. -/
  monitor : Monitor
  /-- The answer. -/
  response : Response
  /-- What is logged. -/
  events : List Log.Event

/-- The answer to a request over some trackers. -/
def answer (m : Monitor) (now : Duration) (watched : List Nat) (r : Request) : Answered :=
  match r.route with
  | .verdict =>
    let (verdict, after) := m.evaluate now watched
    ⟨after, r.bodiless ⟨verdict.status, verdict.body⟩, verdict.events⟩
  | .wrongMethod => ⟨m, ⟨405, ""⟩, []⟩
  | .notFound => ⟨m, ⟨404, "Not Found"⟩, []⟩

/-- Requests that do not lead to the verdict leave the trackers alone. -/
theorem answer_monitor_of_route_ne {m : Monitor} {now : Duration} {watched : List Nat}
    {r : Request} (h : r.route ≠ .verdict) : (answer m now watched r).monitor = m := by
  unfold answer
  split <;> simp_all

end FlowWatch.Endpoint
