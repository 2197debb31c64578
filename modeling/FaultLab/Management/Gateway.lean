import FaultLab.Json.Reader
import FaultLab.Management

/-! # Management over the members' gateway

Every member of a cluster has a gateway to the management.  A client knows some members and asks
them in a circle, from the one on that answered last, until one can be reached; whatever that one
says is the answer.  The client remembers the layout until it changes something. -/

namespace FaultLab.Gateway

/-- What a client remembers: who answered last, and the layout. -/
structure Memory where
  preferred : Nat
  layout : Option Layout

/-- A client's memory at first. -/
def Memory.start : Memory := ⟨0, none⟩

/-- The members that a client knows, where it keeps its memory, and how it sends requests. -/
structure Contact (σ : Type) where
  endpoints : List Endpoint
  memory : Part σ Memory
  carrier : Http.Carrier σ

/-- The address of a resource on a member. -/
def url (endpoint : Endpoint) (path : String) : String := s!"http://{endpoint}/management/{path}"

/-- The numbers below `n` in a circle from `start` on. -/
def circle (n start : Nat) : List Nat := (List.range n).map fun i => (start + i) % n

/-- What an answer says about a request. -/
def judge (r : Http.Response) : Except ManagementError Http.Response :=
  if Http.isSuccess r.status then .ok r
  else if Http.isClientError r.status || r.status = Http.serviceUnavailable then
    .error (.rejected r)
  else .error (.failed r)

namespace Contact

variable {σ : Type}

/-- The event that a member cannot be reached. -/
def unreachableEvent (e : Endpoint) : Event :=
  .debug "management endpoint unreachable" [("endpoint", .varying e.text), ("error", .varying "")]

/-- Ask members one after the other; `tried` could not be reached. -/
def askEach (c : Contact σ) (method : Http.Method) (path : String) (body : Option Document) :
    List Endpoint → List Nat → Attempt σ ManagementError Http.Response
  | tried, [] => Attempt.give (.error (.allRefused tried))
  | tried, i :: rest => do
    let endpoint := c.endpoints[i]?.getD default
    match ← Attempt.lift (c.carrier ⟨method, url endpoint path, none, body⟩) with
    | .answered r =>
      Attempt.lift (c.memory.change fun m => { m with preferred := i })
      Attempt.give (judge r)
    | .refused =>
      Attempt.log (unreachableEvent endpoint)
      askEach c method path body (tried ++ [endpoint]) rest
    | .brokenOff => Attempt.give (.error .transport)
    | .unusable => Attempt.give (.error .transport)

/-- Ask the members in a circle from the one that answered last. -/
def ask (c : Contact σ) (method : Http.Method) (path : String) (body : Option Document) :
    Attempt σ ManagementError Http.Response := do
  let m ← Attempt.lift c.memory.read
  askEach c method path body [] (circle c.endpoints.length m.preferred)

/-- Read a resource. -/
def read {α : Type} (c : Contact σ) (path : String) (item : Decoder α) :
    Attempt σ ManagementError α := do
  let r ← c.ask .get path none
  match Json.decode item r.body with
  | .ok a => return a
  | .error _ => Attempt.give (.error .badBody)

/-- Forget the layout. -/
def forget (c : Contact σ) : Call σ Unit := c.memory.change fun m => { m with layout := none }

/-- Change something, and then forget the layout.  How long the answer is waited for is left out, and with it
that the program ends where the time for a change of the members leaves no room for ten seconds more in a span
of sixty-four bits of seconds. -/
def change (c : Contact σ) (method : Http.Method) (path : String) (body : Document) :
    Attempt σ ManagementError Unit := do
  let _ ← c.ask method path (some body)
  Attempt.lift c.forget

/-- The remembered layout, or a new one. -/
def getLayout (c : Contact σ) : Attempt σ ManagementError Layout := do
  let m ← Attempt.lift c.memory.read
  match m.layout with
  | some layout => return layout
  | none =>
    let layout ← c.read "layout" (Layout.decode .direct)
    Attempt.lift (c.memory.change fun m => { m with layout := some layout })
    return layout

/-- The request to add or remove a member; its times are in milliseconds of sixty-four bits. -/
def membershipBody (e : Endpoint) (p : Patience) : Document :=
  .ofEntries [
    ("endpoint", e.encode),
    ("retries", .integer (p.retries.toNat : Int)),
    ("timeoutMs", encodeU64 (UInt64.ofNat (Span.millis p.timeout))),
    ("pollPeriodMs", encodeU64 (UInt64.ofNat (Span.millis p.pollPeriod)))]

/-- The client of a contact. -/
def client (c : Contact σ) : ManagementClient σ where
  getLayout := c.getLayout
  getStatus := c.read "status" StatusReport.decode
  invalidate := c.forget
  bootstrap layout := c.change .post "bootstrap" layout.encode
  add e p := c.change .post "nodes" (membershipBody e p)
  remove e p := c.change .delete "nodes" (membershipBody e p)
  reset e := c.change .post "reset" (.ofEntries [("endpoint", e.encode)])

end Contact

/-- A client that knows at least one member. -/
def connect {σ : Type} (memory : Part σ Memory) (carrier : Http.Carrier σ) :
    List Endpoint → Except ManagementError (ManagementClient σ)
  | [] => .error .noEndpoints
  | endpoints => .ok (Contact.mk endpoints memory carrier).client

end FaultLab.Gateway
