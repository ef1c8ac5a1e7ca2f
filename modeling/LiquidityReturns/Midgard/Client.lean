import LiquidityReturns.Json.Reader
import LiquidityReturns.Midgard.Records
import LiquidityReturns.Source.Call
import LiquidityReturns.Text.Utf8
import LiquidityReturns.Web.BaseAddress
import LiquidityReturns.Web.Target

namespace LiquidityReturns

/-!
# Asking Midgard

Midgard answers each question at a path of its own.  Its reply is judged first
by the status: success has a document, a missing record or any other refusal
is final, and a failure of the service or of the connection may pass.
-/

namespace Midgard

/-- Where a question is asked: a path below the base address, and a query. -/
structure Endpoint where
  path : String
  query : List (String × String)
  deriving Repr, DecidableEq

namespace Endpoint

/-- The kinds of action that are asked for, in a list. -/
def actionKinds : String :=
  ",".intercalate (ActionKind.positionKinds.map ActionKind.name)

def ofCall : Call → Endpoint
  | .member address =>
      ⟨s!"/member/{address}", []⟩
  | .pool asset =>
      ⟨s!"/pool/{asset}", []⟩
  | .actions addresses limit offset =>
      ⟨"/actions",
        [("address", ",".intercalate (addresses.map Address.text)),
          ("type", actionKinds),
          ("limit", toString limit),
          ("offset", toString offset)]⟩
  | .price asset second =>
      ⟨s!"/history/depths/{asset}",
        [("from", toString second), ("to", toString second)]⟩

/-- The target of the request, below a base address. -/
def target (endpoint : Endpoint) (base : String) : String :=
  Web.Target.ofAddress
    (Web.withoutTrailingSlashes base ++ endpoint.path) endpoint.query

end Endpoint

/-- What comes back for a request. -/
structure Reply where
  status : Nat
  body : List UInt8
  deriving Repr, DecidableEq

/-- The outcome of one request: final, or a failure that may pass. -/
inductive Attempt (α : Type) where
  | final (outcome : Except SourceError α)
  | transient (failure : SourceError)

namespace Attempt

/-- The outcome when every further request fails in the same way. -/
def settled : Attempt α → Except SourceError α
  | .final outcome =>
      outcome
  | .transient failure =>
      .error failure

/-- Go on from a final success. -/
def andThen
    (attempt : Attempt α)
    (next : α → Except SourceError β) :
    Attempt β :=
  match attempt with
  | .final outcome =>
      .final (outcome.bind next)
  | .transient failure =>
      .transient failure

end Attempt

/-- The deepest nesting of a document that is read. -/
def deepestNesting : Nat :=
  127

/-- Whether a document is not nested too deep and all of it is defined. -/
def isAcceptable (document : Json) : Bool :=
  document.depth ≤ deepestNesting && document.isDefined

def document? (bytes : List UInt8) : Option Json := do
  let characters ← Text.Utf8.decode? bytes
  (Json.readDocument characters).filter isAcceptable

namespace Reply

/--
Whether a reply only announces another one; switching protocols ends the
exchange.
-/
def isInterim (reply : Reply) : Bool :=
  100 ≤ reply.status && reply.status < 200 && reply.status != 101

/-- The bytes that a reply carries; two statuses never carry any. -/
def content (reply : Reply) : List UInt8 :=
  if reply.status = 204 ∨ reply.status = 304 then [] else reply.body

def readDocument (reply : Reply) : Except SourceError Json :=
  match document? reply.content with
  | none =>
      .error (.parse "error decoding response body")
  | some document =>
      .ok document

/-- Judge a reply to a request for a path. -/
def judge (reply : Reply) (path : String) : Attempt Json :=
  if 200 ≤ reply.status ∧ reply.status < 300 then
    .final reply.readDocument
  else if reply.status = 429 then
    .transient .rateLimited
  else if 500 ≤ reply.status ∧ reply.status < 600 then
    .transient (.http reply.status "Server error")
  else if reply.status = 404 then
    .final (.error (.notFound path))
  else
    .final (.error (.http reply.status "Client error"))

end Reply

/-- A way to reach Midgard: its base address, and what each target replies. -/
structure Client where
  base : String
  reply? : String → Option Reply

namespace Client

/-- The reply to a request, when the exchange ends with one. -/
def finalReply? (client : Client) (target : String) : Option Reply :=
  (client.reply? target).filter fun reply => !reply.isInterim

/--
Request the document of an endpoint; without a reply the failure may pass.
-/
def document (client : Client) (endpoint : Endpoint) : Attempt Json :=
  match client.finalReply? (endpoint.target client.base) with
  | none =>
      .transient (.network s!"error sending request for {endpoint.path}")
  | some reply =>
      reply.judge endpoint.path

/-- Ask a question and read the record in the reply. -/
def ask
    (client : Client)
    (call : Call)
    (readRecord : Json → Except RecordError α) :
    Attempt α :=
  (client.document (.ofCall call)).andThen fun document =>
    (readRecord document).mapError fun failure => .parse failure.message

/-- Midgard as a source. -/
def source (client : Client) : DataSource where
  member address :=
    (client.ask (.member address) readMember).settled
  pool asset :=
    (client.ask (.pool asset) readPoolState).settled
  actions addresses limit offset :=
    (client.ask (.actions addresses limit offset) readActionsPage).settled
  price asset second :=
    (client.ask (.price asset second) readPriceSample).settled

end Client

end Midgard

end LiquidityReturns
