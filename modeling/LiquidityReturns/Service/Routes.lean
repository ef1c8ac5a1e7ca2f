import LiquidityReturns.Service.ReturnsQuery
import LiquidityReturns.Web.Form

namespace LiquidityReturns

/-!
# Routes

The service answers at three paths: whether it runs, whether it is ready, and
the returns of a position.  Each may only be read.
-/

namespace Service

/-- A place at which the service answers. -/
inductive Route where
  | health
  | ready
  | returns
  deriving Repr, DecidableEq

namespace Route

/-- The route of a path, which must match exactly. -/
def ofPath? (path : String) : Option Route :=
  if path = "/health" then
    some .health
  else if path = "/ready" then
    some .ready
  else if path = "/v1/returns" then
    some .returns
  else
    none

end Route

/-- A configured service with its source. -/
structure Deployment where
  config : Config
  source : DataSource

namespace Deployment

/-- Answer the question for returns, given as a query. -/
def answerQuery (deployment : Deployment) (query : String) : Response :=
  match ReturnsQuery.ofPairs (Web.Form.decode query.toList) with
  | .error name =>
      .ofText 400
        s!"Failed to deserialize query string: duplicate field `{name}`"
  | .ok query =>
      let answer :=
        answerReturns deployment.source deployment.config query
      match answer.outcome with
      | .error failure =>
          failure.response
      | .ok answer =>
          .ofDocument 200 answer.toJson

/-- Read what stands at a route. -/
def read
    (deployment : Deployment)
    (route : Route)
    (query : String) :
    Response :=
  match route with
  | .health =>
      .ofDocument 200 (.record [("status", .string "ok")])
  | .ready =>
      .ofDocument 200
        (.record
          [("status", .string "ready"),
            ("midgard", .string deployment.config.midgardApiUrl)])
  | .returns =>
      deployment.answerQuery query

/-- The response at a route: it may be read, with or without the body. -/
def respond
    (deployment : Deployment)
    (route : Route)
    (request : Request) :
    Response :=
  match request.method with
  | .get =>
      deployment.read route request.query
  | .head =>
      (deployment.read route request.query).withoutBody
  | _ =>
      (Response.empty 405).readable

/-- The response to a request. -/
def answer (deployment : Deployment) (request : Request) : Response :=
  match Route.ofPath? request.path with
  | none =>
      if request.method = .options then
        .allAllowed
      else
        (Response.empty 404).shared
  | some route =>
      if request.method = .options then
        Response.allAllowed.readable
      else
        (deployment.respond route request).shared

end Deployment

end Service

end LiquidityReturns
