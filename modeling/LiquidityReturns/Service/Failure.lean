import LiquidityReturns.Inquiry.PositionReturns
import LiquidityReturns.Service.Exchange

namespace LiquidityReturns

/-!
# Failures of the service

A failure is the fault of the request, the lack of what was asked for, or
anything else.  The kind decides the status, and the message is the body.
-/

namespace Service

/-- Why the service has no result. -/
inductive Failure where
  | internal (message : String)
  | notFound (message : String)
  | badRequest (message : String)
  deriving Repr, DecidableEq

namespace Failure

/-- The message alone. -/
def message : Failure → String
  | .internal message =>
      message
  | .notFound message =>
      message
  | .badRequest message =>
      message

def status : Failure → Nat
  | .internal _ =>
      500
  | .notFound _ =>
      404
  | .badRequest _ =>
      400

/-- The message after the kind of failure. -/
def description : Failure → String
  | .internal message =>
      s!"Internal server error: {message}"
  | .notFound message =>
      s!"Not found: {message}"
  | .badRequest message =>
      s!"Bad request: {message}"

/-- The failure of an inquiry; only a missing position counts as not found. -/
def ofInquiry (failure : InquiryError) : Failure :=
  match failure with
  | .positionNotFound .. =>
      .notFound failure.message
  | _ =>
      .internal failure.message

/-- The response to a request that failed. -/
def response (failure : Failure) : Response :=
  .ofDocument failure.status (.record [("error", .string failure.message)])

end Failure

end Service

end LiquidityReturns
