import LiquidityReturns.Json.Basic
import LiquidityReturns.Web.Target

namespace LiquidityReturns

/-!
# Requests and responses

A request has a method and a target; a response has a status, headers and a
body.  Responses may be read from anywhere: each says so in a header.
-/

namespace Service

/-- The method of a request. -/
inductive Method where
  | get
  | head
  | options
  | other (name : String)
  deriving Repr, DecidableEq

/-- The method of a given name; names are case-sensitive. -/
def Method.ofName (name : String) : Method :=
  if name = "GET" then
    .get
  else if name = "HEAD" then
    .head
  else if name = "OPTIONS" then
    .options
  else
    .other name

/-- A request to the service. -/
structure Request where
  method : Method
  path : String
  query : String
  deriving Repr, DecidableEq

/-- A request of a target, which is a path with a query or a whole address. -/
def Request.ofTarget (method : Method) (target : String) : Request :=
  let characters := target.toList
  let below :=
    if characters.head? = some '/' then
      characters
    else
      Web.Target.afterHost characters
  { method
    path := String.ofList (Web.Target.pathPart below)
    query := String.ofList ((Web.Target.queryPart? below).getD []) }

/-- The body of a response. -/
inductive Body where
  | text (value : String)
  | document (value : Json)
  deriving Repr

/-- A response of the service. -/
structure Response where
  status : Nat
  headers : List (String × String)
  body : Body
  deriving Repr

namespace Response

/-- A response without body and headers. -/
def empty (status : Nat) : Response where
  status := status
  headers := []
  body := .text ""

def ofText (status : Nat) (value : String) : Response where
  status := status
  headers := [("content-type", "text/plain; charset=utf-8")]
  body := .text value

def ofDocument (status : Nat) (value : Json) : Response where
  status := status
  headers := [("content-type", "application/json")]
  body := .document value

def withHeader (response : Response) (name value : String) : Response :=
  { response with headers := response.headers ++ [(name, value)] }

/-- Keep the status and the headers only. -/
def withoutBody (response : Response) : Response :=
  { response with body := .text "" }

/-- Let a response be read from anywhere. -/
def shared (response : Response) : Response :=
  response.withHeader "access-control-allow-origin" "*"

/-- Name the methods by which something may be read. -/
def readable (response : Response) : Response :=
  response.withHeader "allow" "GET,HEAD"

/-- The answer to a question which requests are allowed: all of them. -/
def allAllowed : Response :=
  (((empty 200).shared).withHeader "access-control-allow-methods" "*")
    |>.withHeader "access-control-allow-headers" "*"

end Response

end Service

end LiquidityReturns
