import LiquidityReturns.Text.Blank
import LiquidityReturns.Text.Integer
import LiquidityReturns.Web.BaseAddress

namespace LiquidityReturns

/-!
# Configuration

The service is configured by environment variables.  Each has a default; the
first one that does not hold what it should decides the error.
-/

/-- The values of environment variables. -/
abbrev Environment :=
  String → Option String

/-- The configuration of the service. -/
structure Config where
  port : Nat
  midgardApiUrl : String
  actionsPageLimit : Nat
  priceFetchConcurrency : Nat
  requestTimeoutSecs : Nat
  deriving Repr, DecidableEq

/-- Why the environment does not configure the service. -/
inductive ConfigError where
  | missing (name : String)
  | invalid (name reason : String)
  deriving Repr, DecidableEq

namespace ConfigError

/-- The wording of a configuration error. -/
def message : ConfigError → String
  | .missing name =>
      s!"Missing required environment variable: {name}"
  | .invalid name reason =>
      s!"Invalid value for {name}: {reason}"

end ConfigError

namespace Config

/--
Where the ledger's public service is found unless the environment says
otherwise.
-/
def defaultMidgardApiUrl : String :=
  "https://midgard.ninerealms.com/v2"

/-- Read the port, which may have no blanks around it. -/
def readPort (environment : Environment) : Except ConfigError Nat :=
  match Text.readNat (Nat.pow 2 16 - 1) ((environment "PORT").getD "8080") with
  | .ok port =>
      .ok port
  | .error _ =>
      .error (.invalid "PORT" "must be a valid u16")

/-- Read the address of the ledger's service, without slashes at its end. -/
def readMidgardApiUrl (environment : Environment) : Except ConfigError String :=
  match environment "MIDGARD_API_URL" with
  | none =>
      .ok defaultMidgardApiUrl
  | some value =>
      let url := Web.withoutTrailingSlashes (Text.trim value)
      if url.isEmpty then
        .error (.missing "MIDGARD_API_URL")
      else
        .ok url

/-- Read a positive number of 64 bits. -/
def readPositive
    (environment : Environment)
    (name : String)
    (default : Nat) :
    Except ConfigError Nat :=
  match environment name with
  | none =>
      .ok default
  | some value =>
      let failure :=
        ConfigError.invalid name
          s!"must be a positive integer, got {value}"
      match Text.readNat (Nat.pow 2 64 - 1) (Text.trim value) with
      | .ok number =>
          if 0 < number then .ok number else .error failure
      | .error _ =>
          .error failure

def ofEnvironment (environment : Environment) : Except ConfigError Config := do
  let port ← readPort environment
  let midgardApiUrl ← readMidgardApiUrl environment
  let actionsPageLimit ← readPositive environment "ACTIONS_PAGE_LIMIT" 50
  let priceFetchConcurrency ←
    readPositive environment "PRICE_FETCH_CONCURRENCY" 8
  let requestTimeoutSecs ←
    readPositive environment "REQUEST_TIMEOUT_SECS" 30
  return {
    port, midgardApiUrl, actionsPageLimit, priceFetchConcurrency,
    requestTimeoutSecs
  }

end Config

end LiquidityReturns
