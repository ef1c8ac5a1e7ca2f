import LiquidityReturns.Config
import LiquidityReturns.Text.Terminal

namespace LiquidityReturns

/-!
# Start-up

The service reads its configuration and then takes its port.  Either may fail,
which ends the program with a complaint; otherwise the service announces where
it listens.
-/

namespace Service

/-- Why a port cannot be taken. -/
inductive BindError where
  | inUse
  | denied
  deriving Repr, DecidableEq

/-- The wording of a failure to take a port. -/
def BindError.message : BindError → String
  | .inUse =>
      "Address already in use (os error 98)"
  | .denied =>
      "Permission denied (os error 13)"

/-- How a start ends. -/
inductive Startup where
  | misconfigured (failure : ConfigError)
  | unbound (port : Nat) (failure : BindError)
  | listening (config : Config)
  deriving Repr, DecidableEq

namespace Startup

/-- Start in an environment; taking the port may fail. -/
def ofEnvironment
    (environment : Environment)
    (binding : Except BindError Unit) :
    Startup :=
  match Config.ofEnvironment environment with
  | .error failure =>
      .misconfigured failure
  | .ok config =>
      match binding with
      | .error failure =>
          .unbound config.port failure
      | .ok () =>
          .listening config

def localAddress (port : Nat) : String :=
  s!"127.0.0.1:{port}"

def complaint? : Startup → Option String
  | .misconfigured failure =>
      some s!"Configuration error: {failure.message}"
  | .unbound port failure =>
      some s!"Failed to bind to {localAddress port}: {failure.message}"
  | .listening _ =>
      none

/--
The announcement of a start that succeeded, which cannot steer a terminal.
-/
def announcement? : Startup → Option String
  | .listening config =>
      some
        (Text.shown
          (s!"Server listening on {localAddress config.port}" ++
            s!" (midgard: {config.midgardApiUrl})"))
  | _ =>
      none

/-- The exit code: whether the start failed. -/
def exitCode (startup : Startup) : Nat :=
  if startup.complaint?.isSome then 1 else 0

end Startup

end Service

end LiquidityReturns
