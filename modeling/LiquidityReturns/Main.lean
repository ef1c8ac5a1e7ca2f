import LiquidityReturns.Service.Startup

namespace LiquidityReturns

/-!
# The start of the program

The process that runs the program hands it a port that is already bound, so
only the configuration can prevent the start.
-/

/-- The environment variables that configure the service. -/
def configurationVariables : List String :=
  ["PORT", "MIDGARD_API_URL", "ACTIONS_PAGE_LIMIT", "PRICE_FETCH_CONCURRENCY",
    "REQUEST_TIMEOUT_SECS"]

def processEnvironment : IO Environment := do
  let entries ← configurationVariables.mapM fun name => do
    return (name, ← IO.getEnv name)
  return fun name => (entries.lookup name).join

/-- Start the service and report how the start ended. -/
def start : IO UInt32 := do
  let startup := Service.Startup.ofEnvironment (← processEnvironment) (.ok ())
  if let some complaint := startup.complaint? then
    IO.eprintln complaint
  if let some announcement := startup.announcement? then
    IO.println s!"INFO {announcement}"
  return UInt32.ofNat startup.exitCode

end LiquidityReturns

/-- Start the service. -/
def main : IO UInt32 :=
  LiquidityReturns.start
