import Fanout.Config.Usage
import Fanout.Config.Dotenv
import Fanout.Console
import Fanout.Http.Router
import Fanout.Http.Origin

/-!
The service from its start to its end: it takes its configuration, opens the bus, starts a broker
on it and serves until it is told to stop. Then the broker is closed, so that every event stream
ends.
-/

namespace Fanout

/-- How a run of the service ends. -/
inductive Ending where
  /-- The arguments give no configuration. -/
  | unconfigured (stop : Config.Stop)
  | failed
  | aborted (fault : Http.OriginFault)
  | shutDown
  deriving DecidableEq, Repr

/-- The exit code. -/
def Ending.code : Ending → Nat
  | .unconfigured (.flag _) | .shutDown => 0
  | .failed => 1
  | .unconfigured (.fault _) => 2
  | .aborted _ => 101

/-- What is shown at the end besides the notices. -/
def Ending.console (program : String) (vars : Config.Variables) : Ending → Console
  | .unconfigured (.flag flag) => ⟨flag.lines program vars, []⟩
  | .unconfigured (.fault fault) => ⟨[], fault.lines program⟩
  | .aborted fault => ⟨[], ["panic: " ++ fault.text]⟩
  | .failed | .shutDown => .nothing

/-- A service that answers requests. -/
structure Service where
  network : Network
  broker : Nat
  /-- The origins that are allowed to read its answers. -/
  origins : List String

namespace Service

def busMissing : String :=
  "REDIS_URL must be set in production: instances would not share events"

def addressTaken : String := "Address already in use (os error 98)"

/-- The bus that a configuration names, or why there is none. -/
def openBus (config : Config) : Except String (Logged (Fabric × Nat)) :=
  match config.redisUrl with
  | some url =>
    match Fabric.empty.addUrl url with
    | .error error => .error error.text
    | .ok added => .ok added
  | none =>
    if config.isProduction then .error busMissing
    else .ok do
      .note .noBus
      return Fabric.empty.addHub defaultHubCapacity

def brokerConfig (config : Config) : BrokerConfig :=
  ⟨config.busChannel, config.clientBufferCapacity⟩

/-- Starts a broker on the bus and lets its inbound loop begin. -/
def startBroker (config : Config) (fabric : Fabric) (bus : Nat) : Logged (Network × Nat) := do
  let (network, broker) ← Network.start ⟨fabric, []⟩ bus (brokerConfig config)
  .note (.serverStarting s!"{config.interface}:{config.port}")
  return (← network.settle, broker)

/-- Starts the service beside others that have taken some ports. -/
def start (config : Config) (taken : List Nat) : Logged (Except Ending Service) := do
  .note (.starting config.environment.text)
  match openBus config with
  | .error reason => do
    .note (.busNotConfigured reason)
    return .error .failed
  | .ok opened => do
    let (fabric, bus) ← opened
    let (network, broker) ← startBroker config fabric bus
    if taken.contains config.port then
      .note (.serverFailed addressTaken)
      let _ ← network.close broker
      return .error .failed
    else
      match ← Http.allowOrigins config.allowedOrigins with
      | .error fault => return .error (.aborted fault)
      | .ok origins => return .ok ⟨network, broker, origins⟩

/-- Answers a request. -/
def handle (service : Service) (method target : String) :
    Except Http.RequestFault (Logged (Service × Http.Answer)) :=
  (Http.handle service.network service.broker method target).map fun handled => do
    let (network, answer) ← handled
    return ({ service with network }, answer)

/-- Stops the service. The broker is closed as soon as it is told to, and once more when nothing is
served any longer. -/
def stop (service : Service) : Logged Service := do
  .note .signalReceived
  let network ← service.network.close service.broker
  let network ← network.close service.broker
  .note .shutDown
  return { service with network }

/-- A run that is told to stop as soon as it serves: how it ends, and whether it came to serve. -/
def run (config : Config) (taken : List Nat) : Logged (Ending × Bool) := do
  match ← start config taken with
  | .error ending => return (ending, false)
  | .ok service => do
    let _ ← service.stop
    return (.shutDown, true)

end Service

end Fanout
