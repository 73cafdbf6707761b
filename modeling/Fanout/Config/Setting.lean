import Fanout.Broker
import Fanout.Config.Number

/-!
The settings of the service: how each is named on the command line and in the environment, what it
is for, and which values it takes.
-/

namespace Fanout

/-- What the service runs for. -/
inductive Environment where
  | development
  | production
  | staging
  deriving DecidableEq, Repr

namespace Environment

def all : List Environment := [.development, .production, .staging]

def text : Environment → String
  | .development => "development"
  | .production => "production"
  | .staging => "staging"

/-- Reads an environment in letters of either case. -/
def ofText? (text : String) : Option Environment :=
  all.find? fun environment => environment.text = String.ofList (text.toList.map Char.toLower)

end Environment

/-- The least important notices that are shown, if any are. -/
structure Verbosity where
  level : Option Level
  deriving DecidableEq, Repr

namespace Verbosity

def all : List Verbosity :=
  [⟨none⟩, ⟨some .error⟩, ⟨some .warn⟩, ⟨some .info⟩, ⟨some .debug⟩, ⟨some .trace⟩]

def text (verbosity : Verbosity) : String := (verbosity.level.map Level.text).getD "OFF"

end Verbosity

def Level.rank : Level → Nat
  | .error => 1
  | .warn => 2
  | .info => 3
  | .debug => 4
  | .trace => 5

def Verbosity.shows (verbosity : Verbosity) (level : Level) : Bool :=
  verbosity.level.any (level.rank ≤ ·.rank)

/-- How the service is set up. -/
structure Config where
  allowedOrigins : List String
  redisUrl : Option String
  busChannel : String
  clientBufferCapacity : Nat
  interface : String
  port : Nat
  verbosity : Verbosity
  environment : Environment
  deriving DecidableEq, Repr

def Config.default : Config where
  allowedOrigins := ["http://localhost:3000", "https://localhost:3000"]
  redisUrl := none
  busChannel := defaultChannel
  clientBufferCapacity := defaultClientCapacity
  interface := "127.0.0.1"
  port := 4000
  verbosity := ⟨some .info⟩
  environment := .development

def Config.isProduction (config : Config) : Bool := config.environment = .production

namespace Config

inductive Setting where
  | allowedOrigins
  | redisUrl
  | busChannel
  | clientBufferCapacity
  | interface
  | port
  | verbosity
  | environment
  deriving DecidableEq, Repr

namespace Setting

def all : List Setting :=
  [.allowedOrigins, .redisUrl, .busChannel, .clientBufferCapacity, .interface, .port, .verbosity,
    .environment]

/-- The name behind two dashes. -/
def long : Setting → String
  | .allowedOrigins => "allowed-origins"
  | .redisUrl => "redis-url"
  | .busChannel => "bus-channel"
  | .clientBufferCapacity => "client-buffer-capacity"
  | .interface => "interface"
  | .port => "port"
  | .verbosity => "log-level-filter"
  | .environment => "runtime-env"

/-- The letter behind one dash. -/
def short? : Setting → Option Char
  | .interface => some 'i'
  | .port => some 'p'
  | .verbosity => some 'l'
  | .environment => some 'r'
  | _ => none

/-- The name in the environment. -/
def envName : Setting → String
  | .allowedOrigins => "ALLOWED_ORIGINS"
  | .redisUrl => "REDIS_URL"
  | .busChannel => "BUS_CHANNEL"
  | .clientBufferCapacity => "CLIENT_BUFFER_CAPACITY"
  | .interface => "INTERFACE"
  | .port => "PORT"
  | .verbosity => "LOG_LEVEL_FILTER"
  | .environment => "RUNTIME_ENV"

def purpose : Setting → String
  | .allowedOrigins =>
    "A list of full CORS origin URLs that allowed to receive server responses"
  | .redisUrl =>
    "Redis URL of the shared event bus. When unset, events are only distributed within this process"
  | .busChannel =>
    "Bus channel shared by every instance in the deployment. Instances on different channels never "
      ++ "see each other's events"
  | .clientBufferCapacity =>
    "Number of undelivered messages each SSE client may have queued before new messages for it are "
      ++ "dropped"
  | .interface => "The host interface to listen for incoming connections"
  | .port => "The host TCP port to listen for incoming connections"
  | .verbosity =>
    "Set the log level verbosity threshold (level) to control what gets displayed on console output"
  | .environment => "Set the Rust runtime environment to use"

/-- The value without a setting, as it would be written. -/
def default? : Setting → Option String
  | .allowedOrigins => some (",".intercalate Config.default.allowedOrigins)
  | .redisUrl => Config.default.redisUrl
  | .busChannel => some Config.default.busChannel
  | .clientBufferCapacity => some (toString Config.default.clientBufferCapacity)
  | .interface => some Config.default.interface
  | .port => some (toString Config.default.port)
  | .verbosity => some Config.default.verbosity.text
  | .environment => some Config.default.environment.text

/-- The values to choose from; none where anything of a kind may stand. -/
def choices : Setting → List String
  | .verbosity => Verbosity.all.map Verbosity.text
  | .environment =>
    Environment.all.map (·.text.toUpper) ++ Environment.all.map Environment.text
  | _ => []

/-- An option with its value, as texts show it. -/
def shown (setting : Setting) : String := s!"--{setting.long} <{setting.envName}>"

end Setting

/-- What is set so far; the rest has its default. -/
structure Given where
  allowedOrigins : Option (List String)
  redisUrl : Option String
  busChannel : Option String
  clientBufferCapacity : Option Nat
  interface : Option String
  port : Option Nat
  verbosity : Option Verbosity
  environment : Option Environment
  deriving DecidableEq, Repr

/-- Why a setting does not take a value. -/
inductive ValueFault where
  | empty
  | noChoice (value : String)
  | invalid (value reason : String)
  deriving DecidableEq, Repr

namespace Given

def nothing : Given := ⟨none, none, none, none, none, none, none, none⟩

def isSet (given : Given) : Setting → Bool
  | .allowedOrigins => given.allowedOrigins.isSome
  | .redisUrl => given.redisUrl.isSome
  | .busChannel => given.busChannel.isSome
  | .clientBufferCapacity => given.clientBufferCapacity.isSome
  | .interface => given.interface.isSome
  | .port => given.port.isSome
  | .verbosity => given.verbosity.isSome
  | .environment => given.environment.isSome

def readCapacity (text : String) : Except ValueFault Nat :=
  match readUnsigned (Nat.pow 2 64 - 1) text with
  | .error fault => .error (.invalid text fault.text)
  | .ok 0 => .error (.invalid text "capacity must be at least 1")
  | .ok n => .ok n

def maxPort : Nat := 65535

def readPort (text : String) : Except ValueFault Nat :=
  match readSigned text with
  | .error fault => .error (.invalid text fault.text)
  | .ok (.ofNat n) =>
    if n ≤ maxPort then .ok n else .error (.invalid text s!"{n} is not in 0..={maxPort}")
  | .ok i => .error (.invalid text s!"{i} is not in 0..={maxPort}")

def choose {α : Type} (setting : Setting) (text : String) (choice : Option α) :
    Except ValueFault α :=
  match choice with
  | some a => if setting.choices.contains text then .ok a else .error (.noChoice text)
  | none => .error (if text.isEmpty then .empty else .noChoice text)

/-- Sets a value. Allowed origins are a list with commas and add to those that are given. -/
def put (given : Given) (setting : Setting) (text : String) : Except ValueFault Given :=
  match setting with
  | .allowedOrigins =>
    .ok { given with
      allowedOrigins := some (given.allowedOrigins.getD [] ++ text.splitOn ",") }
  | .redisUrl => .ok { given with redisUrl := some text }
  | .busChannel => .ok { given with busChannel := some text }
  | .clientBufferCapacity => do
    return { given with clientBufferCapacity := some (← readCapacity text) }
  | .interface => .ok { given with interface := some text }
  | .port => do return { given with port := some (← readPort text) }
  | .verbosity => do
    let chosen := Verbosity.all.find? (·.text = text)
    return { given with verbosity := some (← choose setting text chosen) }
  | .environment => do
    return { given with
      environment := some (← choose setting text (Environment.ofText? text)) }

def config (given : Given) : Config where
  allowedOrigins := given.allowedOrigins.getD Config.default.allowedOrigins
  redisUrl := given.redisUrl <|> Config.default.redisUrl
  busChannel := given.busChannel.getD Config.default.busChannel
  clientBufferCapacity := given.clientBufferCapacity.getD Config.default.clientBufferCapacity
  interface := given.interface.getD Config.default.interface
  port := given.port.getD Config.default.port
  verbosity := given.verbosity.getD Config.default.verbosity
  environment := given.environment.getD Config.default.environment

end Given

end Config

end Fanout
