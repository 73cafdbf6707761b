import Fanout.Config.Setting
import Fanout.Config.Similar

/-!
The command line and the environment as sources of settings. Arguments are taken one by one; a
setting that they do not give is looked up in the environment.
-/

namespace Fanout.Config

/-- The options that take no value. -/
inductive Flag where
  | help
  | version
  deriving DecidableEq, Repr

namespace Flag

def all : List Flag := [.help, .version]

def long : Flag → String
  | .help => "help"
  | .version => "version"

def short : Flag → Char
  | .help => 'h'
  | .version => 'V'

end Flag

/-- Why the arguments give no configuration. -/
inductive ArgumentFault where
  /-- With the setting that was perhaps meant and those that were used before. -/
  | unknown (argument : String) (meant : Option Setting) (used : List Setting)
  | repeated (setting : Setting)
  | noValue (setting : Setting)
  | noChoice (setting : Setting) (value : String)
  | invalid (setting : Setting) (value reason : String)
  | unneeded (flag : Flag) (value : String)
  deriving DecidableEq, Repr

inductive Stop where
  | flag (flag : Flag)
  | fault (fault : ArgumentFault)
  deriving DecidableEq, Repr

/-- Variables by their names, the first of a name counts. -/
abbrev Variables := List (String × String)

def Variables.get? (vars : Variables) (name : String) : Option String :=
  (vars.find? (·.1 = name)).map (·.2)

def ValueFault.atSetting (setting : Setting) : ValueFault → ArgumentFault
  | .empty => .noValue setting
  | .noChoice value => .noChoice setting value
  | .invalid value reason => .invalid setting value reason

/-- How far the arguments have been taken. -/
structure Scan where
  given : Given
  /-- The settings that were given, last one first. -/
  used : List Setting
  /-- An option that has not been acted on, and its value if that has come. -/
  pending : Option (Setting × Option String)
  /-- Whether all that follows is no option. -/
  trailing : Bool
  deriving DecidableEq, Repr

namespace Scan

def start : Scan := ⟨.nothing, [], none, false⟩

def put (scan : Scan) (setting : Setting) (value : String) : Except Stop Scan :=
  if scan.given.isSet setting && setting != .allowedOrigins then
    .error (.fault (.repeated setting))
  else
    match scan.given.put setting value with
    | .error fault => .error (.fault (fault.atSetting setting))
    | .ok given => .ok { scan with given, used := setting :: scan.used }

/-- Acts on the option that waits, if there is one. -/
def resolve (scan : Scan) : Except Stop Scan :=
  match scan.pending with
  | none => .ok scan
  | some (setting, none) => .error (.fault (.noValue setting))
  | some (setting, some value) => { scan with pending := none }.put setting value

/-- The settings used up to here, first one first. One that waits to be repeated is not counted. -/
def usedSettings (scan : Scan) : List Setting :=
  let used := scan.used.reverse.eraseDups
  match scan.pending with
  | some (setting, some _) =>
    if !used.contains setting then used ++ [setting]
    else if setting = .allowedOrigins then used
    else used.filter (· != setting)
  | _ => used

def unknown (argument : String) : Except Stop Scan := .error (.fault (.unknown argument none []))

def option (scan : Scan) (setting : Setting) (value : Option String) : Except Stop Scan := do
  let scan ← scan.resolve
  match value with
  | some value => scan.put setting value
  | none => return { scan with pending := some (setting, none) }

def flag (scan : Scan) (flag : Flag) : Except Stop Scan := do
  let _ ← scan.resolve
  throw (.flag flag)

/-- An argument with two dashes, cut at its first equals sign. -/
def long (scan : Scan) (name : String) (value : Option String) : Except Stop Scan :=
  match Setting.all.find? (·.long = name), Flag.all.find? (·.long = name) with
  | some setting, _ => scan.option setting value
  | none, some flag =>
    match value with
    | some value => .error (.fault (.unneeded flag value))
    | none => scan.flag flag
  | none, none =>
    let names := Setting.all.map Setting.long ++ Flag.all.map Flag.long
    let meant := (similar? name names).bind fun name => Setting.all.find? (·.long = name)
    .error (.fault (.unknown s!"--{name}" meant scan.usedSettings))

/-- An argument with one dash: a letter, and its value behind it if that is not to follow. -/
def short (scan : Scan) (letter : Char) (rest : List Char) : Except Stop Scan :=
  match Setting.all.find? (·.short? = some letter), Flag.all.find? (·.short = letter) with
  | some setting, _ =>
    match rest with
    | [] => scan.option setting none
    | '=' :: value => scan.option setting (some (String.ofList value))
    | value => scan.option setting (some (String.ofList value))
  | none, some flag => scan.flag flag
  | none, none => unknown (String.ofList ['-', letter])

/-- An argument that is no option: the value of the last one, if that has none yet. -/
def plain (scan : Scan) (argument : String) : Except Stop Scan :=
  match scan.pending with
  | some (setting, none) => .ok { scan with pending := some (setting, some argument) }
  | _ => unknown argument

def take (scan : Scan) (argument : String) : Except Stop Scan :=
  if scan.trailing then unknown argument
  else
    match argument.toList with
    | ['-', '-'] => .ok { scan with trailing := true }
    | '-' :: '-' :: cs =>
      let name := String.ofList (cs.takeWhile (· != '='))
      match cs.dropWhile (· != '=') with
      | _ :: value => scan.long name (some (String.ofList value))
      | [] => scan.long name none
    | '-' :: letter :: rest => scan.short letter rest
    | _ => scan.plain argument

end Scan

/-- Sets from the environment what is not set yet. -/
def fromVariables (vars : Variables) (given : Given) (setting : Setting) :
    Except Stop Given :=
  if given.isSet setting then .ok given
  else
    match vars.get? setting.envName with
    | none => .ok given
    | some value =>
      match given.put setting value with
      | .error fault => .error (.fault (fault.atSetting setting))
      | .ok given => .ok given

/-- The configuration that arguments and environment give. -/
def ofArguments (arguments : List String) (vars : Variables) : Except Stop Config := do
  let scan ← arguments.foldlM Scan.take .start
  let scan ← scan.resolve
  let given ← Setting.all.foldlM (fromVariables vars) scan.given
  return given.config

end Fanout.Config
