import Fanout.Config.Arguments
import Fanout.Text.Printable

/-!
What the command line says about itself: the help text, the version, and the words for arguments
that it does not take.
-/

namespace Fanout.Config

open Text

/-- The lines of a text of which the terminal is to act on nothing. -/
def printableLines (texts : List String) : List String :=
  (printable ("\n".intercalate texts)).splitOn "\n"

/-- An addition in brackets. -/
def bracketed (label value : String) : String := s!" [{label}: {value}]"

def Setting.help (vars : Variables) (setting : Setting) : List String :=
  let letter := match setting.short? with
    | some c => s!"  -{c}, "
    | none => "      "
  let choices := if setting.choices.isEmpty then ""
    else bracketed "possible values" (", ".intercalate setting.choices)
  let value := (vars.get? setting.envName).getD ""
  let text := setting.purpose ++ bracketed "env" (setting.envName ++ "=" ++ value)
    ++ ((setting.default?.map (bracketed "default")).getD "") ++ choices
  (letter ++ setting.shown) :: (text.splitOn "\n").map ("          " ++ ·)

def usageLine (program : String) : String := s!"Usage: {program} [OPTIONS]"

def helpLines (program : String) (vars : Variables) : List String :=
  [usageLine program, "", "Options:"]
    ++ Setting.all.flatMap (Setting.help vars)
    ++ ["  -h, --help", "          Print help", "  -V, --version", "          Print version"]

def versionLine : String := "service 0.1.0"

def Flag.lines (program : String) (vars : Variables) : Flag → List String
  | .help => printableLines (helpLines program vars)
  | .version => [versionLine]

namespace ArgumentFault

/-- The kind of a fault by name. -/
def kind : ArgumentFault → String
  | .unknown .. => "UnknownArgument"
  | .repeated .. => "ArgumentConflict"
  | .noValue .. | .noChoice .. => "InvalidValue"
  | .invalid .. => "ValueValidation"
  | .unneeded .. => "TooManyValues"

def message : ArgumentFault → String
  | .unknown argument _ _ => s!"error: unexpected argument '{argument}' found"
  | .repeated setting => s!"error: the argument '{setting.shown}' cannot be used multiple times"
  | .noValue setting =>
    s!"error: a value is required for '{setting.shown}' but none was supplied"
  | .noChoice setting value => s!"error: invalid value '{value}' for '{setting.shown}'"
  | .invalid setting value reason =>
    s!"error: invalid value '{value}' for '{setting.shown}': {reason}"
  | .unneeded flag value =>
    s!"error: unexpected value '{value}' for '--{flag.long}' found; no more were expected"

def choiceLines (setting : Setting) : List String :=
  if setting.choices.isEmpty then []
  else
    let choices := ", ".intercalate setting.choices
    [s!"  [possible values: {choices}]"]

/-- The usage with these options in place of all. -/
def usedLine (program : String) (options : List String) : String :=
  if options.isEmpty then usageLine program
  else "Usage: " ++ " ".intercalate (program :: options)

/-- The lines that follow the message. -/
def details (program : String) : ArgumentFault → List String
  | .unknown _ none used => ["", usedLine program (used.map Setting.shown)]
  | .unknown _ (some meant) used =>
    ["", s!"  tip: a similar argument exists: '--{meant.long}'", "",
      usedLine program
        ((if used.contains meant then used else used ++ [meant]).map Setting.shown)]
  | .repeated _ => ["", usageLine program]
  | .noValue setting => choiceLines setting
  | .noChoice setting value =>
    choiceLines setting ++
      match similar? value setting.choices with
      | some choice => ["", s!"  tip: a similar value exists: '{choice}'"]
      | none => []
  | .invalid .. => []
  | .unneeded flag _ => ["", usedLine program [s!"--{flag.long}"]]

def lines (program : String) (fault : ArgumentFault) : List String :=
  printableLines
    (fault.message :: fault.details program ++ ["", "For more information, try '--help'."])

end ArgumentFault

end Fanout.Config
