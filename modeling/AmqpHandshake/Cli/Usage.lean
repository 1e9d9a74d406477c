import AmqpHandshake.Plan.Overrides
import AmqpHandshake.Text.ControlSequence

/-! The options of the command line, and what is wrong with a use of it. -/
namespace AmqpHandshake.Cli

/-- The options of the plan command that take a value. -/
inductive ValueOption
  | config
  | hostName
  | protocol
  | userName
  | sasToken
  | proxyHost
  | proxyPort
  | caBundle
deriving DecidableEq, Repr

namespace ValueOption

/-- All options, in the order in which variables of the environment are looked at. -/
def all : List ValueOption :=
  [config, hostName, protocol, userName, sasToken, proxyHost, proxyPort, caBundle]

def long : ValueOption → String
  | config => "config"
  | hostName => "host-name"
  | protocol => "protocol"
  | userName => "user-name"
  | sasToken => "sas-token"
  | proxyHost => "proxy-host"
  | proxyPort => "proxy-port"
  | caBundle => "ca-bundle"

def valueName (option : ValueOption) : String :=
  option.long.map fun c => if c = '-' then '_' else c.toUpper

def shown (option : ValueOption) : String := "--" ++ option.long ++ " <" ++ option.valueName ++ ">"

/-- The variable of the environment that stands in for an absent option. -/
def envName? : ValueOption → Option String
  | config | caBundle => none
  | option => some ("IOTHUB_" ++ option.valueName)

def ofLong? (name : String) : Option ValueOption := all.find? (·.long = name)

end ValueOption

def jsonOption : String := "--json"

/-- What is wrong with a use of the command line. -/
inductive UsageFault
  | nothing
  | unexpectedArgument (text : String)
  | unknownSubcommand (text : String)
  | invalidValue (value : String) (option : ValueOption) (reason : String)
  | repeated (shown : String)
  | valueMissing (option : ValueOption)
  | unexpectedValue (value shown : String)
deriving DecidableEq, Repr

def about : String := "Inspect AMQP/CBS connection setup for a hub"

/-- Text made to stand out on a terminal. -/
private def standingOut (text : String) : String := "\x1b[1m" ++ text ++ "\x1b[0m"

private def inMarks (text : String) : String := "'" ++ standingOut text ++ "'"

/-- What is wrong, with the parts that stand out. A reason is given as it is. -/
private def UsageFault.statement : UsageFault → String
  | .nothing => about
  | .unexpectedArgument text => "error: unexpected argument " ++ inMarks text ++ " found"
  | .unknownSubcommand text => "error: unrecognized subcommand " ++ inMarks text
  | .invalidValue value option reason =>
    "error: invalid value " ++ inMarks value ++ " for " ++ inMarks option.shown ++ ": " ++ reason
  | .repeated shown => "error: the argument " ++ inMarks shown ++ " cannot be used multiple times"
  | .valueMissing option =>
    "error: a value is required for " ++ inMarks option.shown ++ " but none was supplied"
  | .unexpectedValue value shown =>
    "error: unexpected value " ++ inMarks value ++ " for " ++ inMarks shown ++
      " found; no more were expected"

/-- The text of a fault with a hint on where to find help, as it is written where nothing can stand
out: control sequences, those of the arguments too, are taken out of the whole. -/
def UsageFault.message (fault : UsageFault) : String :=
  Text.withoutControls
    (fault.statement ++ "\n\nFor more information, try " ++ inMarks "--help" ++ ".\n")

end AmqpHandshake.Cli
