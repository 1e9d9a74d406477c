import AmqpHandshake.Cli.Arguments
import AmqpHandshake.Plan.Report

/-! What a use of the command line comes to. -/
namespace AmqpHandshake.Cli

/-- What a use of the command line comes to. -/
inductive Outcome
  | shown (text : String)
  | help
  | failed (fault : PlanFault)
  | misused (fault : UsageFault)
deriving DecidableEq, Repr

namespace Outcome

def code : Outcome → UInt32
  | shown _ | help => 0
  | failed _ => 1
  | misused _ => 2

def output : Outcome → String
  | shown text => text
  | help => about ++ "\n"
  | _ => ""

def errorOutput : Outcome → String
  | failed fault => "Error: " ++ fault.message ++ "\n"
  | misused fault => fault.message
  | _ => ""

end Outcome

def render (json : Bool) (report : PlanReport) : String :=
  if json then report.toJson.print ++ "\n" else report.text

/-- Run the command line on some files, with an environment and a random word. -/
def run (read : FileReader) (environment : String → Option String) (key : Nonce)
    (arguments : List String) : Outcome :=
  match Cli.read environment arguments with
  | .error (.fault fault) => .misused fault
  | .error .help => .help
  | .ok given =>
    match PlanReport.make read key given.config given.overrides with
    | .ok report => .shown (render given.json report)
    | .error fault => .failed fault

end AmqpHandshake.Cli
