import AmqpHandshake.Cli.Run

/-! The command line program. The files it needs are read before the plan is made. -/
namespace AmqpHandshake.Cli

/-- The fault with an error number, where it is one of those that are told apart. The number may
come with its sign changed. -/
def faultOfCode? (code : UInt32) : Option FileFault :=
  let number := if code < 0x80000000 then code else 0 - code
  if number = 2 then some .notFound
  else if number = 20 then some .notDirectory
  else if number = 21 then some .isDirectory
  else if number = 36 then some .nameTooLong
  else none

def faultOf (error : IO.Error) : FileFault :=
  let fault? := match error with
    | .noFileOrDirectory _ code _ => faultOfCode? code
    | .inappropriateType _ code _ => faultOfCode? code
    | .invalidArgument _ code _ => faultOfCode? code
    | _ => none
  fault?.getD (.other (toString error))

def readFile (path : String) : IO (Except FileFault ByteArray) := do
  try return .ok (← IO.FS.readBinFile path)
  catch error => return .error (faultOf error)

/-- A reader for files that have been read. -/
def readerOf (files : List (String × Except FileFault ByteArray)) : FileReader := fun path =>
  match files.find? (·.1 = path) with
  | some (_, content) => content
  | none => .error .notFound

def gather (paths : List String) : IO FileReader := do
  let files ← paths.mapM fun path => return (path, ← readFile path)
  return readerOf files

/-- The variables of the environment that stand in for options. -/
def gatherEnvironment : IO (String → Option String) := do
  let names := ValueOption.all.filterMap ValueOption.envName?
  let values ← names.mapM fun name => return (name, ← IO.getEnv name)
  return fun name => (values.find? (·.1 = name)).bind Prod.snd

def gatherNonce : IO Nonce := do
  let bytes ← IO.getRandomBytes 16
  return ⟨BitVec.ofNat 128 (bytes.foldl (fun n byte => n * 256 + byte.toNat) 0)⟩

/-- The paths that a use of the command line reads: the settings, then the bundle they name. -/
def pathsOf (read : FileReader) (given : PlanArguments) : List String :=
  let bundle := match PlanReport.settings read given.config given.overrides with
    | .ok settings => settings.caBundle
    | .error _ => none
  given.config.toList ++ bundle.toList

end AmqpHandshake.Cli

open AmqpHandshake Cli in
def main (arguments : List String) : IO UInt32 := do
  let environment ← gatherEnvironment
  let read ← match Cli.read environment arguments with
    | .error _ => gather []
    | .ok given => do
      let read ← gather given.config.toList
      gather (pathsOf read given)
  let outcome := Cli.run read environment (← gatherNonce) arguments
  IO.print outcome.output
  IO.eprint outcome.errorOutput
  return outcome.code
