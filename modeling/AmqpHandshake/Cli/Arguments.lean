import AmqpHandshake.Cli.Usage
import AmqpHandshake.Text.Cut
import AmqpHandshake.Text.Numeral

/-! Reading the command line. The value of an option that stands in an argument of its own is
looked at only when the next option or the end is reached. -/
namespace AmqpHandshake.Cli

/-- What the plan command was given. -/
structure PlanArguments where
  config : Option String := none
  overrides : Overrides := {}
  json : Bool := false
deriving DecidableEq, Repr

/-- Why digits are no number of 64 bits; digits are taken from the left. -/
private def scanInt64 (negative : Bool) (value : Int) : List Char → Except String Int
  | [] => .ok value
  | c :: rest =>
    match Text.digitValue? 10 c with
    | none => .error "invalid digit found in string"
    | some digit =>
      let value := if negative then value * 10 - digit else value * 10 + digit
      if Text.fitsInt64 value then scanInt64 negative value rest
      else if negative then .error "number too small to fit in target type"
      else .error "number too large to fit in target type"

def readInt64 (text : String) : Except String Int :=
  match text.toList with
  | [] => .error "cannot parse integer from empty string"
  | ['-'] | ['+'] => .error "invalid digit found in string"
  | '-' :: digits => scanInt64 true 0 digits
  | '+' :: digits => scanInt64 false 0 digits
  | digits => scanInt64 false 0 digits

def readPort (text : String) : Except String UInt16 := do
  let number ← readInt64 text
  if 0 ≤ number ∧ number ≤ 65535 then return UInt16.ofNat number.toNat
  else throw (toString number ++ " is not in 0..=65535")

namespace PlanArguments

def has (arguments : PlanArguments) : ValueOption → Bool
  | .config => arguments.config.isSome
  | .hostName => arguments.overrides.hostName.isSome
  | .protocol => arguments.overrides.protocol.isSome
  | .userName => arguments.overrides.userName.isSome
  | .sasToken => arguments.overrides.sasToken.isSome
  | .proxyHost => arguments.overrides.proxyHost.isSome
  | .proxyPort => arguments.overrides.proxyPort.isSome
  | .caBundle => arguments.overrides.caBundle.isSome

private def override (arguments : PlanArguments) (change : Overrides → Overrides) :
    PlanArguments :=
  { arguments with overrides := change arguments.overrides }

private def path (option : ValueOption) (value : String) : Except UsageFault String :=
  if value = "" then .error (.valueMissing option) else .ok value

def set (arguments : PlanArguments) (option : ValueOption) (value : String) :
    Except UsageFault PlanArguments :=
  match option with
  | .config => do return { arguments with config := some (← path option value) }
  | .hostName => return arguments.override ({ · with hostName := some value })
  | .protocol =>
    match Protocol.parse value with
    | .ok protocol => return arguments.override ({ · with protocol := some protocol })
    | .error error => throw (.invalidValue value option error.message)
  | .userName => return arguments.override ({ · with userName := some value })
  | .sasToken => return arguments.override ({ · with sasToken := some value })
  | .proxyHost => return arguments.override ({ · with proxyHost := some value })
  | .proxyPort =>
    match readPort value with
    | .ok port => return arguments.override ({ · with proxyPort := some port })
    | .error reason => throw (.invalidValue value option reason)
  | .caBundle => do
    let path ← path option value
    return arguments.override ({ · with caBundle := some path })

/-- Give an option a value that stands on the command line, where it may come only once. -/
def setOnce (arguments : PlanArguments) (option : ValueOption) (value : String) :
    Except UsageFault PlanArguments :=
  if arguments.has option then .error (.repeated option.shown) else arguments.set option value

/-- Give an option the value of its variable, unless it has one. -/
def fillIn (environment : String → Option String) (arguments : PlanArguments)
    (option : ValueOption) : Except UsageFault PlanArguments :=
  match option.envName?.bind environment with
  | some value => if arguments.has option then .ok arguments else arguments.set option value
  | none => .ok arguments

end PlanArguments

/-- A reading of the command line that is under way. -/
structure Reading where
  arguments : PlanArguments := {}
  /-- An option whose value has not been looked at, and the value once it is there. -/
  pending : Option (ValueOption × Option String) := none
  /-- Behind a double dash nothing is an option. -/
  trailing : Bool := false

inductive Stop
  | fault (fault : UsageFault)
  | help
deriving DecidableEq, Repr

def Reading.resolve (reading : Reading) : Except Stop Reading :=
  match reading.pending with
  | none => .ok reading
  | some (option, none) => .error (.fault (.valueMissing option))
  | some (option, some value) =>
    match reading.arguments.setOnce option value with
    | .ok arguments => .ok { reading with arguments, pending := none }
    | .error fault => .error (.fault fault)

private def refuse (text : String) : Except Stop Reading :=
  .error (.fault (.unexpectedArgument text))

namespace Reading

/-- An option with the value attached to it, or with its value to come. -/
def takeValueOption (reading : Reading) (option : ValueOption) (attached : Option String) :
    Except Stop Reading := do
  let reading ← reading.resolve
  match attached with
  | none => return { reading with pending := some (option, none) }
  | some value => Reading.resolve { reading with pending := some (option, some value) }

def takeJson (reading : Reading) (attached : Option String) : Except Stop Reading := do
  match attached with
  | some value => throw (.fault (.unexpectedValue value jsonOption))
  | none => do
    let reading ← reading.resolve
    if reading.arguments.json then throw (.fault (.repeated jsonOption))
    return { reading with arguments := { reading.arguments with json := true } }

def takeHelp (reading : Reading) : Except Stop Reading := do
  let _ ← reading.resolve
  throw .help

def takeLong (reading : Reading) (name : String) (attached : Option String) :
    Except Stop Reading :=
  if name = "json" then reading.takeJson attached
  else if name = "help" then
    match attached with
    | some value => .error (.fault (.unexpectedValue value "--help"))
    | none => reading.takeHelp
  else match ValueOption.ofLong? name with
    | some option => reading.takeValueOption option attached
    | none => refuse ("--" ++ name)

/-- The letters behind one dash. A letter with a value takes all that follows it. -/
def takeShort (reading : Reading) : List Char → Except Stop Reading
  | [] => .ok reading
  | letter :: rest =>
    if letter = 'c' then
      let value := match rest with
        | [] => none
        | '=' :: value => some (String.ofList value)
        | value => some (String.ofList value)
      reading.takeValueOption .config value
    else if letter = 'h' then reading.takeHelp
    else refuse (String.ofList ['-', letter])

/-- An argument that is no option: the value that is waited for, if one is. -/
def takePlain (reading : Reading) (text : String) : Except Stop Reading :=
  match reading.pending with
  | some (option, none) => .ok { reading with pending := some (option, some text) }
  | _ => refuse text

def take (reading : Reading) (text : String) : Except Stop Reading :=
  if reading.trailing then refuse text
  else match text.toList with
    | ['-', '-'] => .ok { reading with trailing := true }
    | '-' :: '-' :: long =>
      match Text.cutFirst '=' long with
      | some (name, value) =>
        reading.takeLong (String.ofList name) (some (String.ofList value))
      | none => reading.takeLong (String.ofList long) none
    | '-' :: letter :: more => reading.takeShort (letter :: more)
    | _ => reading.takePlain text

end Reading

/-- Read the arguments of the plan command, and the environment for those that are absent. -/
def readPlan (environment : String → Option String) (arguments : List String) :
    Except Stop PlanArguments := do
  let reading ← arguments.foldlM Reading.take {}
  let reading ← reading.resolve
  (ValueOption.all.foldlM (PlanArguments.fillIn environment) reading.arguments).mapError .fault

def subcommands : List String := ["plan", "help"]

/-- What follows a double dash in place of a subcommand is refused. -/
private def refuseTrailing : List String → Stop
  | [] => .fault .nothing
  | text :: _ =>
    if subcommands.contains text then .fault (.unexpectedArgument text)
    else .fault (.unknownSubcommand text)

private def readHelp : List String → Stop
  | [] => .help
  | name :: below =>
    if subcommands.contains name then
      match below with
      | [] => .help
      | text :: _ => .fault (.unknownSubcommand text)
    else .fault (.unknownSubcommand name)

private def readLeadingLong (long : List Char) : Stop :=
  match Text.cutFirst '=' long with
  | some (name, value) =>
    if name = "help".toList then
      .fault (.unexpectedValue (String.ofList value) "--help")
    else .fault (.unexpectedArgument (String.ofList ('-' :: '-' :: name)))
  | none =>
    if long = "help".toList then .help
    else .fault (.unexpectedArgument (String.ofList ('-' :: '-' :: long)))

def read (environment : String → Option String) : List String → Except Stop PlanArguments
  | [] => .error (.fault .nothing)
  | "plan" :: arguments => readPlan environment arguments
  | "help" :: arguments => .error (readHelp arguments)
  | first :: rest =>
    match first.toList with
    | ['-', '-'] => .error (refuseTrailing rest)
    | '-' :: '-' :: long => .error (readLeadingLong long)
    | '-' :: letter :: _ =>
      if letter = 'h' then .error .help
      else .error (.fault (.unexpectedArgument (String.ofList ['-', letter])))
    | _ => .error (.fault (.unknownSubcommand first))

end AmqpHandshake.Cli
