import AmqpHandshake.Text.Inspect

/-! Faults found when a value of a data format is read as a domain value: a value of another kind,
a missing field, an unknown variant. The wording is shared by all formats. -/
namespace AmqpHandshake

/-- What stood where something else was expected. -/
inductive Found
  | null
  | boolean (value : Bool)
  | integer (value : Int)
  | float (text : String)
  | string (text : String)
  | unitVariant
  | sequence
  | map
deriving DecidableEq, Repr

def Found.describe : Found → String
  | .null => "null"
  | .boolean value => "boolean `" ++ (if value then "true" else "false") ++ "`"
  | .integer value => "integer `" ++ toString value ++ "`"
  | .float text => "floating point `" ++ text ++ "`"
  | .string text => "string " ++ Text.quoted text
  | .unitVariant => "unit variant"
  | .sequence => "sequence"
  | .map => "map"

/-- Why a well-formed value of a data format is not the domain value asked for. -/
inductive ShapeFault
  | wrongType (found : Found) (expected : String)
  | wrongValue (found : Found) (expected : String)
  | wrongLength (length : Nat) (expected : String)
  | unknownVariant (name : String) (known : List String)
  | missingField (name : String)
  /-- A variant that is written neither as text nor as a table. -/
  | neitherTextNorTable
  | noVariant
  | severalVariants
  | contentGiven (expected : String)
deriving DecidableEq, Repr

private def inTicks (text : String) : String := "`" ++ text ++ "`"

/-- One name, two names with "or" between, or a list. -/
private def alternatives : List String → String
  | [] => "there are no variants"
  | [only] => "expected " ++ inTicks only
  | [one, other] => "expected " ++ inTicks one ++ " or " ++ inTicks other
  | names => "expected one of " ++ ", ".intercalate (names.map inTicks)

def ShapeFault.message : ShapeFault → String
  | .wrongType found expected => "invalid type: " ++ found.describe ++ ", expected " ++ expected
  | .wrongValue found expected => "invalid value: " ++ found.describe ++ ", expected " ++ expected
  | .wrongLength length expected =>
    "invalid length " ++ toString length ++ ", expected " ++ expected
  | .unknownVariant name known =>
    "unknown variant " ++ inTicks name ++ ", " ++ alternatives known
  | .missingField name => "missing field " ++ inTicks name
  | .neitherTextNorTable => "wanted string or table"
  | .noVariant => "wanted exactly 1 element, found 0 elements"
  | .severalVariants => "wanted exactly 1 element, more than 1 element"
  | .contentGiven expected => "expected " ++ expected

end AmqpHandshake
