import AmqpHandshake.Credential
import AmqpHandshake.Json.Value
import AmqpHandshake.Link.Service
import AmqpHandshake.Shape

/-! Reading links and authorization types from JSON. A variant is written as its name, or as an
object with the name as its only key. -/
namespace AmqpHandshake.Json

/-- What a value is, for the text of a fault. -/
def found : Json → Found
  | .null => .null
  | .boolean value => .boolean value
  | .integer value => .integer value
  | .float value => .float (value.text numberStyle)
  | .string text => .string text
  | .array _ => .sequence
  | .object _ => .map

def decodeString : Json → Except ShapeFault String
  | .string text => .ok text
  | other => .error (.wrongType other.found "a string")

/-- The name of a variant with its content, if it has any. -/
def variantOf : Json → Except ShapeFault (String × Option Json)
  | .string name => .ok (name, none)
  | .object [(name, content)] => .ok (name, some content)
  | .object _ => .error (.wrongValue .map "map with a single key")
  | other => .error (.wrongType other.found "string or map")

/-- A variant without content: none may be given, other than null. -/
def decodeUnit (value : α) : Option Json → Except ShapeFault α
  | none | some .null => .ok value
  | some other => .error (.wrongType other.found "unit")

def decodeRole (json : Json) : Except ShapeFault LinkRole := do
  match ← variantOf json with
  | ("sender", content) => decodeUnit .sender content
  | ("receiver", content) => decodeUnit .receiver content
  | (name, _) => throw (.unknownVariant name ["sender", "receiver"])

def decodeAuthorizationType (json : Json) : Except ShapeFault AuthorizationType := do
  match ← variantOf json with
  | ("shared_access_signature", content) => decodeUnit .sharedAccessSignature content
  | ("json_web_token", content) => decodeUnit .jsonWebToken content
  | (name, _) => throw (.unknownVariant name ["shared_access_signature", "json_web_token"])

private structure SpecFields where
  name : Option String
  address : Option String
  role : Option LinkRole

/-- Read one entry; a key that names no field is passed over. -/
private def SpecFields.read (fields : SpecFields) : String × Json → Except ShapeFault SpecFields
  | ("name", json) => do return { fields with name := some (← decodeString json) }
  | ("address", json) => do return { fields with address := some (← decodeString json) }
  | ("role", json) => do return { fields with role := some (← decodeRole json) }
  | _ => return fields

private def requiredField (name : String) : Option α → Except ShapeFault α
  | some value => .ok value
  | none => .error (.missingField name)

private def tooShort (length : Nat) : ShapeFault :=
  .wrongLength length "struct LinkSpec with 3 elements"

/-- A link, as an object with its fields or as an array of their values in order. -/
def decodeLinkSpec : Json → Except ShapeFault LinkSpec
  | .object entries => do
    let fields ← entries.foldlM SpecFields.read ⟨none, none, none⟩
    let name ← requiredField "name" fields.name
    let address ← requiredField "address" fields.address
    let role ← requiredField "role" fields.role
    return ⟨name, address, role⟩
  | .array [] => throw (tooShort 0)
  | .array [name] => do
    let _ ← decodeString name
    throw (tooShort 1)
  | .array [name, address] => do
    let _ ← decodeString name
    let _ ← decodeString address
    throw (tooShort 2)
  | .array (name :: address :: role :: more) => do
    let spec : LinkSpec :=
      ⟨← decodeString name, ← decodeString address, ← decodeRole role⟩
    if more.isEmpty then return spec
    else throw (.wrongLength (more.length + 3) "fewer elements in array")
  | other => .error (.wrongType other.found "struct LinkSpec")

def decodeServiceLink (json : Json) : Except ShapeFault ServiceLink := do
  match ← variantOf json with
  | ("cloud_to_device_messages", content) => decodeUnit .cloudToDeviceMessages content
  | ("feedback", content) => decodeUnit .feedback content
  | ("file_notifications", content) => decodeUnit .fileNotifications content
  | ("custom", some content) => .custom <$> decodeLinkSpec content
  | ("custom", none) => throw (.wrongType .unitVariant "newtype variant")
  | (name, _) =>
    throw (.unknownVariant name
      ["cloud_to_device_messages", "feedback", "file_notifications", "custom"])

end AmqpHandshake.Json
