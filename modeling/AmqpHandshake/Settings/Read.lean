import AmqpHandshake.Settings.Basic
import AmqpHandshake.Toml.Node

/-! Reading settings from the tree of a TOML document. Entries are taken in their order, so that
the first fault is told; keys that name no field are passed over. -/
namespace AmqpHandshake

namespace Toml.Node

/-- What a node is, for the text of a fault. A date or time passes for a map. -/
def found : Node → Found
  | .scalar (.string text) => .string text
  | .scalar (.integer value) => .integer value
  | .scalar (.float value) => .float (value.text numberStyle)
  | .scalar (.boolean value) => .boolean value
  | .scalar .moment => .map
  | .array _ | .tables _ => .sequence
  | .inlineTable _ _ | .table _ _ => .map

/-- The entries of a table. A date or time has none that are known. -/
def entries? : Node → Option Entries
  | .inlineTable _ entries | .table _ entries => some entries
  | .scalar .moment => some []
  | _ => none

/-- The elements of an array. -/
def elements? : Node → Option (List Node)
  | .array elements => some elements
  | .tables elements => some (elements.map (.table .header))
  | _ => none

end Toml.Node

namespace Settings.Read

open Toml (Node Entries)

def text (node : Node) : Except ShapeFault String :=
  match node with
  | .scalar (.string text) => .ok text
  | other => .error (.wrongType other.found "a string")

def path (node : Node) : Except ShapeFault String :=
  match node with
  | .scalar (.string text) => .ok text
  | other => .error (.wrongType other.found "path string")

/-- A number within a range that starts at zero. -/
def natural (limit : Nat) (kind : String) (node : Node) : Except ShapeFault Nat :=
  match node with
  | .scalar (.integer value) =>
    if 0 ≤ value ∧ value < limit then .ok value.toNat
    else .error (.wrongValue (.integer value) kind)
  | other => .error (.wrongType other.found kind)

def port (node : Node) : Except ShapeFault UInt16 := UInt16.ofNat <$> natural UInt16.size "u16" node

def seconds (node : Node) : Except ShapeFault UInt64 := UInt64.ofNat <$> natural UInt64.size "u64" node

/-- The name of a variant with its content, if it has any. -/
def variantOf : Node → Except ShapeFault (String × Option Node)
  | .scalar (.string name) => .ok (name, none)
  | .inlineTable _ entries | .table _ entries =>
    match entries with
    | [] => .error .noVariant
    | [(name, content)] => .ok (name, some content)
    | _ => .error .severalVariants
  | _ => .error .neitherTextNorTable

/-- The kind of a value without parts. -/
private def kindName : Toml.Scalar → String
  | .string _ => "string"
  | .integer _ => "integer"
  | .float _ => "float"
  | .boolean _ => "boolean"
  | .moment => "datetime"

/-- A variant without content: none may be given, other than an empty table or array. -/
def unit (value : α) : Option Node → Except ShapeFault α
  | none => .ok value
  | some (.array elements) =>
    if elements.isEmpty then .ok value else .error (.contentGiven "empty table")
  | some (.inlineTable _ entries) | some (.table _ entries) =>
    if entries.isEmpty then .ok value else .error (.contentGiven "empty table")
  | some (.tables elements) =>
    if elements.isEmpty then .ok value else .error (.contentGiven "empty array")
  | some (.scalar other) => .error (.contentGiven ("table, found " ++ kindName other))

def protocol (node : Node) : Except ShapeFault Protocol := do
  match ← variantOf node with
  | ("amqps", content) => unit .amqps content
  | ("amqps_ws", content) => unit .amqpsWs content
  | (name, _) => throw (.unknownVariant name ["amqps", "amqps_ws"])

def role (node : Node) : Except ShapeFault LinkRole := do
  match ← variantOf node with
  | ("sender", content) => unit .sender content
  | ("receiver", content) => unit .receiver content
  | (name, _) => throw (.unknownVariant name ["sender", "receiver"])

def required (name : String) : Option α → Except ShapeFault α
  | some value => .ok value
  | none => .error (.missingField name)

structure SpecFields where
  name : Option String
  address : Option String
  role : Option LinkRole

def SpecFields.read (fields : SpecFields) : String × Node → Except ShapeFault SpecFields
  | ("name", node) => do return { fields with name := some (← text node) }
  | ("address", node) => do return { fields with address := some (← text node) }
  | ("role", node) => do return { fields with role := some (← Read.role node) }
  | _ => return fields

def SpecFields.finish (fields : SpecFields) : Except ShapeFault LinkSpec := do
  let name ← required "name" fields.name
  let address ← required "address" fields.address
  let role ← required "role" fields.role
  return ⟨name, address, role⟩

private def specTooShort (length : Nat) : ShapeFault :=
  .wrongLength length "struct LinkSpec with 3 elements"

/-- A link, as a table or as an array of its fields. -/
def linkSpec (node : Node) : Except ShapeFault LinkSpec := do
  match node.entries?, node.elements? with
  | some entries, _ => (← entries.foldlM SpecFields.read ⟨none, none, none⟩).finish
  | none, some elements =>
    let name ← elements[0]?.elim (throw (specTooShort 0)) text
    let address ← elements[1]?.elim (throw (specTooShort 1)) text
    let role ← elements[2]?.elim (throw (specTooShort 2)) role
    return ⟨name, address, role⟩
  | none, none => throw (.wrongType node.found "struct LinkSpec")

def serviceLink (node : Node) : Except ShapeFault ServiceLink := do
  match ← variantOf node with
  | ("cloud_to_device_messages", content) => unit .cloudToDeviceMessages content
  | ("feedback", content) => unit .feedback content
  | ("file_notifications", content) => unit .fileNotifications content
  | ("custom", some content) => .custom <$> linkSpec content
  | ("custom", none) => throw (.wrongType .unitVariant "newtype variant")
  | (name, _) =>
    throw (.unknownVariant name
      ["cloud_to_device_messages", "feedback", "file_notifications", "custom"])

structure ProxyFields where
  host : Option String
  port : Option UInt16
  username : Option String
  password : Option String

def ProxyFields.read (fields : ProxyFields) :
    String × Node → Except ShapeFault ProxyFields
  | ("host", node) => do return { fields with host := some (← text node) }
  | ("port", node) => do return { fields with port := some (← Read.port node) }
  | ("username", node) => do return { fields with username := some (← text node) }
  | ("password", node) => do return { fields with password := some (← text node) }
  | _ => return fields

def ProxyFields.finish (fields : ProxyFields) : Except ShapeFault ProxyOptions := do
  let host ← required "host" fields.host
  let port ← required "port" fields.port
  return ⟨host, port, fields.username, fields.password⟩

private def proxyTooShort (length : Nat) : ShapeFault :=
  .wrongLength length "struct ProxyOptions with 4 elements"

/-- A proxy, as a table or as an array of its fields. -/
def proxy (node : Node) : Except ShapeFault ProxyOptions := do
  match node.entries?, node.elements? with
  | some entries, _ => (← entries.foldlM ProxyFields.read ⟨none, none, none, none⟩).finish
  | none, some elements =>
    let host ← elements[0]?.elim (throw (proxyTooShort 0)) text
    let port ← elements[1]?.elim (throw (proxyTooShort 1)) port
    let username ← elements[2]?.mapM text
    let password ← elements[3]?.mapM text
    return ⟨host, port, username, password⟩
  | none, none => throw (.wrongType node.found "struct ProxyOptions")

/-- Take one entry of the document. -/
def entry (settings : Settings) : String × Node → Except ShapeFault Settings
  | ("host_name", node) => do return { settings with hostName := ← text node }
  | ("protocol", node) => do return { settings with protocol := ← protocol node }
  | ("user_name", node) => do return { settings with userName := some (← text node) }
  | ("sas_token", node) => do return { settings with sasToken := some (← text node) }
  | ("proxy", node) => do return { settings with proxy := some (← proxy node) }
  | ("ca_bundle", node) => do return { settings with caBundle := some (← path node) }
  | ("service_link", node) => do return { settings with serviceLink := some (← serviceLink node) }
  | ("timeout_secs", node) => do return { settings with timeoutSecs := ← seconds node }
  | _ => return settings

end Settings.Read

/-- The settings that a document stands for. Fields that are absent take their defaults. -/
def Settings.ofEntries (entries : Toml.Entries) : Except ShapeFault Settings :=
  entries.foldlM Settings.Read.entry {}

end AmqpHandshake
