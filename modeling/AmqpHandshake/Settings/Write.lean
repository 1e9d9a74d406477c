import AmqpHandshake.Settings.Basic
import AmqpHandshake.Toml.Text

/-! Writing settings as a TOML document. -/
namespace AmqpHandshake.Settings

/-- The largest timeout that the file format can hold. -/
def maxTimeout : Nat := Nat.pow 2 63 - 1

/-- A key with a value that is written already. -/
def line (key value : String) : String := key ++ " = " ++ value ++ "\n"

def textLine (key value : String) : String :=
  line key (String.ofList (Toml.writeText value.toList))

def textLine? (key : String) : Option String → String
  | some value => textLine key value
  | none => ""

/-- A header, behind an empty line. -/
def header (name : String) : String := "\n[" ++ name ++ "]\n"

def serviceLinkLine : Option ServiceLink → String
  | none | some (.custom _) => ""
  | some link => textLine "service_link" link.name

def proxyTable : Option ProxyOptions → String
  | none => ""
  | some proxy =>
    header "proxy" ++ textLine "host" proxy.host ++ line "port" (toString proxy.port.toNat) ++
      textLine? "username" proxy.username ++ textLine? "password" proxy.password

def customLinkTable : Option ServiceLink → String
  | some (.custom spec) =>
    header "service_link.custom" ++ textLine "name" spec.name ++
      textLine "address" spec.address ++ textLine "role" spec.role.name
  | _ => ""

/-- The document: single values first, then the tables. -/
def document (settings : Settings) : String :=
  textLine "host_name" settings.hostName ++ textLine "protocol" settings.protocol.name ++
    textLine? "user_name" settings.userName ++ textLine? "sas_token" settings.sasToken ++
    textLine? "ca_bundle" settings.caBundle ++ serviceLinkLine settings.serviceLink ++
    line "timeout_secs" (toString settings.timeoutSecs.toNat) ++ proxyTable settings.proxy ++
    customLinkTable settings.serviceLink

/-- The text of a settings file. A timeout that is too large has none. -/
def fileText (settings : Settings) : Except SettingsFault String :=
  if settings.timeoutSecs.toNat ≤ maxTimeout then .ok settings.document
  else .error .timeoutOutOfRange

end AmqpHandshake.Settings
