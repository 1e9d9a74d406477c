import AmqpHandshake.Tls.Der

/-! Which bytes are accepted as the certificate of a trusted root. -/
namespace AmqpHandshake.Certificate

inductive Fault
  | badEncoding
  | signatureAlgorithmMismatch
  | extensionValueInvalid
deriving DecidableEq, Repr

private def other (name : String) : String :=
  "invalid peer certificate: Other(OtherError(" ++ name ++ "))"

def Fault.message : Fault → String
  | .badEncoding => "invalid peer certificate: BadEncoding"
  | .signatureAlgorithmMismatch => other "SignatureAlgorithmMismatch"
  | .extensionValueInvalid => other "ExtensionValueInvalid"

private def orBad : Option α → Except Fault α
  | some value => .ok value
  | none => .error .badEncoding

private def take (tag : Nat) (bytes : List UInt8) : Except Fault (List UInt8 × List UInt8) :=
  orBad (Der.expect tag bytes)

private def atEnd (bytes : List UInt8) : Except Fault Unit :=
  if bytes.isEmpty then .ok () else .error .badEncoding

/-- The last byte of the ids of extensions that are understood; they start with 2.5.29. -/
def knownExtensions : List UInt8 := [15, 17, 19, 30, 31, 37]

/-- The key usage extension, whose value is no sequence. -/
def keyUsage : UInt8 := 15

/-- The bytes behind the mark of a critical extension, which may be absent. A root is trusted
whatever its extensions ask for, so the mark itself decides nothing. -/
private def behindCriticality (bytes : List UInt8) : Except Fault (List UInt8) := do
  if bytes.head? ≠ some (UInt8.ofNat Der.boolean) then return bytes
  let (value, rest) ← take Der.boolean bytes
  match value with
  | [0xff] | [0x00] => return rest
  | _ => throw .badEncoding

/-- Remember an extension among those already seen. An understood one may not come twice; one that
is not understood is passed over. -/
private def remember (seen : List UInt8) (id value : List UInt8) :
    Except Fault (List UInt8) := do
  let known? : Option UInt8 := match id with
    | [0x55, 0x1d, last] => if knownExtensions.contains last then some last else none
    | _ => none
  match known? with
  | none => return seen
  | some last =>
    if seen.contains last then throw .extensionValueInvalid
    if last ≠ keyUsage then
      let _ ← orBad (Der.only Der.sequence value)
    return last :: seen

private def checkExtension (seen : List UInt8) (bytes : List UInt8) :
    Except Fault (List UInt8) := do
  let (id, rest) ← take Der.objectId bytes
  let rest ← behindCriticality rest
  let (value, rest) ← take Der.octetString rest
  let seen ← remember seen id value
  atEnd rest
  return seen

/-- The extensions checked one by one up to the first that is refused. Each takes bytes of its own,
so that as many steps as there are bytes are enough. -/
private def checkExtensionList : Nat → List UInt8 → List UInt8 → Except Fault Unit
  | _, _, [] => return
  | 0, _, _ => .error .badEncoding
  | fuel + 1, seen, bytes => do
    let (content, rest) ← take Der.sequence bytes
    let seen ← checkExtension seen content
    checkExtensionList fuel seen rest

/-- A certificate of version three, behind its version. -/
private def checkBody (algorithm bytes : List UInt8) : Except Fault Unit := do
  let (_, rest) ← take Der.integer bytes
  let (signature, rest) ← take Der.sequence rest
  if signature ≠ algorithm then throw .signatureAlgorithmMismatch
  let (_, rest) ← take Der.sequence rest
  let (_, rest) ← take Der.sequence rest
  let (_, rest) ← take Der.sequence rest
  let (_, rest) ← take Der.sequence rest
  if rest.isEmpty then return
  let (tagged, rest) ← take (Der.context 3) rest
  let (extensions, behind) ← take Der.sequence tagged
  checkExtensionList extensions.length [] extensions
  atEnd behind
  atEnd rest

/-- A certificate of version one, which has no version and no extensions. -/
private def isVersionOne (bytes : List UInt8) : Bool :=
  let check : Option Unit := do
    let outer ← Der.only Der.sequence bytes
    let (body, rest) ← Der.expect Der.sequence outer
    let (_, rest) ← Der.expect Der.sequence rest
    let _ ← Der.only Der.bitString rest
    let (_, body) ← Der.expect Der.integer body
    let (_, body) ← Der.expect Der.sequence body
    let (_, body) ← Der.expect Der.sequence body
    let (_, body) ← Der.expect Der.sequence body
    let (_, body) ← Der.expect Der.sequence body
    let _ ← Der.only Der.sequence body
  check.isSome

/-- The bytes behind the version, when it is the third. -/
private def versionThree? (body : List UInt8) : Option (List UInt8) := do
  let (tagged, rest) ← Der.expect (Der.context 0) body
  let version ← Der.only Der.integer tagged
  if version = [2] then some rest else none

def check (bytes : List UInt8) : Except Fault Unit := do
  let outer ← orBad (Der.only Der.sequence bytes)
  let (body, rest) ← take Der.sequence outer
  let (algorithm, rest) ← take Der.sequence rest
  match ← orBad (Der.only Der.bitString rest) with
  | 0 :: _ => pure ()
  | _ => throw .badEncoding
  match versionThree? body with
  | some rest => checkBody algorithm rest
  | none => if isVersionOne bytes then return else throw .badEncoding

end AmqpHandshake.Certificate
