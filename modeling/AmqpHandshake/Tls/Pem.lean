import AmqpHandshake.Text.Base64
import AmqpHandshake.Text.Inspect
import AmqpHandshake.Text.Utf8

/-! PEM bundles: certificates in Base64 between lines that mark their start and end. -/
namespace AmqpHandshake.Pem

inductive Fault
  /-- A start mark that does not close with five dashes. -/
  | illegalStart (line : List UInt8)
  /-- The end of the file inside a section. -/
  | missingEnd (label : List UInt8)
  | badBase64 (fault : Base64.Fault)
deriving DecidableEq

private def shown (bytes : List UInt8) : String :=
  Text.quoted (String.ofList (Utf8.decodeLossy bytes))

def Fault.message : Fault → String
  | .illegalStart line => "illegal section start: " ++ shown line
  | .missingEnd label => "section end " ++ shown label ++ " missing"
  | .badBase64 fault => fault.message

/-- What a bundle holds: certificates in order, up to the end or to a fault. -/
structure Reading where
  certificates : List (List UInt8)
  fault : Option Fault
deriving DecidableEq

private def isLineEnd (byte : UInt8) : Bool := byte == 10 || byte == 13

/-- The lines of a file. Each keeps the one line feed or carriage return that ends it. -/
def lines : List UInt8 → List (List UInt8)
  | [] => []
  | byte :: rest =>
    if isLineEnd byte then [byte] :: lines rest
    else match lines rest with
      | [] => [[byte]]
      | line :: more => (byte :: line) :: more

private def startMark : List UInt8 := Utf8.encode "-----BEGIN "

private def endMark (label : List UInt8) : List UInt8 :=
  Utf8.encode "-----END " ++ label ++ Utf8.encode "-----"

/-- The sections that are understood. All others are passed over without decoding. -/
def knownLabels : List (List UInt8) :=
  ["CERTIFICATE", "PUBLIC KEY", "RSA PRIVATE KEY", "PRIVATE KEY", "EC PRIVATE KEY", "X509 CRL",
    "CERTIFICATE REQUEST", "ECHCONFIG"].map Utf8.encode

private def dash : UInt8 := 45

private def isClosing (byte : UInt8) : Bool := byte == dash || isLineEnd byte || byte == 32

/-- The label of a start mark: dashes that close it may have blanks between and behind them. -/
def startLabel (line : List UInt8) : Except Fault (List UInt8) :=
  let closing := line.reverse.takeWhile isClosing
  if closing.count dash = 5 then
    let blanks := (closing.reverse.takeWhile (· ≠ dash)).length
    .ok ((line.take (line.length - closing.length + blanks)).drop startMark.length)
  else .error (.illegalStart line)

/-- Read lines on, inside a section if it has a label, with the Base64 collected so far. A new
start mark renames the section and keeps what was collected. -/
def readLines : Option (List UInt8) → List UInt8 → List (List UInt8) → Reading
  | none, _, [] => ⟨[], none⟩
  | some label, _, [] => ⟨[], some (.missingEnd label)⟩
  | label?, body, line :: more =>
    if startMark.isPrefixOf line then
      match startLabel line with
      | .ok label => readLines (some label) body more
      | .error fault => ⟨[], some fault⟩
    else match label? with
      | none => readLines none body more
      | some label =>
        if (endMark label).isPrefixOf line then
          if knownLabels.contains label then
            match Base64.decode body with
            | .error fault => ⟨[], some (.badBase64 fault)⟩
            | .ok bytes =>
              let rest := readLines none [] more
              if label = Utf8.encode "CERTIFICATE" then
                { rest with certificates := bytes :: rest.certificates }
              else rest
          else readLines none [] more
        else readLines (some label) (body ++ line) more

def read (bytes : List UInt8) : Reading := readLines none [] (lines bytes)

end AmqpHandshake.Pem
