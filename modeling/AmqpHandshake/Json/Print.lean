import AmqpHandshake.Json.Value
import AmqpHandshake.Text.Numeral

/-! JSON text over several lines, indented by two spaces a level. -/
namespace AmqpHandshake.Json

/-- One character inside a JSON string. Only quote, backslash and control characters are escaped. -/
def escape (c : Char) : String :=
  if c = '"' then "\\\""
  else if c = '\\' then "\\\\"
  else if c = '\n' then "\\n"
  else if c = '\r' then "\\r"
  else if c = '\t' then "\\t"
  else if c.toNat = 8 then "\\b"
  else if c.toNat = 12 then "\\f"
  else if c.toNat < 32 then "\\u" ++ Text.paddedHex 4 c.toNat
  else c.toString

def quoted (text : String) : String :=
  "\"" ++ String.join (text.toList.map escape) ++ "\""

private def line (depth : Nat) : String := "\n" ++ String.ofList (List.replicate (2 * depth) ' ')

/-- Entries on lines of their own between two brackets; nothing stands between them when empty. -/
private def enclose (depth : Nat) (opening closing : String) (entries : List String) : String :=
  if entries.isEmpty then opening ++ closing
  else opening ++ ",".intercalate (entries.map (line (depth + 1) ++ ·)) ++ line depth ++ closing

mutual

def printAt (depth : Nat) : Json → String
  | .null => "null"
  | .boolean value => if value then "true" else "false"
  | .integer value => toString value
  | .float value => value.text numberStyle
  | .string text => quoted text
  | .array elements => enclose depth "[" "]" (printElements (depth + 1) elements)
  | .object entries => enclose depth "\x7b" "\x7d" (printEntries (depth + 1) entries)

def printElements (depth : Nat) : List Json → List String
  | [] => []
  | element :: more => printAt depth element :: printElements depth more

def printEntries (depth : Nat) : List (String × Json) → List String
  | [] => []
  | (key, value) :: more =>
    (quoted key ++ ": " ++ printAt depth value) :: printEntries depth more

end

def print (value : Json) : String := printAt 0 value

end AmqpHandshake.Json
