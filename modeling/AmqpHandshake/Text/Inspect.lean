import AmqpHandshake.Text.GraphemeExtend
import AmqpHandshake.Text.Numeral
import AmqpHandshake.Text.Printable

/-! The inspection form of values: quoted text, records and optional values, as diagnostics show
them. -/
namespace AmqpHandshake.Text

/-- A character by its code point, as in `\u` followed by braces around hexadecimal digits. -/
def codePointEscape (c : Char) : String := "\\u\x7b" ++ inBase 16 c.toNat ++ "\x7d"

/-- One character inside quoted text. A joining mark is escaped, since it would join the quote. -/
def escapeQuoted (c : Char) : String :=
  if c = '"' then "\\\""
  else if c = '\\' then "\\\\"
  else if c = '\n' then "\\n"
  else if c = '\r' then "\\r"
  else if c = '\t' then "\\t"
  else if c.toNat = 0 then "\\0"
  else if isGraphemeExtend c then codePointEscape c
  else if isPrintable c then c.toString
  else codePointEscape c

/-- Text in double quotes, with everything unprintable escaped. -/
def quoted (text : String) : String :=
  "\"" ++ String.join (text.toList.map escapeQuoted) ++ "\""

/-- A variant with one unnamed part. -/
def variant (name content : String) : String := name ++ "(" ++ content ++ ")"

def optional (inspect : α → String) : Option α → String
  | none => "None"
  | some value => variant "Some" (inspect value)

private def fieldList (fields : List (String × String)) : String :=
  ", ".intercalate (fields.map fun (name, value) => name ++ ": " ++ value)

/-- A record with all its fields. -/
def record (name : String) (fields : List (String × String)) : String :=
  name ++ " \x7b " ++ fieldList fields ++ " \x7d"

/-- A record that shows some of its fields and tells that there are more. -/
def recordOpen (name : String) (fields : List (String × String)) : String :=
  name ++ " \x7b " ++ fieldList fields ++ ", .. \x7d"

/-- What stands in place of a secret. -/
def redacted : String := quoted "<redacted>"

end AmqpHandshake.Text
