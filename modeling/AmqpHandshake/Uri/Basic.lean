import AmqpHandshake.Uri.Authority

/-! Absolute URIs: a scheme, an authority, a path and a query. A fragment is dropped. -/
namespace AmqpHandshake

structure Uri where
  scheme : String
  authority : List Char
  path : List Char
  query : Option (List Char)
deriving DecidableEq, Repr

namespace Uri

def maxBytes : Nat := 65534

/-- What a path may hold. Everything beyond ASCII stands as it is. -/
def isPathCharacter (c : Char) : Bool :=
  let n := c.toNat
  n == 0x21 || n == 0x22 || (0x24 ≤ n && n ≤ 0x3b) || n == 0x3d || (0x40 ≤ n && n ≤ 0x5f) ||
    (0x61 ≤ n && n ≠ 0x7f)

def isQueryCharacter (c : Char) : Bool :=
  let n := c.toNat
  n == 0x21 || (0x24 ≤ n && n ≤ 0x3b) || n == 0x3d || (0x3f ≤ n && n ≠ 0x7f)

/-- The query after its question mark, up to a fragment. -/
private def parseQuery (text : List Char) : Except UriFault (List Char) :=
  let query := text.takeWhile (· ≠ '#')
  if query.all isQueryCharacter then .ok query else .error .invalidCharacter

/-- Path and query behind an authority. -/
def parsePath (text : List Char) : Except UriFault (List Char × Option (List Char)) :=
  let path := text.takeWhile fun c => c ≠ '?' ∧ c ≠ '#'
  if !path.all isPathCharacter then .error .invalidCharacter
  else match text.dropWhile fun c => c ≠ '?' ∧ c ≠ '#' with
    | '?' :: rest => do return (path, some (← parseQuery rest))
    | _ => .ok (path, none)

/-- Read a URI given by its scheme and the text behind `://`. -/
def parse (scheme rest : String) : Except UriFault Uri := do
  if (scheme ++ "://" ++ rest).utf8ByteSize > maxBytes then throw .tooLong
  let (authority, rest) ← Authority.split rest.toList
  if authority.isEmpty then throw .invalidFormat
  let (path, query) ← parsePath rest
  return { scheme, authority, path, query }

/-- The path, where an empty one stands for the root. -/
def pathText (uri : Uri) : String := if uri.path.isEmpty then "/" else String.ofList uri.path

def text (uri : Uri) : String :=
  uri.scheme ++ "://" ++ String.ofList uri.authority ++ uri.pathText ++
    match uri.query with
    | some query => "?" ++ String.ofList query
    | none => ""

end Uri

end AmqpHandshake
