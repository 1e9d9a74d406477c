import AmqpHandshake.Toml.Number
import AmqpHandshake.Toml.Text

/-! Keys and values of TOML, arrays and inline tables among them. -/
namespace AmqpHandshake.Toml

def isGap (c : Char) : Bool := c = ' ' || c = '\t'

def skipGap (text : List Char) : List Char := text.dropWhile isGap

def isCommentCharacter (c : Char) : Bool := isPlain c

/-- The text behind blanks, line ends and comments. A comment runs to the end of its line. -/
def skipTrivia (inComment : Bool) : List Char → Option (List Char)
  | [] => if inComment then none else some []
  | c :: rest =>
    if inComment then
      if c = '\n' then skipTrivia false rest
      else if isCommentCharacter c then skipTrivia true rest
      else none
    else if isGap c || c = '\n' then skipTrivia false rest
    else if c = '#' then skipTrivia true rest
    else some (c :: rest)

/-- What a key without marks is made of. -/
def isBareKey (c : Char) : Bool := c.isAlphanum || c = '_' || c = '-'

/-- One part of a key: a bare word or a string on one line. -/
def readName? (text : List Char) : Option (String × List Char) :=
  let bare := text.takeWhile isBareKey
  if bare.isEmpty then
    (readLineText? text).map fun (name, rest) => (String.ofList name, rest)
  else some (String.ofList bare, text.dropWhile isBareKey)

/-- A key has fewer parts than this. -/
def partLimit : Nat := 80

/-- A key of so many parts at most, with points and blanks between them. -/
def readKey? : Nat → List Char → Option (List String × List Char)
  | 0, _ => none
  | parts + 1, text => do
    let (name, rest) ← readName? (skipGap text)
    match skipGap rest with
    | '.' :: rest => do
      let (names, rest) ← readKey? parts rest
      return (name :: names, rest)
    | rest => return ([name], rest)

/-- A key, the equals sign and the value behind it. -/
def readEntry? (value : List Char → Option (Node × List Char)) (text : List Char) :
    Option ((List String × Node) × List Char) := do
  let (names, rest) ← readKey? (partLimit - 1) text
  match rest with
  | '=' :: rest => do
    let (node, rest) ← value (skipGap rest)
    return ((names, node), rest)
  | _ => none

/-- The elements of an array, with a comma behind the last if one stands there. -/
def readElements? (value : List Char → Option (Node × List Char)) :
    Nat → List Char → Option (List Node × List Char)
  | 0, _ => none
  | fuel + 1, text => do
    match ← skipTrivia false text with
    | ']' :: rest => return ([], rest)
    | text => do
      let (node, rest) ← value text
      match ← skipTrivia false rest with
      | ',' :: rest => do
        let (nodes, rest) ← readElements? value fuel rest
        return (node :: nodes, rest)
      | ']' :: rest => return ([node], rest)
      | _ => none

/-- The entries of an inline table, none of them empty. -/
def readPairs? (value : List Char → Option (Node × List Char)) :
    Nat → List Char → Option (List (List String × Node) × List Char)
  | 0, _ => none
  | fuel + 1, text => do
    let (pair, rest) ← readEntry? value text
    match skipGap rest with
    | ',' :: rest => do
      let (pairs, rest) ← readPairs? value fuel rest
      return (pair :: pairs, rest)
    | '\x7d' :: rest => return ([pair], rest)
    | _ => none

/-- Put a node at a path of keys in braces. Tables on the way are made by dotted keys only. -/
def addInline? (node : Node) : List String → Bool → Entries → Option Entries
  | [], _, _ => none
  | [key], dotted, entries => if dotted then entries.add? key node else none
  | key :: path, _, entries =>
    match entries.find? key with
    | none => do
      let inner ← addInline? node path true []
      return entries ++ [(key, .inlineTable .dotted inner)]
    | some (.inlineTable .dotted inner) => do
      let inner ← addInline? node path true inner
      return entries.replace key (.inlineTable .dotted inner)
    | some _ => none

/-- Put a node directly into a table in braces, or at a path below it. -/
def addPair? (entries : Entries) (pair : List String × Node) : Option Entries :=
  match pair with
  | ([key], node) => entries.add? key node
  | (path, node) => addInline? node path false entries

/-- The entries of an inline table, behind its opening brace. -/
def readInlineTable? (value : List Char → Option (Node × List Char)) (text : List Char) :
    Option (Node × List Char) :=
  match skipGap text with
  | '\x7d' :: rest => some (.inlineTable .header [], rest)
  | _ => do
    let (pairs, rest) ← readPairs? value (text.length + 1) text
    let entries ← pairs.foldlM addPair? []
    return (.inlineTable .header entries, rest)

/-- A value that holds no other values. -/
def readScalar? (text : List Char) : Option (Node × List Char) :=
  match text with
  | [] => none
  | c :: _ =>
    if c = '"' ∨ c = '\x27' then
      (readText? text).map fun (content, rest) =>
        (.scalar (.string (String.ofList content)), rest)
    else (readToken? text).map fun (value, rest) => (.scalar value, rest)

/-- A value with arrays and inline tables nested up to a depth. -/
def readValue? : Nat → List Char → Option (Node × List Char)
  | 0, text => readScalar? text
  | depth + 1, text =>
    match text with
    | '[' :: rest => do
      let (nodes, rest) ← readElements? (readValue? depth) (rest.length + 1) rest
      return (.array nodes, rest)
    | '\x7b' :: rest => readInlineTable? (readValue? depth) rest
    | text => readScalar? text

end AmqpHandshake.Toml
