import AmqpHandshake.Toml.Value

/-! TOML documents: lines, sections, and the tree they stand for. -/
namespace AmqpHandshake.Toml

/-- A line that says something. -/
inductive Line
  | entry (path : List String) (value : Node)
  | header (path : List String)
  | arrayHeader (path : List String)
deriving Repr

/-- Line ends of two characters become single line feeds. -/
def unifyLineEnds : List Char → List Char
  | '\r' :: '\n' :: rest => '\n' :: unifyLineEnds rest
  | c :: rest => c :: unifyLineEnds rest
  | [] => []

/-- The text behind the end of a line, where a comment may stand before it. -/
def endLine? (text : List Char) : Option (List Char) :=
  let text := skipGap text
  let text := if text.head? = some '#' then text.dropWhile isCommentCharacter else text
  match text with
  | [] => some []
  | '\n' :: rest => some rest
  | _ => none

/-- How deep values may be nested. -/
def depthLimit : Nat := 79

/-- A line that says something, with the text behind its content. -/
def readLine? : List Char → Option (Line × List Char)
  | '[' :: '[' :: rest => do
    let (path, rest) ← readKey? (partLimit - 1) rest
    match rest with
    | ']' :: ']' :: rest => return (.arrayHeader path, rest)
    | _ => none
  | '[' :: rest => do
    let (path, rest) ← readKey? (partLimit - 1) rest
    match rest with
    | ']' :: rest => return (.header path, rest)
    | _ => none
  | text => do
    let ((path, value), rest) ← readEntry? (readValue? depthLimit) text
    return (.entry path value, rest)

def readLines? : Nat → List Char → Option (List Line)
  | 0, _ => none
  | fuel + 1, text =>
    let text := skipGap text
    match text with
    | [] => some []
    | '\n' :: rest => readLines? fuel rest
    | '#' :: _ => do
      let rest ← endLine? text
      readLines? fuel rest
    | _ => do
      let (line, rest) ← readLine? text
      let rest ← endLine? rest
      let lines ← readLines? fuel rest
      return line :: lines

/-- A header and the entries below it. -/
structure Block where
  repeated : Bool
  path : List String
  entries : List (List String × Node)
deriving Repr

/-- Gather lines below their headers. The entries in front of the first header come alone. -/
def blocks : List Line → List (List String × Node) × List Block
  | [] => ([], [])
  | line :: more =>
    let (front, rest) := blocks more
    match line with
    | .entry path value => ((path, value) :: front, rest)
    | .header path => ([], ⟨false, path, front⟩ :: rest)
    | .arrayHeader path => ([], ⟨true, path, front⟩ :: rest)

/-- Change the table at a path. Missing tables are made on the way; an array of tables stands for
its last element. A dotted key may not enter a table that has a header. -/
def within (dotted : Bool) (change : TableKind → Entries → Option Entries) :
    List String → TableKind → Entries → Option Entries
  | [], kind, entries => change kind entries
  | key :: path, _, entries =>
    match entries.find? key with
    | none => do
      let kind := if dotted then TableKind.dotted else .implicit
      let inner ← within dotted change path kind []
      return entries ++ [(key, .table kind inner)]
    | some (.table kind inner) =>
      if dotted ∧ kind = .header then none
      else do
        let inner ← within dotted change path kind inner
        return entries.replace key (.table kind inner)
    | some (.tables elements) =>
      match elements.reverse with
      | [] => none
      | last :: before => do
        let last ← within dotted change path .header last
        return entries.replace key (.tables (before.reverse ++ [last]))
    | some _ => none

/-- Add one entry to a table. Only a table made by dotted keys grows by dotted keys. -/
def addEntry? (entries : Entries) (entry : List String × Node) : Option Entries :=
  match entry.1.reverse with
  | [] => none
  | key :: before =>
    within true
      (fun kind inner =>
        if decide (kind = .dotted) == before.isEmpty then none else inner.add? key entry.2)
      before.reverse .header entries

/-- Add a table with a header. It takes over an implicit table of that name, at the end. -/
def addTable? (key : String) (entries : List (List String × Node)) (parent : Entries) :
    Option Entries := do
  let inner ← match parent.find? key with
    | none => some []
    | some (.table .implicit inner) => some inner
    | some _ => none
  let body ← entries.foldlM addEntry? inner
  return parent.erase key ++ [(key, .table .header body)]

/-- Add an element to an array of tables. -/
def addElement? (key : String) (entries : List (List String × Node)) (parent : Entries) :
    Option Entries := do
  let body ← entries.foldlM addEntry? []
  match parent.find? key with
  | none => return parent ++ [(key, .tables [body])]
  | some (.tables elements) => return parent.replace key (.tables (elements ++ [body]))
  | some _ => none

/-- Add a block below its header. -/
def addBlock? (root : Entries) (block : Block) : Option Entries :=
  match block.path.reverse with
  | [] => none
  | key :: before =>
    within false
      (fun _ parent =>
        if block.repeated then addElement? key block.entries parent
        else addTable? key block.entries parent)
      before.reverse .header root

/-- The tree that lines stand for. -/
def treeOf? (lines : List Line) : Option Entries := do
  let (front, rest) := blocks lines
  let root ← front.foldlM addEntry? []
  rest.foldlM addBlock? root

def byteOrderMark : Char := Char.ofNat 0xfeff

def read? (text : List Char) : Option Entries := do
  let text := unifyLineEnds text
  let text := if text.head? = some byteOrderMark then text.drop 1 else text
  treeOf? (← readLines? (text.length + 1) text)

end AmqpHandshake.Toml
