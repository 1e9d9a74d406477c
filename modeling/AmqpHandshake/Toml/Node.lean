import AmqpHandshake.Decimal.Shortest

/-! The tree of a TOML document. Entries keep the order in which they were first written. -/
namespace AmqpHandshake.Toml

/-- Numbers are shown with every digit in its place; a tie between two shortest decimals goes to the
greater one. -/
def numberStyle : NumberStyle := ⟨.away, none⟩

/-- A value without parts. The text of a date or time is not kept. -/
inductive Scalar
  | string (text : String)
  | integer (value : Int)
  | float (value : Binary64)
  | boolean (value : Bool)
  | moment
deriving DecidableEq, Repr

/-- How a table came to be. -/
inductive TableKind
  | header
  /-- On the way to a table with a header. -/
  | implicit
  | dotted
deriving DecidableEq, Repr

inductive Node
  | scalar (value : Scalar)
  | array (elements : List Node)
  /-- A table in braces. One made by a dotted key in braces may still grow. -/
  | inlineTable (kind : TableKind) (entries : List (String × Node))
  | table (kind : TableKind) (entries : List (String × Node))
  /-- An array whose elements are tables with headers. -/
  | tables (elements : List (List (String × Node)))
deriving Repr

/-- Keys with their nodes. -/
abbrev Entries := List (String × Node)

namespace Entries

def find? (entries : Entries) (key : String) : Option Node :=
  (List.find? (fun entry => entry.1 = key) entries).map Prod.snd

def erase (entries : Entries) (key : String) : Entries :=
  List.filter (fun entry => entry.1 ≠ key) entries

def replace (entries : Entries) (key : String) (node : Node) : Entries :=
  List.map (fun entry => if entry.1 = key then (key, node) else entry) entries

/-- Add a new key at the end. A key that is there already is refused. -/
def add? (entries : Entries) (key : String) (node : Node) : Option Entries :=
  match entries.find? key with
  | none => some (entries ++ [(key, node)])
  | some _ => none

end Entries

end AmqpHandshake.Toml
