import AmqpHandshake.Text.Cut
import AmqpHandshake.Text.Numeral

/-! The authority of a URI: the characters it may hold, and its host and port. -/
namespace AmqpHandshake

inductive UriFault
  | empty
  | tooLong
  | invalidCharacter
  | invalidAuthority
  | invalidFormat
deriving DecidableEq, Repr

def UriFault.message : UriFault → String
  | .empty => "empty string"
  | .tooLong => "uri too long"
  | .invalidCharacter => "invalid uri character"
  | .invalidAuthority => "invalid authority"
  | .invalidFormat => "invalid format"

namespace Authority

/-- The characters that end an authority. -/
def endsAuthority (c : Char) : Bool := c = '/' || c = '?' || c = '#'

/-- Letters, digits and the marks that have no role of their own in an authority. -/
def isPlain (c : Char) : Bool := c.isAlphanum || "!$&'()*+,-.;=_~".toList.contains c

/-- What has been seen of an authority. Colons and percent signs of a user name or of a bracketed
address do not count. -/
structure Scan where
  colons : Nat
  percent : Bool
  opened : Bool
  closed : Bool
  /-- The last character was an at sign. -/
  atSign : Bool
deriving DecidableEq, Repr

/-- Before the first character. -/
def Scan.start : Scan := ⟨0, false, false, false, false⟩

def Scan.step (scan : Scan) (c : Char) : Except UriFault Scan :=
  let scan := { scan with atSign := false }
  if c = ':' then
    if scan.colons ≥ 8 then .error .invalidAuthority
    else .ok { scan with colons := scan.colons + 1 }
  else if c = '[' then
    if scan.percent || scan.opened then .error .invalidAuthority
    else .ok { scan with opened := true }
  else if c = ']' then
    if !scan.opened || scan.closed then .error .invalidAuthority
    else .ok { scan with closed := true, colons := 0, percent := false }
  else if c = '@' then .ok { scan with atSign := true, colons := 0, percent := false }
  else if c = '%' then .ok { scan with percent := true }
  else if isPlain c then .ok scan
  else .error .invalidCharacter

/-- What must hold after the last character. -/
def Scan.finish (scan : Scan) : Except UriFault Unit :=
  if scan.opened != scan.closed || scan.colons > 1 || scan.atSign || scan.percent then
    .error .invalidAuthority
  else .ok ()

/-- Whether characters form an authority. -/
def check (text : List Char) : Except UriFault Unit := do
  let scan ← text.foldlM Scan.step .start
  scan.finish

/-- An authority in front, and the text from the first character that ends it. -/
def split (text : List Char) : Except UriFault (List Char × List Char) := do
  let front := text.takeWhile (!endsAuthority ·)
  check front
  return (front, text.dropWhile (!endsAuthority ·))

def parse (text : List Char) : Except UriFault (List Char) := do
  if text.isEmpty then throw .empty
  let (front, rest) ← split text
  if rest.isEmpty then return front else throw .invalidCharacter

/-- The text after the last at sign. -/
private def afterUser (text : List Char) : List Char :=
  match Text.cutLast '@' text with
  | some (_, rest) => rest
  | none => text

/-- The host: what follows the user name, with its brackets or up to the first colon. -/
def host (text : List Char) : List Char :=
  match afterUser text with
  | '[' :: rest => '[' :: rest.takeWhile (· ≠ ']') ++ [']']
  | rest => rest.takeWhile (· ≠ ':')

private theorem afterUser_of_not_mem {text : List Char} (userless : '@' ∉ text) :
    afterUser text = text := by
  rw [afterUser, Text.cutLast_of_not_mem userless]

private theorem not_mem_afterUser (text : List Char) : '@' ∉ afterUser text := by
  by_cases user : '@' ∈ text
  · obtain ⟨before, after, rfl, free⟩ := Text.exists_cutLast user
    rw [afterUser, Text.cutLast_append before free]
    exact free
  · rw [afterUser_of_not_mem user]
    exact user

/-- No part of a user name is part of the host. -/
theorem not_mem_host (text : List Char) : '@' ∉ host text := by
  have userless := not_mem_afterUser text
  unfold host
  split
  · rename_i rest bracketed
    rw [bracketed] at userless
    intro found
    have inside : '@' ∈ rest.takeWhile (· ≠ ']') := by simpa using found
    exact userless (List.mem_cons_of_mem _ (List.takeWhile_subset _ inside))
  · intro found
    exact userless (List.takeWhile_subset _ found)

theorem host_bracketed {rest : List Char} (userless : '@' ∉ rest) :
    host ('[' :: rest) = '[' :: rest.takeWhile (· ≠ ']') ++ [']'] := by
  have bracketed : '@' ∉ '[' :: rest := by simpa using userless
  rw [host, afterUser_of_not_mem bracketed]
  rfl

theorem host_bare {text : List Char} (userless : '@' ∉ text) (bare : text.head? ≠ some '[') :
    host text = text.takeWhile (· ≠ ':') := by
  rw [host, afterUser_of_not_mem userless]
  split
  · exact absurd rfl bare
  · rfl

/-- The port behind the last colon, when a number that fits stands there. -/
def port? (text : List Char) : Option UInt16 := do
  let (_, digits) ← Text.cutLast ':' text
  let digits := match digits with
    | '+' :: more => more
    | other => other
  let number ← Text.natural? digits
  if number < 65536 then some (UInt16.ofNat number) else none

end Authority

end AmqpHandshake
