import AmqpHandshake.Text.Numeral

/-! Strings of TOML: the four written forms, which one a text is written in, and reading them.
Line ends are single line feeds throughout. -/
namespace AmqpHandshake.Toml

inductive StringForm
  | basic
  | literal
  | multiBasic
  | multiLiteral
deriving DecidableEq, Repr

/-- A control character, which only an escape can write; tab and line feed aside. -/
def isControl (c : Char) : Bool :=
  (c.toNat < 0x20 && c ≠ '\t' && c ≠ '\n') || c.toNat = 0x7f

/-- The length of the longest run of a character, given the run that has just been read. -/
def longestRun (mark : Char) (current : Nat) : List Char → Nat
  | [] => current
  | c :: rest =>
    if c = mark then longestRun mark (current + 1) rest
    else max current (longestRun mark 0 rest)

def quote : Char := '"'

def apostrophe : Char := '\x27'

/-- The form a text is written in: the first of the forms that needs no escapes, if one does. -/
def StringForm.ofText (text : List Char) : StringForm :=
  let controls := text.any isControl
  let escapes := text.contains '\\'
  let newline := text.contains '\n'
  let quotes := longestRun quote 0 text
  let apostrophes := longestRun apostrophe 0 text
  if !controls && !escapes && quotes == 0 && !newline then .basic
  else if !controls && apostrophes == 0 && !newline then .literal
  else if !controls && !escapes && quotes ≤ 2 then .multiBasic
  else if !controls && apostrophes ≤ 2 then .multiLiteral
  else if newline then .multiBasic
  else .basic

/-- One character between quotes, where quotes and line feeds are seen to elsewhere. -/
def escape (c : Char) : List Char :=
  if c = '\\' then ['\\', '\\']
  else if c = '\t' then ['\\', 't']
  else if c = '\r' then ['\\', 'r']
  else if c.toNat = 8 then ['\\', 'b']
  else if c.toNat = 12 then ['\\', 'f']
  else if isControl c then
    '\\' :: 'u' :: (List.leftpad 4 '0' (Nat.toDigits 16 c.toNat)).map Char.toUpper
  else [c]

def writeBasic : List Char → List Char
  | [] => []
  | c :: rest =>
    (if c = quote then ['\\', quote] else if c = '\n' then ['\\', 'n'] else escape c) ++
      writeBasic rest

/-- The inside of a basic string of several lines. Of three quotes in a row the last is escaped. -/
def writeMultiBasic (quotes : Nat) : List Char → List Char
  | [] => []
  | c :: rest =>
    if c = quote then
      if quotes = 2 then '\\' :: quote :: writeMultiBasic 0 rest
      else quote :: writeMultiBasic (quotes + 1) rest
    else if c = '\n' then '\n' :: writeMultiBasic 0 rest
    else escape c ++ writeMultiBasic 0 rest

/-- What opens a string of several lines: a text that has line feeds starts on a line of its own. -/
def opening (mark : Char) (text : List Char) : List Char :=
  [mark, mark, mark] ++ if text.contains '\n' then ['\n'] else []

def writeText (text : List Char) : List Char :=
  match StringForm.ofText text with
  | .basic => quote :: writeBasic text ++ [quote]
  | .literal => apostrophe :: text ++ [apostrophe]
  | .multiBasic => opening quote text ++ writeMultiBasic 0 text ++ [quote, quote, quote]
  | .multiLiteral => opening apostrophe text ++ text ++ [apostrophe, apostrophe, apostrophe]

/-- Where the reader of a basic string is. -/
inductive Pending
  | none
  /-- Behind a backslash. -/
  | escape
  /-- Inside the digits of a code point: how many are missing, and the value so far. -/
  | hex (left value : Nat)
  /-- Behind a backslash and blanks, before the end of the line. -/
  | folding
  /-- Behind a backslash at the end of a line. -/
  | folded
deriving DecidableEq, Repr

/-- The character of an escape with one letter. -/
def simpleEscape? (c : Char) : Option Char :=
  if c = 'b' then some (Char.ofNat 8)
  else if c = 't' then some '\t'
  else if c = 'n' then some '\n'
  else if c = 'f' then some (Char.ofNat 12)
  else if c = 'r' then some '\r'
  else if c = quote then some quote
  else if c = '\\' then some '\\'
  else none

/-- How many digits follow the letter of a code point escape. -/
def codePointWidth? (c : Char) : Option Nat :=
  if c = 'u' then some 4 else if c = 'U' then some 8 else none

/-- The character of a code point. Surrogates and numbers that are too large have none. -/
def scalar? (value : Nat) : Option Char :=
  if value.isValidChar then some (Char.ofNat value) else none

/-- What may stand in a string as it is, marks and backslashes aside. -/
def isPlain (c : Char) : Bool := c = '\t' || (0x20 ≤ c.toNat && c.toNat ≠ 0x7f)

def push (c : Char) (read : Option (List Char × List Char)) :
    Option (List Char × List Char) :=
  read.map fun (text, rest) => (c :: text, rest)

/-- What reading one character inside an escape gives. -/
inductive EscapeStep
  | refused
  | pending (state : Pending)
  | done (c : Char)
deriving DecidableEq, Repr

/-- Read the character behind a backslash. Only a string of several lines may fold. -/
def afterBackslash (multi : Bool) (c : Char) : EscapeStep :=
  match codePointWidth? c with
  | some width => .pending (.hex width 0)
  | none =>
    match simpleEscape? c with
    | some result => .done result
    | none =>
      if multi && c = '\n' then .pending .folded
      else if multi && (c = ' ' || c = '\t') then .pending .folding
      else .refused

/-- Read a digit of a code point. -/
def afterDigits (left value : Nat) (c : Char) : EscapeStep :=
  match Text.digitValue? 16 c with
  | none => .refused
  | some digit =>
    if left ≤ 1 then
      match scalar? (value * 16 + digit) with
      | some result => .done result
      | none => .refused
    else .pending (.hex (left - 1) (value * 16 + digit))

/-- The inside of a basic string and the text behind its closing quote. -/
def readBasic (pending : Pending) : List Char → Option (List Char × List Char)
  | [] => none
  | c :: rest =>
    let continued : EscapeStep → Option (List Char × List Char)
      | .refused => none
      | .pending state => readBasic state rest
      | .done result => push result (readBasic .none rest)
    match pending with
    | .escape => continued (afterBackslash false c)
    | .hex left value => continued (afterDigits left value c)
    | _ =>
      if c = quote then some ([], rest)
      else if c = '\\' then readBasic .escape rest
      else if isPlain c then push c (readBasic .none rest)
      else none

/-- The end of a string of several lines, behind three marks: up to two marks more belong to it. -/
def closeMulti (mark : Char) (rest : List Char) : Option (List Char × List Char) :=
  let extra := rest.takeWhile (· = mark)
  if extra.length ≤ 2 then some (extra, rest.drop extra.length) else none

/-- The inside of a basic string of several lines and the text behind it. -/
def readMultiBasic (pending : Pending) : List Char → Option (List Char × List Char)
  | [] => none
  | c :: rest =>
    let continued : EscapeStep → Option (List Char × List Char)
      | .refused => none
      | .pending state => readMultiBasic state rest
      | .done result => push result (readMultiBasic .none rest)
    match pending with
    | .escape => continued (afterBackslash true c)
    | .hex left value => continued (afterDigits left value c)
    | .folding =>
      if c = '\n' then readMultiBasic .folded rest
      else if c = ' ' || c = '\t' then readMultiBasic .folding rest
      else none
    | _ =>
      if pending = .folded ∧ (c = ' ' ∨ c = '\t' ∨ c = '\n') then readMultiBasic .folded rest
      else if c = quote then
        if rest.take 2 = [quote, quote] then closeMulti quote (rest.drop 2)
        else push c (readMultiBasic .none rest)
      else if c = '\\' then readMultiBasic .escape rest
      else if isPlain c || c = '\n' then push c (readMultiBasic .none rest)
      else none

def readLiteral : List Char → Option (List Char × List Char)
  | [] => none
  | c :: rest =>
    if c = apostrophe then some ([], rest)
    else if isPlain c then push c (readLiteral rest)
    else none

def readMultiLiteral : List Char → Option (List Char × List Char)
  | [] => none
  | c :: rest =>
    if c = apostrophe then
      if rest.take 2 = [apostrophe, apostrophe] then closeMulti apostrophe (rest.drop 2)
      else push c (readMultiLiteral rest)
    else if isPlain c || c = '\n' then push c (readMultiLiteral rest)
    else none

/-- A line feed directly behind the opening marks does not count. -/
def skipFirstLine : List Char → List Char
  | '\n' :: rest => rest
  | text => text

def readLineText? : List Char → Option (List Char × List Char)
  | c :: rest =>
    if c = quote then readBasic .none rest
    else if c = apostrophe then readLiteral rest
    else none
  | [] => none

def readText? (text : List Char) : Option (List Char × List Char) :=
  if text.take 3 = [quote, quote, quote] then readMultiBasic .none (skipFirstLine (text.drop 3))
  else if text.take 3 = [apostrophe, apostrophe, apostrophe] then
    readMultiLiteral (skipFirstLine (text.drop 3))
  else readLineText? text

end AmqpHandshake.Toml
