/-! Control sequences of terminals, and text without them. A sequence starts with the escape
character; one of its own characters or a new escape character ends it. Beside the sequences, the
control characters that are not blank are taken out too. -/
namespace AmqpHandshake.Text

/-- Where a reader stands with respect to a control sequence. -/
inductive SequencePart
  | outside
  | escape
  /-- Behind marks that still wait for a last character. -/
  | escapeMarks
  | command
  /-- Before the parameters of a device control string. -/
  | deviceStart
  | deviceParameters
  | deviceMarks
  /-- In text that is meant for a device. -/
  | deviceText
  /-- In text that is meant for the system, which a bell ends. -/
  | systemText
  /-- In other text that is not meant to be shown. -/
  | hiddenText
deriving DecidableEq, Repr

private def isWithin (low high : Nat) (c : Char) : Bool := low ≤ c.toNat && c.toNat ≤ high

/-- A control character that moves on in the text: tabulator, line end or page end. -/
def isBlankControl (c : Char) : Bool :=
  c.toNat = 9 || c.toNat = 10 || c.toNat = 12 || c.toNat = 13

/-- A character that is shown outside of sequences. -/
def isShown (c : Char) : Bool := isBlankControl c || (0x20 ≤ c.toNat && c.toNat ≠ 0x7f)

/-- The character ends a text: the byte 0x9c is among its bytes. -/
private def endsText (c : Char) : Bool := (String.utf8EncodeChar c).contains 0x9c

namespace SequencePart

/-- Whether a character is shown. Blank control characters are carried out within a command. -/
def shows (part : SequencePart) (c : Char) : Bool :=
  match part with
  | outside => isShown c
  | escape | escapeMarks | command => isBlankControl c
  | _ => false

/-- The part behind the character that follows the escape character. -/
private def opened (c : Char) : SequencePart :=
  if c = '[' then command
  else if c = ']' then systemText
  else if c = 'P' then deviceStart
  else if c = 'X' ∨ c = '^' ∨ c = '_' then hiddenText
  else if isWithin 0x20 0x2f c then escapeMarks
  else if isWithin 0x30 0x7e c then outside
  else escape

/-- The part behind a character. -/
def next (part : SequencePart) (c : Char) : SequencePart :=
  if c.toNat = 0x1b then escape
  else if c.toNat = 0x18 ∨ c.toNat = 0x1a then outside
  else match part with
    | outside => outside
    | escape => opened c
    | escapeMarks => if isWithin 0x30 0x7e c then outside else escapeMarks
    | command => if isWithin 0x40 0x7e c then outside else command
    | deviceStart =>
      if isWithin 0x20 0x2f c then deviceMarks
      else if isWithin 0x30 0x3f c then deviceParameters
      else if isWithin 0x40 0x7e c then deviceText
      else deviceStart
    | deviceParameters =>
      if isWithin 0x20 0x2f c then deviceMarks
      else if isWithin 0x3c 0x7e c then deviceText
      else deviceParameters
    | deviceMarks => if isWithin 0x30 0x7e c then deviceText else deviceMarks
    | deviceText => if endsText c then outside else deviceText
    | systemText => if c.toNat = 7 then outside else systemText
    | hiddenText => if endsText c then outside else hiddenText

end SequencePart

/-- The shown characters of a text. Behind a shown character all that could stand outside is shown;
the first that could not is read in the part where the text was. -/
def shownFrom (showing : Bool) (part : SequencePart) : List Char → List Char
  | [] => []
  | c :: rest =>
    if (if showing then .outside else part).shows c then
      c :: shownFrom true (if c.toNat < 0x80 then part else .outside) rest
    else shownFrom false (part.next c) rest

/-- Text without control sequences. -/
def withoutControls (text : String) : String :=
  String.ofList (shownFrom false .outside text.toList)

/-- Text that holds no control character stays as it is. -/
theorem shownFrom_of_shown {text : List Char} (shown : ∀ c ∈ text, isShown c = true)
    (showing : Bool) : shownFrom showing .outside text = text := by
  induction text generalizing showing with
  | nil => rfl
  | cons c text ih =>
    have head : SequencePart.shows .outside c = true := shown c (by simp)
    have tail := ih (fun d member => shown d (by simp [member])) true
    simp [shownFrom, head, tail]

end AmqpHandshake.Text
