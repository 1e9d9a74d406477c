/-! Text as UTF-8 bytes. Reading for display replaces each broken sequence by one mark. -/
namespace AmqpHandshake.Utf8

def encode (text : String) : List UInt8 := text.toUTF8.data.toList

theorem encode_append (front back : String) :
    encode (front ++ back) = encode front ++ encode back := by
  simp [encode]

theorem encode_ofList (text : List Char) :
    encode (String.ofList text) = text.flatMap String.utf8EncodeChar := by
  simp [encode, List.utf8Encode]

/-- Text without characters beyond ASCII has one byte for each. -/
theorem encode_ascii {text : List Char} (ascii : ∀ c ∈ text, c.toNat < 128) :
    encode (String.ofList text) = text.map fun c => UInt8.ofNat c.toNat := by
  rw [encode_ofList]
  induction text with
  | nil => rfl
  | cons c text ih =>
    have single : c.utf8Size = 1 := by
      apply Char.utf8Size_eq_one_iff.mpr
      have first := ascii c List.mem_cons_self
      have value : c.toNat = c.val.toNat := rfl
      rw [UInt32.le_iff_toNat_le]
      simp
      omega
    rw [List.flatMap_cons, String.utf8EncodeChar_eq_singleton single,
      ih fun other member => ascii other (List.mem_cons_of_mem c member)]
    rfl

/-- The text that bytes stand for, when all of them are well formed. -/
def decode? (bytes : ByteArray) : Option String := String.fromUTF8? bytes

theorem decode?_toUTF8 (text : String) : decode? text.toUTF8 = some text := by
  simp [decode?, String.fromUTF8?, String.fromUTF8, text.isValidUTF8]

/-- The allowed second bytes and the count of bytes after a lead byte. -/
private def leadShape (lead : Nat) : Option (Nat × Nat × Nat) :=
  if 0xc2 ≤ lead ∧ lead ≤ 0xdf then some (0x80, 0xbf, 1)
  else if lead = 0xe0 then some (0xa0, 0xbf, 2)
  else if lead = 0xed then some (0x80, 0x9f, 2)
  else if 0xe1 ≤ lead ∧ lead ≤ 0xef then some (0x80, 0xbf, 2)
  else if lead = 0xf0 then some (0x90, 0xbf, 3)
  else if 0xf1 ≤ lead ∧ lead ≤ 0xf3 then some (0x80, 0xbf, 3)
  else if lead = 0xf4 then some (0x80, 0x8f, 3)
  else none

private def isContinuation (byte : UInt8) : Bool := 0x80 ≤ byte.toNat && byte.toNat ≤ 0xbf

/-- How many of the following bytes belong to the sequence, and whether it is complete. -/
private def extent (lead : UInt8) (rest : List UInt8) : Nat × Bool :=
  match leadShape lead.toNat, rest with
  | none, _ => (0, false)
  | some _, [] => (0, false)
  | some (low, high, count), second :: more =>
    if low ≤ second.toNat ∧ second.toNat ≤ high then
      let followers := ((more.take (count - 1)).takeWhile isContinuation).length
      (followers + 1, followers + 1 == count)
    else (0, false)

private def scalar (lead : UInt8) (followers : List UInt8) : Char :=
  let top := match followers.length with
    | 1 => lead.toNat % 32
    | 2 => lead.toNat % 16
    | _ => lead.toNat % 8
  Char.ofNat (followers.foldl (fun n byte => n * 64 + byte.toNat % 64) top)

/-- Characters for display: a broken sequence becomes the replacement character. -/
def decodeLossy : List UInt8 → List Char
  | [] => []
  | lead :: rest =>
    if lead.toNat < 0x80 then Char.ofNat lead.toNat :: decodeLossy rest
    else
      let (count, complete) := extent lead rest
      (if complete then scalar lead (rest.take count) else Char.ofNat 0xfffd) ::
        decodeLossy (rest.drop count)
termination_by bytes => bytes.length
decreasing_by all_goals simp only [List.length_cons, List.length_drop]; omega

end AmqpHandshake.Utf8
