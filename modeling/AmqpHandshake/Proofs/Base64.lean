import AmqpHandshake.Text.Base64
import AmqpHandshake.Text.Utf8
import Mathlib.Data.List.Basic
import Mathlib.Data.List.TakeWhile

/-! Base64 is read back as it was written, with any number of bytes in the last group, and is
written in characters that stand for themselves in a line of text. -/
namespace AmqpHandshake

namespace Base64

/-- The character that stands for a symbol. -/
def glyph : Symbol → Char
  | some value => letter value
  | none => '='

/-- The byte of a symbol's character. -/
def octet (symbol : Symbol) : UInt8 := UInt8.ofNat (glyph symbol).toNat

/-- Padding, or a value of six bits. -/
def Symbol.Fits (symbol : Symbol) : Prop := ∀ value ∈ symbol, value < 64

/-- What reading relies on in the character of a symbol: it is visible, it is not passed over, and
it stands for no other symbol. -/
def Symbol.IsRead (symbol : Symbol) : Prop :=
  (33 ≤ (glyph symbol).toNat ∧ (glyph symbol).toNat < 127) ∧
    isSkipped (octet symbol) = false ∧ symbol? (octet symbol) = some symbol

instance (symbol : Symbol) : Decidable symbol.IsRead := inferInstanceAs (Decidable (_ ∧ _))

theorem Symbol.isRead {symbol : Symbol} (fits : symbol.Fits) : symbol.IsRead := by
  have letters : ∀ value < 64, Symbol.IsRead (some value) := by decide
  cases symbol with
  | none => decide
  | some value => exact letters value (fits value rfl)

/-- The symbols that bytes are written as. -/
def written : List UInt8 → List Symbol
  | [] => []
  | [a] =>
    let n := a.toNat
    [some (n / 4), some (n % 4 * 16), none, none]
  | [a, b] =>
    let n := a.toNat * 256 + b.toNat
    [some (n / 1024), some (n / 16 % 64), some (n % 16 * 4), none]
  | a :: b :: c :: rest =>
    let n := (a.toNat * 256 + b.toNat) * 256 + c.toNat
    some (n / 262144) :: some (n / 4096 % 64) :: some (n / 64 % 64) :: some (n % 64) ::
      written rest

theorem encode_eq (bytes : List UInt8) : encode bytes = (written bytes).map glyph := by
  fun_induction written bytes with
  | case1 | case2 | case3 => rfl
  | case4 a b c rest n ih =>
    rw [encode, ih]
    rfl

theorem fits_of_mem_written {bytes : List UInt8} :
    ∀ symbol ∈ written bytes, symbol.Fits := by
  fun_induction written bytes with
  | case1 => simp
  | case2 a n =>
    have bound := a.toNat_lt
    simp [Symbol.Fits, n]
    omega
  | case3 a b n =>
    have first := a.toNat_lt
    have second := b.toNat_lt
    simp [Symbol.Fits, n]
    omega
  | case4 a b c rest n ih =>
    have first := a.toNat_lt
    have second := b.toNat_lt
    have third := c.toNat_lt
    simp only [List.mem_cons]
    rintro symbol (rfl | rfl | rfl | rfl | member)
    case inr.inr.inr.inr => exact ih symbol member
    all_goals simp [Symbol.Fits, n]; omega

/-- Every character of base64 is visible ASCII. -/
theorem visible_of_mem_encode {bytes : List UInt8} {c : Char} (member : c ∈ encode bytes) :
    33 ≤ c.toNat ∧ c.toNat < 127 := by
  rw [encode_eq] at member
  obtain ⟨symbol, among, rfl⟩ := List.mem_map.mp member
  exact (Symbol.isRead (fits_of_mem_written symbol among)).1

/-- Symbols are read from the bytes of their characters, and none of those is passed over. -/
theorem symbols_octet {text : List Symbol} (fits : ∀ symbol ∈ text, symbol.Fits) :
    symbols ((text.map octet).filter (!isSkipped ·)) = .ok text := by
  have kept : (text.map octet).filter (!isSkipped ·) = text.map octet := by
    apply List.filter_eq_self.mpr
    intro byte member
    obtain ⟨symbol, among, rfl⟩ := List.mem_map.mp member
    simp [(Symbol.isRead (fits symbol among)).2.1]
  have known : (text.map octet).dropWhile (fun byte => (symbol? byte).isSome) = [] := by
    apply List.dropWhile_eq_nil_iff.mpr
    intro byte member
    obtain ⟨symbol, among, rfl⟩ := List.mem_map.mp member
    simp [(Symbol.isRead (fits symbol among)).2.2]
  have read : (text.map octet).filterMap symbol? = text := by
    rw [List.filterMap_map]
    exact (List.filterMap_congr fun symbol among =>
      (Symbol.isRead (fits symbol among)).2.2).trans List.filterMap_some
  rw [kept, symbols, known, read]

/-- A full group in front of more symbols gives its values. -/
theorem values_group {a b c d : Nat} {rest : List Symbol} {sextets : List Nat}
    (read : values rest = .ok sextets) :
    values (some a :: some b :: some c :: some d :: rest) = .ok (a :: b :: c :: d :: sextets) := by
  -- Only what follows tells a group in front from the last one, which may be padded.
  cases rest with
  | nil =>
    obtain rfl : [] = sextets := Except.ok.inj read
    rfl
  | cons symbol rest =>
    rw [values, read]
    rfl

/-- Four values give the three bytes that they were taken from. -/
theorem pack_group (a b c : UInt8) (rest : List Nat) :
    let n := (a.toNat * 256 + b.toNat) * 256 + c.toNat
    pack (n / 262144 :: n / 4096 % 64 :: n / 64 % 64 :: n % 64 :: rest) =
      a :: b :: c :: pack rest := by
  intro n
  have second := b.toNat_lt
  have third := c.toNat_lt
  have whole : ((n / 262144 * 64 + n / 4096 % 64) * 64 + n / 64 % 64) * 64 + n % 64 = n := by omega
  have high : n / 65536 = a.toNat := by omega
  have middle : n / 256 = a.toNat * 256 + b.toNat := by omega
  simp only [pack, whole, high, middle]
  simp [n, UInt8.ofNat_add, UInt8.ofNat_mul]

theorem values_written (bytes : List UInt8) :
    ∃ sextets, values (written bytes) = .ok sextets ∧ pack sextets = bytes := by
  fun_induction written bytes with
  | case1 => exact ⟨[], rfl, rfl⟩
  | case2 a n =>
    refine ⟨[n / 4, n % 4 * 16], rfl, ?_⟩
    have whole : (n / 4 * 64 + n % 4 * 16) / 16 = n := by omega
    simp [pack, whole, n]
  | case3 a b n =>
    have bound := b.toNat_lt
    refine ⟨[n / 1024, n / 16 % 64, n % 16 * 4], rfl, ?_⟩
    have high : ((n / 1024 * 64 + n / 16 % 64) * 64 + n % 16 * 4) / 1024 = a.toNat := by omega
    have whole : ((n / 1024 * 64 + n / 16 % 64) * 64 + n % 16 * 4) / 4 = n := by omega
    simp [pack, high, whole, n]
  | case4 a b c rest n ih =>
    obtain ⟨sextets, read, packed⟩ := ih
    exact ⟨_, values_group read, (pack_group a b c sextets).trans (by rw [packed])⟩

/-- What is written for bytes is read as the same bytes. -/
theorem decode_encode (bytes : List UInt8) :
    decode (Utf8.encode (String.ofList (encode bytes))) = .ok bytes := by
  have ascii : ∀ c ∈ encode bytes, c.toNat < 128 := by
    intro c member
    have visible := visible_of_mem_encode member
    omega
  obtain ⟨sextets, read, packed⟩ := values_written bytes
  rw [Utf8.encode_ascii ascii, encode_eq, List.map_map, decode]
  change (symbols (((written bytes).map octet).filter (!isSkipped ·)) >>= _) = _
  rw [symbols_octet fits_of_mem_written]
  change (values (written bytes) >>= _) = _
  rw [read]
  exact congrArg Except.ok packed

end Base64

end AmqpHandshake
