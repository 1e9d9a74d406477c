import AmqpHandshake.Text.Numeral

/-! Decimal numerals: which texts the readers of numbers accept, and what number each stands for. -/
namespace AmqpHandshake.Text

theorem isDigit_toDigits (n : Nat) : ∀ c ∈ Nat.toDigits 10 n, c.isDigit = true := fun _ =>
  Nat.isDigit_of_mem_toDigits (by decide) (by decide)

theorem not_mem_digits {digits : List Char} (all : ∀ c ∈ digits, c.isDigit = true) {mark : Char}
    (other : mark.isDigit = false) : mark ∉ digits := by
  intro member
  rw [all mark member] at other
  cases other

theorem digitValue?_of_isDigit {c : Char} (digit : c.isDigit = true) :
    digitValue? 10 c = some (c.toNat - '0'.toNat) := by
  obtain ⟨low, high⟩ := Char.isDigit_iff_toNat.mp digit
  have inside : '0' ≤ c ∧ c ≤ '9' := ⟨low, high⟩
  have small : c.toNat - '0'.toNat < 10 := by
    change c.toNat ≤ 57 at high
    change c.toNat - 48 < 10
    omega
  rw [digitValue?, if_pos inside]
  exact Option.filter_some_pos (by simpa using small)

theorem isDigit_of_digitValue? {c : Char} (read : digitValue? 10 c = some n) :
    c.isDigit = true := by
  obtain ⟨found, small⟩ := Option.filter_eq_some_iff.mp read
  by_cases inside : '0' ≤ c ∧ c ≤ '9'
  · exact Char.isDigit_iff_toNat.mpr inside
  · -- A letter stands for ten at the least.
    have large : 10 ≤ n := by
      rw [if_neg inside] at found
      split at found
      · rw [← Option.some.inj found]
        exact Nat.le_add_left _ _
      · split at found
        · rw [← Option.some.inj found]
          exact Nat.le_add_left _ _
        · cases found
    exact absurd (of_decide_eq_true small) (Nat.not_lt_of_le large)

theorem foldlM_digits {digits : List Char} (all : ∀ c ∈ digits, c.isDigit = true) (value : Nat) :
    digits.foldlM (fun value c => (digitValue? 10 c).map (value * 10 + ·)) value =
      some (Nat.ofDigitChars 10 digits value) := by
  rw [Nat.ofDigitChars_eq_foldl]
  induction digits generalizing value with
  | nil => rfl
  | cons c digits ih =>
    obtain ⟨digit, later⟩ := List.forall_mem_cons.mp all
    rw [List.foldlM_cons, digitValue?_of_isDigit digit, List.foldl_cons, Nat.mul_comm 10]
    exact ih later _

theorem isDigit_of_foldlM {digits : List Char} {value : Nat}
    (read : digits.foldlM (fun value c => (digitValue? 10 c).map (value * 10 + ·)) value =
      some n) : ∀ c ∈ digits, c.isDigit = true := by
  induction digits generalizing value with
  | nil => exact nofun
  | cons c digits ih =>
    rw [List.foldlM_cons] at read
    obtain ⟨next, first, later⟩ := Option.bind_eq_some_iff.mp read
    obtain ⟨digit, valued, _⟩ := Option.map_eq_some_iff.mp first
    exact List.forall_mem_cons.mpr ⟨isDigit_of_digitValue? valued, ih later⟩

theorem digitsValue?_eq_some_iff {digits : List Char} :
    digitsValue? 10 digits = some n ↔
      (∀ c ∈ digits, c.isDigit = true) ∧ Nat.ofDigitChars 10 digits 0 = n := by
  constructor
  · intro read
    have all := isDigit_of_foldlM read
    exact ⟨all, Option.some.inj ((foldlM_digits all 0).symm.trans read)⟩
  · rintro ⟨all, rfl⟩
    exact foldlM_digits all 0

theorem digitsValue?_toDigits (n : Nat) : digitsValue? 10 (Nat.toDigits 10 n) = some n :=
  digitsValue?_eq_some_iff.mpr ⟨isDigit_toDigits n, Nat.ofDigitChars_ten_toDigits⟩

/-- One or more decimal digits, and the number that they stand for. -/
structure Digits (digits : List Char) (n : Nat) : Prop where
  some : digits ≠ []
  all : ∀ c ∈ digits, c.isDigit = true
  value : Nat.ofDigitChars 10 digits 0 = n

/-- An optional sign and one or more decimal digits, and the number that they stand for. -/
inductive Numeral : List Char → Int → Prop
  | unsigned (digits : Digits text n) : Numeral text n
  | plus (digits : Digits text n) : Numeral ('+' :: text) n
  | minus (digits : Digits text n) : Numeral ('-' :: text) (-n)

theorem natural?_eq_some_iff {text : List Char} : natural? text = some n ↔ Digits text n := by
  unfold natural?
  split
  · rename_i empty
    exact ⟨nofun, fun digits => absurd (List.isEmpty_iff.mp empty) digits.some⟩
  · rename_i nonempty
    rw [digitsValue?_eq_some_iff]
    exact ⟨fun ⟨all, value⟩ => ⟨mt List.isEmpty_iff.mpr nonempty, all, value⟩,
      fun digits => ⟨digits.all, digits.value⟩⟩

/-- A sign is no digit. -/
theorem Digits.head_ne (digits : Digits (c :: text) n) {mark : Char}
    (other : mark.isDigit = false) : c ≠ mark :=
  Ne.symm (List.ne_of_not_mem_cons (not_mem_digits digits.all other))

theorem signed?_eq_some_iff {text : List Char} {n : Int} :
    signed? text = some n ↔ Numeral text n := by
  constructor
  · intro read
    unfold signed? at read
    split at read
    all_goals obtain ⟨value, natural, rfl⟩ := Option.map_eq_some_iff.mp read
    · obtain ⟨size, whole, same⟩ := Option.bind_eq_some_iff.mp natural
      cases same
      exact .minus (natural?_eq_some_iff.mp whole)
    · exact .plus (natural?_eq_some_iff.mp natural)
    · exact .unsigned (natural?_eq_some_iff.mp natural)
  · rintro (digits | digits | digits)
    all_goals have natural := natural?_eq_some_iff.mpr digits
    · unfold signed?
      split
      · exact absurd rfl (digits.head_ne (by decide))
      · exact absurd rfl (digits.head_ne (by decide))
      · simp [natural]
    · simp [signed?, natural]
    · simp [signed?, natural]

theorem digits_toDigits (n : Nat) : Digits (Nat.toDigits 10 n) n :=
  ⟨Nat.toDigits_ne_nil, isDigit_toDigits n, Nat.ofDigitChars_ten_toDigits⟩

theorem numeral_toString (n : Int) : Numeral (toString n).toList n := by
  cases n with
  | ofNat n =>
    have written : (toString (Int.ofNat n)).toList = Nat.toDigits 10 n := String.toList_ofList
    rw [written]
    exact .unsigned (digits_toDigits n)
  | negSucc n =>
    have written : (toString (Int.negSucc n)).toList = '-' :: Nat.toDigits 10 (n + 1) := by
      change ("-" ++ Nat.repr (n + 1)).toList = _
      rw [String.toList_append]
      exact congrArg ('-' :: ·) String.toList_ofList
    rw [written]
    exact .minus (digits_toDigits (n + 1))

end AmqpHandshake.Text
