/-! Unicode white space, and text without the white space at its ends. -/
namespace AmqpHandshake.Text

/-- A character with the Unicode property White_Space. -/
def isBlank (c : Char) : Bool :=
  let n := c.toNat
  (0x09 ≤ n && n ≤ 0x0d) || n == 0x20 || n == 0x85 || n == 0xa0 || n == 0x1680 ||
    (0x2000 ≤ n && n ≤ 0x200a) || n == 0x2028 || n == 0x2029 || n == 0x202f || n == 0x205f ||
    n == 0x3000

/-- Text without the blanks at its two ends. -/
def trim (text : List Char) : List Char :=
  ((text.dropWhile isBlank).reverse.dropWhile isBlank).reverse

/-- A text is another one with blanks before and behind it. -/
def Pads (core text : List Char) : Prop :=
  ∃ before behind, text = before ++ core ++ behind ∧
    (∀ c ∈ before, isBlank c = true) ∧ ∀ c ∈ behind, isBlank c = true

theorem pads_trim (text : List Char) : Pads (trim text) text := by
  let rest := text.dropWhile isBlank
  let behind := (rest.reverse.takeWhile isBlank).reverse
  have ending : trim text ++ behind = rest := by
    rw [trim, ← List.reverse_append, List.takeWhile_append_dropWhile, List.reverse_reverse]
  refine ⟨text.takeWhile isBlank, behind, ?_, List.all_eq_true.mp List.all_takeWhile, ?_⟩
  · rw [List.append_assoc, ending, List.takeWhile_append_dropWhile]
  · intro c member
    exact List.all_eq_true.mp List.all_takeWhile c (List.mem_reverse.mp member)

theorem dropWhile_blank {before core : List Char} (blank : ∀ c ∈ before, isBlank c = true)
    (solid : ∀ c ∈ core, isBlank c = false) (some : core ≠ []) (behind : List Char) :
    (before ++ (core ++ behind)).dropWhile isBlank = core ++ behind := by
  rw [List.dropWhile_append_of_pos blank]
  cases core with
  | nil => exact absurd rfl some
  | cons c core => simp [solid c List.mem_cons_self]

/-- Text without blanks is what trimming leaves of it, whatever blanks are put around it. -/
theorem trim_eq_iff {core text : List Char} (some : core ≠ [])
    (solid : ∀ c ∈ core, isBlank c = false) : trim text = core ↔ Pads core text := by
  constructor
  · rintro rfl
    exact pads_trim text
  · rintro ⟨before, behind, rfl, blankBefore, blankBehind⟩
    have reversed : (core ++ behind).reverse = behind.reverse ++ (core.reverse ++ []) := by simp
    rw [trim, List.append_assoc, dropWhile_blank blankBefore solid some, reversed,
      dropWhile_blank (by simpa using blankBehind) (by simpa using solid) (by simpa using some)]
    simp

/-- Text that holds blanks only, the empty text among them. -/
def allBlank (text : String) : Bool := text.toList.all isBlank

end AmqpHandshake.Text
