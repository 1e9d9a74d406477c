/-! Cutting text at a separator character. -/
namespace AmqpHandshake.Text

/-- The text before and after the first separator, or nothing when there is none. -/
def cutFirst (sep : Char) : List Char → Option (List Char × List Char)
  | [] => none
  | c :: rest =>
    if c = sep then some ([], rest)
    else (cutFirst sep rest).map fun (before, after) => (c :: before, after)

/-- The text before and after the last separator, or nothing when there is none. -/
def cutLast (sep : Char) (text : List Char) : Option (List Char × List Char) :=
  (cutFirst sep text.reverse).map fun (after, before) => (before.reverse, after.reverse)

/-- The pieces between separators; text without a separator is one piece. -/
def pieces (sep : Char) : List Char → List (List Char)
  | [] => [[]]
  | c :: rest =>
    if c = sep then [] :: pieces sep rest
    else match pieces sep rest with
      | [] => [[c]]
      | piece :: more => (c :: piece) :: more

/-- The text after a leading word, or nothing when the text starts otherwise. -/
def dropLead? : List Char → List Char → Option (List Char)
  | [], text => some text
  | _ :: _, [] => none
  | w :: word, c :: text => if w = c then dropLead? word text else none

theorem dropLead?_append (word text : List Char) : dropLead? word (word ++ text) = some text := by
  induction word with
  | nil => rfl
  | cons w word ih => simp [dropLead?, ih]

theorem dropLead?_of_not_prefix {word text : List Char} (other : ¬ word <+: text) :
    dropLead? word text = none := by
  induction word generalizing text with
  | nil => exact absurd List.nil_prefix other
  | cons w word ih =>
    cases text with
    | nil => rfl
    | cons c text =>
      by_cases same : w = c
      · subst same
        rw [dropLead?, if_pos rfl]
        exact ih fun shorter => other ((List.prefix_cons_inj w).mpr shorter)
      · rw [dropLead?, if_neg same]

theorem cutFirst_append {sep : Char} {before : List Char} (free : sep ∉ before)
    (after : List Char) : cutFirst sep (before ++ sep :: after) = some (before, after) := by
  induction before with
  | nil => simp [cutFirst]
  | cons c before ih =>
    simp only [List.mem_cons, not_or] at free
    simp [cutFirst, Ne.symm free.1, ih free.2]

theorem cutFirst_of_not_mem {sep : Char} {text : List Char} (free : sep ∉ text) :
    cutFirst sep text = none := by
  induction text with
  | nil => rfl
  | cons c text ih =>
    simp only [List.mem_cons, not_or] at free
    simp [cutFirst, Ne.symm free.1, ih free.2]

theorem cutFirst_eq_some_iff {sep : Char} {text before after : List Char} :
    cutFirst sep text = some (before, after) ↔ text = before ++ sep :: after ∧ sep ∉ before := by
  constructor
  · intro cut
    by_cases found : sep ∈ text
    · obtain ⟨first, rest, split, free⟩ := List.eq_append_cons_of_mem found
      rw [split, cutFirst_append free] at cut
      cases cut
      exact ⟨split, free⟩
    · cases (cutFirst_of_not_mem found).symm.trans cut
  · rintro ⟨rfl, free⟩
    exact cutFirst_append free after

theorem pieces_of_not_mem {sep : Char} {text : List Char} (free : sep ∉ text) :
    pieces sep text = [text] := by
  induction text with
  | nil => rfl
  | cons c text ih =>
    simp only [List.mem_cons, not_or] at free
    simp [pieces, Ne.symm free.1, ih free.2]

theorem pieces_append {sep : Char} {piece : List Char} (free : sep ∉ piece) (more : List Char) :
    pieces sep (piece ++ sep :: more) = piece :: pieces sep more := by
  induction piece with
  | nil => simp [pieces]
  | cons c piece ih =>
    simp only [List.mem_cons, not_or] at free
    simp [pieces, Ne.symm free.1, ih free.2]

/-- Pieces that are joined are cut apart again. Only where there are none, an empty one arises. -/
theorem pieces_intercalate {sep : Char} {texts : List (List Char)} (some : texts ≠ [])
    (free : ∀ text ∈ texts, sep ∉ text) : pieces sep ([sep].intercalate texts) = texts := by
  induction texts with
  | nil => exact absurd rfl some
  | cons text rest ih =>
    obtain ⟨freeHere, freeLater⟩ := List.forall_mem_cons.mp free
    cases rest with
    | nil => rw [List.intercalate_singleton, pieces_of_not_mem freeHere]
    | cons second more =>
      rw [List.intercalate_cons_cons, List.append_assoc, List.singleton_append,
        pieces_append freeHere, ih (List.cons_ne_nil _ _) freeLater]

theorem cutLast_append {sep : Char} (before : List Char) {after : List Char} (free : sep ∉ after) :
    cutLast sep (before ++ sep :: after) = some (before, after) := by
  have reversed : (before ++ sep :: after).reverse = after.reverse ++ sep :: before.reverse := by
    simp
  rw [cutLast, reversed, cutFirst_append (mt List.mem_reverse.mp free)]
  simp

theorem cutLast_of_not_mem {sep : Char} {text : List Char} (free : sep ∉ text) :
    cutLast sep text = none := by
  rw [cutLast, cutFirst_of_not_mem (mt List.mem_reverse.mp free)]
  rfl

/-- Text that holds a separator is the text before the last one, the separator, and a rest that
holds none. -/
theorem exists_cutLast {sep : Char} {text : List Char} (found : sep ∈ text) :
    ∃ before after, text = before ++ sep :: after ∧ sep ∉ after := by
  obtain ⟨after, before, split, free⟩ := List.eq_append_cons_of_mem (List.mem_reverse.mpr found)
  refine ⟨before.reverse, after.reverse, ?_, mt List.mem_reverse.mp free⟩
  rw [← List.reverse_reverse text, split]
  simp

end AmqpHandshake.Text
