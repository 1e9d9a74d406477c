import AmqpHandshake.Toml.Text

/-! A text that is written as a TOML string is read back as it was, whichever form it is written
in. -/
namespace AmqpHandshake.Toml

/-! ### Escapes -/

/-- What makes a reader of escapes: the inside of a basic string, on one line or on several. -/
structure ReadsEscapes (multi : Bool)
    (read : Pending → List Char → Option (List Char × List Char)) : Prop where
  plain : ∀ {c} rest, isPlain c = true → c ≠ quote → c ≠ '\\' →
    read .none (c :: rest) = push c (read .none rest)
  backslash : ∀ rest, read .none ('\\' :: rest) = read .escape rest
  escaped : ∀ {c result} rest, afterBackslash multi c = .done result →
    read .escape (c :: rest) = push result (read .none rest)
  counted : ∀ {c width} rest, afterBackslash multi c = .pending (.hex width 0) →
    read .escape (c :: rest) = read (.hex width 0) rest
  digit : ∀ {c left value next} rest, afterDigits left value c = .pending next →
    read (.hex left value) (c :: rest) = read next rest
  lastDigit : ∀ {c left value result} rest, afterDigits left value c = .done result →
    read (.hex left value) (c :: rest) = push result (read .none rest)

theorem readsEscapes_readBasic : ReadsEscapes false readBasic where
  plain rest plain unquoted unescaped := by simp [readBasic, plain, unquoted, unescaped]
  backslash rest := by simp [readBasic, quote]
  escaped rest step := by simp [readBasic, step]
  counted rest step := by simp [readBasic, step]
  digit rest step := by simp [readBasic, step]
  lastDigit rest step := by simp [readBasic, step]

theorem readsEscapes_readMultiBasic : ReadsEscapes true readMultiBasic where
  plain rest plain unquoted unescaped := by simp [readMultiBasic, plain, unquoted, unescaped]
  backslash rest := by simp [readMultiBasic, quote]
  escaped rest step := by simp [readMultiBasic, step]
  counted rest step := by simp [readMultiBasic, step]
  digit rest step := by simp [readMultiBasic, step]
  lastDigit rest step := by simp [readMultiBasic, step]

/-- The character that digits spell, when they are just enough. -/
def spelled? (left value : Nat) : List Char → Option Char
  | [] => none
  | c :: rest =>
    match afterDigits left value c with
    | .done result => if rest.isEmpty then some result else none
    | .pending (.hex left value) => spelled? left value rest
    | _ => none

/-- The digits of the escape of a control character. -/
def controlDigits (code : Nat) : List Char :=
  (List.leftpad 4 '0' (Nat.toDigits 16 code)).map Char.toUpper

theorem spelled?_controlDigits :
    ∀ code < 128, spelled? 4 0 (controlDigits code) = some (Char.ofNat code) := by
  decide +kernel

theorem isControl_lt {c : Char} (control : isControl c = true) : c.toNat < 128 := by
  simp only [isControl, Bool.or_eq_true, Bool.and_eq_true, decide_eq_true_eq] at control
  omega

/-- What is neither a control character nor a line feed may stand as it is. -/
theorem isPlain_of_not_isControl {c : Char} (safe : isControl c = false) (inline : c ≠ '\n') :
    isPlain c = true := by
  by_cases tab : c = '\t'
  · simp [isPlain, tab]
  · simp only [isControl, Bool.or_eq_false_iff, Bool.and_eq_false_iff,
      decide_eq_false_iff_not] at safe
    obtain ⟨low, high⟩ := safe
    have shown : 0x20 ≤ c.toNat := by
      rcases low with (low | isTab) | isFeed
      · omega
      · exact absurd tab isTab
      · exact absurd inline isFeed
    simp [isPlain, shown, high]

namespace ReadsEscapes

variable {multi : Bool} {read : Pending → List Char → Option (List Char × List Char)}

theorem read_spelled (reads : ReadsEscapes multi read) {digits : List Char}
    (spelled : spelled? left value digits = some c) (rest : List Char) :
    read (.hex left value) (digits ++ rest) = push c (read .none rest) := by
  induction digits generalizing left value with
  | nil => cases spelled
  | cons digit digits ih =>
    rw [List.cons_append]
    rw [spelled?] at spelled
    split at spelled
    · rename_i result step
      cases digits with
      | nil =>
        cases spelled
        exact reads.lastDigit rest step
      | cons => cases spelled
    · rename_i left value step
      rw [reads.digit _ step]
      exact ih spelled
    · cases spelled

/-- A character that is written by an escape, or as it stands, is read as itself. -/
theorem read_escape (reads : ReadsEscapes multi read) {c : Char} (unquoted : c ≠ quote)
    (inline : c ≠ '\n') (rest : List Char) :
    read .none (escape c ++ rest) = push c (read .none rest) := by
  have simple (letter : Char) (step : afterBackslash multi letter = .done c) :
      read .none (['\\', letter] ++ rest) = push c (read .none rest) :=
    (reads.backslash _).trans (reads.escaped rest step)
  unfold escape
  split
  · rename_i same
    subst same
    exact simple '\\' (by cases multi <;> rfl)
  split
  · rename_i same
    subst same
    exact simple 't' (by cases multi <;> rfl)
  split
  · rename_i same
    subst same
    exact simple 'r' (by cases multi <;> rfl)
  split
  · rename_i same
    obtain rfl : c = Char.ofNat 8 := by rw [← same, Char.ofNat_toNat]
    exact simple 'b' (by cases multi <;> rfl)
  split
  · rename_i same
    obtain rfl : c = Char.ofNat 12 := by rw [← same, Char.ofNat_toNat]
    exact simple 'f' (by cases multi <;> rfl)
  split
  · rename_i control
    have spelled := spelled?_controlDigits c.toNat (isControl_lt control)
    rw [Char.ofNat_toNat] at spelled
    have counted : afterBackslash multi 'u' = .pending (.hex 4 0) := by cases multi <;> rfl
    rw [List.cons_append, List.cons_append, reads.backslash, reads.counted _ counted]
    exact reads.read_spelled spelled rest
  · rename_i unescaped _ _ _ _ safe
    have plain := isPlain_of_not_isControl (Bool.eq_false_iff.mpr safe) inline
    exact reads.plain rest plain unquoted unescaped

end ReadsEscapes

/-! ### Strings on one line -/

theorem readBasic_writeBasic (text rest : List Char) :
    readBasic .none (writeBasic text ++ quote :: rest) = some (text, rest) := by
  have reads := readsEscapes_readBasic
  induction text with
  | nil => simp [writeBasic, readBasic]
  | cons c text ih =>
    rw [writeBasic, List.append_assoc]
    by_cases quoted : c = quote
    · subst quoted
      rw [if_pos rfl, List.cons_append, reads.backslash, List.cons_append,
        reads.escaped _ (by rfl), List.nil_append, ih]
      rfl
    · rw [if_neg quoted]
      by_cases feed : c = '\n'
      · subst feed
        rw [if_pos rfl, List.cons_append, reads.backslash, List.cons_append,
          reads.escaped _ (by rfl), List.nil_append, ih]
        rfl
      · rw [if_neg feed, reads.read_escape quoted feed, ih]
        rfl

theorem readLiteral_append {text : List Char} (plain : ∀ c ∈ text, isPlain c = true)
    (free : apostrophe ∉ text) (rest : List Char) :
    readLiteral (text ++ apostrophe :: rest) = some (text, rest) := by
  induction text with
  | nil => simp [readLiteral]
  | cons c text ih =>
    obtain ⟨plainHere, plainThen⟩ := List.forall_mem_cons.mp plain
    have apart : c ≠ apostrophe := Ne.symm (List.ne_of_not_mem_cons free)
    have freeThen := List.not_mem_of_not_mem_cons free
    rw [List.cons_append, readLiteral, if_neg apart, if_pos plainHere, ih plainThen freeThen]
    rfl

/-! ### Strings on several lines -/

/-- What makes a reader of the inside of a string of several lines: the mark ends the string where
it stands three times. -/
def Closes (mark : Char) (read : List Char → Option (List Char × List Char)) : Prop :=
  ∀ rest, read (mark :: rest) =
    if rest.take 2 = [mark, mark] then closeMulti mark (rest.drop 2) else push mark (read rest)

theorem closes_readMultiBasic : Closes quote (readMultiBasic .none) := by
  intro rest
  simp [readMultiBasic]

theorem closes_readMultiLiteral : Closes apostrophe readMultiLiteral := by
  intro rest
  simp [readMultiLiteral]

theorem closeMulti_replicate {mark : Char} {rest : List Char} (apart : rest.head? ≠ some mark)
    (few : count ≤ 2) : closeMulti mark (List.replicate count mark ++ rest) =
      some (List.replicate count mark, rest) := by
  have none : rest.takeWhile (· = mark) = [] := by
    cases rest with
    | nil => rfl
    | cons c rest =>
      have other : c ≠ mark := fun same => apart (congrArg some same)
      simp [other]
  have extra : (List.replicate count mark ++ rest).takeWhile (· = mark) =
      List.replicate count mark := by
    rw [List.takeWhile_append_of_pos, none, List.append_nil]
    intro c member
    simp [List.eq_of_mem_replicate member]
  simp [closeMulti, extra, few]

/-- What is written behind a mark is one mark more at most, or no mark of three begins there. -/
def Parted (mark : Char) (written text : List Char) : Prop :=
  (∃ count ≤ 1, written = List.replicate count mark ∧ text = List.replicate count mark) ∨
    ∀ tail, (written ++ tail).take 2 ≠ [mark, mark]

theorem Parted.of_head {mark c : Char} (apart : c ≠ mark) (written text : List Char) :
    Parted mark (c :: written) text := by
  refine .inr fun tail same => ?_
  cases written <;> cases tail <;> simp_all

theorem Parted.of_second {mark c : Char} (apart : c ≠ mark) (written text : List Char) :
    Parted mark (mark :: c :: written) text := by
  refine .inr fun tail same => ?_
  simp_all

namespace Closes

variable {mark : Char} {read : List Char → Option (List Char × List Char)} {rest : List Char}

/-- Up to two marks at the end of a text are told from the three behind it. -/
theorem read_end (closes : Closes mark read) (apart : rest.head? ≠ some mark) (few : count ≤ 2) :
    read (List.replicate count mark ++ mark :: mark :: mark :: rest) =
      some (List.replicate count mark, rest) := by
  have moved : List.replicate count mark ++ mark :: mark :: mark :: rest =
      mark :: mark :: mark :: (List.replicate count mark ++ rest) := by
    obtain rfl | rfl | rfl : count = 0 ∨ count = 1 ∨ count = 2 := by omega
    all_goals rfl
  rw [moved, closes]
  exact (if_pos rfl).trans (closeMulti_replicate apart few)

/-- A mark of the text is read as itself, whatever stands behind it. -/
theorem read_mark (closes : Closes mark read) (apart : rest.head? ≠ some mark)
    (parted : Parted mark written text)
    (reads : read (written ++ mark :: mark :: mark :: rest) = some (text, rest)) :
    read (mark :: (written ++ mark :: mark :: mark :: rest)) = some (mark :: text, rest) := by
  rcases parted with ⟨count, few, rfl, rfl⟩ | open_
  · have more : count + 1 ≤ 2 := by omega
    exact closes.read_end apart more
  · rw [closes, if_neg (open_ _), reads]
    rfl

end Closes

theorem escape_eq_cons (c : Char) :
    ∃ first more, escape c = first :: more ∧ (first = '\\' ∨ first = c) := by
  unfold escape
  repeat' split
  all_goals first | exact ⟨_, _, rfl, .inl rfl⟩ | exact ⟨_, _, rfl, .inr rfl⟩

/-- Where no mark is written next, the text goes on with something else. -/
theorem writeMultiBasic_eq_cons {c : Char} (apart : c ≠ quote ∨ quotes = 2) (text : List Char) :
    ∃ first more, writeMultiBasic quotes (c :: text) = first :: more ∧ first ≠ quote := by
  obtain ⟨first, more, written, other⟩ := escape_eq_cons c
  by_cases quoted : c = quote
  · have full : quotes = 2 := apart.resolve_left (not_not_intro quoted)
    rw [writeMultiBasic, if_pos quoted, if_pos full]
    exact ⟨_, _, rfl, by decide⟩
  · rw [writeMultiBasic, if_neg quoted]
    split
    · exact ⟨_, _, rfl, by decide⟩
    · rw [written]
      refine ⟨_, _, rfl, ?_⟩
      rcases other with rfl | rfl
      · decide
      · exact quoted

theorem parted_writeMultiBasic (behind : 0 < quotes) (few : quotes ≤ 2) (text : List Char) :
    Parted quote (writeMultiBasic quotes text) text := by
  cases text with
  | nil => exact .inl ⟨0, by omega, rfl, rfl⟩
  | cons c text =>
    by_cases apart : c ≠ quote ∨ quotes = 2
    · obtain ⟨first, more, written, other⟩ := writeMultiBasic_eq_cons apart text
      rw [written]
      exact .of_head other _ _
    · obtain ⟨quoted, single⟩ := not_or.mp apart
      obtain rfl : c = quote := Decidable.not_not.mp quoted
      obtain rfl : quotes = 1 := by omega
      rw [writeMultiBasic, if_pos rfl, if_neg single]
      cases text with
      | nil => exact .inl ⟨1, by omega, rfl, rfl⟩
      | cons second text =>
        obtain ⟨first, more, written, other⟩ := writeMultiBasic_eq_cons (.inr rfl) text
        rw [written]
        exact .of_second other _ _

theorem readMultiBasic_writeMultiBasic {rest : List Char} (apart : rest.head? ≠ some quote)
    (text : List Char) (few : quotes ≤ 2) :
    readMultiBasic .none (writeMultiBasic quotes text ++ quote :: quote :: quote :: rest) =
      some (text, rest) := by
  have reads := readsEscapes_readMultiBasic
  induction text generalizing quotes with
  | nil =>
    have none : 0 ≤ 2 := by omega
    exact closes_readMultiBasic.read_end apart none
  | cons c text ih =>
    rw [writeMultiBasic]
    by_cases quoted : c = quote
    · subst quoted
      rw [if_pos rfl]
      by_cases full : quotes = 2
      · rw [if_pos full, List.cons_append, reads.backslash, List.cons_append,
          reads.escaped _ (by rfl), ih (Nat.zero_le 2)]
        rfl
      · have fewThen : quotes + 1 ≤ 2 := by omega
        rw [if_neg full]
        exact closes_readMultiBasic.read_mark apart
          (parted_writeMultiBasic (Nat.succ_pos quotes) fewThen text) (ih fewThen)
    · rw [if_neg quoted]
      by_cases feed : c = '\n'
      · subst feed
        rw [if_pos rfl, List.cons_append]
        have continues (rest : List Char) : readMultiBasic .none ('\n' :: rest) =
            push '\n' (readMultiBasic .none rest) := by simp [readMultiBasic, quote]
        rw [continues, ih (Nat.zero_le 2)]
        rfl
      · rw [if_neg feed, List.append_assoc, reads.read_escape quoted feed, ih (Nat.zero_le 2)]
        rfl

/-- The run that is under way is not longer than the longest one. -/
theorem le_longestRun (mark : Char) (current : Nat) (text : List Char) :
    current ≤ longestRun mark current text := by
  induction text generalizing current with
  | nil => exact Nat.le_refl _
  | cons c text ih =>
    rw [longestRun]
    split
    · exact Nat.le_trans (Nat.le_succ _) (ih _)
    · exact Nat.le_max_left ..

theorem longestRun_cons_self (mark : Char) (current : Nat) (text : List Char) :
    longestRun mark current (mark :: text) = longestRun mark (current + 1) text :=
  if_pos rfl

theorem longestRun_cons_of_ne {mark c : Char} (apart : c ≠ mark) (current : Nat)
    (text : List Char) :
    longestRun mark current (c :: text) = max current (longestRun mark 0 text) :=
  if_neg apart

theorem not_mem_of_longestRun {mark : Char} {text : List Char}
    (never : longestRun mark 0 text = 0) : mark ∉ text := by
  induction text with
  | nil => exact List.not_mem_nil
  | cons c text ih =>
    by_cases same : c = mark
    · subst same
      rw [longestRun_cons_self] at never
      have one := le_longestRun c (0 + 1) text
      omega
    · rw [longestRun_cons_of_ne same, Nat.zero_max] at never
      exact List.not_mem_cons_of_ne_of_not_mem (Ne.symm same) (ih never)

/-- A text whose runs of a mark are short is parted from the marks before and behind it. -/
theorem parted_of_longestRun {mark : Char} (behind : 0 < current)
    (short : longestRun mark current text ≤ 2) : Parted mark text text := by
  cases text with
  | nil => exact .inl ⟨0, by omega, rfl, rfl⟩
  | cons c text =>
    by_cases same : c = mark
    · subst same
      rw [longestRun_cons_self] at short
      cases text with
      | nil => exact .inl ⟨1, by omega, rfl, rfl⟩
      | cons second text =>
        refine .of_second (fun same => ?_) _ _
        subst same
        rw [longestRun_cons_self] at short
        have three := le_longestRun second (current + 1 + 1) text
        omega
    · exact .of_head same _ _

theorem readMultiLiteral_append {rest : List Char} (apart : rest.head? ≠ some apostrophe)
    {text : List Char} (plain : ∀ c ∈ text, isPlain c = true ∨ c = '\n')
    (short : longestRun apostrophe current text ≤ 2) :
    readMultiLiteral (text ++ apostrophe :: apostrophe :: apostrophe :: rest) =
      some (text, rest) := by
  induction text generalizing current with
  | nil =>
    have none : 0 ≤ 2 := by omega
    exact closes_readMultiLiteral.read_end apart none
  | cons c text ih =>
    obtain ⟨plainHere, plainThen⟩ := List.forall_mem_cons.mp plain
    by_cases same : c = apostrophe
    · subst same
      rw [longestRun_cons_self] at short
      exact closes_readMultiLiteral.read_mark apart
        (parted_of_longestRun (Nat.succ_pos current) short) (ih plainThen short)
    · rw [longestRun_cons_of_ne same] at short
      have shortThen : longestRun apostrophe 0 text ≤ 2 := by omega
      have stands : (isPlain c || c = '\n') = true := by simpa using plainHere
      rw [List.cons_append, readMultiLiteral, if_neg same, if_pos stands, ih plainThen shortThen]
      rfl

/-! ### The form of a text -/

theorem StringForm.of_literal {text : List Char} (form : StringForm.ofText text = .literal) :
    text.any isControl = false ∧ longestRun apostrophe 0 text = 0 ∧ '\n' ∉ text := by
  unfold ofText at form
  dsimp only at form
  split at form
  · cases form
  split at form
  · rename_i fits
    simpa [Bool.and_eq_true, and_assoc] using fits
  split at form
  · cases form
  split at form
  · cases form
  split at form <;> cases form

theorem StringForm.of_multiLiteral {text : List Char}
    (form : StringForm.ofText text = .multiLiteral) :
    text.any isControl = false ∧ longestRun apostrophe 0 text ≤ 2 := by
  unfold ofText at form
  dsimp only at form
  split at form
  · cases form
  split at form
  · cases form
  split at form
  · cases form
  split at form
  · rename_i fits
    simpa [Bool.and_eq_true] using fits
  split at form <;> cases form

theorem forall_plain {text : List Char} (safe : text.any isControl = false) :
    ∀ c ∈ text, isPlain c = true ∨ c = '\n' := by
  intro c member
  have free : isControl c = false := by
    rw [List.any_eq_false] at safe
    exact Bool.eq_false_iff.mpr (safe c member)
  by_cases feed : c = '\n'
  · exact .inr feed
  · exact .inl (isPlain_of_not_isControl free feed)

/-! ### Reading what was written -/

/-- The line feed that opens a text of several lines is not taken for one of the text. -/
theorem skipFirstLine_opening (mark : Char) {text written : List Char}
    (starts : '\n' ∉ text → written.head? ≠ some '\n') :
    ∃ rest, opening mark text ++ written = mark :: mark :: mark :: rest ∧
      skipFirstLine rest = written := by
  unfold opening
  by_cases feeds : '\n' ∈ text
  · exact ⟨'\n' :: written, by simp [feeds], rfl⟩
  · refine ⟨written, by simp [feeds], ?_⟩
    have other := starts feeds
    cases written with
    | nil => rfl
    | cons c written =>
      unfold skipFirstLine
      split
      · rename_i first
        cases first
        exact absurd rfl other
      · rfl

theorem readText?_of_line {mark : Char} (isMark : mark = quote ∨ mark = apostrophe)
    {body : List Char} (apart : body.head? ≠ some mark) (more : List Char) :
    readText? (mark :: (body ++ mark :: '\n' :: more)) =
      readLineText? (mark :: (body ++ mark :: '\n' :: more)) := by
  have never (other : Char) (isMark : other = quote ∨ other = apostrophe) :
      (mark :: (body ++ mark :: '\n' :: more)).take 3 ≠ [other, other, other] := by
    intro same
    cases body with
    | nil =>
      simp only [List.nil_append, List.take_succ_cons, List.take_zero, List.cons.injEq] at same
      obtain rfl := same.2.2.1
      rcases isMark with quoted | marked
      · cases quoted
      · cases marked
    | cons c body =>
      simp only [List.cons_append, List.take_succ_cons, List.cons.injEq] at same
      obtain ⟨rfl, rfl, _⟩ := same
      exact apart rfl
  rw [readText?, if_neg (never quote (.inl rfl)), if_neg (never apostrophe (.inr rfl))]

theorem readText?_multiBasic (rest : List Char) :
    readText? (quote :: quote :: quote :: rest) = readMultiBasic .none (skipFirstLine rest) :=
  if_pos rfl

theorem readText?_multiLiteral (rest : List Char) :
    readText? (apostrophe :: apostrophe :: apostrophe :: rest) =
      readMultiLiteral (skipFirstLine rest) := by
  have unquoted : (apostrophe :: apostrophe :: apostrophe :: rest).take 3 ≠
      [quote, quote, quote] := by
    intro same
    cases same
  rw [readText?, if_neg unquoted]
  exact if_pos rfl

theorem readLineText?_quote (rest : List Char) :
    readLineText? (quote :: rest) = readBasic .none rest :=
  rfl

theorem readLineText?_apostrophe (rest : List Char) :
    readLineText? (apostrophe :: rest) = readLiteral rest :=
  rfl

/-- A text that is written on one line does not begin with a mark. -/
theorem head_writeBasic (text : List Char) : (writeBasic text).head? ≠ some quote := by
  cases text with
  | nil => exact nofun
  | cons c text =>
    obtain ⟨first, more, written, other⟩ := escape_eq_cons c
    rw [writeBasic]
    by_cases quoted : c = quote
    · rw [if_pos quoted]
      exact nofun
    · rw [if_neg quoted]
      by_cases feed : c = '\n'
      · rw [if_pos feed]
        exact nofun
      · rw [if_neg feed, written]
        intro same
        obtain rfl := Option.some.inj same
        rcases other with escaped | same
        · cases escaped
        · exact quoted same.symm

theorem head_writeMultiBasic {text : List Char} (inline : '\n' ∉ text) (rest : List Char) :
    (writeMultiBasic 0 text ++ quote :: rest).head? ≠ some '\n' := by
  cases text with
  | nil => exact nofun
  | cons c text =>
    obtain ⟨first, more, written, other⟩ := escape_eq_cons c
    have apart : c ≠ '\n' := Ne.symm (List.ne_of_not_mem_cons inline)
    rw [writeMultiBasic]
    by_cases quoted : c = quote
    · rw [if_pos quoted]
      exact nofun
    · rw [if_neg quoted, if_neg apart, written]
      intro same
      obtain rfl := Option.some.inj same
      rcases other with escaped | same
      · cases escaped
      · exact apart same.symm

/-- A written text is read as that text, up to the end of its line. -/
theorem readText?_writeText (text more : List Char) :
    readText? (writeText text ++ '\n' :: more) = some (text, '\n' :: more) := by
  have unquoted : ('\n' :: more).head? ≠ some quote := nofun
  have unmarked : ('\n' :: more).head? ≠ some apostrophe := nofun
  unfold writeText
  cases form : StringForm.ofText text with
  | basic =>
    have line := readText?_of_line (.inl rfl) (head_writeBasic text) more
    simp only [List.cons_append, List.append_assoc, List.nil_append]
    rw [line, readLineText?_quote]
    exact readBasic_writeBasic text ('\n' :: more)
  | literal =>
    obtain ⟨safe, never, inline⟩ := StringForm.of_literal form
    have free := not_mem_of_longestRun never
    have apart : text.head? ≠ some apostrophe := fun first => free (List.mem_of_mem_head? first)
    have line := readText?_of_line (.inr rfl) apart more
    have plain : ∀ c ∈ text, isPlain c = true := fun c member =>
      (forall_plain safe c member).resolve_right fun feed => inline (feed ▸ member)
    simp only [List.cons_append, List.append_assoc, List.nil_append]
    rw [line, readLineText?_apostrophe]
    exact readLiteral_append plain free ('\n' :: more)
  | multiBasic =>
    have starts (inline : '\n' ∉ text) :=
      head_writeMultiBasic inline (quote :: quote :: '\n' :: more)
    obtain ⟨rest, opened, inside⟩ := skipFirstLine_opening quote starts
    simp only [List.append_assoc, List.cons_append, List.nil_append]
    rw [opened, readText?_multiBasic, inside]
    exact readMultiBasic_writeMultiBasic unquoted text (Nat.zero_le 2)
  | multiLiteral =>
    obtain ⟨safe, short⟩ := StringForm.of_multiLiteral form
    have starts (inline : '\n' ∉ text) :
        (text ++ apostrophe :: apostrophe :: apostrophe :: '\n' :: more).head? ≠ some '\n' := by
      cases text with
      | nil => exact nofun
      | cons c text => exact fun same => inline (List.mem_of_mem_head? same)
    obtain ⟨rest, opened, inside⟩ := skipFirstLine_opening apostrophe starts
    simp only [List.append_assoc, List.cons_append, List.nil_append]
    rw [opened, readText?_multiLiteral, inside]
    exact readMultiLiteral_append unmarked (forall_plain safe) short

/-! ### Line ends -/

theorem not_mem_controlDigits : ∀ code < 128, '\r' ∉ controlDigits code := by
  decide +kernel

theorem not_mem_escape (c : Char) : '\r' ∉ escape c := by
  unfold escape
  split
  · decide
  split
  · decide
  split
  · decide
  split
  · decide
  split
  · decide
  split
  · rename_i control
    have absent := not_mem_controlDigits c.toNat (isControl_lt control)
    intro member
    rcases List.mem_cons.mp member with same | member
    · cases same
    · rcases List.mem_cons.mp member with same | member
      · cases same
      · exact absent member
  · rename_i returned _ _ _
    intro member
    exact returned (List.mem_singleton.mp member).symm

theorem not_mem_writeBasic (text : List Char) : '\r' ∉ writeBasic text := by
  induction text with
  | nil => exact List.not_mem_nil
  | cons c text ih =>
    rw [writeBasic]
    intro member
    rcases List.mem_append.mp member with here | later
    · split at here
      · revert here
        decide
      split at here
      · revert here
        decide
      · exact not_mem_escape c here
    · exact ih later

theorem not_mem_writeMultiBasic (quotes : Nat) (text : List Char) :
    '\r' ∉ writeMultiBasic quotes text := by
  induction text generalizing quotes with
  | nil => exact List.not_mem_nil
  | cons c text ih =>
    have behind {first : Char} (other : '\r' ≠ first) (quotes : Nat) :
        '\r' ∉ first :: writeMultiBasic quotes text :=
      List.not_mem_cons_of_ne_of_not_mem other (ih quotes)
    rw [writeMultiBasic]
    split
    · split
      · exact List.not_mem_cons_of_ne_of_not_mem (by decide) (behind (by decide) 0)
      · exact behind (by decide) (quotes + 1)
    split
    · exact behind (by decide) 0
    · intro member
      rcases List.mem_append.mp member with here | later
      · exact not_mem_escape c here
      · exact ih 0 later

/-- A carriage return is written as an escape. -/
theorem not_mem_writeText (text : List Char) : '\r' ∉ writeText text := by
  have raw (safe : text.any isControl = false) : '\r' ∉ text := fun member =>
    (forall_plain safe _ member).elim (by decide) (by decide)
  have marked (mark : Char) (other : '\r' ≠ mark) {written : List Char}
      (inside : '\r' ∉ written) : '\r' ∉ mark :: written ++ [mark] := by
    simp [other, inside]
  have opened (mark : Char) (other : '\r' ≠ mark) {written : List Char}
      (inside : '\r' ∉ written) : '\r' ∉ opening mark text ++ written ++ [mark, mark, mark] := by
    unfold opening
    split <;> simp [other, inside]
  unfold writeText
  cases form : StringForm.ofText text with
  | basic => exact marked quote (by decide) (not_mem_writeBasic text)
  | literal => exact marked apostrophe (by decide) (raw (StringForm.of_literal form).1)
  | multiBasic => exact opened quote (by decide) (not_mem_writeMultiBasic 0 text)
  | multiLiteral => exact opened apostrophe (by decide) (raw (StringForm.of_multiLiteral form).1)

end AmqpHandshake.Toml
