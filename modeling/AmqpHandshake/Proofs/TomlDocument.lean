import AmqpHandshake.Proofs.Numeral
import AmqpHandshake.Proofs.TomlText
import AmqpHandshake.Toml.Document

/-! Documents of single-line entries and plain headers: their lines are read one by one, and the
lines stand for the entries in their order. -/
namespace AmqpHandshake

namespace Toml

/-! ### Numbers -/

theorem ungroup_digits {digits : List Char} (all : ∀ c ∈ digits, c.isDigit = true)
    {behindDigit : Bool} (begun : digits ≠ [] ∨ behindDigit = true) :
    ungroup 10 behindDigit digits = some digits := by
  induction digits generalizing behindDigit with
  | nil =>
    have behind := begun.resolve_left (fun empty => empty rfl)
    rw [ungroup, if_pos behind]
  | cons c digits ih =>
    obtain ⟨digit, later⟩ := List.forall_mem_cons.mp all
    have apart : c ≠ '_' := Ne.symm (List.ne_of_not_mem_cons (Text.not_mem_digits all (by decide)))
    rw [ungroup, if_neg apart, Text.digitValue?_of_isDigit digit]
    exact congrArg (Option.map (c :: ·)) (ih later (.inr rfl))

/-- Only the number zero starts with the digit zero. -/
theorem head_toDigits {n : Nat} (positive : 0 < n) : (Nat.toDigits 10 n).head? ≠ some '0' := by
  induction n using Nat.strongRecOn with
  | ind n ih =>
    by_cases small : n < 10
    · have other : ∀ n < 10, 0 < n → some n.digitChar ≠ some '0' := by decide
      rw [Nat.toDigits_of_lt_base small]
      exact other n small positive
    · have shorter := ih (n / 10) (by omega) (by omega)
      rw [Nat.toDigits_of_base_le (by decide) (by omega)]
      cases digits : Nat.toDigits 10 (n / 10) with
      | nil => exact absurd digits Nat.toDigits_ne_nil
      | cons c rest =>
        rw [digits] at shorter
        exact shorter

theorem wholeDigits?_toDigits (n : Nat) :
    wholeDigits? (Nat.toDigits 10 n) = some (Nat.toDigits 10 n) := by
  have all := Text.isDigit_toDigits n
  have leading : ¬((Nat.toDigits 10 n).head? = some '0' ∧ Nat.toDigits 10 n ≠ ['0']) := by
    rintro ⟨starts, longer⟩
    rcases Nat.eq_zero_or_pos n with rfl | positive
    · exact longer rfl
    · exact head_toDigits positive starts
  rw [wholeDigits?, ungroup_digits all (.inl Nat.toDigits_ne_nil), Option.bind_eq_bind,
    Option.bind_some, if_neg leading]

theorem takeSign_digits {digits : List Char} (all : ∀ c ∈ digits, c.isDigit = true) :
    takeSign digits = (false, digits) := by
  unfold takeSign
  split
  · exact absurd List.mem_cons_self (Text.not_mem_digits all (by decide))
  · exact absurd List.mem_cons_self (Text.not_mem_digits all (by decide))
  · rfl

theorem integer?_toDigits {n : Nat} (fits : Text.fitsInt64 n = true) :
    integer? (Nat.toDigits 10 n) = some (n : Int) := by
  have all := Text.isDigit_toDigits n
  have decimal := Text.digitsValue?_toDigits n
  have whole := wholeDigits?_toDigits n
  generalize Nat.toDigits 10 n = digits at all decimal whole
  -- The marks of the other bases are no digits.
  have unmarked {mark : Char} (other : mark.isDigit = false) {rest : List Char}
      (same : digits = '0' :: mark :: rest) : False :=
    Text.not_mem_digits all other (by simp [same])
  unfold integer?
  split
  · exact (unmarked (by decide) rfl).elim
  · exact (unmarked (by decide) rfl).elim
  · exact (unmarked (by decide) rfl).elim
  · rw [takeSign_digits all]
    simp only [whole, decimal, applySign, Option.bind_some, Option.map_some, Bool.false_eq_true,
      if_false]
    rw [Option.bind_eq_bind, Option.bind_some, if_pos fits]

theorem isDate_digits {digits : List Char} (all : ∀ c ∈ digits, c.isDigit = true) :
    isDate digits = false := by
  unfold isDate
  split
  · exact absurd (by simp) (Text.not_mem_digits all (by decide : '-'.isDigit = false))
  · rfl

theorem readToken?_toDigits {n : Nat} (fits : Text.fitsInt64 n = true) (more : List Char) :
    readToken? (Nat.toDigits 10 n ++ '\n' :: more) = some (.integer n, '\n' :: more) := by
  have all := Text.isDigit_toDigits n
  have value := integer?_toDigits fits
  generalize Nat.toDigits 10 n = digits at all value
  have inside : ∀ c ∈ digits, isTokenCharacter c = true := fun c member => by
    simp [isTokenCharacter, Char.isAlphanum, all c member]
  have token : (digits ++ '\n' :: more).takeWhile isTokenCharacter = digits := by
    rw [List.takeWhile_append_of_pos inside, List.takeWhile_cons_of_neg (by decide),
      List.append_nil]
  have rest : (digits ++ '\n' :: more).dropWhile isTokenCharacter = '\n' :: more := by
    rw [List.dropWhile_append_of_pos inside, List.dropWhile_cons_of_neg (by decide)]
  have isNumber : scalarOf? digits = some (.integer n) := by
    have noWord {word : List Char} (letter : 'e' ∈ word) : digits ≠ word := by
      rintro rfl
      exact Text.not_mem_digits all (by decide) letter
    rw [scalarOf?, if_neg (noWord (by decide)), if_neg (noWord (by decide)), value]
  rw [readToken?, token, rest, isDate_digits all, isNumber]
  rfl

/-! ### Values -/

/-- A text that stands for a value, in front of a line feed. -/
structure Writes (written : List Char) (value : Scalar) : Prop where
  read : ∀ more, readScalar? (written ++ '\n' :: more) = some (.scalar value, '\n' :: more)
  start : ∃ c rest, written = c :: rest ∧ isGap c = false ∧ c ≠ '[' ∧ c ≠ '\x7b'
  clean : '\r' ∉ written

theorem writeText_eq_cons (text : List Char) :
    ∃ mark rest, writeText text = mark :: rest ∧ (mark = quote ∨ mark = apostrophe) := by
  unfold writeText
  cases StringForm.ofText text with
  | basic => exact ⟨quote, _, rfl, .inl rfl⟩
  | literal => exact ⟨apostrophe, _, rfl, .inr rfl⟩
  | multiBasic => exact ⟨quote, _, rfl, .inl rfl⟩
  | multiLiteral => exact ⟨apostrophe, _, rfl, .inr rfl⟩

theorem writes_text (text : String) :
    Writes (writeText text.toList) (.string text) := by
  obtain ⟨mark, rest, written, isMark⟩ := writeText_eq_cons text.toList
  refine ⟨fun more => ?_, ⟨mark, rest, written, ?_⟩, not_mem_writeText text.toList⟩
  · have read := readText?_writeText text.toList more
    rw [written, List.cons_append] at read ⊢
    have opens : mark = '"' ∨ mark = '\x27' := isMark
    rw [readScalar?, if_pos opens, read, Option.map_some]
    simp only [String.ofList_toList]
  · rcases isMark with rfl | rfl <;> decide

theorem writes_number {n : Nat} (fits : Text.fitsInt64 n = true) :
    Writes (Nat.toDigits 10 n) (.integer n) := by
  have all := Text.isDigit_toDigits n
  have read := readToken?_toDigits fits
  cases digits : Nat.toDigits 10 n with
  | nil => exact absurd digits Nat.toDigits_ne_nil
  | cons c rest =>
    rw [digits] at all read
    have apart {mark : Char} (other : mark.isDigit = false) : c ≠ mark :=
      Ne.symm (List.ne_of_not_mem_cons (Text.not_mem_digits all other))
    refine ⟨fun more => ?_, ⟨c, rest, rfl, ?_, apart (by decide), apart (by decide)⟩,
      Text.not_mem_digits all (by decide)⟩
    · have unmarked : ¬(c = '"' ∨ c = '\x27') := by
        rintro (same | same)
        · exact apart (by decide) same
        · exact apart (by decide) same
      have read := read more
      rw [List.cons_append] at read ⊢
      rw [readScalar?, if_neg unmarked, read, Option.map_some]
    · have noBlank : c ≠ ' ' := apart (by decide)
      have noTab : c ≠ '\t' := apart (by decide)
      simp [isGap, noBlank, noTab]

theorem readValue?_scalar {c : Char} (noArray : c ≠ '[') (noTable : c ≠ '\x7b') (depth : Nat)
    (rest : List Char) : readValue? depth (c :: rest) = readScalar? (c :: rest) := by
  cases depth with
  | zero => rfl
  | succ depth =>
    rw [readValue?]
    · rintro _ same
      exact noArray (List.cons.inj same).1
    · rintro _ same
      exact noTable (List.cons.inj same).1

/-! ### Keys -/

/-- Whether a word is written without marks where it is a key. -/
def isBareWord (name : String) : Bool := !name.toList.isEmpty && name.toList.all isBareKey

/-- A key that is written without marks, with no more parts than a key may have. -/
structure IsBarePath (path : List String) : Prop where
  nonempty : path ≠ []
  few : path.length ≤ partLimit - 1
  words : ∀ name ∈ path, isBareWord name = true

instance (path : List String) : Decidable (IsBarePath path) :=
  decidable_of_iff
    ((!path.isEmpty && decide (path.length ≤ partLimit - 1) && path.all isBareWord) = true) <| by
      simp only [Bool.and_eq_true, decide_eq_true_eq, List.all_eq_true, Bool.not_eq_true',
        List.isEmpty_eq_false_iff]
      exact ⟨fun ⟨⟨nonempty, few⟩, words⟩ => ⟨nonempty, few, words⟩,
        fun ⟨nonempty, few, words⟩ => ⟨⟨nonempty, few⟩, words⟩⟩

theorem letters_of_bareWord {name : String} (bare : isBareWord name = true) :
    name.toList ≠ [] ∧ ∀ c ∈ name.toList, isBareKey c = true := by
  obtain ⟨nonempty, letters⟩ := Bool.and_eq_true_iff.mp bare
  exact ⟨by simpa using nonempty, List.all_eq_true.mp letters⟩

/-- Words with points between them. -/
def dotted : List String → List Char
  | [] => []
  | [name] => name.toList
  | name :: path => name.toList ++ '.' :: dotted path

theorem skipGap_cons {c : Char} (text : isGap c = false) (rest : List Char) :
    skipGap (c :: rest) = c :: rest :=
  List.dropWhile_cons_of_neg (by simp [text])

theorem isGap_of_isBareKey {c : Char} (bare : isBareKey c = true) : isGap c = false := by
  by_cases gap : c = ' ' ∨ c = '\t'
  · rcases gap with rfl | rfl <;> cases bare
  · simpa [isGap] using gap

theorem readName?_bareWord {name : String} (bare : isBareWord name = true) {c : Char}
    (behind : isBareKey c = false) (rest : List Char) :
    readName? (name.toList ++ c :: rest) = some (name, c :: rest) := by
  obtain ⟨nonempty, inside⟩ := letters_of_bareWord bare
  have word : (name.toList ++ c :: rest).takeWhile isBareKey = name.toList := by
    rw [List.takeWhile_append_of_pos inside, List.takeWhile_cons_of_neg (by simp [behind]),
      List.append_nil]
  rw [readName?, word, List.dropWhile_append_of_pos inside,
    List.dropWhile_cons_of_neg (by simp [behind]), String.ofList_toList, if_neg]
  simpa using nonempty

theorem skipGap_bareWord {name : String} (bare : isBareWord name = true) (rest : List Char) :
    skipGap (name.toList ++ rest) = name.toList ++ rest := by
  obtain ⟨nonempty, inside⟩ := letters_of_bareWord bare
  cases word : name.toList with
  | nil => exact absurd word nonempty
  | cons c word =>
    rw [word] at inside
    exact skipGap_cons (isGap_of_isBareKey (inside c List.mem_cons_self)) _

/-- A key of bare words is read up to a character that continues neither a word nor the key. -/
theorem readKey?_dotted {path : List String} (words : ∀ name ∈ path, isBareWord name = true)
    (nonempty : path ≠ []) {c : Char} (behind : isBareKey c = false) {rest : List Char}
    (ends : (skipGap (c :: rest)).head? ≠ some '.') {parts : Nat} (few : path.length ≤ parts) :
    readKey? parts (dotted path ++ c :: rest) = some (path, skipGap (c :: rest)) := by
  induction path generalizing parts with
  | nil => exact absurd rfl nonempty
  | cons name path ih =>
    obtain ⟨bare, later⟩ := List.forall_mem_cons.mp words
    -- Each part of the key takes one of the parts that are allowed.
    obtain ⟨parts, rfl⟩ : ∃ before, parts = before + 1 := Nat.exists_eq_add_one.mpr (by
      rw [List.length_cons] at few
      omega)
    cases path with
    | nil =>
      rw [dotted, readKey?, skipGap_bareWord bare, readName?_bareWord bare behind]
      simp only [Option.bind_eq_bind, Option.bind_some]
      split
      · rename_i after
        exact absurd (by rw [after]; rfl) ends
      · rfl
    | cons next path =>
      have inner := ih later nofun (Nat.le_of_succ_le_succ few)
      rw [dotted, List.append_assoc, List.cons_append, readKey?, skipGap_bareWord bare,
        readName?_bareWord bare (by decide)]
      · have point : isGap '.' = false := by decide
        simp only [Option.bind_eq_bind, Option.bind_some, skipGap_cons point, inner]
        rfl
      · exact nofun

theorem dotted_eq_cons {path : List String} (bare : IsBarePath path) :
    ∃ c rest, dotted path = c :: rest ∧ isBareKey c = true := by
  obtain ⟨nonempty, -, words⟩ := bare
  cases path with
  | nil => exact absurd rfl nonempty
  | cons name path =>
    obtain ⟨someLetters, letters⟩ := letters_of_bareWord (words name List.mem_cons_self)
    cases word : name.toList with
    | nil => exact absurd word someLetters
    | cons c letters' =>
      rw [word] at letters
      have letter := letters c List.mem_cons_self
      cases path with
      | nil => exact ⟨c, letters', word, letter⟩
      | cons => exact ⟨c, _, by rw [dotted, word]; rfl; exact nofun, letter⟩

theorem not_mem_dotted {path : List String} (words : ∀ name ∈ path, isBareWord name = true) :
    '\r' ∉ dotted path := by
  induction path with
  | nil => exact nofun
  | cons name path ih =>
    obtain ⟨bare, later⟩ := List.forall_mem_cons.mp words
    obtain ⟨-, letters⟩ := letters_of_bareWord bare
    have clean : '\r' ∉ name.toList := fun member => absurd (letters _ member) (by decide)
    cases path with
    | nil => exact clean
    | cons => simp [dotted, clean, ih later]

/-! ### Lines -/

/-- A text that reads as lines, whatever fuel there is beyond its length. -/
structure Reads (text : List Char) (lines : List Line) : Prop where
  read : ∀ {fuel}, text.length < fuel → readLines? fuel text = some lines
  clean : '\r' ∉ text

theorem reads_nil : Reads [] [] where
  read := by
    intro fuel enough
    obtain ⟨fuel, rfl⟩ := Nat.exists_eq_add_one.mpr enough
    rfl
  clean := nofun

theorem endLine?_newline (rest : List Char) : endLine? ('\n' :: rest) = some rest := by
  rfl

theorem readLines?_line {c : Char} (gap : isGap c = false) (feed : c ≠ '\n') (comment : c ≠ '#')
    {rest more : List Char} {line : Line} (read : readLine? (c :: rest) = some (line, '\n' :: more))
    (fuel : Nat) :
    readLines? (fuel + 1) (c :: rest) = (readLines? fuel more).map (line :: ·) := by
  rw [readLines?, skipGap_cons gap]
  split
  · rename_i empty
    cases empty
  · rename_i same
    exact absurd (List.cons.inj same).1 feed
  · rename_i same
    exact absurd (List.cons.inj same).1 comment
  · simp only [read, Option.bind_eq_bind, Option.bind_some, endLine?_newline]
    cases readLines? fuel more <;> rfl

theorem readLine?_entry {path : List String} (bare : IsBarePath path) {written : List Char}
    {value : Scalar} (writes : Writes written value) (more : List Char) :
    readLine? (dotted path ++ ' ' :: '=' :: ' ' :: (written ++ '\n' :: more)) =
      some (.entry path (.scalar value), '\n' :: more) := by
  have key : readKey? (partLimit - 1)
      (dotted path ++ ' ' :: '=' :: ' ' :: (written ++ '\n' :: more)) =
        some (path, '=' :: ' ' :: (written ++ '\n' :: more)) :=
    readKey?_dotted bare.words bare.nonempty (by decide) (by simp [skipGap, isGap]) bare.few
  have content : readValue? depthLimit (skipGap (' ' :: (written ++ '\n' :: more))) =
      some (.scalar value, '\n' :: more) := by
    obtain ⟨first, rest, starts, gap, noArray, noTable⟩ := writes.start
    have read := writes.read more
    rw [starts, List.cons_append] at read ⊢
    have skipped : skipGap (' ' :: first :: (rest ++ '\n' :: more)) =
        first :: (rest ++ '\n' :: more) := skipGap_cons gap _
    rw [skipped, readValue?_scalar noArray noTable]
    exact read
  have entry : readEntry? (readValue? depthLimit)
      (dotted path ++ ' ' :: '=' :: ' ' :: (written ++ '\n' :: more)) =
        some ((path, .scalar value), '\n' :: more) := by
    unfold readEntry?
    simp only [key, content, Option.bind_eq_bind, Option.bind_some]
    rfl
  obtain ⟨c, word, starts, letter⟩ := dotted_eq_cons bare
  rw [starts, List.cons_append] at entry ⊢
  have noHeader : c ≠ '[' := fun same => absurd letter (by rw [same]; decide)
  unfold readLine?
  split
  · rename_i same
    exact absurd (List.cons.inj same).1 noHeader
  · rename_i same
    exact absurd (List.cons.inj same).1 noHeader
  · rw [entry]
    rfl

theorem readLine?_header {path : List String} (bare : IsBarePath path) (more : List Char) :
    readLine? ('[' :: (dotted path ++ ']' :: more)) = some (.header path, more) := by
  have key : readKey? (partLimit - 1) (dotted path ++ ']' :: more) = some (path, ']' :: more) :=
    readKey?_dotted bare.words bare.nonempty (by decide) (by simp [skipGap, isGap]) bare.few
  obtain ⟨c, word, starts, letter⟩ := dotted_eq_cons bare
  rw [starts, List.cons_append] at key ⊢
  have single : c ≠ '[' := fun same => absurd letter (by rw [same]; decide)
  unfold readLine?
  split
  · rename_i same
    exact absurd (List.cons.inj (List.cons.inj same).2).1 single
  · rename_i same
    rw [← (List.cons.inj same).2, key]
    rfl
  · rename_i same
    exact absurd rfl (same _)

/-- An entry, in front of the lines behind it. -/
theorem Reads.entry {path : List String} (bare : IsBarePath path) (writes : Writes written value)
    (later : Reads more lines) :
    Reads (dotted path ++ ' ' :: '=' :: ' ' :: (written ++ '\n' :: more))
      (.entry path (.scalar value) :: lines) where
  read := by
    intro fuel enough
    obtain ⟨fuel, rfl⟩ : ∃ before, fuel = before + 1 := Nat.exists_eq_add_one.mpr (by omega)
    have entry := readLine?_entry bare writes more
    obtain ⟨c, word, starts, letter⟩ := dotted_eq_cons bare
    rw [starts, List.cons_append] at entry enough ⊢
    have other {mark : Char} (noLetter : isBareKey mark = false) : c ≠ mark := fun same => by
      rw [← same, letter] at noLetter
      cases noLetter
    rw [readLines?_line (isGap_of_isBareKey letter) (other (by decide)) (other (by decide)) entry,
      later.read]
    · rfl
    · simp only [List.length_cons, List.length_append] at enough
      omega
  clean := by
    have noReturn := not_mem_dotted bare.words
    simp [noReturn, writes.clean, later.clean]

/-- A plain header behind an empty line, in front of the lines behind it. -/
theorem Reads.header {path : List String} (bare : IsBarePath path) (later : Reads more lines) :
    Reads ('\n' :: '[' :: (dotted path ++ ']' :: '\n' :: more)) (.header path :: lines) where
  read := by
    intro fuel enough
    simp only [List.length_cons, List.length_append] at enough
    -- One step of fuel goes to the empty line, one to the header.
    obtain ⟨fuel, rfl⟩ : ∃ before, fuel = before + 2 := ⟨fuel - 2, by omega⟩
    have emptyLine : readLines? (fuel + 2) ('\n' :: '[' :: (dotted path ++ ']' :: '\n' :: more)) =
        readLines? (fuel + 1) ('[' :: (dotted path ++ ']' :: '\n' :: more)) := rfl
    rw [emptyLine, readLines?_line (by decide) (by decide) (by decide) (readLine?_header bare _),
      later.read]
    · rfl
    · omega
  clean := by
    have noReturn := not_mem_dotted bare.words
    simp [noReturn, later.clean]

theorem unifyLineEnds_of_not_mem {text : List Char} (clean : '\r' ∉ text) :
    unifyLineEnds text = text := by
  induction text with
  | nil => rfl
  | cons c text ih =>
    obtain ⟨other, later⟩ := not_or.mp (mt List.mem_cons.mpr clean)
    rw [unifyLineEnds, ih later]
    rintro rest rfl
    exact fun _ => other rfl

/-- A document that reads as lines stands for what the lines stand for. -/
theorem Reads.read?_eq (reads : Reads text lines) (start : text.head? ≠ some byteOrderMark) :
    read? text = treeOf? lines := by
  simp only [read?, unifyLineEnds_of_not_mem reads.clean, if_neg start,
    reads.read (Nat.lt_succ_self _), Option.bind_eq_bind, Option.bind_some]

/-- A text that adds lines in front of any lines behind it. -/
structure Spells (text : String) (lines : List Line) : Prop where
  before : ∀ {more later}, Reads more later → Reads (text.toList ++ more) (lines ++ later)

theorem spells_empty : Spells "" [] := ⟨id⟩

theorem Spells.append {text more : String} (first : Spells text lines)
    (second : Spells more later) : Spells (text ++ more) (lines ++ later) where
  before reads := by
    rw [String.toList_append, List.append_assoc, List.append_assoc]
    exact first.before (second.before reads)

theorem Spells.reads {text : String} (spells : Spells text lines) : Reads text.toList lines := by
  have alone := spells.before reads_nil
  rwa [List.append_nil, List.append_nil] at alone

/-! ### Trees -/

/-- The line of an entry with one word for its key. -/
def entryLine (entry : String × Node) : Line := .entry [entry.1] entry.2

/-- A table below a plain header. -/
structure Section where
  path : List String
  entries : Entries

def Section.lines (part : Section) : List Line :=
  .header part.path :: part.entries.map entryLine

/-- Entries as a header gathers them. -/
def gathered (entries : Entries) : List (List String × Node) :=
  entries.map fun entry => ([entry.1], entry.2)

def Section.block (part : Section) : Block := ⟨false, part.path, gathered part.entries⟩

theorem blocks_entries (entries : Entries) (lines : List Line) :
    blocks (entries.map entryLine ++ lines) =
      (gathered entries ++ (blocks lines).1, (blocks lines).2) := by
  induction entries with
  | nil => rfl
  | cons entry entries ih =>
    rw [List.map_cons, List.cons_append, blocks, ih]
    rfl

theorem blocks_sections (parts : List Section) :
    blocks (parts.flatMap Section.lines) = ([], parts.map Section.block) := by
  induction parts with
  | nil => rfl
  | cons part parts ih =>
    rw [List.flatMap_cons, Section.lines, List.cons_append, blocks, blocks_entries, ih,
      List.append_nil]
    rfl

theorem find?_of_absent {entries : Entries} {key : String}
    (absent : key ∉ entries.map Prod.fst) : entries.find? key = none := by
  have none : List.find? (fun entry => decide (entry.1 = key)) entries = none := by
    rw [List.find?_eq_none]
    intro entry member same
    exact absent (List.mem_map.mpr ⟨entry, member, of_decide_eq_true same⟩)
  rw [Entries.find?, none]
  rfl

theorem erase_of_absent {entries : Entries} {key : String}
    (absent : key ∉ entries.map Prod.fst) : entries.erase key = entries := by
  rw [Entries.erase, List.filter_eq_self]
  intro entry member
  exact decide_eq_true fun same => absent (List.mem_map.mpr ⟨entry, member, same⟩)

/-- Entries of different keys are added one behind the other. -/
theorem foldlM_addEntry? {before entries : Entries}
    (apart : ((before ++ entries).map Prod.fst).Nodup) :
    (gathered entries).foldlM addEntry? before = some (before ++ entries) := by
  induction entries generalizing before with
  | nil => simp [gathered]
  | cons entry entries ih =>
    have absent : entry.1 ∉ before.map Prod.fst := by
      intro member
      rw [List.map_append, List.nodup_append] at apart
      exact apart.2.2 _ member _ List.mem_cons_self rfl
    have added : addEntry? before ([entry.1], entry.2) = some (before ++ [entry]) := by
      change before.add? entry.1 entry.2 = some (before ++ [entry])
      rw [Entries.add?, find?_of_absent absent]
    rw [List.append_cons] at apart ⊢
    rw [gathered, List.map_cons, List.foldlM_cons, added, Option.bind_eq_bind, Option.bind_some]
    exact ih apart

/-- A document of entries and of tables below plain headers. -/
theorem treeOf?_sections {entries : Entries} (apart : (entries.map Prod.fst).Nodup)
    (parts : List Section) :
    treeOf? (entries.map entryLine ++ parts.flatMap Section.lines) =
      (parts.map Section.block).foldlM addBlock? entries := by
  have front : (gathered entries).foldlM addEntry? [] = some entries := foldlM_addEntry? apart
  rw [treeOf?, blocks_entries, blocks_sections]
  simp only [List.append_nil, front, Option.bind_eq_bind, Option.bind_some]

/-- A table whose name is new comes behind the entries. -/
theorem addTable?_of_absent {key : String} {entries parent : Entries}
    (absent : key ∉ parent.map Prod.fst) (apart : (entries.map Prod.fst).Nodup) :
    addTable? key (gathered entries) parent =
      some (parent ++ [(key, .table .header entries)]) := by
  have body : (gathered entries).foldlM addEntry? [] = some entries := foldlM_addEntry? apart
  simp only [addTable?, find?_of_absent absent, body, erase_of_absent absent, Option.bind_eq_bind,
    Option.bind_some]
  rfl

theorem addBlock?_table {root entries : Entries} {key : String}
    (absent : key ∉ root.map Prod.fst) (apart : (entries.map Prod.fst).Nodup) :
    addBlock? root (Section.block ⟨[key], entries⟩) =
      some (root ++ [(key, .table .header entries)]) :=
  addTable?_of_absent absent apart

/-- A table inside one that has no header comes with the table around it. -/
theorem addBlock?_inner {root entries : Entries} {outer key : String}
    (absent : outer ∉ root.map Prod.fst) (apart : (entries.map Prod.fst).Nodup) :
    addBlock? root (Section.block ⟨[outer, key], entries⟩) =
      some (root ++ [(outer, .table .implicit [(key, .table .header entries)])]) := by
  have inner : addTable? key (gathered entries) [] = some [(key, .table .header entries)] :=
    addTable?_of_absent List.not_mem_nil apart
  change within false (fun _ parent => addTable? key (gathered entries) parent) [outer] .header
    root = _
  simp only [within, find?_of_absent absent, inner, Option.bind_eq_bind, Option.bind_some]
  rfl

end Toml

end AmqpHandshake
