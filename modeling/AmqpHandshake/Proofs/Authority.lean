import AmqpHandshake.Proofs.Layers

/-! Texts that are authorities: the characters they hold, the brackets around an address, and which
texts are the whole host of an authority once a port is put behind them. -/
namespace AmqpHandshake

namespace Authority

/-- The characters that an authority may hold. -/
def isOwn (c : Char) : Bool := isPlain c || ":[]@%".toList.contains c

theorem toNat_of_isAlphanum {c : Char} (plain : c.isAlphanum = true) :
    48 ≤ c.toNat ∧ c.toNat ≤ 122 := by
  have ranges : ((decide ('A'.val ≤ c.val ∧ c.val ≤ 'Z'.val) ||
      decide ('a'.val ≤ c.val) && decide (c.val ≤ 'z'.val)) ||
      decide ('0'.val ≤ c.val) && decide (c.val ≤ '9'.val)) = true := plain
  have value : c.toNat = c.val.toNat := rfl
  simp [UInt32.le_iff_toNat_le] at ranges
  omega

theorem visible_of_isOwn {c : Char} (own : isOwn c = true) : 33 ≤ c.toNat ∧ c.toNat < 127 := by
  have listed (marks : List Char)
      (visible : marks.all (fun mark => 33 ≤ mark.toNat && mark.toNat < 127) = true)
      (found : marks.contains c = true) : 33 ≤ c.toNat ∧ c.toNat < 127 := by
    simpa using List.all_eq_true.mp visible c (by simpa using found)
  simp only [isOwn, isPlain, Bool.or_eq_true] at own
  rcases own with (letter | mark) | mark
  · have range := toNat_of_isAlphanum letter
    omega
  · exact listed _ (by decide) mark
  · exact listed _ (by decide) mark

namespace Scan

/-- How a character takes a scan on. -/
inductive Takes (scan : Scan) : Char → Scan → Prop
  | colon (few : scan.colons < 8) :
      Takes scan ':' { scan with colons := scan.colons + 1, atSign := false }
  | opening (unopened : scan.opened = false) (unescaped : scan.percent = false) :
      Takes scan '[' { scan with opened := true, atSign := false }
  | closing (opened : scan.opened = true) (unclosed : scan.closed = false) :
      Takes scan ']' { scan with closed := true, colons := 0, percent := false, atSign := false }
  | user : Takes scan '@' { scan with colons := 0, percent := false, atSign := true }
  | percent : Takes scan '%' { scan with percent := true, atSign := false }
  | plain (plain : isPlain c = true) : Takes scan c { scan with atSign := false }

theorem takes_of_step {scan next : Scan} {c : Char} (stepped : scan.step c = .ok next) :
    scan.Takes c next := by
  by_cases colon : c = ':'
  · subst colon
    by_cases many : 8 ≤ scan.colons
    · simp [step, many] at stepped
    · obtain rfl : _ = next := by simpa [step, many] using stepped
      exact .colon (Nat.lt_of_not_le many)
  by_cases opens : c = '['
  · subst opens
    cases unescaped : scan.percent <;> cases unopened : scan.opened
    case false.false =>
      obtain rfl : _ = next := by simpa [step, unescaped, unopened] using stepped
      exact unescaped ▸ .opening unopened unescaped
    all_goals simp [step, unescaped, unopened] at stepped
  by_cases closes : c = ']'
  · subst closes
    cases opened : scan.opened <;> cases unclosed : scan.closed
    case true.false =>
      obtain rfl : _ = next := by simpa [step, opened, unclosed] using stepped
      exact opened ▸ .closing opened unclosed
    all_goals simp [step, opened, unclosed] at stepped
  by_cases user : c = '@'
  · subst user
    obtain rfl : _ = next := by simpa [step] using stepped
    exact .user
  by_cases escapes : c = '%'
  · subst escapes
    obtain rfl : _ = next := by simpa [step] using stepped
    exact .percent
  by_cases plain : isPlain c = true
  · obtain rfl : _ = next := by
      simpa [step, colon, opens, closes, user, escapes, plain] using stepped
    exact .plain plain
  · simp [step, colon, opens, closes, user, escapes, plain] at stepped

theorem Takes.isOwn {scan next : Scan} (takes : scan.Takes c next) : isOwn c = true := by
  cases takes with
  | colon | opening | closing | user | percent => decide
  | plain plain => simp [Authority.isOwn, plain]

/-- How a text takes a scan on, character by character. -/
inductive Run : Scan → List Char → Scan → Prop
  | done : Run scan [] scan
  | take (takes : Takes scan c next) (rest : Run next text last) : Run scan (c :: text) last

theorem run_of_foldlM {scan last : Scan} {text : List Char}
    (scanned : text.foldlM step scan = .ok last) : Run scan text last := by
  induction text generalizing scan with
  | nil =>
    cases scanned
    exact .done
  | cons c text ih =>
    rw [List.foldlM_cons] at scanned
    obtain ⟨next, stepped, scanned⟩ := bind_ok scanned
    exact .take (takes_of_step stepped) (ih scanned)

theorem Run.isOwn {scan last : Scan} (run : Run scan text last) : ∀ c ∈ text, isOwn c = true := by
  induction run with
  | done => simp
  | take takes rest ih =>
    intro c member
    rcases List.mem_cons.mp member with rfl | member
    · exact takes.isOwn
    · exact ih c member

theorem Run.opened {scan last : Scan} (run : Run scan text last) (opened : scan.opened = true) :
    last.opened = true := by
  induction run with
  | done => exact opened
  | take takes rest ih =>
    apply ih
    cases takes <;> first | exact opened | rfl

theorem Takes.count_closing {scan next : Scan} (takes : scan.Takes c next) :
    [c].count ']' + scan.closed.toNat = next.closed.toNat := by
  cases takes with
  | closing opened unclosed => simp [unclosed]
  | plain plain =>
    have other : c ≠ ']' := by
      rintro rfl
      exact absurd plain (by decide)
    simp [other]
  | _ => simp

/-- A scan counts closing brackets: there is one if it has met one, and never a second. -/
theorem Run.count_closing {scan last : Scan} (run : Run scan text last) :
    text.count ']' + scan.closed.toNat = last.closed.toNat := by
  induction run with
  | done => simp
  | @take scan c next text last takes rest ih =>
    have first := takes.count_closing
    rw [← List.singleton_append, List.count_append]
    omega

end Scan

theorem run_of_check {text : List Char} (formed : check text = .ok ()) :
    ∃ last, Scan.Run .start text last ∧ last.finish = .ok () := by
  obtain ⟨last, scanned, finished⟩ := bind_ok formed
  exact ⟨last, Scan.run_of_foldlM scanned, finished⟩

theorem isOwn_of_check {text : List Char} (formed : check text = .ok ()) :
    ∀ c ∈ text, isOwn c = true := by
  obtain ⟨last, run, _⟩ := run_of_check formed
  exact run.isOwn

/-- Text in which no authority ends. -/
def Undelimited (text : List Char) : Prop := ∀ c ∈ text, endsAuthority c = false

instance (text : List Char) : Decidable (Undelimited text) :=
  decidable_of_iff (text.all (!endsAuthority ·) = true) (by simp [Undelimited])

theorem undelimited_append {front back : List Char} :
    Undelimited (front ++ back) ↔ Undelimited front ∧ Undelimited back :=
  List.forall_mem_append

theorem undelimited_of_check {text : List Char} (formed : check text = .ok ()) :
    Undelimited text := by
  intro c member
  have own := isOwn_of_check formed c member
  rw [Bool.eq_false_iff]
  intro ends
  simp only [endsAuthority, Bool.or_eq_true, decide_eq_true_eq] at ends
  rcases ends with (rfl | rfl) | rfl <;> exact absurd own (by decide)

/-- An authority is cut off in front of the first character that ends one. -/
theorem split_ok {text front rest : List Char} (cut : split text = .ok (front, rest)) :
    front = text.takeWhile (!endsAuthority ·) ∧ rest = text.dropWhile (!endsAuthority ·) ∧
      check front = .ok () := by
  obtain ⟨_, formed, done⟩ := bind_ok cut
  cases done
  exact ⟨rfl, rfl, formed⟩

/-- Text that is read as an authority is one as a whole. -/
theorem check_of_parse {text front : List Char} (parsed : parse text = .ok front) :
    check text = .ok () := by
  unfold parse at parsed
  split at parsed
  · cases parsed
  · obtain ⟨⟨front, rest⟩, cut, whole⟩ := bind_ok parsed
    obtain ⟨taken, dropped, formed⟩ := split_ok cut
    cases rest with
    | cons c rest => cases whole
    | nil =>
      have entire : text = front := by
        rw [← List.takeWhile_append_dropWhile (p := (!endsAuthority ·)) (l := text), ← taken,
          ← dropped, List.append_nil]
      rw [entire]
      exact formed

/-- A bracket that opens an authority is closed, once. -/
theorem count_closing_of_check {rest : List Char} (formed : check ('[' :: rest) = .ok ()) :
    rest.count ']' = 1 := by
  obtain ⟨last, run, finished⟩ := run_of_check formed
  have count := run.count_closing
  have opened : last.opened = true := by
    cases run with
    | take takes further =>
      cases takes with
      | opening => exact further.opened rfl
      | plain plain => exact absurd plain (by decide)
  have closed : last.closed = true := by
    cases unclosed : last.closed with
    | true => rfl
    | false => simp [Scan.finish, opened, unclosed] at finished
  rw [closed] at count
  simpa [Scan.start] using count

/-- What makes a text the whole host of an authority: no user name in front, and either nothing
behind an address in brackets, or no colon. -/
def IsHost (text : List Char) : Prop :=
  '@' ∉ text ∧ if text.head? = some '[' then text.getLast? = some ']' else ':' ∉ text

instance (text : List Char) : Decidable (IsHost text) :=
  inferInstanceAs (Decidable (_ ∧ _))

theorem takeWhile_colon_iff {text digits : List Char} :
    (text ++ ':' :: digits).takeWhile (· ≠ ':') = text ↔ ':' ∉ text := by
  constructor
  · intro whole found
    rw [← whole] at found
    simpa using List.all_eq_true.mp List.all_takeWhile _ found
  · intro free
    rw [List.takeWhile_append_of_pos]
    · simp
    · intro c member
      have other : c ≠ ':' := fun same => free (same ▸ member)
      simpa using other

/-- What stands behind the one closing bracket of a text is no part of the host. -/
theorem host_bracketed_iff {rest tail : List Char} (userless : '@' ∉ rest ++ tail)
    (single : rest.count ']' = 1) :
    host ('[' :: (rest ++ tail)) = '[' :: rest ↔ ('[' :: rest).getLast? = some ']' := by
  have closes : ']' ∈ rest := by
    apply List.count_pos_iff.mp
    omega
  obtain ⟨inside, behind, rfl, free⟩ := List.eq_append_cons_of_mem closes
  have freeBehind : ']' ∉ behind := by
    apply List.count_eq_zero.mp
    rw [List.count_append, List.count_cons_self] at single
    omega
  have cut : (inside ++ ']' :: behind ++ tail).takeWhile (· ≠ ']') = inside := by
    rw [List.append_assoc, List.takeWhile_append_of_pos]
    · simp
    · intro c member
      have other : c ≠ ']' := fun same => free (same ▸ member)
      simpa using other
  rw [host_bracketed userless, cut]
  cases behind with
  | nil => simp [List.getLast?_cons, List.getLast?_append]
  | cons c behind =>
    have last : ('[' :: (inside ++ ']' :: c :: behind)).getLast? ≠ some ']' := by
      intro bracket
      apply freeBehind
      apply List.mem_of_getLast?
      simpa [List.getLast?_cons, List.getLast?_append] using bracket
    simp [last]

/-- With a port behind it, a text is the host of an authority exactly if it is the whole of one. -/
theorem host_with_port_iff {text digits : List Char}
    (formed : check (text ++ ':' :: digits) = .ok ()) (unsigned : '@' ∉ digits)
    (unbracketed : ']' ∉ digits) :
    host (text ++ ':' :: digits) = text ↔ IsHost text := by
  -- With a user name neither side holds: it is in front of the host, and never part of it.
  by_cases user : '@' ∈ text
  · constructor
    · intro whole
      exact absurd (whole ▸ user) (not_mem_host _)
    · intro isHost
      exact absurd user isHost.1
  have userless : '@' ∉ text ++ ':' :: digits := by simp [user, unsigned]
  by_cases bracketed : text.head? = some '['
  · obtain ⟨rest, rfl⟩ := List.head?_eq_some_iff.mp bracketed
    have single : rest.count ']' = 1 := by
      have count : (rest ++ ':' :: digits).count ']' = 1 := count_closing_of_check formed
      simpa [List.count_append, List.count_eq_zero.mpr unbracketed] using count
    have userlessRest : '@' ∉ rest ++ ':' :: digits := mt (List.mem_cons_of_mem '[') userless
    rw [IsHost, if_pos bracketed, List.cons_append, host_bracketed_iff userlessRest single]
    simp [user]
  · have bare : (text ++ ':' :: digits).head? ≠ some '[' := by
      cases text with
      | nil => simp
      | cons c rest => simpa using bracketed
    rw [host_bare userless bare, takeWhile_colon_iff, IsHost, if_neg bracketed]
    simp [user]

end Authority

end AmqpHandshake
