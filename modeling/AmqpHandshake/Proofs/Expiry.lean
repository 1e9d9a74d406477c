import AmqpHandshake.Credential
import AmqpHandshake.Proofs.Numeral

/-! The expiry of a shared access signature: the first segment that is a field for it decides, and
the time in it is read exactly if it is a decimal numeral in range. -/
namespace AmqpHandshake

namespace Text

theorem isBlank_of_isDigit {c : Char} (digit : c.isDigit = true) : isBlank c = false := by
  obtain ⟨low, high⟩ := Char.isDigit_iff_toNat.mp digit
  change 48 ≤ c.toNat at low
  change c.toNat ≤ 57 at high
  simp [isBlank]
  omega

/-- Trimming makes a numeral of a text exactly if the text is a numeral between blanks. -/
theorem numeral_trim_iff {text : List Char} {n : Int} :
    Numeral (trim text) n ↔ ∃ numeral, Pads numeral text ∧ Numeral numeral n := by
  constructor
  · intro trimmed
    exact ⟨trim text, pads_trim text, trimmed⟩
  · rintro ⟨numeral, pads, reads⟩
    have solid : numeral ≠ [] ∧ ∀ c ∈ numeral, isBlank c = false := by
      cases reads with
      | unsigned digits => exact ⟨digits.some, fun c member => isBlank_of_isDigit (digits.all c member)⟩
      | plus digits | minus digits =>
        refine ⟨List.cons_ne_nil _ _, List.forall_mem_cons.mpr ⟨by decide, ?_⟩⟩
        exact fun c member => isBlank_of_isDigit (digits.all c member)
    rwa [(trim_eq_iff solid.1 solid.2).mpr pads]

end Text

theorem UtcTime.ofSeconds?_iff {n seconds : Int} :
    (ofSeconds? n).map UtcTime.seconds = some seconds ↔
      n = seconds ∧ -8334601228800 ≤ seconds ∧ seconds ≤ 8210266876799 := by
  unfold ofSeconds?
  split
  · rename_i inRange
    simp only [Option.map_some, Option.some.injEq]
    constructor
    · rintro rfl
      exact ⟨rfl, inRange⟩
    · exact And.left
  · rename_i outside
    simp only [Option.map_none, reduceCtorEq, false_iff]
    rintro ⟨rfl, inRange⟩
    exact outside inRange

namespace SasToken

/-- A segment is a field for the expiry, with some text: cut at its first equals sign, it has the
key `se`, between blanks or not. -/
def IsExpiry (segment : String) (text : List Char) : Prop :=
  ∃ key, segment.toList = key ++ '=' :: text ∧ '=' ∉ key ∧ Text.Pads ['s', 'e'] key

/-- A token is made of segments: they are joined and stand behind the scheme, or alone if they do
not begin with the scheme themselves. -/
inductive Joins (segments : List String) : String → Prop
  | behindScheme : Joins segments ("SharedAccessSignature " ++ "&".intercalate segments)
  | alone (other : ¬ scheme <+: ("&".intercalate segments).toList) :
      Joins segments ("&".intercalate segments)

variable {segments : List String} {token : String}

theorem body_of_joins (joins : Joins segments token) :
    body token.toList = ['&'].intercalate (segments.map String.toList) := by
  have joined : ("&".intercalate segments).toList =
      ['&'].intercalate (segments.map String.toList) := String.toList_intercalate
  cases joins with
  | behindScheme =>
    rw [body, String.toList_append, joined]
    change (Text.dropLead? scheme (scheme ++ _)).getD _ = _
    rw [Text.dropLead?_append, Option.getD_some]
  | alone other => rw [body, Text.dropLead?_of_not_prefix other, Option.getD_none, joined]

/-- The segments that hold an equals sign, cut there. -/
def fields (segments : List String) : List (List Char × List Char) :=
  (segments.map String.toList).filterMap (Text.cutFirst '=')

theorem expiryText?_of_joins (free : ∀ segment ∈ segments, '&' ∉ segment.toList)
    (joins : Joins segments token) :
    expiryText? token.toList =
      ((fields segments).find? fun (key, _) => Text.trim key == ['s', 'e']).map Prod.snd := by
  have cut : (Text.pieces '&' (body token.toList)).filterMap (Text.cutFirst '=') =
      fields segments := by
    rw [body_of_joins joins]
    cases segments with
    | nil => rfl
    | cons segment rest =>
      rw [Text.pieces_intercalate (by simp) (by simpa using free)]
      rfl
  rw [expiryText?, cut]

theorem isExpiry_iff {segment : String} {text : List Char} :
    IsExpiry segment text ↔ ∃ key, Text.cutFirst '=' segment.toList = some (key, text) ∧
      Text.trim key = ['s', 'e'] := by
  have keyed {key : List Char} : Text.trim key = ['s', 'e'] ↔ Text.Pads ['s', 'e'] key :=
    Text.trim_eq_iff nofun (by simp [Text.isBlank])
  simp only [IsExpiry, Text.cutFirst_eq_some_iff, keyed, and_assoc]

theorem find?_fields_eq_none (none : ∀ segment ∈ segments, ∀ text, ¬ IsExpiry segment text) :
    ((fields segments).find? fun (key, _) => Text.trim key == ['s', 'e']) = .none := by
  apply List.find?_eq_none.mpr
  rintro ⟨key, text⟩ member keyed
  obtain ⟨letters, present, cut⟩ := List.mem_filterMap.mp member
  obtain ⟨segment, inside, rfl⟩ := List.mem_map.mp present
  exact none segment inside text (isExpiry_iff.mpr ⟨key, cut, beq_iff_eq.mp keyed⟩)

theorem find?_fields_eq_some {before : List String} {segment : String} {text : List Char}
    (first : ∀ earlier ∈ before, ∀ text, ¬ IsExpiry earlier text)
    (expires : IsExpiry segment text) (after : List String) :
    ∃ key, ((fields (before ++ segment :: after)).find? fun (key, _) =>
      Text.trim key == ['s', 'e']) = some (key, text) := by
  obtain ⟨key, cut, keyed⟩ := isExpiry_iff.mp expires
  have parts : fields (before ++ segment :: after) =
      fields before ++ (key, text) :: fields after := by
    simp only [fields, List.map_append, List.filterMap_append, List.map_cons,
      List.filterMap_cons_some cut]
  refine ⟨key, ?_⟩
  rw [parts, List.find?_append, find?_fields_eq_none first, Option.none_or,
    List.find?_cons_of_pos (by simp [keyed])]

theorem isExpiry_numeral (time : UtcTime) :
    IsExpiry ("se=" ++ toString time.seconds) (toString time.seconds).toList := by
  refine ⟨['s', 'e'], ?_, by decide, [], [], rfl, nofun, nofun⟩
  rw [String.toList_append]
  rfl

theorem expiry_eq_none (free : ∀ segment ∈ segments, '&' ∉ segment.toList)
    (joins : Joins segments token) (none : ∀ segment ∈ segments, ∀ text, ¬ IsExpiry segment text) :
    expiry token = .none := by
  rw [expiry, expiryText?_of_joins free joins, find?_fields_eq_none none]
  rfl

theorem seconds_expiry_iff {before after : List String} {segment : String} {text : List Char}
    (free : ∀ other ∈ before ++ segment :: after, '&' ∉ other.toList)
    (joins : Joins (before ++ segment :: after) token)
    (first : ∀ earlier ∈ before, ∀ text, ¬ IsExpiry earlier text)
    (expires : IsExpiry segment text) {seconds : Int} :
    (expiry token).map UtcTime.seconds = some seconds ↔
      (∃ numeral, Text.Pads numeral text ∧ Text.Numeral numeral seconds) ∧
        -8334601228800 ≤ seconds ∧ seconds ≤ 8210266876799 := by
  obtain ⟨key, found⟩ := find?_fields_eq_some first expires after
  have chosen : expiry token = (Text.signed? (Text.trim text)).bind UtcTime.ofSeconds? := by
    rw [expiry, expiryText?_of_joins free joins, found]
    rfl
  rw [chosen, Option.map_bind, Option.bind_eq_some_iff, ← Text.numeral_trim_iff,
    ← Text.signed?_eq_some_iff]
  constructor
  · rintro ⟨n, read, timed⟩
    obtain ⟨rfl, inRange⟩ := UtcTime.ofSeconds?_iff.mp timed
    exact ⟨read, inRange⟩
  · rintro ⟨read, inRange⟩
    exact ⟨seconds, read, UtcTime.ofSeconds?_iff.mpr ⟨rfl, inRange⟩⟩

/-- The first segment that is a field for the expiry decides what the expiry of a token is: its
text must be a decimal numeral, signed or not and between blanks or not, of a time in range, and
otherwise there is no expiry, whatever segments follow. There is none either without such a segment.
So a time that is written in decimal is read back from behind any other fields. -/
theorem expiry_of_first_field (free : ∀ segment ∈ segments, '&' ∉ segment.toList)
    (joins : Joins segments token) :
    ((∀ segment ∈ segments, ∀ text, ¬ IsExpiry segment text) → expiry token = none) ∧
    (∀ before segment after text, segments = before ++ segment :: after →
      (∀ earlier ∈ before, ∀ text, ¬ IsExpiry earlier text) → IsExpiry segment text →
      ∀ seconds, (expiry token).map UtcTime.seconds = some seconds ↔
        (∃ numeral, Text.Pads numeral text ∧ Text.Numeral numeral seconds) ∧
          (-9223372036854775808 ≤ seconds ∧ seconds ≤ 9223372036854775807) ∧
          -8334601228800 ≤ seconds ∧ seconds ≤ 8210266876799) ∧
    ∀ before after time, segments = before ++ ("se=" ++ toString time.seconds) :: after →
      (∀ earlier ∈ before, ∀ text, ¬ IsExpiry earlier text) → expiry token = some time := by
  refine ⟨expiry_eq_none free joins, ?_, ?_⟩
  · rintro before segment after text rfl first expires seconds
    rw [seconds_expiry_iff free joins first expires]
    constructor
    · rintro ⟨reads, low, high⟩
      exact ⟨reads, by omega, low, high⟩
    · rintro ⟨reads, -, inRange⟩
      exact ⟨reads, inRange⟩
  · rintro before after time rfl first
    have pads : Text.Pads (toString time.seconds).toList (toString time.seconds).toList :=
      ⟨[], [], by simp, nofun, nofun⟩
    have seconds := (seconds_expiry_iff free joins first (isExpiry_numeral time)).mpr
      ⟨⟨_, pads, Text.numeral_toString time.seconds⟩, time.earliest, time.latest⟩
    obtain ⟨found, expires, same⟩ := Option.map_eq_some_iff.mp seconds
    rw [expires, ← UtcTime.ofSeconds?_seconds found, same, UtcTime.ofSeconds?_seconds]

/-- The key stands between blanks, and the signature before it holds further equals signs. The first
of two fields for the expiry counts, with its sign and its leading zero. -/
theorem expiry_of_padded_field :
    let segments := ["sig=c2U=", "\u3000se\t= +01700000000 ", "se=5"]
    let token := "SharedAccessSignature " ++ "&".intercalate segments
    (∀ segment ∈ segments, '&' ∉ segment.toList) ∧ Joins segments token ∧
      (expiry token).map UtcTime.seconds = some 1700000000 := by
  intro segments token
  have free : ∀ segment ∈ segments, '&' ∉ segment.toList := by decide
  have joins : Joins segments token := .behindScheme
  have first : ∀ earlier ∈ ["sig=c2U="], ∀ text, ¬ IsExpiry earlier text := by
    intro earlier member text expires
    obtain ⟨key, cut, keyed⟩ := isExpiry_iff.mp expires
    obtain rfl := List.mem_singleton.mp member
    cases cut
    exact absurd keyed (by decide)
  have expires : IsExpiry "\u3000se\t= +01700000000 " " +01700000000 ".toList :=
    isExpiry_iff.mpr ⟨"\u3000se\t".toList, by decide, by decide⟩
  have pads : Text.Pads "+01700000000".toList " +01700000000 ".toList :=
    ⟨[' '], [' '], by decide, List.all_eq_true.mp rfl, List.all_eq_true.mp rfl⟩
  have reads : Text.Numeral "+01700000000".toList 1700000000 :=
    .plus ⟨by decide, List.all_eq_true.mp rfl, by decide⟩
  refine ⟨free, joins, ?_⟩
  apply ((expiry_of_first_field free joins).2.1 _ _ _ _ rfl first expires 1700000000).mpr
  exact ⟨⟨_, pads, reads⟩, by decide, by decide⟩

end SasToken

end AmqpHandshake
