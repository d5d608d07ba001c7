import Outbound.Proofs.Hex
import Outbound.Proofs.Steps
import Outbound.WireGuard.Mode

/-!
# Modes and their texts

Which texts spell a mode of filler packets is said by a grammar (`Mode.Spells`): a name in either
case, nothing at all, or a letter and pairs of hexadecimal digits with underscores wherever one
likes. The reader accepts the texts of the grammar and no others, and the text of a mode is one of
them (`Mode.parse_spelling`).
-/
namespace Outbound

namespace WireGuard.Mode

/-! ## The grammar -/

/-- The letter before the octets of a custom mode, in either case, and whether genuine packets are
changed. -/
inductive Mark : Char → Bool → Prop
  /-- They are left alone. -/
  | keeps : Mark 'h' false
  /-- They are left alone, with a capital letter. -/
  | keepsCapital : Mark 'H' false
  /-- They are changed. -/
  | changes : Mark 'g' true
  /-- They are changed, with a capital letter. -/
  | changesCapital : Mark 'G' true

/-- The texts that spell a mode. -/
inductive Spells : List Char → Mode → Prop
  /-- No text at all spells the first mode. -/
  | nothing : Spells [] (named .m1)
  /-- The name of a mode, in either case, spells it. -/
  | name {text : List Char} {mode : NamedMode}
      (name : text.map Char.toLower = mode.name.toList) : Spells text (named mode)
  /-- A letter and digits, without the underscores among them, spell a custom mode. -/
  | custom {letter : Char} {text : List Char} {header : Bytes} {modify : Bool}
      (mark : Mark letter modify) (octets : Hex.Spells (text.filter (· != '_')) header) :
      Spells (letter :: text) (custom header modify)

/-- The letter of a custom mode in lower case. -/
theorem mark_iff {letter : Char} {modify : Bool} :
    Mark letter modify ↔ letter.toLower = if modify then 'g' else 'h' := by
  constructor
  · intro mark
    cases mark <;> rfl
  · intro lower
    rw [toLower_eq_iff] at lower
    split at lower
    case isTrue capital =>
      cases modify with
      | false =>
        obtain rfl : letter = 'H' := Char.toNat_inj.mp (Nat.add_right_cancel (m := 32) lower)
        exact .keepsCapital
      | true =>
        obtain rfl : letter = 'G' := Char.toNat_inj.mp (Nat.add_right_cancel (m := 32) lower)
        exact .changesCapital
    case isFalse =>
      subst lower
      cases modify with
      | false => exact .keeps
      | true => exact .changes

/-! ## Reading -/

/-- A name is that of a mode, or nothing for the first. -/
theorem ofName?_eq_some_iff {name : List Char} {mode : NamedMode} :
    NamedMode.ofName? name = some mode ↔ name = mode.name.toList ∨ name = [] ∧ mode = .m1 := by
  constructor
  · intro found
    unfold NamedMode.ofName? at found
    split at found
    case h_1 =>
      cases found
      exact .inr ⟨rfl, rfl⟩
    case h_8 => cases found
    all_goals
      cases found
      exact .inl rfl
  · rintro (rfl | ⟨rfl, rfl⟩)
    · cases mode <;> rfl
    · rfl

/-- Underscores are the same in either case. -/
theorem filter_toLower (text : List Char) :
    (text.map Char.toLower).filter (· != '_') = (text.filter (· != '_')).map Char.toLower := by
  have same : ((· != '_') ∘ Char.toLower : Char → Bool) = (· != '_') := by
    funext c
    have number : c.toLower = '_' ↔ c = '_' := by
      rw [toLower_eq_iff, ← Char.toNat_inj]
      simp only [Char.reduceToNat]
      split <;> omega
    simp only [Function.comp, bne, Bool.not_inj_iff, beq_eq_beq, number]
  rw [List.filter_map, same]

/-- The octets of a custom mode are spelled without regard to underscores and case. -/
theorem readHeader_eq_ok_iff {text : List Char} {header : Bytes} :
    readHeader (text.map Char.toLower) = .ok header ↔
      Hex.Spells (text.filter (· != '_')) header := by
  rw [readHeader, mapError_eq_ok, filter_toLower, Hex.decodeChars_eq_ok_iff,
    Hex.spells_toLower_iff]

/-- A text that starts with the letter of a custom mode is read as one. -/
theorem read_of_mark {letter : Char} {modify : Bool} (mark : Mark letter modify)
    (text : List Char) :
    read (letter :: text) = (readHeader (text.map Char.toLower)).map (custom · modify) := by
  cases mark <;> rfl

/-- A text is read as a mode just if it spells it. -/
theorem read_eq_ok_iff {text : List Char} {mode : Mode} :
    read text = .ok mode ↔ Spells text mode := by
  constructor
  · intro found
    unfold read at found
    dsimp only at found
    split at found
    case h_1 mode known =>
      cases found
      obtain name | ⟨empty, rfl⟩ := ofName?_eq_some_iff.mp known
      · exact .name name
      · rw [List.map_eq_nil_iff.mp empty]
        exact .nothing
    case h_2 unknown =>
      split at found
      case h_1 digits lower =>
        obtain ⟨letter, others, rfl, small, rfl⟩ := List.map_eq_cons_iff.mp lower
        obtain ⟨header, octets, rfl⟩ := map_eq_ok.mp found
        exact .custom (mark_iff.mpr small) (readHeader_eq_ok_iff.mp octets)
      case h_2 digits lower =>
        obtain ⟨letter, others, rfl, small, rfl⟩ := List.map_eq_cons_iff.mp lower
        obtain ⟨header, octets, rfl⟩ := map_eq_ok.mp found
        exact .custom (mark_iff.mpr small) (readHeader_eq_ok_iff.mp octets)
      case h_3 => cases found
  · intro spells
    cases spells with
    | nothing => rfl
    | name name =>
      simp only [read]
      rw [ofName?_eq_some_iff.mpr (.inl name)]
    | custom mark octets =>
      rw [read_of_mark mark, readHeader_eq_ok_iff.mpr octets]
      rfl

/-- A text is read as a mode just if it spells it. -/
theorem parse_eq_ok_iff {text : String} {mode : Mode} :
    parse text = .ok mode ↔ Spells text.toList mode := by
  rw [parse, mapError_eq_ok, read_eq_ok_iff]

/-- The error of a text that spells no mode quotes the text and words its fault. -/
theorem parse_eq_error_iff {text : String} {error : Error} :
    parse text = .error error ↔
      ∃ fault, read text.toList = .error fault ∧
        .invalidFakePacketMode text fault.message = error := by
  rw [parse, mapError_eq_error]

/-- Two texts are read alike: both as one mode, or neither, for one reason and each under its own
text. -/
structure ReadAlike (text other : String) : Prop where
  /-- Both are read as a mode if either is. -/
  mode : ∀ mode, parse text = .ok mode ↔ parse other = .ok mode
  /-- Both are refused for a reason if either is. -/
  reason : ∀ reason, parse text = .error (.invalidFakePacketMode text reason) ↔
    parse other = .error (.invalidFakePacketMode other reason)

/-- Texts whose characters are read alike. -/
theorem readAlike_of_read {text other : String} (same : read text.toList = read other.toList) :
    ReadAlike text other := by
  constructor
  case mode =>
    intro mode
    rw [parse, parse, mapError_eq_ok, mapError_eq_ok, same]
  case reason =>
    intro reason
    simp only [parse_eq_error_iff, same, Error.invalidFakePacketMode.injEq, true_and]

/-- Characters are read alike in either case. -/
theorem read_congr_case {text other : List Char}
    (same : text.map Char.toLower = other.map Char.toLower) : read text = read other := by
  rw [read, read, same]

/-- After the letter of a custom mode characters are read alike with other underscores. -/
theorem read_congr_underscores {letter : Char} {modify : Bool} (mark : Mark letter modify)
    {text other : List Char} (same : text.filter (· != '_') = other.filter (· != '_')) :
    read (letter :: text) = read (letter :: other) := by
  rw [read_of_mark mark, read_of_mark mark, readHeader, readHeader, filter_toLower,
    filter_toLower, same]

/-! ## Writing -/

/-- Written digits spell their octets. -/
theorem spells_digits (bytes : Bytes) : Hex.Spells (Hex.digits bytes) bytes :=
  Hex.decodeChars_eq_ok_iff.mp (Hex.decodeChars_digits bytes)

/-- There is no underscore among written digits. -/
theorem filter_digits (bytes : Bytes) :
    (Hex.digits bytes).filter (· != '_') = Hex.digits bytes := by
  rw [List.filter_eq_self]
  intro c mem
  obtain ⟨value, bound, rfl⟩ := Hex.exists_of_mem_digits mem
  have read := Hex.digitValue?_digit bound
  apply bne_iff_ne.mpr
  intro underscore
  rw [underscore] at read
  cases read

/-- The text of a mode spells it. -/
theorem spells_text (mode : Mode) : Spells mode.text.toList mode := by
  cases mode with
  | named mode =>
    cases mode <;> exact .name rfl
  | custom header modify =>
    rw [text, String.toList_ofList]
    refine .custom (mark_iff.mpr ?_) ?_
    · cases modify <;> rfl
    · rw [filter_digits]
      exact spells_digits header

/-- Reading modes is exact and agrees with writing them. A text is read as a mode just if it spells
it, and an error quotes the text. The text of a mode is read as the mode. Texts that differ in the
case of their letters are read alike, and so are texts of custom modes that differ in the
underscores after their letter. -/
theorem parse_spelling :
    (∀ text mode, parse text = .ok mode ↔ Spells text.toList mode) ∧
    (∀ text error, parse text = .error error →
      ∃ reason, error = .invalidFakePacketMode text reason) ∧
    (∀ mode : Mode, parse mode.text = .ok mode) ∧
    (∀ text other : String, text.toList.map Char.toLower = other.toList.map Char.toLower →
      ReadAlike text other) ∧
    ∀ letter modify, Mark letter modify → ∀ text other : List Char,
      text.filter (· != '_') = other.filter (· != '_') →
      ReadAlike (String.ofList (letter :: text)) (String.ofList (letter :: other)) := by
  refine ⟨fun _ _ => parse_eq_ok_iff, fun text error failed => ?_,
    fun mode => parse_eq_ok_iff.mpr mode.spells_text,
    fun text other same => readAlike_of_read (read_congr_case same),
    fun letter modify mark text other same => ?_⟩
  · obtain ⟨fault, -, rfl⟩ := parse_eq_error_iff.mp failed
    exact ⟨_, rfl⟩
  · apply readAlike_of_read
    rw [String.toList_ofList, String.toList_ofList]
    exact read_congr_underscores mark same

/-- Capital letters and underscores are passed over. -/
example : parse "H0a__0B_" = .ok (custom [0x0a, 0x0b] false) := by decide +kernel

/-- A letter alone spells a custom mode without octets. -/
example : parse "G" = .ok (custom [] true) := by decide +kernel

end WireGuard.Mode

end Outbound
