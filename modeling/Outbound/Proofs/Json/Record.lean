import Outbound.Json.Codec
import Outbound.Proofs.Json.Reading

/-!
# Records in JSON

What is written for the fields of a record is read back, field by field, and a field whose member
is left out is read as its default. A type of settings for which this holds comes back whole from
its text, and with defaults for what is left out of it (`Codec.Faithful`).
-/
namespace Outbound.Json

/-- An object without the members of some keys. -/
def Value.without (gone : List String) : Value → Value
  | object members => object (members.filter fun member => decide (member.1 ∉ gone.map some))
  | other => other

namespace Codec

variable {α : Type}

/-- Settings come back from their text, and from what is left of it without some members, with
the fields of these reset. -/
def Faithful (codec : Codec α) (reset : List String → α → α) : Prop :=
  ∀ settings, codec.parse (codec.render settings) = some settings ∧
    ∀ gone, codec.parse ((codec.write settings).without gone).render = some (reset gone settings)

/-- What a field needs to know about a codec. -/
structure Regular (codec : Codec α) : Prop where
  /-- What is written is read back. -/
  lawful : codec.Lawful
  /-- What is written is present. -/
  present : ∀ settings, codec.write settings ≠ .null
  /-- What is written comes back from its text. -/
  fits : ∀ settings, (codec.write settings).fits = true

/-- Text is read back. -/
theorem regular_text : text.Regular :=
  ⟨fun _ => rfl, fun _ => by simp [text, Value.text], fun _ => rfl⟩

/-- A truth value is read back. -/
theorem regular_bool : bool.Regular := ⟨fun _ => rfl, fun _ => by simp [bool], fun _ => rfl⟩

/-- A number of sixteen bits is read back. -/
theorem regular_word16 : word16.Regular where
  lawful word := by
    have bound : word.toNat < UInt16.size := word.toNat_lt
    simp only [word16, if_pos bound, UInt16.ofNat_toNat]
  present word := by simp [word16]
  fits _ := rfl

/-- A number of thirty-two bits is read back. -/
theorem regular_word32 : word32.Regular where
  lawful word := by
    have bound : word.toNat < UInt32.size := word.toNat_lt
    simp only [word32, if_pos bound, UInt32.ofNat_toNat]
  present word := by simp [word32]
  fits _ := rfl

/-- A number of sixty-four bits is read back. -/
theorem regular_word64 : word64.Regular where
  lawful word := by
    have bound : word.toNat < UInt64.size := word.toNat_lt
    simp only [word64, if_pos bound, UInt64.ofNat_toNat]
  present word := by simp [word64]
  fits _ := rfl

/-- What has a text that spells it is read back. -/
theorem regular_spelled {spell : α → String} {read : String → Option α}
    (spelled_back : ∀ settings, read (spell settings) = some settings) :
    (spelled spell read).Regular :=
  ⟨spelled_back, fun _ => by simp [spelled, Value.text], fun _ => rfl⟩

end Codec

namespace Members

variable {α : Type} {codec : Codec α} {members more : Members} {names others : List String}
  {name : String}

/-- The members whose keys are not gone. -/
def without (members : Members) (gone : List String) : Members :=
  members.filter fun member => decide (member.1 ∉ gone)

/-- Nothing is left out for no keys. -/
theorem without_nil (members : Members) : members.without [] = members := by simp [without]

/-! ## Members that are written -/

/-- Members that are written under some names, in their order and each at most once. -/
structure Regular (names : List String) (members : Members) : Prop where
  /-- The keys are among the names. -/
  listed : (members.map Prod.fst).Sublist names
  /-- The values come back from their text. -/
  fits : ∀ member ∈ members, member.2.fits = true

/-- Members are written after others. -/
theorem Regular.append (regular : Regular names members) (next : Regular others more) :
    Regular (names ++ others) (members ++ more) where
  listed := by
    rw [List.map_append]
    exact regular.listed.append next.listed
  fits member mem := by
    obtain mem | mem := List.mem_append.mp mem
    · exact regular.fits member mem
    · exact next.fits member mem

/-- A field that is always written is written under its name. -/
theorem regular_write (regular : codec.Regular) (name : String) (settings : α) :
    Regular [name] (write name codec settings) where
  listed := List.Sublist.refl _
  fits member mem := by
    cases List.mem_singleton.mp mem
    exact regular.fits settings

/-- A field that may be absent is written under its name. -/
theorem regular_writeOptional (regular : codec.Regular) (name : String) (settings : Option α) :
    Regular [name] (writeOptional name codec settings) := by
  cases settings with
  | none => exact ⟨List.nil_sublist _, fun member mem => by cases mem⟩
  | some settings => exact regular_write regular name settings

/-- Members without some are still members under the names. -/
theorem Regular.without (regular : Regular names members) (gone : List String) :
    Regular names (members.without gone) where
  listed := (List.filter_sublist.map _).trans regular.listed
  fits member mem := regular.fits member (List.mem_of_mem_filter mem)

/-! ## Reading members -/

/-- What is found under a key is the value of the first member, if this has the key. -/
theorem lookup_cons (key name : String) (value : Value) (members : Members) :
    ((name, value) :: members).lookup key =
      if key = name then some value else members.lookup key := by
  by_cases same : key = name
  · rw [if_pos same, same, List.lookup_cons_self]
  · have differs : (key == name) = false := beq_false_of_ne same
    rw [if_neg same, List.lookup_cons, differs]

/-- What is found under a key, unless it is gone. -/
theorem lookup_without (members : Members) (gone : List String) (name : String) :
    (members.without gone).lookup name = if name ∈ gone then none else members.lookup name := by
  induction members with
  | nil => simp [without]
  | cons member members ih =>
    obtain ⟨key, value⟩ := member
    rw [without] at ih ⊢
    rw [List.filter_cons, lookup_cons]
    by_cases left_out : key ∈ gone
    · simp only [left_out, not_true_eq_false, decide_false, Bool.false_eq_true, if_false, ih]
      by_cases same : name = key
      · rw [if_pos (same ▸ left_out), if_pos (same ▸ left_out)]
      · rw [if_neg same]
    · simp only [left_out, not_false_eq_true, decide_true, if_true, lookup_cons, ih]
      by_cases same : name = key
      · rw [if_pos same, if_pos same, if_neg (same ▸ left_out)]
      · rw [if_neg same, if_neg same]

/-- What is found under the key of a field that is always written. -/
@[simp] theorem lookup_write (name key : String) (settings : α) :
    (write name codec settings).lookup key =
      if key = name then some (codec.write settings) else none :=
  lookup_cons key name _ []

/-- What is found under the key of a field that may be absent. -/
@[simp] theorem lookup_writeOptional (name key : String) (settings : Option α) :
    (writeOptional name codec settings).lookup key =
      if key = name then settings.map codec.write else none := by
  cases settings with
  | none => simp [writeOptional]
  | some settings => exact lookup_write name key settings

/-- A field that was written is read, or reset if it is gone. -/
theorem field_without (regular : codec.Regular) {settings : α}
    (written : members.lookup name = some (codec.write settings)) (gone : List String)
    (absent : α) : (members.without gone).field name codec absent =
      some (if name ∈ gone then absent else settings) := by
  rw [field, lookup_without, written]
  by_cases left_out : name ∈ gone
  · simp only [if_pos left_out]
  · simp only [if_neg left_out]
    exact regular.lawful settings

/-- A field that may be absent is read, or absent if it is gone. -/
theorem optional_without (regular : codec.Regular) {settings : Option α}
    (written : members.lookup name = settings.map codec.write) (gone : List String) :
    (members.without gone).optional name codec =
      some (if name ∈ gone then none else settings) := by
  rw [optional, lookup_without, written]
  by_cases left_out : name ∈ gone
  · simp only [if_pos left_out]
  · simp only [if_neg left_out]
    cases settings with
    | none => rfl
    | some settings =>
      have back := regular.lawful settings
      have there := regular.present settings
      rw [Option.map_some]
      generalize codec.write settings = value at back there
      cases value with
      | null => exact absurd rfl there
      | _ =>
        dsimp only
        rw [back]
        rfl

/-- A reader that begins with a field goes on with what was written, or the default if that is
gone. -/
theorem field_then {β : Type} (regular : codec.Regular) (settings : α) {absent : α}
    {gone : List String} {rest : α → Option β} {result : β}
    (written : members.lookup name = some (codec.write settings))
    (next : rest (if name ∈ gone then absent else settings) = some result) :
    ((members.without gone).field name codec absent >>= rest) = some result := by
  rw [field_without regular written gone absent]
  exact next

/-- A reader that begins with a field that may be absent goes on with what was written, or nothing
if that is gone. -/
theorem optional_then {β : Type} (regular : codec.Regular) (settings : Option α)
    {gone : List String} {rest : Option α → Option β} {result : β}
    (written : members.lookup name = settings.map codec.write)
    (next : rest (if name ∈ gone then none else settings) = some result) :
    ((members.without gone).optional name codec >>= rest) = some result := by
  rw [optional_without regular written gone]
  exact next

/-- The members of an object are found if no key is repeated. -/
theorem of_record (distinct : (members.map Prod.fst).Nodup) (names : List String) :
    Members.of names (.record members) = some members := by
  have keys : (members.map fun member => (some member.1, member.2)).mapM
      (fun member : Option String × Value => member.1.map fun key => (key, member.2)) =
        some members := by
    clear distinct
    induction members with
    | nil => rfl
    | cons member members ih => simp [ih]
  have known : ((members.map Prod.fst).filter (· ∈ names)).Nodup := distinct.filter _
  simp only [of, Value.record, ofObject, keys, Option.bind_eq_bind, Option.bind_some,
    if_pos known]

end Members

namespace Value

/-- A record without some members. -/
theorem record_without (members : Members) (gone : List String) :
    (record members).without gone = record (members.without gone) := by
  have same : ((fun member : Option String × Value => decide (member.1 ∉ gone.map some)) ∘
      fun member : String × Value => (some member.1, member.2)) =
        fun member => decide (member.1 ∉ gone) := by
    funext member
    have key : some member.1 ∈ gone.map some ↔ member.1 ∈ gone :=
      List.mem_map_of_injective fun _ _ same => Option.some.inj same
    simp only [Function.comp_apply, key]
  simp only [record, without, Members.without, List.filter_map, same]

/-- Nothing is left out for no keys. -/
theorem without_nil (value : Value) : value.without [] = value := by
  cases value <;> simp [without]

/-- A record comes back from its text if its members do. -/
theorem fits_record {members : Members} (fits : ∀ member ∈ members, member.2.fits = true) :
    (record members).fits = true := by
  rw [record, Value.fits]
  induction members with
  | nil => rfl
  | cons member members ih =>
    rw [List.map_cons, allFitMembers, fits member (List.mem_cons_self ..),
      ih fun other mem => fits other (List.mem_cons_of_mem _ mem)]
    rfl

/-- A number of thirty-two bits is not rounded. -/
theorem round_of_lt {n : Nat} (small : n < UInt32.size) : Real.round n = n := by
  have places : Nat.log2 n - 52 = 0 := by
    by_cases zero : n = 0
    · subst zero
      rfl
    · have bound : Nat.log2 n < 32 := (Nat.log2_lt zero).mpr small
      omega
  have unit : Nat.pow 2 0 = 1 := rfl
  simp only [Real.round, places, unit, Nat.mod_one, Nat.div_one, Nat.mul_one]
  rw [if_neg (by omega)]

/-- A number of thirty-two bits is in range. -/
theorem isSound_nat {n : Nat} (small : n < UInt32.size) : (nat n).isSound = true := by
  have read : Real.ofNumeral false (Decimal.digits n) [] 0 = ⟨false, n, 0⟩ :=
    Reader.ofNumeral_digits ⟨false, n, 0⟩ (Nat.lt_trans small (by decide))
  have far : UInt32.size ≤ Real.overflow := by decide +kernel
  have unit : Real.round (Nat.pow 10 (0 : Int).toNat) = 1 := rfl
  have within : ¬Real.overflow ≤ Real.round n * 1 := by
    rw [round_of_lt small]
    omega
  rw [isSound, read, Real.overflows]
  dsimp only
  rw [if_neg (c := _ < _) (by decide), unit, decide_eq_false within]
  simp

/-- A record is sound if its members are. -/
theorem isSound_record {members : Members}
    (sound : ∀ member ∈ members, member.2.isSound = true) : (record members).isSound = true := by
  rw [record, isSound]
  induction members with
  | nil => rfl
  | cons member members ih =>
    rw [List.map_cons, areSoundMembers, sound member (List.mem_cons_self ..),
      ih fun other mem => sound other (List.mem_cons_of_mem _ mem)]
    rfl

/-- A record of members that are not nested is nested once. -/
theorem depth_record {members : Members} (flat : ∀ member ∈ members, member.2.depth = 0) :
    (record members).depth = 1 := by
  rw [record, depth]
  induction members with
  | nil => rfl
  | cons member members ih =>
    rw [List.map_cons, depthMembers, flat member (List.mem_cons_self ..), Nat.zero_max,
      ih fun other mem => flat other (List.mem_cons_of_mem _ mem)]

end Value

namespace Members.Regular

variable {names : List String} {members : Members}

/-- A record comes back from its text, also without some members. -/
theorem parse_without (regular : Members.Regular names members) (gone : List String) :
    Json.parse ((Value.record members).without gone).render =
      some (.record (members.without gone)) := by
  rw [Value.record_without]
  exact parse_render _ (Value.fits_record (regular.without gone).fits)

/-- The members of a record are found, also without some. -/
theorem of_without (regular : Members.Regular names members) (distinct : names.Nodup)
    (gone : List String) :
    Members.of names (.record (members.without gone)) = some (members.without gone) :=
  Members.of_record (distinct.sublist (regular.without gone).listed) names

/-- A reader of a record goes on with its members, also without some. -/
theorem of_then {β : Type} (regular : Members.Regular names members) (distinct : names.Nodup)
    {gone : List String} {rest : Members → Option β} {result : β}
    (next : rest (members.without gone) = some result) :
    (Members.of names (.record (members.without gone)) >>= rest) = some result := by
  rw [regular.of_without distinct gone]
  exact next

end Members.Regular

namespace Codec

variable {α : Type} {codec : Codec α} {members : α → Members} {names : List String}
  {reset : List String → α → α}

/-- A record whose members are read back, also without some, is a field that is read back. -/
theorem regular_record (written : ∀ settings, codec.write settings = .record (members settings))
    (regular : ∀ settings, Members.Regular names (members settings))
    (read : ∀ settings gone,
      codec.read (.record ((members settings).without gone)) = some (reset gone settings))
    (whole : ∀ settings, reset [] settings = settings) : codec.Regular where
  lawful settings := by
    have all := read settings []
    rwa [Members.without_nil, whole, ← written] at all
  present settings := by
    rw [written, Value.record]
    exact fun null => by cases null
  fits settings := by
    rw [written]
    exact Value.fits_record (regular settings).fits

/-- A record whose members are read back, also without some, comes back from its text. -/
theorem faithful_record (written : ∀ settings, codec.write settings = .record (members settings))
    (regular : ∀ settings, Members.Regular names (members settings))
    (read : ∀ settings gone,
      codec.read (.record ((members settings).without gone)) = some (reset gone settings))
    (whole : ∀ settings, reset [] settings = settings) : codec.Faithful reset := by
  intro settings
  have parsed : ∀ gone,
      codec.parse ((codec.write settings).without gone).render = some (reset gone settings) := by
    intro gone
    rw [parse, written, (regular settings).parse_without gone]
    exact read settings gone
  refine ⟨?_, parsed⟩
  have all := parsed []
  rwa [Value.without_nil, whole] at all

end Codec

end Outbound.Json
