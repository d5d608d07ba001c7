import Outbound.Proofs.Draws
import Outbound.Proofs.Range.Text
import Outbound.Tls.Shaping

/-!
# Padding extensions

The length of an extension is stated in two octets, and one that does not fit is stated as the
greatest that does. So an extension counts its body only because sizes that cannot be stated are
refused when a shaping is made (`Declarable`). What is drawn from a shaping are the extensions
whose bodies the settings allow, all of them and no others (`Shaping.padding_framed`).
-/
namespace Outbound.Tls

namespace Padding

/-! ## The octets of an extension -/

/-- What it takes for octets to be a padding extension with a body: its type, which is 21, the
number of octets of the body, high octet first, and the body. -/
def Frames (octets body : Bytes) : Prop :=
  ∃ high low : UInt8, octets = 0x00 :: 0x15 :: high :: low :: body ∧
    high.toNat * 256 + low.toNat = body.length

/-- The type and the length before a body that can be counted, and the body, are an extension, and
the only one with this body. -/
theorem frames_iff {octets body : Bytes} (fits : body.length < 65536) :
    Frames octets body ↔ octets = header body.length ++ body := by
  have stated : (UInt16.ofNat body.length).toNat = body.length := UInt16.toNat_ofNat_of_lt' fits
  have front : header body.length =
      0x00 :: 0x15 :: Bytes.word16Bytes (UInt16.ofNat body.length) := by
    rw [header, Nat.min_eq_left (Nat.le_of_lt_succ fits)]
    rfl
  rw [front]
  constructor
  · rintro ⟨high, low, rfl, counted⟩
    have word : Bytes.word16 high low = UInt16.ofNat body.length := by
      apply UInt16.toNat_inj.mp
      rw [Bytes.toNat_word16, counted, stated]
    rw [← word, Bytes.word16Bytes_word16]
    rfl
  · rintro rfl
    refine ⟨_, _, rfl, ?_⟩
    rw [← Bytes.toNat_word16, Bytes.word16_word16Bytes, stated]

end Padding

/-! ## The settings -/

/-- A text spells a range of sizes of which every one can be stated in two octets. -/
def Padding.Declarable (text : String) (size : Range) : Prop :=
  Range.Spells text.toList size ∧ ∀ n, size.min.toNat ≤ n → n ≤ size.max.toNat → n < 65536

/-- A body that settings allow for a range of sizes. -/
structure Padding.Allows (options : ShapingOptions) (size : Range) (body : Bytes) : Prop where
  /-- It is not too short. -/
  least : size.min.toNat ≤ body.length
  /-- It is not too long. -/
  greatest : body.length ≤ size.max.toNat
  /-- It is zero throughout where zeros are asked for. -/
  zeros : options.paddingMode = "hello_padding" → ∀ octet ∈ body, octet = 0

/-- Zeros are asked for by their name alone. -/
theorem PaddingMode.eq_zero_iff {name : String} {mode : PaddingMode}
    (read : parse name = .ok mode) : mode = .zero ↔ name = "hello_padding" := by
  unfold parse at read
  split at read
  case isTrue random =>
    cases read
    constructor
    · intro zero
      cases zero
    · rintro rfl
      exact absurd random (by decide)
  case isFalse =>
    split at read
    case isTrue named =>
      cases read
      exact ⟨fun _ => named, fun _ => rfl⟩
    case isFalse => cases read

/-- A mode that is refused is no fault of the sizes. -/
theorem PaddingMode.key_of_parse {name key text : String}
    (refused : parse name = .error (.configValue key text)) :
    key = "tls_tricks.padding_mode" := by
  unfold parse at refused
  split at refused
  · cases refused
  · split at refused
    · cases refused
    · cases refused
      rfl

namespace Shaping

open Padding (Allows Declarable Frames)

variable {options : ShapingOptions} {shaping : Shaping}

/-- Sizes can be stated just if the greatest of them can. -/
theorem declarable_iff {text : String} {size : Range} :
    Declarable text size ↔ Range.parse text = .ok size ∧ ¬ maxPadding < size.max := by
  have most : maxPadding.toNat = 65535 := rfl
  have ordered := UInt64.le_iff_toNat_le.mp size.ordered
  rw [Declarable, Range.parse_eq_ok_iff, UInt64.lt_iff_toNat_lt, most]
  constructor
  · rintro ⟨spells, fits⟩
    have last := fits size.max.toNat ordered (Nat.le_refl _)
    exact ⟨spells, by omega⟩
  · rintro ⟨spells, fits⟩
    refine ⟨spells, fun n _ within => ?_⟩
    omega

/-- No sizes, no padding. -/
theorem paddingOf_of_empty (unset : options.paddingSize = "") : paddingOf options = .ok none := by
  rw [paddingOf, if_pos (String.isEmpty_iff.mpr unset)]

/-- Padding is made of a mode and of sizes that can be stated. -/
theorem paddingOf_eq_ok_iff (set : options.paddingSize ≠ "")
    {padding : Option (PaddingMode × Range)} :
    paddingOf options = .ok padding ↔ ∃ size mode, Declarable options.paddingSize size ∧
      PaddingMode.parse options.paddingMode = .ok mode ∧ padding = some (mode, size) := by
  rw [paddingOf, if_neg (mt String.isEmpty_iff.mp set), bind_eq_ok]
  simp only [mapError_eq_ok, declarable_iff]
  constructor
  · rintro ⟨size, read, made⟩
    split at made
    case isTrue => cases made
    case isFalse fits =>
      obtain ⟨mode, known, same⟩ := bind_eq_ok.mp made
      exact ⟨size, mode, ⟨read, fits⟩, known, (Except.ok.inj same).symm⟩
  · rintro ⟨size, mode, ⟨read, fits⟩, known, rfl⟩
    refine ⟨size, read, ?_⟩
    rw [if_neg fits]
    exact bind_eq_ok.mpr ⟨mode, known, rfl⟩

/-- A shaping has the padding of its settings. -/
theorem paddingOf_of_ofOptions (made : ofOptions options = .ok shaping) :
    paddingOf options = .ok shaping.padding := by
  obtain ⟨padding, found, made⟩ := bind_eq_ok.mp made
  obtain ⟨paddingSni, -, made⟩ := bind_eq_ok.mp made
  cases made
  exact found

/-! ## Which settings are refused for their sizes -/

/-- Settings are refused for the sizes of the padding. -/
def RefusesSize (result : Except Error Shaping) : Prop :=
  ∃ error, result = .error error ∧ error.isConfig = true ∧
    ∃ text, error = .configValue "tls_tricks.padding_size" text

/-- A host name that is refused is no fault of the sizes. -/
theorem key_of_paddingSniOf {key text : String}
    (refused : paddingSniOf options = .error (.configValue key text)) :
    key = "tls_tricks.padding_sni" := by
  unfold paddingSniOf at refused
  split at refused
  · cases refused
  · split at refused
    · cases refused
    · cases refused
      rfl

/-- The error of a text that spells no range names the sizes. -/
theorem parse_eq_error {text : String} {error : Error}
    (malformed : Range.parse text = .error error) :
    ∃ reason, error.forKey "tls_tricks.padding_size" =
      .configValue "tls_tricks.padding_size" reason := by
  obtain ⟨fault, -, rfl⟩ := mapError_eq_error.mp malformed
  exact ⟨_, rfl⟩

/-- Padding is refused for its sizes unless they can all be stated. -/
theorem exists_paddingOf_eq_error_iff :
    (∃ text, paddingOf options = .error (.configValue "tls_tricks.padding_size" text)) ↔
      options.paddingSize ≠ "" ∧ ¬ ∃ size, Declarable options.paddingSize size := by
  obtain unset | set := eq_or_ne options.paddingSize ""
  · simp [paddingOf_of_empty unset, unset]
  · rw [paddingOf, if_neg (mt String.isEmpty_iff.mp set)]
    simp only [declarable_iff]
    constructor
    · rintro ⟨text, refused⟩
      refine ⟨set, ?_⟩
      rintro ⟨size, read, fits⟩
      -- Sizes that can be stated leave nothing to refuse but the mode.
      rw [read] at refused
      obtain malformed | ⟨found, same, refused⟩ := bind_eq_error.mp refused
      · cases malformed
      · cases same
        rw [if_neg fits] at refused
        obtain unknown | ⟨mode, -, done⟩ := bind_eq_error.mp refused
        · exact absurd (PaddingMode.key_of_parse unknown) (by decide)
        · cases done
    · rintro ⟨-, undeclarable⟩
      cases read : Range.parse options.paddingSize with
      | error error =>
        obtain ⟨reason, worded⟩ := parse_eq_error read
        exact ⟨reason, bind_eq_error.mpr (.inl (congrArg Except.error worded))⟩
      | ok size =>
        have large : maxPadding < size.max := by
          by_contra fits
          exact undeclarable ⟨size, read, fits⟩
        refine ⟨"padding must fit in a TLS extension", bind_eq_error.mpr (.inr ⟨size, rfl, ?_⟩)⟩
        exact if_pos large

/-- Settings are refused for the sizes of the padding unless these can all be stated. -/
theorem refusesSize_iff (options : ShapingOptions) :
    RefusesSize (ofOptions options) ↔
      options.paddingSize ≠ "" ∧ ¬ ∃ size, Declarable options.paddingSize size := by
  rw [← exists_paddingOf_eq_error_iff, RefusesSize]
  constructor
  · rintro ⟨_, refused, -, text, rfl⟩
    refine ⟨text, ?_⟩
    obtain failed | ⟨padding, -, refused⟩ := bind_eq_error.mp refused
    · exact failed
    · obtain other | ⟨host, -, done⟩ := bind_eq_error.mp refused
      · exact absurd (key_of_paddingSniOf other) (by decide)
      · cases done
  · rintro ⟨text, refused⟩
    exact ⟨_, bind_eq_error.mpr (.inl refused), rfl, text, rfl⟩

/-! ## What is drawn -/

/-- Without padding nothing is drawn, and with it something always is. -/
theorem drawPadding_eq_none_iff (shaping : Shaping) (entropy : Entropy) :
    (shaping.drawPadding entropy).1 = none ↔ shaping.padding = none := by
  unfold drawPadding
  cases shaping.padding with
  | none => simp
  | some padding =>
    obtain ⟨mode, size⟩ := padding
    cases mode <;> simp

/-- The octets drawn are those of the extensions whose bodies are allowed. -/
theorem exists_drawPadding_iff {mode : PaddingMode} {size : Range}
    (known : PaddingMode.parse options.paddingMode = .ok mode)
    (declarable : Declarable options.paddingSize size)
    (padded : shaping.padding = some (mode, size)) (octets : Bytes) :
    (∃ entropy, (shaping.drawPadding entropy).1 = some octets) ↔
      ∃ body, Frames octets body ∧ Allows options size body := by
  have zero := PaddingMode.eq_zero_iff known
  constructor
  · rintro ⟨entropy, drawn⟩
    obtain ⟨least, greatest⟩ := size.draw_mem entropy
    have fits := declarable.2 _ least greatest
    simp only [drawPadding, padded] at drawn
    cases mode with
    | zero =>
      cases drawn
      have length : (List.replicate (size.draw entropy).1 (0 : UInt8)).length =
          (size.draw entropy).1 := List.length_replicate
      refine ⟨List.replicate (size.draw entropy).1 0, (Padding.frames_iff ?_).mpr ?_, ?_⟩
      · rwa [length]
      · rw [length]
        rfl
      · refine ⟨by rwa [length], by rwa [length], fun _ octet mem => ?_⟩
        exact List.eq_of_mem_replicate mem
    | random =>
      cases drawn
      have length := Entropy.length_bytes (size.draw entropy).1 (size.draw entropy).2
      refine ⟨((size.draw entropy).2.bytes (size.draw entropy).1).1,
        (Padding.frames_iff ?_).mpr ?_, ?_⟩
      · rwa [length]
      · rw [length]
        rfl
      · refine ⟨by rwa [length], by rwa [length], fun named => ?_⟩
        cases zero.mpr named
  · rintro ⟨body, frames, allows⟩
    have fits := declarable.2 _ allows.least allows.greatest
    rw [(Padding.frames_iff fits).mp frames]
    obtain ⟨first, draw⟩ := size.exists_draw allows.least allows.greatest
    -- The word of the size, if there is one, and after it the octets of the body.
    refine ⟨.ofWords (first ++ (body.map UInt8.toNat ++ [])) 0, ?_⟩
    simp only [drawPadding, padded, draw]
    cases mode with
    | zero =>
      have blank := allows.zeros (zero.mp rfl)
      rw [Padding.zero, ← List.eq_replicate_of_mem blank]
    | random => simp only [Padding.random, Entropy.bytes_ofWords]

/-- Padding extensions are always well formed. Nothing is drawn just if no sizes are set. Otherwise
the sizes are a range of numbers that two octets can state, and what is drawn are the extensions
with a body of one of these sizes, zero throughout where zeros are asked for: each of them for some
outcome of the draws, and nothing else for any. Settings are refused for their sizes, whatever else
they say, unless these are a range of numbers that two octets can state. -/
theorem padding_framed (options : ShapingOptions) :
    (∀ shaping, ofOptions options = .ok shaping →
      (∀ entropy, (shaping.drawPadding entropy).1 = none ↔ options.paddingSize = "") ∧
      (options.paddingSize ≠ "" → ∃ size, Declarable options.paddingSize size ∧
        ∀ octets, (∃ entropy, (shaping.drawPadding entropy).1 = some octets) ↔
          ∃ body, Frames octets body ∧ Allows options size body)) ∧
    (RefusesSize (ofOptions options) ↔
      options.paddingSize ≠ "" ∧ ¬ ∃ size, Declarable options.paddingSize size) := by
  refine ⟨fun shaping made => ?_, refusesSize_iff options⟩
  have own := paddingOf_of_ofOptions made
  obtain unset | set := eq_or_ne options.paddingSize ""
  · rw [paddingOf_of_empty unset] at own
    have unpadded : shaping.padding = none := (Except.ok.inj own).symm
    refine ⟨fun entropy => ?_, fun set => absurd unset set⟩
    rw [drawPadding_eq_none_iff, unpadded]
    exact ⟨fun _ => unset, fun _ => rfl⟩
  · obtain ⟨size, mode, declarable, known, padded⟩ := (paddingOf_eq_ok_iff set).mp own
    refine ⟨fun entropy => ?_, fun _ => ⟨size, declarable, ?_⟩⟩
    · rw [drawPadding_eq_none_iff, padded]
      exact ⟨fun absent => (by cases absent), fun empty => absurd empty set⟩
    · exact exists_drawPadding_iff known declarable padded

end Shaping

end Outbound.Tls
