import Mathlib.Data.List.DropRight
import Outbound.Proofs.Address.Alphabet
import Outbound.Proofs.Steps
import Outbound.Tls.Shaping

/-!
# Host names and addresses

A server's text that stands for an address, alone, with a zone or in brackets (`Literal`), gives no
host name, and a host name is never empty and never ends with a dot. Dots at the end are dropped
after addresses were looked for, and brackets are taken off only once; so a few texts give a host
name that is an address itself (`Conceals`) or would give another one (`EnclosedAgain`), and these
are all (`names_settled`).
-/
namespace Outbound.Tls.HostName

/-! ## Texts -/

/-- An address, with a zone or without. -/
inductive Bare : List Char → Prop
  /-- The text of an address. -/
  | plain {text : String} {address : Ip} (spells : Ip.parse text = some address) :
      Bare text.toList
  /-- The text of an address before a zone. -/
  | zoned {text : String} {address : Ip} (spells : Ip.parse text = some address)
      (zone : List Char) : Bare (text.toList ++ '%' :: zone)

/-- A text in a pair of brackets. -/
def InBrackets (text : List Char) : Prop := ∃ inner, text = '[' :: (inner ++ [']'])

/-- An address in a form in which it is refused: with a zone or without, in brackets or not. -/
inductive Literal : List Char → Prop
  /-- Without brackets. -/
  | bare {text : List Char} (bare : Bare text) : Literal text
  /-- In brackets. -/
  | bracketed {text : List Char} (bare : Bare text) : Literal ('[' :: (text ++ [']']))

/-- Texts, without a pair of brackets that they stood in, whose address is not noticed. -/
inductive Conceals : List Char → Prop
  /-- The text of an address with dots after it. -/
  | dotted {text : String} {address : Ip} (spells : Ip.parse text = some address) (more : Nat) :
      Conceals (text.toList ++ List.replicate (more + 1) '.')
  /-- An address in brackets of its own, perhaps with dots after them. -/
  | bracketed {inner : List Char} (bare : Bare inner) (dots : Nat) :
      Conceals ('[' :: (inner ++ ']' :: List.replicate dots '.'))

/-- A text, without a pair of brackets that it stood in, that stands in brackets but for dots. -/
def EnclosedAgain (text : List Char) : Prop :=
  ∃ inner dots, text = '[' :: (inner ++ ']' :: List.replicate dots '.')

/-- What a text's host name is. -/
structure Settled (name host : String) : Prop where
  /-- It is not empty. -/
  some_character : host ≠ ""
  /-- It does not end with a dot. -/
  undotted : host.toList.getLast? ≠ some '.'
  /-- It stands for an address just if the text conceals one. -/
  literal : Literal host.toList ↔ Conceals (unbracketed name.toList)
  /-- It is its own host name, unless the text conceals an address or has brackets left. -/
  again : sni? host = some host ↔
    ¬ Conceals (unbracketed name.toList) ∧ ¬ EnclosedAgain (unbracketed name.toList)

/-! ## Brackets, zones and dots -/

/-- A pair of brackets is taken off. -/
theorem unbracketed_brackets (inner : List Char) :
    unbracketed ('[' :: (inner ++ [']'])) = inner := by
  rw [unbracketed, List.getLast?_concat, if_pos rfl, List.dropLast_concat]

/-- A text that stands in no brackets is left alone. -/
theorem unbracketed_of_not {text : List Char} (unenclosed : ¬ InBrackets text) :
    unbracketed text = text := by
  unfold unbracketed
  split
  case h_1 inner =>
    split
    case isTrue closed =>
      obtain ⟨front, rfl⟩ := List.getLast?_eq_some_iff.mp closed
      exact absurd ⟨front, rfl⟩ unenclosed
    case isFalse => rfl
  case h_2 => rfl

/-- Dots at the end are all that is dropped. -/
theorem withoutFinalDots_eq_iff {text host : List Char} :
    withoutFinalDots text = host ↔
      host.getLast? ≠ some '.' ∧ ∃ dots, text = host ++ List.replicate dots '.' := by
  change text.rdropWhile (· == '.') = host ↔ _
  constructor
  · rintro rfl
    constructor
    · intro ends
      have some_character : text.rdropWhile (· == '.') ≠ [] := by
        rintro none
        rw [none] at ends
        cases ends
      apply List.rdropWhile_last_not _ _ some_character
      rw [List.getLast?_eq_some_getLast some_character] at ends
      rw [Option.some.inj ends]
      rfl
    · have whole := List.rdropWhile_append_rtakeWhile (p := (· == '.')) (l := text)
      refine ⟨(text.rtakeWhile (· == '.')).length, ?_⟩
      have dots : ∀ c ∈ text.rtakeWhile (· == '.'), c = '.' :=
        fun c mem => eq_of_beq (List.mem_rtakeWhile_imp (p := (· == '.')) mem)
      rw [← List.eq_replicate_of_mem dots, whole]
  · rintro ⟨undotted, dots, rfl⟩
    induction dots with
    | zero =>
      rw [List.replicate_zero, List.append_nil, List.rdropWhile_eq_self_iff]
      intro some_character dot
      rw [List.getLast?_eq_some_getLast some_character, eq_of_beq dot] at undotted
      exact undotted rfl
    | succ dots ih =>
      rw [List.replicate_succ', ← List.append_assoc, List.rdropWhile_concat_pos _ _ _ rfl, ih]

/-- The dots after a text that does not end with one are dropped from it. -/
theorem withoutFinalDots_append {host : List Char} (undotted : host.getLast? ≠ some '.')
    (dots : Nat) : withoutFinalDots (host ++ List.replicate dots '.') = host :=
  withoutFinalDots_eq_iff.mpr ⟨undotted, dots, rfl⟩

/-- Texts that do not end with a dot are the same if they are with dots after them. -/
theorem eq_of_append_dots {host other : List Char} (undotted : host.getLast? ≠ some '.')
    (otherUndotted : other.getLast? ≠ some '.') {dots more : Nat}
    (same : host ++ List.replicate dots '.' = other ++ List.replicate more '.') :
    host = other := by
  have trimmed := congrArg withoutFinalDots same
  rwa [withoutFinalDots_append undotted, withoutFinalDots_append otherUndotted] at trimmed

/-- A text in brackets does not end with a dot. -/
theorem undotted_brackets (inner : List Char) :
    ('[' :: (inner ++ [']'])).getLast? ≠ some '.' := by
  rw [← List.cons_append, List.getLast?_concat]
  decide

/-- Dots after a bracket are dots after the whole text. -/
theorem brackets_append (inner : List Char) (dots : Nat) :
    '[' :: (inner ++ ']' :: List.replicate dots '.') =
      '[' :: (inner ++ [']']) ++ List.replicate dots '.' := by
  rw [List.cons_append, List.append_assoc, List.singleton_append]

/-! ## Addresses -/

/-- The characters of an address come before a zone and stand in no brackets. -/
theorem not_inAlphabet : ¬ Address.Reader.InAlphabet '%' ∧ ¬ Address.Reader.InAlphabet '[' := by
  constructor <;> rintro (digit | dot | colon)
  all_goals contradiction

/-- A text that spells an address does not end with a dot, and all of it is of the alphabet. -/
theorem shape_of_parse {text : String} {address : Ip} (spells : Ip.parse text = some address) :
    text.toList.getLast? ≠ some '.' ∧ ∀ c ∈ text.toList, Address.Reader.InAlphabet c := by
  obtain ⟨front, last, whole, fronts, lasts, undotted⟩ := Ip.takes_of_parse spells
  rw [whole]
  refine ⟨?_, List.forall_mem_append.mpr ⟨fronts, List.forall_mem_singleton.mpr lasts⟩⟩
  rw [List.getLast?_concat]
  exact fun same => undotted (Option.some.inj same)

/-- An address has no zone in its text. -/
theorem unzoned_of_parse {text : String} {address : Ip} (spells : Ip.parse text = some address) :
    ∀ c ∈ text.toList, (c != '%') = true := by
  intro c mem
  apply bne_iff_ne.mpr
  rintro rfl
  exact not_inAlphabet.1 ((shape_of_parse spells).2 _ mem)

/-- An address in a text, with a zone or without, is what comes before the zone. -/
theorem bare_iff {text : List Char} :
    Bare text ↔ ∃ address, Ip.parse (String.ofList (unzoned text)) = some address := by
  constructor
  · rintro (⟨spells⟩ | ⟨spells, zone⟩)
    · rw [unzoned, List.takeWhile_eq_self_iff.mpr (unzoned_of_parse spells), String.ofList_toList]
      exact ⟨_, spells⟩
    · rw [unzoned, List.takeWhile_append_of_pos (unzoned_of_parse spells),
        List.takeWhile_cons_of_neg (by decide), List.append_nil, String.ofList_toList]
      exact ⟨_, spells⟩
  · rintro ⟨address, spells⟩
    have whole := List.takeWhile_append_dropWhile (p := (· != '%')) (l := text)
    have stops := List.head?_dropWhile_not (· != '%') text
    rw [← whole, ← String.toList_ofList (l := text.takeWhile (· != '%'))]
    cases rest : text.dropWhile (· != '%') with
    | nil =>
      rw [List.append_nil]
      exact .plain spells
    | cons c zone =>
      rw [rest] at stops
      obtain rfl : c = '%' := bne_eq_false_iff_eq.mp stops
      exact .zoned spells zone

/-- An address that stands in no brackets starts with none. -/
theorem not_inBrackets_of_bare {text : List Char} (bare : Bare text) : ¬ InBrackets text := by
  rintro ⟨inner, rfl⟩
  obtain ⟨address, spells⟩ := bare_iff.mp bare
  have inside := (shape_of_parse spells).2 '['
  rw [String.toList_ofList] at inside
  exact not_inAlphabet.2 (inside (List.mem_cons_self ..))

/-- A text stands for an address just if what is in its brackets does, or all of it if it has
none. -/
theorem literal_iff {text : List Char} : Literal text ↔ Bare (unbracketed text) := by
  constructor
  · rintro (bare | bare)
    · rwa [unbracketed_of_not (not_inBrackets_of_bare bare)]
    · rwa [unbracketed_brackets]
  · intro bare
    by_cases enclosed : InBrackets text
    · obtain ⟨inner, rfl⟩ := enclosed
      rw [unbracketed_brackets] at bare
      exact .bracketed bare
    · rw [unbracketed_of_not enclosed] at bare
      exact .bare bare

/-! ## Host names -/

/-- A text gives a host name just if it stands for no address and has more than dots. The host
name is the text without its brackets and the dots at its end. -/
theorem sni?_eq_some_iff {name host : String} :
    sni? name = some host ↔ ¬ Literal name.toList ∧ host ≠ "" ∧
      withoutFinalDots (unbracketed name.toList) = host.toList := by
  have refused : (Ip.parse (String.ofList (unzoned (unbracketed name.toList)))).isSome = true ↔
      Literal name.toList := by
    rw [literal_iff, bare_iff, Option.isSome_iff_exists]
  rw [sni?]
  by_cases literal : Literal name.toList
  · rw [if_pos (refused.mpr literal)]
    constructor
    · intro found
      cases found
    · rintro ⟨other, -⟩
      exact absurd literal other
  · rw [if_neg fun found => literal (refused.mp found)]
    split
    case h_1 none =>
      rw [none]
      constructor
      · intro found
        cases found
      · rintro ⟨-, some_character, same⟩
        exact absurd (String.toList_eq_nil_iff.mp same.symm) some_character
    case h_2 trimmed some_character =>
      constructor
      · intro found
        cases found
        refine ⟨literal, fun none => some_character ?_, (String.toList_ofList ..).symm⟩
        rwa [← String.toList_eq_nil_iff, String.toList_ofList] at none
      · rintro ⟨-, -, same⟩
        rw [same, String.ofList_toList]

/-- A host name is settled just if it stands in no brackets and for no address. -/
theorem sni?_self_iff {host : String} (some_character : host ≠ "")
    (undotted : host.toList.getLast? ≠ some '.') :
    sni? host = some host ↔ ¬ InBrackets host.toList ∧ ¬ Literal host.toList := by
  rw [sni?_eq_some_iff]
  by_cases enclosed : InBrackets host.toList
  · -- What is left without the brackets is shorter.
    refine ⟨?_, fun outside => absurd enclosed outside.1⟩
    rintro ⟨-, -, same⟩
    obtain ⟨inner, whole⟩ := enclosed
    obtain ⟨-, dots, left⟩ := withoutFinalDots_eq_iff.mp same
    rw [whole, unbracketed_brackets] at left
    have size := congrArg List.length left
    simp only [List.length_append, List.length_cons, List.length_nil] at size
    omega
  · rw [unbracketed_of_not enclosed]
    have trimmed := withoutFinalDots_append undotted 0
    rw [List.replicate_zero, List.append_nil] at trimmed
    exact ⟨fun found => ⟨enclosed, found.1⟩, fun found => ⟨found.2, some_character, trimmed⟩⟩

/-! ## What host names are -/

variable {whole host : List Char} {dots : Nat}

/-- A host name stands for an address just if its text conceals one. -/
theorem literal_iff_conceals (unnoticed : ¬ Bare whole) (undotted : host.getLast? ≠ some '.')
    (trimmed : whole = host ++ List.replicate dots '.') : Literal host ↔ Conceals whole := by
  constructor
  · intro literal
    rw [trimmed] at unnoticed ⊢
    rcases literal with bare | bare
    · cases bare with
      | plain spells =>
        cases dots with
        | zero =>
          rw [List.replicate_zero, List.append_nil] at unnoticed
          exact absurd (.plain spells) unnoticed
        | succ more => exact .dotted spells more
      | zoned spells zone =>
        -- Dots after a zone belong to the zone.
        rw [List.append_assoc, List.cons_append] at unnoticed
        exact absurd (.zoned spells _) unnoticed
    · rw [← brackets_append]
      exact .bracketed bare dots
  · intro conceals
    cases conceals with
    | dotted spells more =>
      rw [← eq_of_append_dots (shape_of_parse spells).1 undotted trimmed]
      exact .bare (.plain spells)
    | bracketed bare others =>
      rw [brackets_append] at trimmed
      rw [← eq_of_append_dots (undotted_brackets _) undotted trimmed]
      exact .bracketed bare

/-- A host name stands in brackets just if its text does but for dots. -/
theorem inBrackets_iff_enclosedAgain (undotted : host.getLast? ≠ some '.')
    (trimmed : whole = host ++ List.replicate dots '.') :
    InBrackets host ↔ EnclosedAgain whole := by
  constructor
  · rintro ⟨inner, rfl⟩
    exact ⟨inner, dots, trimmed.trans (brackets_append inner dots).symm⟩
  · rintro ⟨inner, others, rfl⟩
    rw [brackets_append] at trimmed
    exact ⟨inner, (eq_of_append_dots (undotted_brackets inner) undotted trimmed).symm⟩

/-- Every host name is settled. -/
theorem settled_of_sni? {name host : String} (found : sni? name = some host) :
    Settled name host := by
  obtain ⟨unnoticed, some_character, same⟩ := sni?_eq_some_iff.mp found
  rw [literal_iff] at unnoticed
  obtain ⟨undotted, dots, trimmed⟩ := withoutFinalDots_eq_iff.mp same
  have literal := literal_iff_conceals unnoticed undotted trimmed
  have enclosed := inBrackets_iff_enclosedAgain undotted trimmed
  refine ⟨some_character, undotted, literal, ?_⟩
  rw [sni?_self_iff some_character undotted, literal, enclosed, and_comm]

/-- The host name that padding carries is that of its setting, which must have one. -/
theorem paddingSni_of_ofOptions {options : ShapingOptions} {shaping : Shaping}
    (made : Shaping.ofOptions options = .ok shaping) :
    if options.paddingSni = "" then shaping.paddingSni = none
    else ∃ host, shaping.paddingSni = some host ∧ sni? options.paddingSni = some host := by
  obtain ⟨padding, -, made⟩ := bind_eq_ok.mp made
  obtain ⟨paddingSni, carried, made⟩ := bind_eq_ok.mp made
  cases made
  unfold Shaping.paddingSniOf at carried
  by_cases unset : options.paddingSni = ""
  · rw [if_pos (String.isEmpty_iff.mpr unset)] at carried
    rw [if_pos unset]
    exact (Except.ok.inj carried).symm
  · rw [if_neg (mt String.isEmpty_iff.mp unset)] at carried
    rw [if_neg unset]
    split at carried
    case h_1 host found => exact ⟨host, (Except.ok.inj carried).symm, found⟩
    case h_2 => cases carried

/-- The server name to send is the host name where the case of letters is kept. -/
theorem serverName_of_kept {shaping : Shaping} (kept : shaping.mixedCaseSni = false)
    (server : String) (entropy : Entropy) :
    shaping.serverName server entropy = (sni? server, entropy) := by
  unfold Shaping.serverName
  cases sni? server with
  | none => rfl
  | some host => simp only [kept, Bool.false_eq_true, if_false]

/-- What the host name of a text is. It is neither empty nor ends with a dot; it is an address just
if the text conceals one, and it is its own host name unless the text conceals an address or has
brackets left. This is the server name to send where the case of letters is kept, and the host name
that padding carries for a setting that is not empty. -/
theorem names_settled (name : String) :
    (∀ host, sni? name = some host → Settled name host) ∧
    (∀ (shaping : Shaping) entropy, shaping.mixedCaseSni = false →
      shaping.serverName name entropy = (sni? name, entropy)) ∧
    ∀ options shaping, options.paddingSni = name → Shaping.ofOptions options = .ok shaping →
      if name = "" then shaping.paddingSni = none
      else ∃ host, shaping.paddingSni = some host ∧ Settled name host := by
  refine ⟨fun _ => settled_of_sni?, fun _ _ kept => serverName_of_kept kept .., ?_⟩
  rintro options shaping rfl made
  have carried := paddingSni_of_ofOptions made
  split at carried
  case isTrue unset => rwa [if_pos unset]
  case isFalse set =>
    obtain ⟨host, same, found⟩ := carried
    rw [if_neg set]
    exact ⟨host, same, settled_of_sni? found⟩

/-- Brackets are taken off only once. -/
example : sni? "[[::1]]" = some "[::1]" := by decide +kernel

/-- An address with a dot after it is let through: the dot is dropped, and the address is left. -/
theorem dotted_address_named :
    ¬ ∀ name host, sni? name = some host →
      host ≠ "" ∧ host.toList.getLast? ≠ some '.' ∧ ¬ Literal host.toList ∧
        sni? host = some host := by
  intro settled
  have spells : Ip.parse "1.2.3.4" = some (.v4 ⟨1, 2, 3, 4⟩) := by decide +kernel
  have found : sni? "1.2.3.4." = some "1.2.3.4" := by decide +kernel
  obtain ⟨-, -, other, -⟩ := settled _ _ found
  exact other (.bare (.plain spells))

end Outbound.Tls.HostName
