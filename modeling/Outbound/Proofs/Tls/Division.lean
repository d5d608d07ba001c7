import Outbound.Proofs.Draws
import Outbound.Proofs.Tls.Emission

/-!
# Divisions by drawn sizes

A general division cuts a stretch into chunks of drawn sizes: all but the last have a size of the
range, and only the end of the stretch may cut the last one short (`Divided`). A plan with a host
name to cut is two divisions that share no draw, one on each side of the name
(`exists_chunks_eq_around`); any other plan is one division of the whole message.
-/
namespace Outbound.Tls.Plan

/-! ## What a division makes of a stretch -/

/-- The chunks of a general division, first to last. -/
def division (size : Range) (start stop : Nat) (entropy : Entropy) : List Span :=
  (divide size start stop #[] entropy).1.toList

/-- A stretch divided by sizes of a range. -/
structure Divided (size : Range) (start stop : Nat) (chunks : List Span) : Prop where
  /-- The chunks follow one another through the stretch, and none is empty. -/
  tiles : Span.tile start stop chunks = true
  /-- Every chunk but the last has a size of the range; zero counts as one. -/
  sized : ∀ chunk ∈ chunks.dropLast,
    max 1 size.min.toNat ≤ chunk.length ∧ chunk.length ≤ max 1 size.max.toNat
  /-- The last chunk is no longer than any other may be. -/
  last : ∀ chunk ∈ chunks.getLast?, chunk.length ≤ max 1 size.max.toNat

/-- Chunks that are there already stay in front, and neither the chunks that follow nor the
randomness left depend on them. -/
theorem divide_eq_append (size : Range) (start stop : Nat) (chunks : Array Span)
    (entropy : Entropy) :
    (divide size start stop chunks entropy).1.toList =
        chunks.toList ++ division size start stop entropy ∧
      (divide size start stop chunks entropy).2 = (divide size start stop #[] entropy).2 := by
  by_cases more : start < stop
  · rw [division, divide.eq_1 size start stop chunks, divide.eq_1 size start stop #[], if_pos more,
      if_pos more]
    rcases size.draw entropy with ⟨drawn, later⟩
    dsimp only
    -- Both go on behind one more chunk, so what follows is the same division of what is left.
    obtain ⟨listed, left⟩ := divide_eq_append size (start + max 1 (min drawn (stop - start))) stop
      (chunks.push ⟨start, start + max 1 (min drawn (stop - start))⟩) later
    obtain ⟨listedAlone, leftAlone⟩ := divide_eq_append size
      (start + max 1 (min drawn (stop - start))) stop
      (#[].push ⟨start, start + max 1 (min drawn (stop - start))⟩) later
    rw [listed, left, listedAlone, leftAlone]
    simp
  · rw [division, divide.eq_1 size start stop chunks, divide.eq_1 size start stop #[], if_neg more,
      if_neg more]
    simp
termination_by stop - start
decreasing_by
  · omega
  · omega

/-- A division of nothing has no chunk. -/
theorem division_of_le {start stop : Nat} (size : Range) (entropy : Entropy) (done : stop ≤ start) :
    division size start stop entropy = [] := by
  rw [division, divide, if_neg (Nat.not_lt_of_le done)]

/-- A division begins with a chunk of the size drawn first, of one octet at least and as far as the
stretch goes; the rest of the stretch is divided by later draws. -/
theorem division_of_lt {start stop : Nat} (size : Range) (entropy : Entropy)
    (more : start < stop) :
    division size start stop entropy =
      ⟨start, start + max 1 (min (size.draw entropy).1 (stop - start))⟩ ::
        division size (start + max 1 (min (size.draw entropy).1 (stop - start))) stop
          (size.draw entropy).2 := by
  rw [division, divide, if_pos more]
  exact (divide_eq_append _ _ _ _ _).1

/-- A stretch is divided by sizes of the range, whatever is drawn. -/
theorem divided_division {start stop : Nat} (size : Range) (entropy : Entropy)
    (ordered : start ≤ stop) : Divided size start stop (division size start stop entropy) := by
  by_cases more : start < stop
  · rw [division_of_lt size entropy more]
    obtain ⟨least, greatest⟩ := size.draw_mem entropy
    generalize size.draw entropy = draw at least greatest
    obtain ⟨next, cut⟩ : ∃ next, next = start + max 1 (min draw.1 (stop - start)) := ⟨_, rfl⟩
    rw [← cut]
    have forwards : start < next ∧ next ≤ stop := by omega
    have short : next - start ≤ max 1 size.max.toNat := by omega
    have rest := divided_division size draw.2 forwards.2
    constructor
    case tiles => exact Span.tile_cons.mpr ⟨rfl, forwards.1, rest.tiles⟩
    case sized =>
      by_cases further : next < stop
      · -- The first chunk is not the last, so the end of the stretch has not cut it short.
        have long : max 1 size.min.toNat ≤ next - start := by omega
        rw [List.dropLast_cons_of_ne_nil (Span.ne_nil_of_tile further rest.tiles)]
        exact List.forall_mem_cons.mpr ⟨⟨long, short⟩, rest.sized⟩
      · rw [division_of_le size draw.2 (Nat.le_of_not_lt further)]
        exact fun _ mem => by cases mem
    case last =>
      by_cases further : next < stop
      · have others := Span.ne_nil_of_tile further rest.tiles
        rw [List.getLast?_cons_of_ne_nil others]
        exact rest.last
      · rw [division_of_le size draw.2 (Nat.le_of_not_lt further)]
        intro chunk mem
        cases mem
        exact short
  · have same : start = stop := by omega
    rw [division_of_le size entropy (Nat.le_of_not_lt more)]
    constructor
    case tiles => simp [Span.tile, same]
    case sized => exact fun _ mem => by cases mem
    case last => exact fun _ mem => by cases mem
termination_by stop - start
decreasing_by omega

/-- Chunks of one size are as many as cover the stretch. -/
theorem length_division_fixed {start stop : Nat} {value : UInt64} (positive : 0 < value.toNat)
    (entropy : Entropy) (ordered : start ≤ stop) :
    (division (.fixed value) start stop entropy).length =
      (stop - start + value.toNat - 1) / value.toNat := by
  by_cases more : start < stop
  · have drawn : (Range.fixed value).draw entropy = (value.toNat, entropy) :=
      Entropy.between_self value.toNat entropy
    rw [division_of_lt _ entropy more, drawn, List.length_cons]
    dsimp only
    have forwards : start + max 1 (min value.toNat (stop - start)) ≤ stop := by omega
    rw [length_division_fixed positive entropy forwards]
    by_cases whole : value.toNat ≤ stop - start
    · have step : stop - start + value.toNat - 1 =
          (stop - (start + max 1 (min value.toNat (stop - start))) + value.toNat - 1) +
            value.toNat := by omega
      rw [step, Nat.add_div_right _ positive]
    · have none : stop - (start + max 1 (min value.toNat (stop - start))) + value.toNat - 1 <
          value.toNat := by omega
      have one : stop - start + value.toNat - 1 = (stop - start - 1) + value.toNat := by omega
      have rest : stop - start - 1 < value.toNat := by omega
      rw [Nat.div_eq_of_lt none, one, Nat.add_div_right _ positive, Nat.div_eq_of_lt rest]
  · have none : stop - start + value.toNat - 1 < value.toNat := by omega
    rw [division_of_le _ entropy (Nat.le_of_not_lt more), Nat.div_eq_of_lt none]
    rfl
termination_by stop - start
decreasing_by omega

/-- A division goes on from where its randomness starts. -/
theorem used_le_divide (size : Range) (start stop : Nat) (chunks : Array Span)
    (entropy : Entropy) : entropy.used ≤ (divide size start stop chunks entropy).2.used := by
  fun_induction divide size start stop chunks entropy with
  | case1 start chunks entropy more drawn later drew next ih =>
    have taken := size.used_draw entropy
    rw [drew] at taken
    dsimp only at taken
    omega
  | case2 => exact Nat.le_refl _

/-- Sequences that agree on the words of a division give the same chunks, and go on as far. -/
theorem divide_of_agree (size : Range) (start stop : Nat) (chunks : Array Span)
    {one two : Entropy} (agree : Entropy.Agree (divide size start stop chunks one).2.used one two) :
    (divide size start stop chunks two).1 = (divide size start stop chunks one).1 ∧
      (divide size start stop chunks two).2.used + one.used =
        two.used + (divide size start stop chunks one).2.used := by
  by_cases more : start < stop
  · rw [divide.eq_1 size start stop chunks one, if_pos more] at agree ⊢
    rw [divide.eq_1 size start stop chunks two, if_pos more]
    dsimp only at agree ⊢
    obtain ⟨next, cut⟩ : ∃ next, next = start + max 1 (min (size.draw one).1 (stop - start)) :=
      ⟨_, rfl⟩
    rw [← cut] at agree ⊢
    have reaches := used_le_divide size next stop (chunks.push ⟨start, next⟩) (size.draw one).2
    have ahead : one.used ≤ (size.draw one).2.used := by
      have taken := size.used_draw one
      omega
    obtain ⟨same, further⟩ := size.draw_of_agree fun place within =>
      agree place (Nat.lt_of_lt_of_le within reaches)
    have agreeLater : Entropy.Agree
        (divide size next stop (chunks.push ⟨start, next⟩) (size.draw one).2).2.used
        (size.draw one).2 (size.draw two).2 := by
      intro place within
      have agreed := agree ((size.draw one).2.used - one.used + place)
      have placeOne : one.used + ((size.draw one).2.used - one.used + place) =
          (size.draw one).2.used + place := by omega
      have placeTwo : two.used + ((size.draw one).2.used - one.used + place) =
          (size.draw two).2.used + place := by omega
      rw [placeOne, placeTwo] at agreed
      rw [Range.word_draw, Range.word_draw]
      exact agreed within
    obtain ⟨chunksSame, wordsFurther⟩ := divide_of_agree size next stop
      (chunks.push ⟨start, next⟩) agreeLater
    rw [same, ← cut]
    exact ⟨chunksSame, by omega⟩
  · rw [divide.eq_1 size start stop chunks one, divide.eq_1 size start stop chunks two, if_neg more,
      if_neg more]
    exact ⟨rfl, rfl⟩
termination_by stop - start
decreasing_by omega

/-! ## Plans -/

/-- The chunks of a message with two pieces of a host name in it: two divisions, each with
randomness of its own, and the pieces between them. -/
def around (length : Nat) (size : Range) (name : Span) (cut : Nat) (before after : Entropy) :
    List Span :=
  division size 0 name.start before ++
    ([⟨name.start, cut⟩, ⟨cut, name.stop⟩] ++ division size name.stop length after)

/-- A plan with a host name to cut draws the cut first, then the chunks before the name, and then
those after it. -/
theorem chunks_eq_around {length : Nat} {found : Option Span} {name : Span} (size : Range)
    (entropy : Entropy) (cut : cuttable length found = some name) :
    (chunks length size found entropy).1.toList =
      around length size name (entropy.between (name.start + 1) (name.stop - 1)).1
        (entropy.between (name.start + 1) (name.stop - 1)).2
        (divide size 0 name.start #[] (entropy.between (name.start + 1) (name.stop - 1)).2).2 := by
  rw [chunks, cut]
  dsimp only
  rw [(divide_eq_append ..).1, around, division, Array.toList_push, Array.toList_push,
    List.append_assoc, List.append_assoc]
  rfl

/-- The two divisions of a plan do not depend on each other: any cut, any outcome of the division
before the name and any outcome of the one after it are together the outcome of one plan. -/
theorem exists_chunks_eq_around {length : Nat} {found : Option Span} {name : Span} (size : Range)
    (cuttable : cuttable length found = some name) {cut : Nat} (first : name.start < cut)
    (second : cut < name.stop) (before after : Entropy) :
    ∃ entropy, (chunks length size found entropy).1.toList =
      around length size name cut before after := by
  have low : name.start + 1 ≤ cut := first
  have high : cut ≤ name.stop - 1 := by omega
  have ahead := used_le_divide size 0 name.start #[] before
  obtain ⟨lead, word, drawn⟩ := Entropy.exists_between low high
  obtain ⟨spent, spends⟩ : ∃ spent, before.used + spent =
      (divide size 0 name.start #[] before).2.used := ⟨_, Nat.add_sub_cancel' ahead⟩
  -- The words in the order of the draws: the cut, the sizes before the name, the sizes after it.
  let rest := Entropy.follow spent before after
  let entropy := Entropy.follow lead ⟨fun _ => word, 0⟩ rest
  have agreeBefore : Entropy.Agree (divide size 0 name.start #[] before).2.used before
      { entropy with used := lead } := by
    intro place within
    have inside : place < spent := by omega
    have back : entropy.word (lead + place) = rest.word (rest.used + place) :=
      Entropy.word_follow_back lead place _ rest
    have none : rest.used + place = place := Nat.zero_add place
    rw [show ({ entropy with used := lead } : Entropy).word = entropy.word from rfl]
    rw [back, none]
    exact Entropy.word_follow_front before after inside
  obtain ⟨sameBefore, further⟩ := divide_of_agree size 0 name.start #[] agreeBefore
  have agreeAfter : Entropy.Agree (divide size name.stop length #[] after).2.used after
      (divide size 0 name.start #[] { entropy with used := lead }).2 := by
    intro place _
    have reached : (divide size 0 name.start #[] { entropy with used := lead }).2.used =
        lead + spent := by
      dsimp only at further
      omega
    have back : entropy.word (lead + (spent + place)) = rest.word (rest.used + (spent + place)) :=
      Entropy.word_follow_back lead (spent + place) _ rest
    have none : rest.used + (spent + place) = spent + place := Nat.zero_add _
    rw [word_divide, reached, Nat.add_assoc]
    rw [show ({ entropy with used := lead } : Entropy).word = entropy.word from rfl]
    rw [back, none]
    exact Entropy.word_follow_back spent place before after
  obtain ⟨sameAfter, -⟩ := divide_of_agree size name.stop length #[] agreeAfter
  refine ⟨entropy, ?_⟩
  rw [chunks_eq_around size entropy cuttable, drawn rest]
  dsimp only [around, division]
  rw [sameBefore, sameAfter]

/-- A host name that lies in the message and has two octets can be cut. -/
theorem cuttable_of_inside {length : Nat} {name : Span} (inside : name.stop ≤ length)
    (long : 2 ≤ name.length) : cuttable length (some name) = some name :=
  Option.filter_eq_some_iff.mpr ⟨rfl, decide_eq_true ⟨inside, long⟩⟩

/-- A host name that reaches past the message or has fewer than two octets cannot be cut, nor can
none. -/
theorem cuttable_eq_none {length : Nat} {found : Option Span}
    (unfit : ∀ name, found = some name → ¬ (name.stop ≤ length ∧ 2 ≤ name.length)) :
    cuttable length found = none := by
  apply Option.filter_eq_none_iff.mpr
  intro name same fits
  exact unfit name same (of_decide_eq_true fits)

/-- A plan is an exact partition of the message. A host name in the message that has two octets
or more lies in two pieces between two divisions that do not depend on each other, and without such
a name the plan is one division of the whole message. Each division has sizes of the range, and a
fixed size gives as many chunks as it takes to cover the message. -/
theorem chunks_partition (length : Nat) (size : Range) (found : Option Span) (entropy : Entropy) :
    Span.tile 0 length (chunks length size found entropy).1.toList = true ∧
    (∀ name, found = some name → name.stop ≤ length → 2 ≤ name.length →
      (∃ cut before after, name.start < cut ∧ cut < name.stop ∧
        (chunks length size found entropy).1.toList =
          around length size name cut before after) ∧
      ∀ cut before after, name.start < cut → cut < name.stop →
        ∃ outcome, (chunks length size found outcome).1.toList =
          around length size name cut before after) ∧
    ((∀ name, found = some name → ¬ (name.stop ≤ length ∧ 2 ≤ name.length)) →
      (chunks length size found entropy).1.toList = division size 0 length entropy) ∧
    (∀ start stop outcome, start ≤ stop →
      Divided size start stop (division size start stop outcome)) ∧
    ∀ value : UInt64, 1 ≤ value.toNat →
      (chunks length (.fixed value) none entropy).1.size =
        (length + value.toNat - 1) / value.toNat := by
  refine ⟨tile_chunks length size found entropy, ?_, ?_, ?_, ?_⟩
  · rintro name rfl inside long
    have fits := cuttable_of_inside inside long
    rw [Span.length] at long
    have bounds := Entropy.between_mem (show name.start + 1 ≤ name.stop - 1 by omega) entropy
    refine ⟨⟨_, _, _, ?_, ?_, chunks_eq_around size entropy fits⟩, ?_⟩
    · omega
    · omega
    · intro cut before after first second
      exact exists_chunks_eq_around size fits first second before after
  · intro unfit
    rw [chunks_of_uncuttable size entropy (cuttable_eq_none unfit)]
    rfl
  · intro start stop outcome ordered
    exact divided_division size outcome ordered
  · intro value positive
    have counted := length_division_fixed positive entropy (Nat.zero_le length)
    rw [chunks_of_uncuttable (.fixed value) entropy rfl, ← Array.length_toList]
    exact counted

/-- A message of twelve octets with a host name of five: a plan by sizes that may be zero is two
divisions around the name, one with given draws on either side exists, a name that reaches too far
is not cut, and a fixed size of five gives three chunks. -/
theorem chunks_partition_hostName :
    let size : Range := ⟨0, 3, by decide⟩
    let plan := (chunks 12 size (some ⟨4, 9⟩) ⟨id, 0⟩).1.toList
    ((⟨4, 9⟩ : Span).stop ≤ 12 ∧ 2 ≤ (⟨4, 9⟩ : Span).length) ∧
    (∃ cut before after, 4 < cut ∧ cut < 9 ∧ plan = around 12 size ⟨4, 9⟩ cut before after) ∧
    (∃ outcome, (chunks 12 size (some ⟨4, 9⟩) outcome).1.toList =
      around 12 size ⟨4, 9⟩ 8 ⟨fun _ => 0, 0⟩ ⟨fun _ => 3, 0⟩) ∧
    (chunks 12 size (some ⟨8, 14⟩) ⟨id, 0⟩).1.toList = division size 0 12 ⟨id, 0⟩ ∧
    Divided size 9 12 (division size 9 12 ⟨id, 2⟩) ∧
    (chunks 12 (.fixed 5) none ⟨id, 0⟩).1.size = 3 :=
  have inside : (⟨4, 9⟩ : Span).stop ≤ 12 ∧ 2 ≤ (⟨4, 9⟩ : Span).length := by decide
  have plan := (chunks_partition 12 ⟨0, 3, by decide⟩ (some ⟨4, 9⟩) ⟨id, 0⟩).2.1 _ rfl
    inside.1 inside.2
  have beyond := (chunks_partition 12 ⟨0, 3, by decide⟩ (some ⟨8, 14⟩) ⟨id, 0⟩).2.2.1
    fun name same => by cases same; decide
  have others := (chunks_partition 12 ⟨0, 3, by decide⟩ none ⟨id, 0⟩).2.2.2
  ⟨inside, plan.1, plan.2 8 _ _ (by decide) (by decide), beyond, others.1 9 12 _ (by decide),
    others.2 5 (by decide)⟩

end Outbound.Tls.Plan
