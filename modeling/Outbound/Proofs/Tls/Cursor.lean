import Outbound.Tls.ServerName

/-!
# Walking by places

The search for the host name, made on one buffer that all parts of the message share: a cursor is a
pair of places in it, and what lies between them is never copied. Nothing keeps such a walk inside
the buffer, or makes it end, but its own arithmetic; so to reach for a place that the buffer does not
have, or to go on for too many rounds, is a `Halt` of its own. `agrees_walk` says that neither ever
happens. The walk comes to the same end as the search through windows (`Agrees`), and whatever is
cut short is told with right numbers (`Fault.Accurate`).
-/
namespace Outbound.Tls.ServerName

/-- Why a walk ends without a host name. -/
inductive Halt where
  /-- It finds fault with the message. -/
  | fault (fault : Fault)
  /-- It reaches for places that the buffer does not have. -/
  | astray
  /-- It does not come to an end within the rounds allowed. -/
  | endless
  deriving DecidableEq

/-- Places of a buffer that are still to be read: those from `place` up to and without `stop`. -/
structure Cursor where
  /-- The first place. -/
  place : Nat
  /-- The place after the last. -/
  stop : Nat
  deriving DecidableEq

namespace Cursor

variable (body : Bytes) (cursor : Cursor) (field : Field)

/-- How many places are left. -/
def left : Except Halt Nat :=
  if cursor.stop < cursor.place then .error .astray else .ok (cursor.stop - cursor.place)

/-- Take the next `count` octets. Only the end of the cursor is looked at; the buffer must have the
places. -/
def take (count : Nat) : Except Halt (Bytes × Cursor) := do
  let left ← cursor.left
  if left < count then .error (.fault (.truncated field cursor.place count left))
  else if body.length < cursor.place + count then .error .astray
  else .ok ((body.drop cursor.place).take count, { cursor with place := cursor.place + count })

/-- Pass over `count` octets. -/
def skip (count : Nat) : Except Halt Cursor := do
  let (_, cursor) ← cursor.take body field count
  .ok cursor

/-- Split off a cursor over the next `count` octets. -/
def part (count : Nat) : Except Halt (Cursor × Cursor) := do
  let after ← cursor.skip body field count
  .ok (⟨cursor.place, cursor.place + count⟩, after)

/-- A number of one octet. -/
def word8 : Except Halt (UInt8 × Cursor) := do
  match ← cursor.take body field 1 with
  | ([a], cursor) => .ok (a, cursor)
  | _ => .error .astray

/-- A number of two octets. -/
def word16 : Except Halt (Nat × Cursor) := do
  match ← cursor.take body field 2 with
  | ([a, b], cursor) => .ok ((Bytes.word16 a b).toNat, cursor)
  | _ => .error .astray

/-- A number of three octets. -/
def word24 : Except Halt (Nat × Cursor) := do
  match ← cursor.take body field 3 with
  | ([a, b, c], cursor) => .ok (Bytes.word24 a b c, cursor)
  | _ => .error .astray

end Cursor

variable (body : Bytes)

/-- The first host name of a list of server names, within so many rounds. -/
def walkList : Nat → Cursor → Except Halt Span
  | 0, _ => .error .endless
  | rounds + 1, list => do
    let left ← list.left
    if left = 0 then .error (.fault .noServerName)
    else
      let (type, list) ← list.word8 body .serverNameType
      let (length, list) ← list.word16 body .serverNameLength
      if type ≠ hostNameType then walkList rounds (← list.skip body .serverName length)
      else
        let _ ← list.skip body .hostName length
        if length = 0 then .error (.fault .emptyServerName)
        else .ok ⟨list.place, list.place + length⟩

/-- The host name of an extension that carries server names. -/
def walkExtension (rounds : Nat) (data : Cursor) : Except Halt Span := do
  let (length, data) ← data.word16 body .serverNameListLength
  let (list, _) ← data.part body .serverNameList length
  walkList body rounds list

/-- The host name of the first extension that carries server names, within so many rounds. The list
in it may take as many as are left. -/
def walkExtensions : Nat → Cursor → Except Halt Span
  | 0, _ => .error .endless
  | rounds + 1, block => do
    let left ← block.left
    if left = 0 then .error (.fault .noServerName)
    else
      let (type, block) ← block.word16 body .extensionType
      let (length, block) ← block.word16 body .extensionLength
      if type ≠ extensionType then walkExtensions rounds (← block.skip body .extensionData length)
      else
        let (data, _) ← block.part body .serverNameExtension length
        walkExtension body rounds data

/-- The host name of the parts of a message after its length. -/
def walkMessage (rounds : Nat) (message : Cursor) : Except Halt Span := do
  let message ← message.skip body .clientVersion 2
  let message ← message.skip body .random 32
  let (length, message) ← message.word8 body .sessionIdLength
  let message ← message.skip body .sessionId length.toNat
  let (length, message) ← message.word16 body .cipherSuitesLength
  let message ← message.skip body .cipherSuites length
  let (length, message) ← message.word8 body .compressionMethodsLength
  let message ← message.skip body .compressionMethods length.toNat
  let left ← message.left
  if left = 0 then .error (.fault .noServerName)
  else
    let (length, message) ← message.word16 body .extensionsLength
    let (block, _) ← message.part body .extensions length
    walkExtensions body rounds block

/-- The span of the host name in a buffer that holds a handshake message, within so many rounds. -/
def walk (rounds : Nat) : Except Halt Span := do
  let (type, cursor) ← (Cursor.mk 0 body.length).word8 body .handshakeType
  if type ≠ clientHelloType then .error (.fault (.notClientHello type))
  else
    let (length, cursor) ← cursor.word24 body .handshakeLength
    let (message, _) ← cursor.part body .handshakeBody length
    walkMessage body rounds message

/-! ## Ends that agree -/

/-- What is told of a part that is cut short is right: fewer octets are there than it needs, and
they are octets of the buffer. -/
def Fault.Accurate (size : Nat) : Fault → Prop
  | truncated _ offset needed available => available < needed ∧ offset + available ≤ size
  | _ => True

/-- A walk by places comes to the same end as one through windows, and to no halt of its own. -/
inductive Agrees {α β : Type} (size : Nat) (related : α → β → Prop) :
    Except Halt α → Except Fault β → Prop where
  /-- Both find something. -/
  | found (left : α) (right : β) (relates : related left right) :
      Agrees size related (.ok left) (.ok right)
  /-- Both find the same fault. -/
  | faulty (fault : Fault) (accurate : fault.Accurate size) :
      Agrees size related (.error (.fault fault)) (.error fault)

variable {α β γ δ : Type} {size : Nat}

/-- Steps that agree after steps that agree. -/
theorem Agrees.bind {related : α → β → Prop} {relatedLater : γ → δ → Prop} {left : Except Halt α}
    {right : Except Fault β} {after : α → Except Halt γ} {afterToo : β → Except Fault δ}
    (first : Agrees size related left right)
    (later : ∀ found foundToo, related found foundToo →
      Agrees size relatedLater (after found) (afterToo foundToo)) :
    Agrees size relatedLater (left >>= after) (right >>= afterToo) := by
  cases first with
  | found found foundToo relates => exact later found foundToo relates
  | faulty fault accurate => exact .faulty fault accurate

/-- A walk that agrees ends with what the search through windows finds. -/
theorem Agrees.eq_mapError {left : Except Halt α} {right : Except Fault α}
    (agrees : Agrees size Eq left right) : left = right.mapError .fault := by
  cases agrees with
  | found found foundToo relates => exact congrArg Except.ok relates
  | faulty fault accurate => rfl

/-- The fault of a search that a walk agrees with is accurate. -/
theorem Agrees.accurate {related : α → β → Prop} {left : Except Halt α} {right : Except Fault β}
    (agrees : Agrees size related left right) {fault : Fault} (failed : right = .error fault) :
    fault.Accurate size := by
  cases agrees with
  | found found foundToo relates => cases failed
  | faulty found accurate =>
    cases failed
    exact accurate

/-! ## Cursors on windows -/

/-- A cursor stands on the octets of a window, where they are in the buffer. -/
structure Cursor.On (body : Bytes) (cursor : Cursor) (window : Window) : Prop where
  /-- It starts where the window does. -/
  place : cursor.place = window.offset
  /-- It ends where the window does. -/
  stop : cursor.stop = window.offset + window.bytes.length
  /-- The buffer has these places. -/
  inside : window.offset + window.bytes.length ≤ body.length
  /-- They hold the octets of the window. -/
  octets : (body.drop window.offset).take window.bytes.length = window.bytes

namespace Cursor

variable {body : Bytes} {cursor : Cursor} {window : Window}

/-- A cursor over a whole buffer. -/
theorem on_whole (body : Bytes) : On body ⟨0, body.length⟩ ⟨0, body⟩ where
  place := rfl
  stop := (Nat.zero_add _).symm
  inside := Nat.le_of_eq (Nat.zero_add _)
  octets := List.take_length

/-- A cursor counts the octets of its window. -/
theorem On.left_eq (on : On body cursor window) : cursor.left = .ok window.bytes.length := by
  have place := on.place
  have stop := on.stop
  rw [left, if_neg (by omega)]
  congr 1
  omega

/-- The octets from the place of a cursor on are those of its window. -/
theorem On.take_drop (on : On body cursor window) {count : Nat}
    (enough : count ≤ window.bytes.length) :
    (body.drop cursor.place).take count = window.bytes.take count := by
  rw [on.place, ← on.octets, List.take_take, Nat.min_eq_left enough]

/-- A cursor moves on as its window does. -/
theorem On.advance (on : On body cursor window) {count : Nat}
    (enough : count ≤ window.bytes.length) :
    On body { cursor with place := cursor.place + count } (window.advance count) := by
  have place := on.place
  have stop := on.stop
  have inside := on.inside
  have left : (window.advance count).bytes.length = window.bytes.length - count := List.length_drop
  constructor
  case place => exact congrArg (· + count) place
  case stop =>
    show cursor.stop = window.offset + count + (window.advance count).bytes.length
    omega
  case inside =>
    show window.offset + count + (window.advance count).bytes.length ≤ body.length
    omega
  case octets =>
    show (body.drop (window.offset + count)).take (window.advance count).bytes.length =
      window.bytes.drop count
    rw [left, ← List.drop_drop, ← List.drop_take]
    exact congrArg (List.drop count) on.octets

/-- A cursor over the front of a window. -/
theorem On.front (on : On body cursor window) {count : Nat}
    (enough : count ≤ window.bytes.length) :
    On body ⟨cursor.place, cursor.place + count⟩ ⟨window.offset, window.bytes.take count⟩ := by
  have inside := on.inside
  have length : (window.bytes.take count).length = count := List.length_take_of_le enough
  constructor
  case place => exact on.place
  case stop => rw [length, on.place]
  case inside =>
    show window.offset + (window.bytes.take count).length ≤ body.length
    omega
  case octets =>
    rw [length, ← on.place]
    exact on.take_drop enough

/-- What is told of a part that needs more than its window has is accurate. -/
theorem On.accurate_short (on : On body cursor window) (field : Field) {needed : Nat}
    (short : window.bytes.length < needed) : (window.short field needed).Accurate body.length :=
  ⟨short, on.inside⟩

/-- Taking octets ends as it does in the window: there are enough, or the part is cut short. -/
theorem On.take_eq (on : On body cursor window) (field : Field) (count : Nat) :
    cursor.take body field count =
      if window.bytes.length < count then .error (.fault (window.short field count))
      else .ok (window.bytes.take count, { cursor with place := cursor.place + count }) := by
  have place := on.place
  have inside := on.inside
  rw [take, on.left_eq]
  show (if window.bytes.length < count then _ else _) = _
  split
  · rw [place]
    rfl
  · next enough =>
    rw [if_neg (by omega), on.take_drop (Nat.le_of_not_lt enough)]

/-- A value read off the first `count` octets of a window, and a cursor on those after them. -/
structure Reads {α : Type} (body : Bytes) (window : Window) (count : Nat) (left : α × Cursor)
    (right : α × Window) : Prop where
  /-- Both read the same value. -/
  value : left.1 = right.1
  /-- The cursor stands on the octets that are left. -/
  on : On body left.2 right.2
  /-- These are the others. -/
  length : right.2.bytes.length + count = window.bytes.length

variable (on : On body cursor window) (field : Field)
include on

/-- Passing over octets. -/
theorem On.agrees_skip (count : Nat) :
    Agrees body.length
      (fun left right => On body left right ∧ right.bytes.length + count = window.bytes.length)
      (cursor.skip body field count) (window.skip field count) := by
  rw [skip, Window.skip, on.take_eq]
  split
  · next short => exact .faulty _ (on.accurate_short field short)
  · next enough =>
    have enough := Nat.le_of_not_lt enough
    refine .found _ _ ⟨on.advance enough, ?_⟩
    rw [Window.advance, List.length_drop]
    omega

/-- Splitting off a part. -/
theorem On.agrees_part (count : Nat) :
    Agrees body.length
      (fun left right => On body left.1 right.1 ∧ right.1.bytes.length ≤ window.bytes.length)
      (cursor.part body field count) (window.part field count) := by
  rw [part, skip, Window.part, on.take_eq]
  split
  · next short => exact .faulty _ (on.accurate_short field short)
  · next enough =>
    exact .found _ _ ⟨on.front (Nat.le_of_not_lt enough), List.length_take_le' _ _⟩

/-- Reading a number of one octet. -/
theorem On.agrees_word8 :
    Agrees body.length (Reads body window 1) (cursor.word8 body field) (window.word8 field) := by
  rw [word8, Window.word8, on.take_eq]
  have moved := @On.advance _ _ _ on 1
  obtain ⟨offset, bytes⟩ := window
  rcases bytes with _ | ⟨a, rest⟩
  case nil => exact .faulty _ (on.accurate_short field (by simp))
  case cons => exact .found _ _ ⟨rfl, moved (by simp), rfl⟩

/-- Reading a number of two octets. -/
theorem On.agrees_word16 :
    Agrees body.length (Reads body window 2) (cursor.word16 body field) (window.word16 field) := by
  rw [word16, Window.word16, on.take_eq]
  have moved := @On.advance _ _ _ on 2
  obtain ⟨offset, bytes⟩ := window
  rcases bytes with _ | ⟨a, _ | ⟨b, rest⟩⟩
  case cons.cons => exact .found _ _ ⟨rfl, moved (by simp), rfl⟩
  all_goals exact .faulty _ (on.accurate_short field (by simp))

/-- Reading a number of three octets. -/
theorem On.agrees_word24 :
    Agrees body.length (Reads body window 3) (cursor.word24 body field) (window.word24 field) := by
  rw [word24, Window.word24, on.take_eq]
  have moved := @On.advance _ _ _ on 3
  obtain ⟨offset, bytes⟩ := window
  rcases bytes with _ | ⟨a, _ | ⟨b, _ | ⟨c, rest⟩⟩⟩
  case cons.cons.cons => exact .found _ _ ⟨rfl, moved (by simp), rfl⟩
  all_goals exact .faulty _ (on.accurate_short field (by simp))

/-- Finding that nothing is left, or going on. -/
theorem On.agrees_left {α β : Type} {related : α → β → Prop} {more : Except Halt α}
    {right : Except Fault β} (spent : window.bytes = [] → right = .error .noServerName)
    (later : window.bytes ≠ [] → Agrees body.length related more right) :
    Agrees body.length related
      (do let left ← cursor.left; if left = 0 then .error (.fault .noServerName) else more)
      right := by
  rw [on.left_eq]
  show Agrees _ _ (if window.bytes.length = 0 then _ else _) _
  split
  · next none =>
    rw [spent (List.length_eq_zero_iff.mp none)]
    exact .faulty _ trivial
  · next some => exact later fun empty => some (List.length_eq_zero_iff.mpr empty)

end Cursor

/-! ## Walks that agree -/

variable {body : Bytes} {cursor : Cursor}

/-- Walking a list of server names, given a round for each octet and one more. -/
theorem agrees_walkList {rounds entries : Nat} {list : Window} (on : cursor.On body list)
    (allowed : list.bytes.length < rounds) (enough : list.bytes.length ≤ entries) :
    Agrees body.length Eq (walkList body rounds cursor) (inList entries list) := by
  induction rounds generalizing entries cursor list with
  | zero => omega
  | succ rounds ih =>
    apply on.agrees_left
    case spent =>
      intro empty
      cases entries with
      | zero => rfl
      | succ entries => rw [inList, if_pos empty]
    case later =>
      intro nonempty
      have some : 0 < list.bytes.length := List.length_pos_iff.mpr nonempty
      obtain ⟨entries, rfl⟩ : ∃ fewer, entries = fewer + 1 := ⟨entries - 1, by omega⟩
      rw [inList, if_neg nonempty]
      apply (on.agrees_word8 _).bind
      rintro ⟨type, cursor⟩ ⟨_, named⟩ ⟨rfl, on, typed⟩
      apply (on.agrees_word16 _).bind
      rintro ⟨length, cursor⟩ ⟨_, counted⟩ ⟨rfl, on, sized⟩
      dsimp only at typed sized on ⊢
      split
      · apply (on.agrees_skip _ _).bind
        rintro cursor rest ⟨on, skipped⟩
        exact ih on (by omega) (by omega)
      · apply (on.agrees_skip _ _).bind
        rintro _ _ -
        split
        · exact .faulty _ trivial
        · exact .found _ _ (by rw [on.place])

/-- Walking an extension that carries server names. -/
theorem agrees_walkExtension {rounds : Nat} {data : Window} (on : cursor.On body data)
    (allowed : data.bytes.length < rounds) :
    Agrees body.length Eq (walkExtension body rounds cursor) (inExtension data) := by
  apply (on.agrees_word16 _).bind
  rintro ⟨length, cursor⟩ ⟨_, counted⟩ ⟨rfl, on, sized⟩
  apply (on.agrees_part _ _).bind
  rintro ⟨cursor, _⟩ ⟨list, _⟩ ⟨on, fits⟩
  dsimp only at sized fits
  exact agrees_walkList on (by omega) (Nat.le_refl _)

/-- Walking a block of extensions, given a round for each octet and one more. -/
theorem agrees_walkExtensions {rounds extensions : Nat} {block : Window}
    (on : cursor.On body block) (allowed : block.bytes.length < rounds)
    (enough : block.bytes.length ≤ extensions) :
    Agrees body.length Eq (walkExtensions body rounds cursor) (inExtensions extensions block) := by
  induction rounds generalizing extensions cursor block with
  | zero => omega
  | succ rounds ih =>
    apply on.agrees_left
    case spent =>
      intro empty
      cases extensions with
      | zero => rfl
      | succ extensions => rw [inExtensions, if_pos empty]
    case later =>
      intro nonempty
      have some : 0 < block.bytes.length := List.length_pos_iff.mpr nonempty
      obtain ⟨extensions, rfl⟩ : ∃ fewer, extensions = fewer + 1 := ⟨extensions - 1, by omega⟩
      rw [inExtensions, if_neg nonempty]
      apply (on.agrees_word16 _).bind
      rintro ⟨type, cursor⟩ ⟨_, typed⟩ ⟨rfl, on, read⟩
      apply (on.agrees_word16 _).bind
      rintro ⟨length, cursor⟩ ⟨_, counted⟩ ⟨rfl, on, sized⟩
      dsimp only at read sized on ⊢
      split
      · apply (on.agrees_skip _ _).bind
        rintro cursor rest ⟨on, skipped⟩
        exact ih on (by omega) (by omega)
      · apply (on.agrees_part _ _).bind
        rintro ⟨cursor, _⟩ ⟨data, _⟩ ⟨on, fits⟩
        exact agrees_walkExtension on (Nat.lt_of_le_of_lt fits (by omega))

/-- Walking the parts of a message after its length. -/
theorem agrees_walkMessage {rounds : Nat} {message : Window} (on : cursor.On body message)
    (allowed : message.bytes.length < rounds) :
    Agrees body.length Eq (walkMessage body rounds cursor) (inMessage message) := by
  apply (on.agrees_skip _ _).bind
  rintro cursor version ⟨on, versioned⟩
  apply (on.agrees_skip _ _).bind
  rintro cursor random ⟨on, drawn⟩
  apply (on.agrees_word8 _).bind
  rintro ⟨length, cursor⟩ ⟨_, session⟩ ⟨rfl, on, sized⟩
  apply (on.agrees_skip _ _).bind
  rintro cursor suites ⟨on, identified⟩
  apply (on.agrees_word16 _).bind
  rintro ⟨length, cursor⟩ ⟨_, suited⟩ ⟨rfl, on, counted⟩
  apply (on.agrees_skip _ _).bind
  rintro cursor methods ⟨on, offered⟩
  apply (on.agrees_word8 _).bind
  rintro ⟨length, cursor⟩ ⟨_, compressed⟩ ⟨rfl, on, numbered⟩
  apply (on.agrees_skip _ _).bind
  rintro cursor rest ⟨on, passed⟩
  apply on.agrees_left
  case spent =>
    intro empty
    rw [if_pos empty]
  case later =>
    intro nonempty
    rw [if_neg nonempty]
    apply (on.agrees_word16 _).bind
    rintro ⟨length, cursor⟩ ⟨_, extended⟩ ⟨rfl, on, announced⟩
    apply (on.agrees_part _ _).bind
    rintro ⟨cursor, _⟩ ⟨block, _⟩ ⟨on, fits⟩
    dsimp only at *
    exact agrees_walkExtensions on (by omega) (Nat.le_refl _)

/-- Walking a buffer, given a round for each octet and one more. -/
theorem agrees_walk {rounds : Nat} (allowed : body.length < rounds) :
    Agrees body.length Eq (walk body rounds) (locate body) := by
  apply ((Cursor.on_whole body).agrees_word8 _).bind
  rintro ⟨type, cursor⟩ ⟨_, typed⟩ ⟨rfl, on, read⟩
  dsimp only at read on ⊢
  split
  · exact .faulty _ trivial
  · apply (on.agrees_word24 _).bind
    rintro ⟨length, cursor⟩ ⟨_, counted⟩ ⟨rfl, on, sized⟩
    apply (on.agrees_part _ _).bind
    rintro ⟨cursor, _⟩ ⟨message, _⟩ ⟨on, fits⟩
    dsimp only at sized fits
    exact agrees_walkMessage on (Nat.lt_of_le_of_lt fits (by omega))

end Outbound.Tls.ServerName
