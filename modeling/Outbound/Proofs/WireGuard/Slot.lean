import Mathlib.Data.List.Basic
import Outbound.WireGuard.Calls

/-!
# The slot of a bind

Calls on a bind share one slot. Whatever they do side by side, and whatever the listener answers,
a socket comes into the slot by an open that finds it empty or by a rebind, and every socket that
is given out or used was in it. What a move may do is said once, of the slot (`SlotStep`) and of the
calls (`Took`); where the sockets of a step come from (`Accounted`) follows from that, and what
holds of a run from its steps.
-/
namespace Outbound.WireGuard

variable {κ : Type}

/-- The socket that a call has at a stage. -/
def Stage.socket? : Stage κ → Option κ
  | sending _ socket _ => some socket
  | receiving socket _ => some socket
  | _ => none

/-- Whether a call at a stage replaces the socket. -/
def Stage.rebinds : Stage κ → Bool
  | rebinding _ => true
  | _ => false

namespace Effect

/-- The call that something comes of. -/
def call : Effect κ → Nat
  | asks call | opens call _ | sends call .. | receives call .. => call
  | sent call _ | received call _ | rebound call _ => call

/-- The socket that is given out or used. -/
def socket? : Effect κ → Option κ
  | opens _ (.ok socket) => some socket
  | sends _ socket _ => some socket
  | receives _ socket _ => some socket
  | _ => none

end Effect

/-- Whether a move replaces or drops a socket that is in use. -/
def Move.displaces : Move κ → Bool
  | rebind | close => true
  | _ => false

/-! ## Turns of one call -/

/-- A turn of a call has to do with one socket at most, which it may give out if it opens it. -/
structure Within (call : Nat) (socket : Option κ) (opens : Bool)
    (turn : Stage κ × List (Effect κ)) : Prop where
  /-- The call has no other socket afterwards. -/
  held : turn.1.socket? = none ∨ turn.1.socket? = socket
  /-- No other socket is given out or used. -/
  used : ∀ effect ∈ turn.2, effect.socket? = none ∨ effect.socket? = socket
  /-- Only an open gives a socket out. -/
  given : ∀ effect ∈ turn.2, ∀ other result, effect = .opens other result → opens = true
  /-- Everything comes of this call. -/
  own : ∀ effect ∈ turn.2, effect.call = call

namespace Within

/-- What a call does once its open is over has to do with the socket that the open gave. -/
theorem afterOpen (call now : Nat) (purpose : Purpose) (result : Except Error κ) :
    Within call result.toOption true (purpose.afterOpen call now result) := by
  rcases result with error | socket <;> rcases purpose with _ | (_ | ⟨post, posts⟩) | room
  all_goals
    refine ⟨?_, ?_, fun _ _ _ _ _ => rfl, ?_⟩ <;>
      simp [Purpose.afterOpen, Stage.afterPosts, Stage.socket?, Effect.socket?, Effect.call,
        Except.toOption]

/-- What a call does once a datagram was sent has to do with the socket that sent it. -/
theorem afterSend (call now : Nat) (socket : κ) (post : Post) (posts : List Post)
    (result : Except IoError Unit) :
    Within call (some socket) false (Stage.afterSend call now socket post posts result) := by
  rcases result with error | _ <;> rcases posts with _ | ⟨next, posts⟩
  all_goals
    constructor <;>
      simp [Stage.afterSend, Stage.afterPosts, Stage.socket?, Effect.socket?, Effect.call]

/-- What a call does once something has arrived has to do with the socket that received it. -/
theorem afterArrival (policy : Policy) (call : Nat) (socket : κ) (room : Nat)
    (arrival : Arrival) :
    Within call (some socket) false (Stage.afterArrival policy call socket room arrival) := by
  rw [Stage.afterArrival]
  split
  all_goals constructor <;> simp [Stage.socket?, Effect.socket?, Effect.call]

/-- What a rebind does between its waits has to do with no socket. -/
theorem afterRebind (call : Nat) (rebind : RebindCall) :
    Within call none false (Stage.afterRebind (κ := κ) call rebind) := by
  cases rebind
  all_goals constructor <;> simp [Stage.afterRebind, Stage.socket?, Effect.socket?, Effect.call]

/-- A call that asks the listener has no socket yet. -/
theorem asking (call : Nat) (purpose : Purpose) :
    Within (κ := κ) call none false (.opening purpose, [.asks call]) := by
  constructor <;> simp [Stage.socket?, Effect.socket?, Effect.call]

/-- A call that is given up has no socket any more. -/
theorem leaving (call : Nat) : Within (κ := κ) call none false (.over, []) := by
  constructor <;> simp [Stage.socket?]

end Within

/-- A call that waits to open a socket, or uses one, does not come to replace it. -/
theorem Purpose.rebinds_afterOpen (call now : Nat) (purpose : Purpose) (result : Except Error κ) :
    (purpose.afterOpen call now result).1.rebinds = false := by
  rcases result with error | socket <;> rcases purpose with _ | (_ | ⟨post, posts⟩) | room <;> rfl

/-- A call that sends does not come to replace the socket. -/
theorem Stage.rebinds_afterSend (call now : Nat) (socket : κ) (post : Post) (posts : List Post)
    (result : Except IoError Unit) :
    (afterSend call now socket post posts result).1.rebinds = false := by
  rcases result with error | _ <;> rcases posts with _ | ⟨next, posts⟩ <;> rfl

/-- A call that receives does not come to replace the socket. -/
theorem Stage.rebinds_afterArrival (policy : Policy) (call : Nat) (socket : κ) (room : Nat)
    (arrival : Arrival) : (afterArrival policy call socket room arrival).1.rebinds = false := by
  rw [afterArrival]
  split <;> rfl

namespace Calls

/-! ## The slot in a step -/

/-- What a move may do to the slot. -/
inductive SlotStep (before : Calls κ) : Move κ → Calls κ → Prop where
  /-- It stays as it is. -/
  | kept {move : Move κ} {after : Calls κ} :
      after.bind.slot = before.bind.slot → before.made ≤ after.made → SlotStep before move after
  /-- An open fills it with the socket that the listener opened, if it is empty. -/
  | filled {call : Nat} {purpose : Purpose} {socket : κ} {after : Calls κ} :
      before.stages[call]? = some (.opening purpose) → before.bind.slot = none →
      after.bind.slot = some ⟨before.made, socket⟩ → after.made = before.made + 1 →
      SlotStep before (.answer call (.ok socket)) after
  /-- A rebind puts the socket in that the listener opened. -/
  | replaced {call : Nat} {socket : κ} {after : Calls κ} :
      before.stages[call]? = some (.rebinding .listening) →
      after.bind.slot = some ⟨before.made, socket⟩ → after.made = before.made + 1 →
      SlotStep before (.answer call (.ok socket)) after
  /-- A close empties it. -/
  | emptied {after : Calls κ} :
      after.bind.slot = none → after.made = before.made → SlotStep before .close after

/-- An open that was too late gives the socket that is in the slot. -/
theorem finishOpen_filled {bind : Bind κ} {existing : κ} (filled : bind.slot = some existing)
    (socket : κ) : bind.finishOpen (.ok socket) = (.ok existing, bind) := by
  rw [Bind.finishOpen, filled]

/-- An open that finds the slot empty fills it. -/
theorem finishOpen_empty {bind : Bind κ} (empty : bind.slot = none) (socket : κ) :
    bind.finishOpen (.ok socket) = (.ok socket, { bind with slot := some socket }) := by
  rw [Bind.finishOpen, empty]

/-- Starting a call leaves the slot as it is. -/
theorem slot_startOpen (calls : Calls κ) (purpose : Purpose) :
    (calls.startOpen purpose).1.bind = calls.bind ∧
      (calls.startOpen purpose).1.made = calls.made := by
  rw [startOpen]
  split <;> exact ⟨rfl, rfl⟩

/-- The slot changes by an open that finds it empty, a rebind that was given a socket, or a
close. -/
theorem slotStep (calls : Calls κ) (move : Move κ) : SlotStep calls move (calls.step move).1 := by
  have opens : ∀ purpose {move : Move κ}, SlotStep calls move (calls.startOpen purpose).1 := by
    intro purpose move
    obtain ⟨bind, made⟩ := calls.slot_startOpen purpose
    exact .kept (by rw [bind]) (Nat.le_of_eq made.symm)
  cases move with
  | «open» => exact opens _
  | send packet entropy => exact opens _
  | receive room => exact opens _
  | rebind => exact .kept rfl (Nat.le_refl _)
  | close => exact .emptied rfl rfl
  | answer call answer =>
    simp only [step]
    split
    case h_1 purpose waits =>
      rcases answer with error | socket
      · exact .kept rfl (Nat.le_refl _)
      · cases slot : calls.bind.slot with
        | some existing =>
          simp only [number, finishOpen_filled slot]
          exact .kept rfl (Nat.le_succ _)
        | none =>
          simp only [number, finishOpen_empty slot]
          exact .filled waits slot rfl rfl
    case h_2 waits =>
      rcases answer with error | socket
      · exact .kept rfl (Nat.le_refl _)
      · exact .replaced waits rfl rfl
    case h_3 => exact .kept rfl (Nat.le_refl _)
  | dispatch call result =>
    simp only [step]
    split
    · split <;> exact .kept rfl (Nat.le_refl _)
    · exact .kept rfl (Nat.le_refl _)
  | arrive call arrival =>
    simp only [step]
    split <;> exact .kept rfl (Nat.le_refl _)
  | wake call =>
    simp only [step]
    split <;> exact .kept rfl (Nat.le_refl _)
  | giveUp call => exact .kept rfl (Nat.le_refl _)
  | elapse time => exact .kept rfl (Nat.le_refl _)
  | set paused => exact .kept rfl (Nat.le_refl _)

/-! ## The calls in a step -/

/-- What a move makes of the calls: at most one of them takes a turn. -/
inductive Took (before : Calls κ) (move : Move κ) (after : Calls κ)
    (effects : List (Effect (Opened κ))) : Prop
  /-- No call takes a turn. -/
  | idle (stages : after.stages = before.stages) (nothing : effects = [])
  /-- A call starts, with the socket of the slot if it has any. -/
  | starts {mine : Option (Opened κ)} {opens : Bool} {stage : Stage (Opened κ)}
      (within : Within before.stages.length mine opens (stage, effects))
      (stages : after.stages = before.stages ++ [stage])
      (replaces : stage.rebinds = false ∨ move = .rebind)
      (source : ∀ socket, mine = some socket → after.bind.slot = some socket)
  /-- A call that is not over goes on, with the socket that it had or that is in the slot, or is
  given up. -/
  | goesOn {call : Nat} {mine : Option (Opened κ)} {opens : Bool}
      {former stage : Stage (Opened κ)} (found : before.stages[call]? = some former)
      (within : Within call mine opens (stage, effects))
      (stages : after.stages = before.stages.set call stage)
      (goes : former ≠ .over ∨ stage = .over ∧ effects = [])
      (replaces : stage.rebinds = false ∨ former.rebinds = true)
      (source : ∀ socket, mine = some socket →
        former.socket? = some socket ∨ after.bind.slot = some socket)
      (given : opens = true → ∀ socket, mine = some socket → after.bind.slot = some socket)

/-- What the start of a call that opens a socket makes of the calls. -/
theorem took_startOpen (calls : Calls κ) (purpose : Purpose) (move : Move κ) :
    Took calls move (calls.startOpen purpose).1 (calls.startOpen purpose).2 := by
  rw [startOpen]
  split
  case h_1 socket filled =>
    refine .starts (.afterOpen _ _ _ (.ok socket)) rfl (.inl (Purpose.rebinds_afterOpen ..)) ?_
    intro _ mine
    cases mine
    exact filled
  case h_2 empty =>
    exact .starts (.asking _ _) rfl (.inl rfl) fun _ mine => by cases mine

/-- What the end of an open makes of the calls. -/
theorem took_finishOpen {calls : Calls κ} {call : Nat} {purpose : Purpose} {move : Move κ}
    (waits : calls.stages[call]? = some (.opening purpose)) {after : Calls κ}
    (stages : after.stages = calls.stages) {result : Except Error (Opened κ)}
    (filled : ∀ socket, result = .ok socket → after.bind.slot = some socket) :
    Took calls move (after.advance call (purpose.afterOpen call calls.now result)).1
      (purpose.afterOpen call calls.now result).2 := by
  have given : ∀ socket, result.toOption = some socket → after.bind.slot = some socket := by
    rcases result with error | socket
    · exact fun _ mine => by cases mine
    · exact fun _ mine => by cases mine; exact filled socket rfl
  have changed : (after.advance call (purpose.afterOpen call calls.now result)).1.stages =
      calls.stages.set call (purpose.afterOpen call calls.now result).1 := by
    rw [advance, stages]
  exact .goesOn waits (.afterOpen _ _ _ result) changed (.inl fun same => by cases same)
    (.inl (Purpose.rebinds_afterOpen ..)) (fun socket mine => .inr (given socket mine))
    fun _ => given

/-- What a move of a rebind makes of the calls. -/
theorem took_afterRebind {calls : Calls κ} {call : Nat} {former rebind : RebindCall}
    {move : Move κ} (waits : calls.stages[call]? = some (.rebinding former)) {after : Calls κ}
    (stages : after.stages = calls.stages) :
    Took calls move (after.advance call (Stage.afterRebind call rebind)).1
      (Stage.afterRebind call rebind).2 := by
  have changed : (after.advance call (Stage.afterRebind call rebind)).1.stages =
      calls.stages.set call (Stage.afterRebind call rebind).1 := by
    rw [advance, stages]
  exact .goesOn waits (.afterRebind _ _) changed (.inl fun same => by cases same) (.inr rfl)
    (fun _ mine => by cases mine) fun _ _ mine => by cases mine

/-- What a move makes of the calls. -/
theorem took_step (calls : Calls κ) (move : Move κ) :
    Took calls move (calls.step move).1 (calls.step move).2 := by
  cases move with
  | «open» => exact calls.took_startOpen _ _
  | send packet entropy => exact calls.took_startOpen _ _
  | receive room => exact calls.took_startOpen _ _
  | rebind => exact .starts (.afterRebind _ _) rfl (.inr rfl) fun _ mine => by cases mine
  | close => exact .idle rfl rfl
  | answer call answer =>
    simp only [step]
    split
    case h_1 purpose waits =>
      rcases answer with error | socket
      · exact took_finishOpen waits rfl fun _ same => by cases same
      · cases slot : calls.bind.slot with
        | some existing =>
          simp only [number, finishOpen_filled slot]
          exact took_finishOpen waits (by rfl) fun _ same => by cases same; exact slot
        | none =>
          simp only [number, finishOpen_empty slot]
          exact took_finishOpen waits (by rfl) fun _ same => by cases same; rfl
    case h_2 waits => rcases answer with error | socket <;> exact took_afterRebind waits rfl
    case h_3 => exact .idle rfl rfl
  | dispatch call result =>
    simp only [step]
    split
    case h_1 start socket post posts found =>
      split
      · exact .goesOn found (.afterSend _ _ _ _ _ _) rfl (.inl fun same => by cases same)
          (.inl (Stage.rebinds_afterSend ..)) (fun _ mine => .inl mine) fun opens => by cases opens
      · exact .idle rfl rfl
    case h_2 => exact .idle rfl rfl
  | arrive call arrival =>
    simp only [step]
    split
    case h_1 socket room found =>
      exact .goesOn found (.afterArrival _ _ _ _ _) rfl (.inl fun same => by cases same)
        (.inl (Stage.rebinds_afterArrival ..)) (fun _ mine => .inl mine)
        fun opens => by cases opens
    case h_2 => exact .idle rfl rfl
  | wake call =>
    simp only [step]
    split
    case h_1 => exact .idle rfl rfl
    case h_2 waits => exact took_afterRebind waits rfl
    case h_3 => exact .idle rfl rfl
  | giveUp call =>
    cases found : calls.stages[call]? with
    | none =>
      exact .idle (List.set_eq_of_length_le (List.getElem?_eq_none_iff.mp found)) rfl
    | some former =>
      exact .goesOn found (.leaving call) rfl (.inr ⟨rfl, rfl⟩) (.inl rfl)
        (fun _ mine => by cases mine) fun opens => by cases opens
  | elapse time => exact .idle rfl rfl
  | set paused => exact .idle rfl rfl

/-! ## The sockets in a step -/

/-- A socket that is in the slot or that a call has. -/
def Holds (calls : Calls κ) (socket : Opened κ) : Prop :=
  calls.bind.slot = some socket ∨ ∃ stage ∈ calls.stages, stage.socket? = some socket

/-- Where the sockets of a step come from. -/
structure Accounted (before after : Calls κ) (effects : List (Effect (Opened κ))) : Prop where
  /-- A socket that a call has was held, or is in the slot. -/
  held : ∀ stage ∈ after.stages, ∀ socket, stage.socket? = some socket →
    before.Holds socket ∨ after.bind.slot = some socket
  /-- So was a socket that is given out or used. -/
  used : ∀ effect ∈ effects, ∀ socket, effect.socket? = some socket →
    before.Holds socket ∨ after.bind.slot = some socket
  /-- A socket that is given out is in the slot. -/
  given : ∀ call socket, .opens call (.ok socket) ∈ effects → after.bind.slot = some socket

/-- A turn of one call is accounted for if its socket was held or is in the slot, and if a socket
that it may give out is in the slot. -/
theorem Accounted.turn {before after : Calls κ} {call : Nat} {mine : Option (Opened κ)}
    {opens : Bool} {last : Stage (Opened κ)} {effects : List (Effect (Opened κ))}
    (within : Within call mine opens (last, effects))
    (stages : ∀ stage ∈ after.stages, stage ∈ before.stages ∨ stage = last)
    (source : ∀ socket, mine = some socket →
      before.Holds socket ∨ after.bind.slot = some socket)
    (given : opens = true → ∀ socket, mine = some socket → after.bind.slot = some socket) :
    Accounted before after effects where
  held stage mem socket has := by
    obtain earlier | rfl := stages stage mem
    · exact .inl (.inr ⟨stage, earlier, has⟩)
    · obtain none | same := within.held
      · rw [none] at has
        cases has
      · exact source socket (same ▸ has)
  used effect mem socket has := by
    obtain none | same := within.used effect mem
    · rw [none] at has
      cases has
    · exact source socket (same ▸ has)
  given call socket mem := by
    have opening := within.given _ mem call _ rfl
    obtain none | same := within.used _ mem
    · cases none
    · exact given opening socket same.symm

/-- Every step is accounted for. -/
theorem accounted_step (calls : Calls κ) (move : Move κ) :
    Accounted calls (calls.step move).1 (calls.step move).2 := by
  cases calls.took_step move with
  | idle stages nothing =>
    rw [nothing]
    constructor
    · exact fun stage mem socket has => .inl (.inr ⟨stage, stages ▸ mem, has⟩)
    · exact fun effect mem => by cases mem
    · exact fun call socket mem => by cases mem
  | starts within stages _ source =>
    refine .turn within ?_ (fun socket mine => .inr (source socket mine)) fun _ => source
    intro stage mem
    rw [stages] at mem
    exact (List.mem_append.mp mem).imp_right List.mem_singleton.mp
  | goesOn found within stages _ _ source given =>
    refine .turn within ?_ (fun socket mine => ?_) given
    · intro stage mem
      rw [stages] at mem
      exact List.mem_or_eq_of_mem_set mem
    · exact (source socket mine).imp_left fun has =>
        .inr ⟨_, List.mem_of_getElem? found, has⟩

/-! ## Calls that are over -/

/-- A call that is over stays over, and nothing comes of it. -/
structure Silent (call : Nat) (after : Calls κ) (effects : List (Effect (Opened κ))) : Prop where
  /-- It is over. -/
  ended : after.stages[call]? = some .over
  /-- Nothing comes of it. -/
  none : ∀ effect ∈ effects, effect.call ≠ call

/-- A call that is over is left alone by every step. -/
theorem silent_step {calls : Calls κ} {call : Nat} (ended : calls.stages[call]? = some .over)
    (move : Move κ) : Silent call (calls.step move).1 (calls.step move).2 := by
  obtain ⟨bound, _⟩ := List.getElem?_eq_some_iff.mp ended
  cases calls.took_step move with
  | idle stages nothing => exact ⟨stages ▸ ended, fun _ mem => by rw [nothing] at mem; cases mem⟩
  | starts within stages _ _ =>
    refine ⟨?_, fun effect mem same => ?_⟩
    · rw [stages, List.getElem?_append_left bound]
      exact ended
    · have own := within.own effect mem
      omega
  | @goesOn other _ _ former _ found within stages goes _ _ _ =>
    by_cases same : other = call
    · subst same
      obtain rfl : former = .over := Option.some.inj (found.symm.trans ended)
      obtain going | ⟨rfl, nothing⟩ := goes
      · exact absurd rfl going
      · refine ⟨?_, fun _ mem => by rw [nothing] at mem; cases mem⟩
        rw [stages]
        exact List.getElem?_set_self bound
    · refine ⟨?_, fun effect mem => ?_⟩
      · rw [stages, List.getElem?_set_ne same]
        exact ended
      · rw [within.own effect mem]
        exact same

/-! ## Runs -/

/-- Moves one after another leave what the later ones make of what the earlier ones left. -/
theorem after_append (calls : Calls κ) (earlier later : List (Move κ)) :
    calls.after (earlier ++ later) = (calls.after earlier).after later :=
  List.foldl_append

/-- What comes of moves one after another comes of the earlier ones or of the later ones. -/
theorem effects_append (calls : Calls κ) (earlier later : List (Move κ)) :
    calls.effects (earlier ++ later) =
      calls.effects earlier ++ (calls.after earlier).effects later := by
  induction earlier generalizing calls with
  | nil => rfl
  | cons move moves ih =>
    rw [List.cons_append, effects, effects, ih, List.append_assoc]
    rfl

/-- What every step keeps is kept by a run, and comes with what every step lets come of it. -/
theorem run_keeps (keeps : Calls κ → Prop) (allows : Effect (Opened κ) → Prop)
    (step : ∀ calls move, keeps calls →
      keeps (calls.step move).1 ∧ ∀ effect ∈ (calls.step move).2, allows effect)
    {calls : Calls κ} (start : keeps calls) (moves : List (Move κ)) :
    keeps (calls.after moves) ∧ ∀ effect ∈ calls.effects moves, allows effect := by
  induction moves generalizing calls with
  | nil => exact ⟨start, fun _ mem => by cases mem⟩
  | cons move moves ih =>
    obtain ⟨kept, now⟩ := step calls move start
    obtain ⟨final, later⟩ := ih kept
    exact ⟨final, fun effect mem => (List.mem_append.mp mem).elim (now effect) (later effect)⟩

/-- A call that is over is never heard of again. -/
theorem silent_run {calls : Calls κ} {call : Nat} (ended : calls.stages[call]? = some .over)
    (moves : List (Move κ)) : Silent call (calls.after moves) (calls.effects moves) := by
  obtain ⟨ended, none⟩ := run_keeps (fun calls => calls.stages[call]? = some .over)
    (fun effect => effect.call ≠ call)
    (fun _ move ended => ⟨(silent_step ended move).ended, (silent_step ended move).none⟩)
    ended moves
  exact ⟨ended, none⟩

/-- The sockets that are held were opened. -/
def Numbered (calls : Calls κ) : Prop := ∀ socket, calls.Holds socket → socket.number < calls.made

/-- A socket that was opened, and that nobody holds. -/
def Astray (calls : Calls κ) (socket : Opened κ) : Prop :=
  socket.number < calls.made ∧ ¬ calls.Holds socket

/-- The count of sockets does not fall. -/
theorem made_step (calls : Calls κ) (move : Move κ) : calls.made ≤ (calls.step move).1.made := by
  cases calls.slotStep move with
  | kept _ made => exact made
  | filled _ _ _ made => omega
  | replaced _ _ made => omega
  | emptied _ made => omega

/-- A socket that comes into the slot is new. -/
theorem slot_new {calls : Calls κ} {move : Move κ} {socket : Opened κ}
    (there : (calls.step move).1.bind.slot = some socket) :
    calls.bind.slot = some socket ∨
      socket.number = calls.made ∧ (calls.step move).1.made = calls.made + 1 := by
  cases calls.slotStep move with
  | kept same _ => exact .inl (same ▸ there)
  | filled _ _ slot made =>
    rw [slot] at there
    cases there
    exact .inr ⟨rfl, made⟩
  | replaced _ slot made =>
    rw [slot] at there
    cases there
    exact .inr ⟨rfl, made⟩
  | emptied slot _ =>
    rw [slot] at there
    cases there

/-- A socket that is held after a step was held before, or is in the slot. -/
theorem Accounted.holds {before after : Calls κ} {effects : List (Effect (Opened κ))}
    (accounted : Accounted before after effects) {socket : Opened κ} (held : after.Holds socket) :
    before.Holds socket ∨ after.bind.slot = some socket := by
  obtain there | ⟨stage, mem, has⟩ := held
  · exact .inr there
  · exact accounted.held stage mem socket has

/-- The sockets that are held after a step, given out or used in it were opened. -/
theorem numbered_step {calls : Calls κ} (numbered : calls.Numbered) (move : Move κ) :
    (calls.step move).1.Numbered ∧ ∀ effect ∈ (calls.step move).2, ∀ socket,
      effect.socket? = some socket → socket.number < (calls.step move).1.made := by
  have accounted := calls.accounted_step move
  have made := calls.made_step move
  have opened : ∀ socket, calls.Holds socket ∨ (calls.step move).1.bind.slot = some socket →
      socket.number < (calls.step move).1.made := by
    intro socket source
    obtain held | there := source
    · have below := numbered socket held
      omega
    · obtain earlier | ⟨number, count⟩ := slot_new there
      · have below := numbered socket (.inl earlier)
        omega
      · omega
  exact ⟨fun socket held => opened socket (accounted.holds held),
    fun effect mem socket has => opened socket (accounted.used effect mem socket has)⟩

/-- The sockets that are held after a run, given out or used in it were opened. -/
theorem numbered_run {calls : Calls κ} (numbered : calls.Numbered) (moves : List (Move κ)) :
    (calls.after moves).Numbered ∧ calls.made ≤ (calls.after moves).made ∧
      ∀ effect ∈ calls.effects moves, ∀ socket, effect.socket? = some socket →
        socket.number < (calls.after moves).made := by
  induction moves generalizing calls with
  | nil => exact ⟨numbered, Nat.le_refl _, fun _ mem => by cases mem⟩
  | cons move moves ih =>
    obtain ⟨opened, used⟩ := numbered_step numbered move
    obtain ⟨final, made, later⟩ := ih opened
    refine ⟨final, Nat.le_trans (calls.made_step move) made, fun effect mem socket has => ?_⟩
    obtain now | after := List.mem_append.mp mem
    · exact Nat.lt_of_lt_of_le (used effect now socket has) made
    · exact later effect after socket has

/-- A socket that is astray is not found again by a step. -/
theorem astray_step {calls : Calls κ} {socket : Opened κ} (astray : calls.Astray socket)
    (move : Move κ) : (calls.step move).1.Astray socket ∧
      ∀ effect ∈ (calls.step move).2, effect.socket? ≠ some socket := by
  obtain ⟨opened, unheld⟩ := astray
  have accounted := calls.accounted_step move
  have nowhere : ¬ (calls.Holds socket ∨ (calls.step move).1.bind.slot = some socket) := by
    rintro (held | there)
    · exact unheld held
    · obtain earlier | ⟨number, _⟩ := slot_new there
      · exact unheld (.inl earlier)
      · omega
  exact ⟨⟨Nat.lt_of_lt_of_le opened (calls.made_step move),
      fun held => nowhere (accounted.holds held)⟩,
    fun effect mem has => nowhere (accounted.used effect mem socket has)⟩

/-- A socket that is astray is not found again by a run. -/
theorem astray_run {calls : Calls κ} {socket : Opened κ} (astray : calls.Astray socket)
    (moves : List (Move κ)) : (calls.after moves).Astray socket ∧
      ∀ effect ∈ calls.effects moves, effect.socket? ≠ some socket :=
  run_keeps (fun calls => calls.Astray socket) (fun effect => effect.socket? ≠ some socket)
    (fun _ move astray => astray_step astray move) astray moves

/-- No call replaces the socket, and every socket held is the one in the slot. -/
structure Steady (calls : Calls κ) : Prop where
  /-- No call replaces the socket. -/
  rebinds : ∀ stage ∈ calls.stages, stage.rebinds = false
  /-- Every socket held is the one in the slot. -/
  slot : ∀ socket, calls.Holds socket → calls.bind.slot = some socket

/-- No call comes to replace the socket but by a rebind. -/
theorem rebinds_step {calls : Calls κ} (rebinds : ∀ stage ∈ calls.stages, stage.rebinds = false)
    {move : Move κ} (stays : move.displaces = false) :
    ∀ stage ∈ (calls.step move).1.stages, stage.rebinds = false := by
  intro stage mem
  cases calls.took_step move with
  | idle stages _ => exact rebinds stage (stages ▸ mem)
  | starts _ stages replaces _ =>
    rw [stages] at mem
    obtain earlier | new := List.mem_append.mp mem
    · exact rebinds stage earlier
    · cases List.mem_singleton.mp new
      obtain plain | rfl := replaces
      · exact plain
      · cases stays
  | goesOn found _ stages _ replaces _ _ =>
    rw [stages] at mem
    obtain earlier | rfl := List.mem_or_eq_of_mem_set mem
    · exact rebinds stage earlier
    · refine replaces.resolve_right fun replacing => ?_
      rw [rebinds _ (List.mem_of_getElem? found)] at replacing
      cases replacing

/-- Without a rebind or a close, the socket in the slot stays, and is the only one in use. -/
theorem steady_step {calls : Calls κ} (steady : calls.Steady) {move : Move κ}
    (stays : move.displaces = false) :
    (calls.step move).1.Steady ∧
      ∀ socket, calls.bind.slot = some socket → (calls.step move).1.bind.slot = some socket := by
  have kept : ∀ socket, calls.bind.slot = some socket →
      (calls.step move).1.bind.slot = some socket := by
    intro socket there
    cases calls.slotStep move with
    | kept same _ => exact same.trans there
    | filled _ empty _ _ =>
      rw [empty] at there
      cases there
    | replaced waits _ _ =>
      have plain := steady.rebinds _ (List.mem_of_getElem? waits)
      cases plain
    | emptied _ _ => cases stays
  refine ⟨⟨rebinds_step steady.rebinds stays, fun socket held => ?_⟩, kept⟩
  obtain earlier | there := (calls.accounted_step move).holds held
  · exact kept socket (steady.slot socket earlier)
  · exact there

/-- Without a rebind or a close, the socket in the slot is the only one that is given out or
used. -/
theorem steady_run {calls : Calls κ} (steady : calls.Steady) {moves : List (Move κ)}
    (stays : ∀ move ∈ moves, move.displaces = false) :
    (∀ socket, calls.bind.slot = some socket → (calls.after moves).bind.slot = some socket) ∧
      ∀ effect ∈ calls.effects moves, ∀ socket, effect.socket? = some socket →
        (calls.after moves).bind.slot = some socket := by
  induction moves generalizing calls with
  | nil => exact ⟨fun _ there => there, fun _ mem => by cases mem⟩
  | cons move moves ih =>
    obtain ⟨next, kept⟩ := steady_step steady (stays move (List.mem_cons_self ..))
    obtain ⟨final, used⟩ := ih next fun other mem => stays other (List.mem_cons_of_mem _ mem)
    refine ⟨fun socket there => final socket (kept socket there), fun effect mem socket has => ?_⟩
    obtain now | later := List.mem_append.mp mem
    · obtain held | there := (calls.accounted_step move).used effect now socket has
      · exact final socket (kept socket (steady.slot socket held))
      · exact final socket there
    · exact used effect later socket has

/-! ## The slot among calls side by side -/

/-- What calls on a bind, side by side, do with its slot. -/
structure ShareSlot (start : Calls κ) : Prop where
  /-- The slot changes by an open that finds it empty, a rebind that was given a socket, or a
  close, and by nothing else. -/
  changes : ∀ moves move,
    let calls := start.after moves
    SlotStep calls move (calls.step move).1
  /-- When an open gives a socket, the socket is in the slot. -/
  given : ∀ moves move call socket,
    let calls := start.after moves
    .opens call (.ok socket) ∈ (calls.step move).2 →
      (calls.step move).1.bind.slot = some socket
  /-- Without a rebind or a close, all calls are given one socket and use no other. -/
  shared : ∀ moves, (∀ move ∈ moves, move.displaces = false) →
    ∀ effect ∈ start.effects moves, ∀ socket, effect.socket? = some socket →
      (start.after moves).bind.slot = some socket
  /-- An open that the listener answers when the slot is filled gives the socket in the slot. The
  one that was opened for it is at no time held, given out or used. -/
  late : ∀ moves call purpose existing socket,
    let calls := start.after moves
    calls.stages[call]? = some (.opening purpose) → calls.bind.slot = some existing →
      .opens call (.ok existing) ∈ (calls.step (.answer call (.ok socket))).2 ∧
        ∀ future,
          let run := moves ++ .answer call (.ok socket) :: future
          (∀ effect ∈ start.effects run, effect.socket? ≠ some ⟨calls.made, socket⟩) ∧
            ∀ part, part <+: run → ¬ (start.after part).Holds ⟨calls.made, socket⟩
  /-- An open that the listener refuses fails with its error, and leaves the bind as it is. -/
  refused : ∀ moves call purpose error,
    let calls := start.after moves
    calls.stages[call]? = some (.opening purpose) →
      let (next, effects) := calls.step (.answer call (.error error))
      .opens call (.error error) ∈ effects ∧ next.bind = calls.bind
  /-- So does a rebind. -/
  rebindRefused : ∀ moves call error,
    let calls := start.after moves
    calls.stages[call]? = some (.rebinding .listening) →
      let (next, effects) := calls.step (.answer call (.error error))
      effects = [.rebound call (.error error)] ∧ next.bind = calls.bind
  /-- A rebind that starts while the program is paused is over at once, without effect. -/
  paused : ∀ moves,
    let calls := start.after moves
    calls.isPaused = true →
      let (next, effects) := calls.step .rebind
      effects = [.rebound calls.stages.length (.ok false)] ∧ next.bind = calls.bind ∧
        ∀ future, ∀ effect ∈ next.effects future, effect.call ≠ calls.stages.length

/-- What a call does with the answer to an open that is too late. -/
theorem step_late {calls : Calls κ} {call : Nat} {purpose : Purpose} {existing : Opened κ}
    (waits : calls.stages[call]? = some (.opening purpose))
    (filled : calls.bind.slot = some existing) (socket : κ) :
    calls.step (.answer call (.ok socket)) =
      { calls with made := calls.made + 1 }.advance call
        (purpose.afterOpen call calls.now (.ok existing)) := by
  simp only [step, waits, number, finishOpen_filled filled]

/-- An open gives what it was given. -/
theorem opens_mem_afterOpen (call now : Nat) (purpose : Purpose) (result : Except Error κ) :
    .opens call result ∈ (purpose.afterOpen call now result).2 := by
  rcases result with error | socket <;> rcases purpose with _ | (_ | ⟨post, posts⟩) | room <;>
    exact List.mem_cons_self ..

/-- A socket that was opened too late was never held, given out or used, and never will be. -/
theorem late_astray {start : Calls κ} (numbered : start.Numbered) {moves : List (Move κ)}
    {call : Nat} {purpose : Purpose} {existing : Opened κ}
    (waits : (start.after moves).stages[call]? = some (.opening purpose))
    (filled : (start.after moves).bind.slot = some existing) (socket : κ)
    (future : List (Move κ)) :
    let lost : Opened κ := ⟨(start.after moves).made, socket⟩
    let run := moves ++ .answer call (.ok socket) :: future
    (∀ effect ∈ start.effects run, effect.socket? ≠ some lost) ∧
      ∀ part, part <+: run → ¬ (start.after part).Holds lost := by
  intro lost run
  obtain ⟨opened, -, past⟩ := numbered_run numbered moves
  have unheld : ¬ (start.after moves).Holds lost :=
    fun held => Nat.lt_irrefl _ (opened lost held)
  have unfilled : existing ≠ lost := by
    rintro rfl
    exact unheld (.inl filled)
  have accounted := (start.after moves).accounted_step (.answer call (.ok socket))
  have late := step_late waits filled socket
  have elsewhere : ¬ ((start.after moves).Holds lost ∨
      ((start.after moves).step (.answer call (.ok socket))).1.bind.slot = some lost) := by
    rintro (held | there)
    · exact unheld held
    · rw [late] at there
      exact unfilled (Option.some.inj (filled.symm.trans there))
  have astray : ((start.after moves).step (.answer call (.ok socket))).1.Astray lost := by
    refine ⟨?_, fun held => elsewhere (accounted.holds held)⟩
    rw [late]
    exact Nat.lt_succ_self _
  constructor
  · intro effect mem has
    rw [effects_append] at mem
    obtain before | now := List.mem_append.mp mem
    · exact Nat.lt_irrefl _ (past effect before lost has)
    · obtain now | later := List.mem_append.mp now
      · exact elsewhere (accounted.used effect now lost has)
      · exact (astray_run astray future).2 effect later has
  · intro part within held
    obtain before | ⟨rest, rfl⟩ :=
      List.prefix_or_prefix_of_prefix within (List.prefix_append moves _)
    · obtain ⟨rest, rfl⟩ := before
      have opened := (numbered_run numbered part).1 lost held
      have fewer := (numbered_run (numbered_run numbered part).1 rest).2.1
      rw [← after_append] at fewer
      exact Nat.lt_irrefl _ (Nat.lt_of_lt_of_le opened fewer)
    · rw [after_append] at held
      cases rest with
      | nil => exact unheld held
      | cons move rest =>
        obtain ⟨rfl, _⟩ := List.cons_prefix_cons.mp ((List.prefix_append_right_inj moves).mp within)
        exact (astray_run astray rest).1.2 held

/-- The calls on a new bind share its slot. -/
theorem new_shareSlot (endpoint : Endpoint) (policy : Policy) (reserved : Reserved)
    (switch : Option PauseSwitch) :
    ShareSlot (new (κ := κ) endpoint policy reserved switch) := by
  have unheld : ∀ socket, ¬ (new (κ := κ) endpoint policy reserved switch).Holds socket := by
    rintro socket (there | ⟨stage, mem, _⟩)
    · cases there
    · cases mem
  have numbered : (new (κ := κ) endpoint policy reserved switch).Numbered :=
    fun socket held => absurd held (unheld socket)
  have steady : (new (κ := κ) endpoint policy reserved switch).Steady :=
    ⟨fun _ mem => (by cases mem), fun socket held => absurd held (unheld socket)⟩
  constructor
  case changes => exact fun moves move => slotStep _ move
  case given =>
    exact fun moves move call socket opens => (accounted_step _ move).given call socket opens
  case shared => exact fun moves stays => (steady_run steady stays).2
  case late =>
    intro moves call purpose existing socket calls waits filled
    refine ⟨?_, fun future => late_astray numbered waits filled socket future⟩
    rw [step_late waits filled]
    exact opens_mem_afterOpen ..
  case refused =>
    intro moves call purpose error calls waits
    simp only [step, waits]
    exact ⟨opens_mem_afterOpen .., rfl⟩
  case rebindRefused =>
    intro moves call error calls waits
    simp only [step, waits]
    exact ⟨rfl, rfl⟩
  case paused =>
    intro moves calls paused
    have begun : Bind.beginRebind calls.isPaused calls.now = .over (.ok false) := by
      rw [Bind.beginRebind, if_pos paused]
    simp only [step, begun]
    refine ⟨rfl, rfl, fun future => ?_⟩
    have ended : (calls.start (Stage.afterRebind calls.stages.length
        (.over (.ok false)))).1.stages[calls.stages.length]? = some .over :=
      List.getElem?_concat_length
    exact (silent_run ended future).none

/-- Two opens may ask the listener at once: the one that is answered last gives the socket of the
other. -/
example (endpoint : Endpoint) (policy : Policy) (reserved : Reserved) (early late : κ) :
    (new endpoint policy reserved none).effects
        [.open, .open, .answer 1 (.ok early), .answer 0 (.ok late)] =
      [.asks 0, .asks 1, .opens 1 (.ok ⟨0, early⟩), .opens 0 (.ok ⟨0, early⟩)] := rfl

end Calls

end Outbound.WireGuard
