import Outbound.Pause
import Outbound.WireGuard.Bind

/-!
# Calls on a bind

Any number of calls may be under way on one bind. A call runs from one of its waits to the next
without another coming in between, as it uses the slot at most once on the way; so calls side by
side come to such stretches in some order. A move is one of these stretches, with the answer that
it was waiting for, or something that happens around the calls.
-/
namespace Outbound.WireGuard

/-- A socket that was opened. Its number tells it apart from every other. -/
structure Opened (κ : Type) where
  /-- How many were opened before it. -/
  number : Nat
  /-- The socket. -/
  socket : κ
  deriving DecidableEq

/-- A datagram to send, and the pause after it in milliseconds. -/
structure Post where
  /-- The datagram. -/
  datagram : Bytes
  /-- The pause. -/
  pause : Nat
  deriving DecidableEq

namespace Policy

/-- So many fillers, with a drawn pause between each and the next. -/
def fillerPosts (policy : Policy) : Nat → Entropy → List Post × Entropy
  | 0, entropy => ([], entropy)
  | left + 1, entropy =>
    let (filler, entropy) := policy.filler entropy
    let (pause, entropy) :=
      if 0 < left && !policy.delay.isZero then policy.delay.draw entropy else (0, entropy)
    let (posts, entropy) := policy.fillerPosts left entropy
    (⟨filler, pause⟩ :: posts, entropy)

/-- The fillers that go before a packet. -/
def burstPosts (policy : Policy) (packet : Bytes) (entropy : Entropy) : List Post × Entropy :=
  if policy.sendsFillers && classify packet == some .initiation then
    let (count, entropy) := policy.count.draw entropy
    policy.fillerPosts count entropy
  else ([], entropy)

/-- Everything that is sent for a packet. -/
def posts (policy : Policy) (reserved : Reserved) (packet : Bytes) (entropy : Entropy) :
    List Post :=
  let (fillers, entropy) := policy.burstPosts packet entropy
  fillers ++ [⟨(policy.disguise reserved packet entropy).1, 0⟩]

end Policy

/-- What a socket is opened for. -/
inductive Purpose where
  /-- For the caller. -/
  | caller
  /-- To send datagrams. -/
  | sending (posts : List Post)
  /-- To receive a message in so much room. -/
  | receiving (room : Nat)

/-- How far a call is. -/
inductive Stage (κ : Type) where
  /-- It waits for the listener, to use the socket afterwards. -/
  | opening (purpose : Purpose)
  /-- It waits until a datagram is sent, which starts at some time. -/
  | sending (start : Nat) (socket : κ) (posts : List Post)
  /-- It waits for an arrival. -/
  | receiving (socket : κ) (room : Nat)
  /-- It replaces the socket. -/
  | rebinding (rebind : RebindCall)
  /-- It is over. -/
  | over

/-- What a call does, or what comes of it. -/
inductive Effect (κ : Type) where
  /-- It asks the listener for a socket. -/
  | asks (call : Nat)
  /-- Its open gives a socket, or fails. -/
  | opens (call : Nat) (result : Except Error κ)
  /-- It hands a datagram to a socket. -/
  | sends (call : Nat) (socket : κ) (datagram : Bytes)
  /-- It receives from a socket. -/
  | receives (call : Nat) (socket : κ) (arrival : Arrival)
  /-- Its send is over. -/
  | sent (call : Nat) (result : Except IoError Unit)
  /-- Its receive is over. -/
  | received (call : Nat) (result : Except IoError Received)
  /-- Its rebind is over. -/
  | rebound (call : Nat) (result : Except Error Bool)

/-- Something that happens on a bind or around it. -/
inductive Move (κ : Type) where
  /-- Call open. -/
  | open
  /-- Call send, with its own randomness. -/
  | send (packet : Bytes) (entropy : Entropy)
  /-- Call receive. -/
  | receive (room : Nat)
  /-- Call rebind. -/
  | rebind
  /-- Call close. -/
  | close
  /-- The listener answers a call that waits for it. -/
  | answer (call : Nat) (answer : Except Error κ)
  /-- A datagram was sent for a call that waits for this, or could not be. -/
  | dispatch (call : Nat) (result : Except IoError Unit)
  /-- Something arrives for a call that waits for it. -/
  | arrive (call : Nat) (arrival : Arrival)
  /-- A call that lets the network settle looks at the time. -/
  | wake (call : Nat)
  /-- A call is given up where it waits. -/
  | giveUp (call : Nat)
  /-- Time passes. -/
  | elapse (time : Nat)
  /-- The program is paused or resumed. -/
  | set (paused : Bool)

variable {κ : Type}

/-- How a call goes on once its send has so much left to send. -/
def Stage.afterPosts (call now : Nat) (socket : κ) : List Post → Stage κ × List (Effect κ)
  | [] => (.over, [.sent call (.ok ())])
  | posts => (.sending now socket posts, [])

/-- How a call goes on once its open is over. -/
def Purpose.afterOpen (call now : Nat) (purpose : Purpose) (result : Except Error κ) :
    Stage κ × List (Effect κ) :=
  match result, purpose with
  | _, .caller => (.over, [.opens call result])
  | .error error, .sending _ => (.over, [.opens call result, .sent call (.error error.toIo)])
  | .error error, .receiving _ =>
    (.over, [.opens call result, .received call (.error error.toIo)])
  | .ok socket, .sending posts =>
    let (stage, effects) := Stage.afterPosts call now socket posts
    (stage, .opens call result :: effects)
  | .ok socket, .receiving room => (.receiving socket room, [.opens call result])

/-- How a call goes on once a datagram was sent for it. -/
def Stage.afterSend (call now : Nat) (socket : κ) (post : Post) (posts : List Post) :
    Except IoError Unit → Stage κ × List (Effect κ)
  | .error error => (.over, [.sends call socket post.datagram, .sent call (.error error)])
  | .ok () =>
    let (stage, effects) := Stage.afterPosts call (now + post.pause) socket posts
    (stage, .sends call socket post.datagram :: effects)

/-- How a call goes on once something has arrived for it. -/
def Stage.afterArrival (policy : Policy) (call : Nat) (socket : κ) (room : Nat)
    (arrival : Arrival) : Stage κ × List (Effect κ) :=
  match policy.receive room [arrival] with
  | (none, _) => (.receiving socket room, [.receives call socket arrival])
  | (some result, _) => (.over, [.receives call socket arrival, .received call result])

/-- How a call goes on once its rebind is so far. -/
def Stage.afterRebind (call : Nat) : RebindCall → Stage κ × List (Effect κ)
  | .over result => (.over, [.rebound call result])
  | .listening => (.rebinding .listening, [.asks call])
  | rebind => (.rebinding rebind, [])

/-- A bind with the calls on it. -/
structure Calls (κ : Type) where
  /-- The bind. -/
  bind : Bind (Opened κ)
  /-- The switch that pauses the program, if the bind heeds one. -/
  switch : Option PauseSwitch := none
  /-- The time. -/
  now : Nat := 0
  /-- How many sockets the listener has opened. -/
  made : Nat := 0
  /-- How far each call is, in the order in which they were made. -/
  stages : List (Stage (Opened κ)) := []

namespace Calls

/-- A new bind, without calls. -/
def new (endpoint : Endpoint) (policy : Policy) (reserved : Reserved)
    (switch : Option PauseSwitch) : Calls κ where
  bind := { endpoint, policy, reserved }
  switch := switch

/-- Whether the bind is told that the program is paused. -/
def isPaused (calls : Calls κ) : Bool := calls.switch.any (·.paused)

/-- Number a socket that the listener has opened. -/
def number (calls : Calls κ) : Except Error κ → Except Error (Opened κ) × Calls κ
  | .error error => (.error error, calls)
  | .ok socket => (.ok ⟨calls.made, socket⟩, { calls with made := calls.made + 1 })

/-- Start a call. -/
def start (calls : Calls κ) (turn : Stage (Opened κ) × List (Effect (Opened κ))) :
    Calls κ × List (Effect (Opened κ)) :=
  ({ calls with stages := calls.stages ++ [turn.1] }, turn.2)

/-- Go on with a call. -/
def advance (calls : Calls κ) (call : Nat)
    (turn : Stage (Opened κ) × List (Effect (Opened κ))) :
    Calls κ × List (Effect (Opened κ)) :=
  ({ calls with stages := calls.stages.set call turn.1 }, turn.2)

/-- Start a call that opens a socket, if there is none. -/
def startOpen (calls : Calls κ) (purpose : Purpose) : Calls κ × List (Effect (Opened κ)) :=
  let call := calls.stages.length
  match calls.bind.opened? with
  | some socket => calls.start (purpose.afterOpen call calls.now (.ok socket))
  | none => calls.start (.opening purpose, [.asks call])

/-- What happens at a move, and what comes of it. A move that a call does not wait for leaves
everything as it is. -/
def step (calls : Calls κ) : Move κ → Calls κ × List (Effect (Opened κ))
  | .open => calls.startOpen .caller
  | .send packet entropy =>
    calls.startOpen (.sending (calls.bind.policy.posts calls.bind.reserved packet entropy))
  | .receive room => calls.startOpen (.receiving room)
  | .rebind =>
    calls.start
      (Stage.afterRebind calls.stages.length (Bind.beginRebind calls.isPaused calls.now))
  | .close => ({ calls with bind := calls.bind.close }, [])
  | .answer call answer =>
    match calls.stages[call]? with
    | some (.opening purpose) =>
      let (answer, calls) := calls.number answer
      let (result, bind) := calls.bind.finishOpen answer
      { calls with bind }.advance call (purpose.afterOpen call calls.now result)
    | some (.rebinding .listening) =>
      let (answer, calls) := calls.number answer
      let (rebind, bind) := calls.bind.finishRebind calls.now answer
      { calls with bind }.advance call (Stage.afterRebind call rebind)
    | _ => (calls, [])
  | .dispatch call result =>
    match calls.stages[call]? with
    | some (.sending start socket (post :: posts)) =>
      if start ≤ calls.now then
        calls.advance call (Stage.afterSend call calls.now socket post posts result)
      else (calls, [])
    | _ => (calls, [])
  | .arrive call arrival =>
    match calls.stages[call]? with
    | some (.receiving socket room) =>
      calls.advance call (Stage.afterArrival calls.bind.policy call socket room arrival)
    | _ => (calls, [])
  | .wake call =>
    match calls.stages[call]? with
    | some (.rebinding .listening) => (calls, [])
    | some (.rebinding rebind) =>
      calls.advance call (Stage.afterRebind call (Bind.proceed calls.now rebind))
    | _ => (calls, [])
  | .giveUp call => calls.advance call (.over, [])
  | .elapse time => ({ calls with now := calls.now + time }, [])
  | .set paused => ({ calls with switch := calls.switch.map (·.set paused) }, [])

/-- What moves in order leave. -/
def after (calls : Calls κ) (moves : List (Move κ)) : Calls κ :=
  moves.foldl (fun calls move => (calls.step move).1) calls

/-- What comes of moves in order. -/
def effects (calls : Calls κ) : List (Move κ) → List (Effect (Opened κ))
  | [] => []
  | move :: moves => (calls.step move).2 ++ (calls.step move).1.effects moves

end Calls

end Outbound.WireGuard
