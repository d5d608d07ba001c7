import Outbound.Dialer
import Outbound.Proofs.Tracker.Conn

/-!
# The forwarders of dialed connections

A forwarder that is started for a dial is stopped once. Whoever holds its guard last stops it: the
dial itself if it fails, and otherwise the connection, at the first shutdown that what the tunnel
carries has answered, or when it is dropped without one. Everything else that happens to a
connection, or to the tracker around it, leaves the forwarder as it is.
-/
namespace Outbound

namespace Tunnel.Guard

/-- The guard of a forwarder that runs. -/
def fresh (endpoint : Endpoint) : Guard := { endpoint }

/-- The guard of a forwarder that was stopped once. -/
def spent (endpoint : Endpoint) : Guard := { endpoint, running := false, stops := 1 }

/-- A forwarder that runs is told to stop. -/
@[simp] theorem stop_fresh (endpoint : Endpoint) : (fresh endpoint).stop = spent endpoint := rfl

/-- A forwarder that was stopped is not told again. -/
@[simp] theorem stop_spent (endpoint : Endpoint) : (spent endpoint).stop = spent endpoint := rfl

end Tunnel.Guard

open Tunnel (Guard)

/-- A forwarder that could be started runs, on the local host. -/
theorem Tunnel.eq_fresh_of_start {σ : Type} {forwarder : Forwarder σ} {destination : Endpoint}
    {options : TunnelOptions} {entropy : Entropy} {state : σ} {guard : Guard}
    (started : (start forwarder destination options entropy state).1 = .ok guard) :
    guard = .fresh guard.endpoint := by
  rw [start] at started
  dsimp only at started
  split at started
  · cases started
    rfl
  · cases started

/-- A shutdown is passed on to what the tunnel carries, and stops the forwarder when it is
answered. -/
theorem Flow.tunnelled_shutdown {τ : Type} (inner : Stream τ) (turn : Turn)
    (guard : Option Guard) (state : τ) :
    (tunnelled inner).shutdown turn (guard, state) =
      ((inner.shutdown turn state).1,
        if (inner.shutdown turn state).1 = .pending then guard else guard.map Guard.stop,
        (inner.shutdown turn state).2) := by
  simp only [tunnelled, Tunnel.stream]
  cases guard with
  | none => simp
  | some guard =>
    dsimp only
    generalize inner.shutdown turn state = answered
    obtain ⟨answer, after⟩ := answered
    cases answer with
    | pending => rfl
    | done => rfl
    | failed error => rfl

/-! ## What happens to a connection -/

/-- What happens to a dialed connection and around it. -/
inductive Flow.Event where
  /-- Something happens to the tracker. -/
  | elsewhere (op : Tracker.Op)
  /-- A call is made on a stream. -/
  | call (turn : Turn) (call : Call)
  /-- A call is made on datagrams. -/
  | request (turn : Turn) (request : Request)
  /-- A receive of datagrams is given up. -/
  | giveUp (number : Nat)
  deriving DecidableEq

namespace Connection

variable {κ : Type}

/-- The fragmenter that a connection starts with. -/
def fragmenter : Connection κ → Option Tls.Fragmenter
  | stream _ fragmenter _ => fragmenter
  | datagrams _ _ => none

/-- The registration of a connection. -/
def registration : Connection κ → Option Nat
  | stream _ _ registration => registration
  | datagrams _ registration => registration

end Connection

namespace Dialer

variable {κ σ : Type} (dialer : Dialer) (host : Socket.Host κ σ) (target : Endpoint)
  (connection : Connection κ)

/-- The stream that a tunnel carries. -/
def carried (socket : κ) (registration : Option Nat) :
    Stream (Tracker × Option Tls.Fragmenter × σ) :=
  Tracker.stream registration (Flow.fragmented (dialer.transport host socket target))

/-- What an event leaves of a connection to a target. A connection is left as it is by the calls
that it does not offer. -/
def next : Connection κ → Flow.Event → Flow σ → Flow σ
  | _, .elsewhere op, flow => { flow with tracker := flow.tracker.apply op }
  | .stream socket _ registration, .call turn call, flow =>
    ((Flow.stream (dialer.transport host socket target) registration).answer turn call flow).2
  | .datagrams socket registration, .request turn request, flow =>
    let (_, tracker, state) :=
      (host.channel socket).answer registration turn request (flow.tracker, flow.state)
    { flow with tracker, state }
  | .datagrams _ registration, .giveUp number, flow =>
    { flow with tracker := flow.tracker.giveUp registration number }
  | _, _, flow => flow

/-- Whether an event is a shutdown that what the tunnel carries has answered. -/
def shuts : Connection κ → Flow.Event → Flow σ → Bool
  | .stream socket _ registration, .call turn .shutdown, flow =>
    decide (((dialer.carried host target socket registration).shutdown turn
      (flow.tracker, flow.fragmenter, flow.state)).1 ≠ .pending)
  | _, _, _ => false

/-- What one event after another leaves of a connection. -/
def after (events : List Flow.Event) (flow : Flow σ) : Flow σ :=
  events.foldl (fun flow event => dialer.next host target connection event flow) flow

/-- Whether one of some events is a shutdown that what the tunnel carries has answered. -/
def isShutBy : List Flow.Event → Flow σ → Bool
  | [], _ => false
  | event :: events, flow =>
    dialer.shuts host target connection event flow ||
      isShutBy events (dialer.next host target connection event flow)

/-- A shutdown that is answered stops the forwarder, and no other event does. -/
theorem guard_next (event : Flow.Event) (flow : Flow σ) :
    (dialer.next host target connection event flow).guard =
      if dialer.shuts host target connection event flow then flow.guard.map Guard.stop
      else flow.guard := by
  obtain ⟨guard, tracker, fragmenter, state⟩ := flow
  cases connection with
  | datagrams socket registration => cases event <;> rfl
  | stream socket own registration =>
    cases event with
    | elsewhere op => rfl
    | request turn request => rfl
    | giveUp number => rfl
    | call turn call =>
      cases call with
      | write buffer => cases guard <;> rfl
      | read room => cases guard <;> rfl
      | flush => cases guard <;> rfl
      | shutdown =>
        have passedOn := Flow.tunnelled_shutdown (dialer.carried host target socket registration)
          turn guard (tracker, fragmenter, state)
        have left : (dialer.next host target (.stream socket own registration)
            (.call turn .shutdown) ⟨guard, tracker, fragmenter, state⟩).guard =
              ((Flow.tunnelled (dialer.carried host target socket registration)).shutdown turn
                (guard, tracker, fragmenter, state)).2.1 := rfl
        rw [left, passedOn]
        simp only [shuts, decide_eq_true_eq, ite_not]

/-- Along a run the forwarder is stopped by the first shutdown that is answered. -/
theorem guard_after (events : List Flow.Event) {flow : Flow σ} {endpoint : Endpoint}
    (guarded : flow.guard = some (.fresh endpoint)) :
    (dialer.after host target connection events flow).guard =
      some (if dialer.isShutBy host target connection events flow then .spent endpoint
        else .fresh endpoint) := by
  -- Once stopped, a forwarder stays as it is.
  have stays : ∀ (events : List Flow.Event) {flow : Flow σ},
      flow.guard = some (.spent endpoint) →
        (dialer.after host target connection events flow).guard = some (.spent endpoint) := by
    intro events
    induction events with
    | nil => exact fun spent => spent
    | cons event events ih =>
      intro flow spent
      apply ih
      rw [guard_next, spent, Option.map_some, Guard.stop_spent, ite_self]
  induction events generalizing flow with
  | nil => exact guarded
  | cons event events ih =>
    have step := dialer.guard_next host target connection event flow
    rw [guarded, Option.map_some, Guard.stop_fresh] at step
    rw [isShutBy]
    cases shut : dialer.shuts host target connection event flow with
    | true =>
      rw [shut] at step
      exact stays events step
    | false =>
      rw [shut] at step
      rw [Bool.false_or]
      exact ih step

/-! ## What becomes of a forwarder -/

variable (forwarder : Forwarder σ) (network : Network) (destination : Endpoint) (entropy : Entropy)
  (tracker : Tracker) (state : σ)

/-- What becomes of the forwarder of a dial, where one can be started. -/
structure StopsOnce : Prop where
  /-- None is started for a dialer that wants no tunnel. -/
  unwanted : dialer.tunnel = none →
    (dialer.dial host (some forwarder) network destination entropy tracker state).guard = none
  /-- If it does not start, the dial fails for the same reason, and there is none to stop. -/
  unstarted : ∀ options error, dialer.tunnel = some options →
    (Tunnel.start forwarder destination options entropy state).1 = .error error →
      let dialed := dialer.dial host (some forwarder) network destination entropy tracker state
      dialed.result = .error error ∧ dialed.guard = none
  /-- If the dial fails later, it was stopped once when the error is given. -/
  failed : ∀ options guard error, dialer.tunnel = some options →
    (Tunnel.start forwarder destination options entropy state).1 = .ok guard →
      let dialed := dialer.dial host (some forwarder) network destination entropy tracker state
      dialed.result = .error error → dialed.guard = some (.spent guard.endpoint)
  /-- If the dial succeeds, it runs until the first shutdown that what the tunnel carries has
  answered, is stopped by this, and has been stopped once when the connection is dropped. -/
  dialed : ∀ options guard connection, dialer.tunnel = some options →
    (Tunnel.start forwarder destination options entropy state).1 = .ok guard →
      let dialed := dialer.dial host (some forwarder) network destination entropy tracker state
      dialed.result = .ok connection → ∀ events,
        let start := dialed.flow connection.fragmenter
        let flow := dialer.after host (dialed.target destination) connection events start
        flow.guard = some (if dialer.isShutBy host (dialed.target destination) connection events
            start then .spent guard.endpoint else .fresh guard.endpoint) ∧
          (flow.drop connection.registration).guard = some (.spent guard.endpoint)

/-- A dial that has started a forwarder stops it if it fails, and keeps its guard if it does not. -/
theorem guard_dial {options : TunnelOptions} {guard : Guard}
    (wanted : dialer.tunnel = some options)
    (started : (Tunnel.start forwarder destination options entropy state).1 = .ok guard) :
    let dialed := dialer.dial host (some forwarder) network destination entropy tracker state
    (∃ error, dialed.result = .error error) ∧ dialed.guard = some guard.stop ∨
      (∃ connection, dialed.result = .ok connection) ∧ dialed.guard = some guard := by
  simp only [dial, wanted]
  generalize Tunnel.start forwarder destination options entropy state = answer at started
  obtain ⟨answer, entropy, state⟩ := answer
  cases started
  dsimp only
  generalize dialer.connect host network guard.endpoint entropy.split.1 tracker state = connected
  obtain ⟨error | connection, tracker, state⟩ := connected
  · exact .inl ⟨⟨_, rfl⟩, rfl⟩
  · exact .inr ⟨⟨connection, rfl⟩, rfl⟩

/-- A forwarder that is started for a dial is stopped once, and not while the connection is in
use. -/
theorem forwarder_stopped_once :
    dialer.StopsOnce host forwarder network destination entropy tracker state := by
  constructor
  case unwanted =>
    intro plain
    simp only [dial, plain]
  case unstarted =>
    intro options error wanted refused
    simp only [dial, wanted]
    generalize Tunnel.start forwarder destination options entropy state = started at refused
    obtain ⟨answer, entropy, state⟩ := started
    cases refused
    exact ⟨rfl, rfl⟩
  case failed =>
    intro options guard error wanted started dialed failed
    have running := Tunnel.eq_fresh_of_start started
    obtain ⟨-, stopped⟩ | ⟨⟨connection, made⟩, -⟩ := dialer.guard_dial host forwarder network
      destination entropy tracker state wanted started
    · rw [stopped, running]
      rfl
    · cases made.symm.trans failed
  case dialed =>
    intro options guard connection wanted started dialed made events
    have running := Tunnel.eq_fresh_of_start started
    have held : (dialed.flow connection.fragmenter).guard = some (.fresh guard.endpoint) := by
      rw [← running]
      obtain ⟨⟨error, failed⟩, -⟩ | ⟨-, kept⟩ := dialer.guard_dial host forwarder network
        destination entropy tracker state wanted started
      · cases made.symm.trans failed
      · exact kept
    have stopped := dialer.guard_after host (dialed.target destination) connection events held
    refine ⟨stopped, ?_⟩
    have dropped : ∀ flow : Flow σ,
        (flow.drop connection.registration).guard = flow.guard.map Guard.stop := fun _ => rfl
    rw [dropped, stopped]
    split <;> rfl

end Dialer

end Outbound
