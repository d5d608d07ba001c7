import Outbound.Relay.Bridge

/-!
# Bridges under any schedule

The events of a bridge may come in any order: arrivals on either side, steps of either direction,
the ends of sends with their results, the close. A step takes a direction from one of its waits to
the next. The one thing that it shares with the other direction is who was heard last, which it
reads or sets once. Steps taken side by side therefore come to the same as steps one after the
other, in the order of these accesses, and a datagram counts as received when its step makes them.

What a bridge hands over, sends on and remembers is told from its receipts alone, and each side's
receipts are its arrivals in their order, as far as they were received. The account of this is kept
by every event, and so by every run.
-/
namespace Outbound.Relay

/-- What a direction has received. -/
inductive Receipt where
  | locally (arrival : Arrival)
  | onRelay (arrival : Arrival)
  deriving DecidableEq

namespace Receipt

/-- What was received on the local socket. -/
@[simp] def fromLocal : Receipt → Option Arrival
  | .locally arrival => some arrival
  | .onRelay _ => none

/-- What was received on the relay. -/
@[simp] def fromRelay : Receipt → Option Arrival
  | .locally _ => none
  | .onRelay arrival => some arrival

/-- Who is heard on the local socket. -/
@[simp] def speaker : Receipt → Option Endpoint
  | .locally (.datagram _ source) => some source
  | _ => none

/-- The datagram to hand to the relay. -/
@[simp] def outgoing : Receipt → Option Bytes
  | .locally (.datagram bytes _) => some bytes
  | _ => none

/-- The datagram to send on the local socket, if there is someone to send it to. -/
@[simp] def incoming (listener : Option Endpoint) : Receipt → Option (Endpoint × Bytes)
  | .onRelay (.datagram bytes _) => listener.map fun listener => (listener, bytes)
  | _ => none

end Receipt

/-- Who sent the last datagram that was received on the local socket. -/
def lastHeard (receipts : List Receipt) : Option Endpoint :=
  (receipts.filterMap Receipt.speaker).getLast?

/-- Everything to hand to the relay, for one target. -/
def outgoings (target : Endpoint) (receipts : List Receipt) : List (Endpoint × Bytes) :=
  (receipts.filterMap Receipt.outgoing).map fun bytes => (target, bytes)

/-- Everything to send on the local socket after earlier receipts, each datagram to whoever was
heard last when it was received. -/
def incomings (earlier : List Receipt) : List Receipt → List (Endpoint × Bytes)
  | [] => []
  | receipt :: later =>
    (receipt.incoming (lastHeard earlier)).toList ++ incomings (earlier ++ [receipt]) later

/-- What is sent on for the last receipt goes to whoever was heard before it. -/
theorem incomings_append (earlier receipts : List Receipt) (receipt : Receipt) :
    incomings earlier (receipts ++ [receipt]) =
      incomings earlier receipts ++
        (receipt.incoming (lastHeard (earlier ++ receipts))).toList := by
  induction receipts generalizing earlier with
  | nil => simp [incomings]
  | cons first receipts ih =>
    rw [List.cons_append, incomings, incomings, ih, List.append_assoc, List.append_assoc,
      List.singleton_append]

namespace Bridge

namespace Event

/-- What arrives on the local socket. -/
def arrivedLocally : Event → Option Arrival
  | .arriveLocally arrival => some arrival
  | _ => none

/-- What arrives on the relay. -/
def arrivedOnRelay : Event → Option Arrival
  | .arriveOnRelay arrival => some arrival
  | _ => none

/-- Whether it tells the directions to stop. -/
def stops : Event → Bool
  | .close | .drop => true
  | _ => false

/-- The same event, except that a send that ends has succeeded. -/
def unharmed : Event → Event
  | .finishOutward _ => .finishOutward (.ok ())
  | .finishInward _ => .finishInward (.ok ())
  | event => event

end Event

/-- What is received in an event: a direction that waits, and is not told to stop, receives what
arrived first on its side. -/
def receipt (bridge : Bridge) : Event → Option Receipt
  | .runOutward _ =>
    if bridge.outward = .waiting ∧ bridge.stopping = false then
      bridge.localArrivals.head?.map .locally
    else none
  | .runInward _ =>
    if bridge.inward = .waiting ∧ bridge.stopping = false then
      bridge.relayArrivals.head?.map .onRelay
    else none
  | _ => none

/-- What is received in the course of events, in order. -/
def history (bridge : Bridge) : List Event → List Receipt
  | [] => []
  | event :: events => (bridge.receipt event).toList ++ (bridge.step event).history events

/-- The account of a bridge for a target: what became of the arrivals among some events, given what
was received of them. -/
structure Account (target : Endpoint) (events : List Event) (receipts : List Receipt)
    (bridge : Bridge) : Prop where
  /-- The target stays. -/
  aim : bridge.target = target
  /-- What arrived locally was received in order or waits to be received. -/
  localOrder : events.filterMap Event.arrivedLocally =
    receipts.filterMap Receipt.fromLocal ++ bridge.localArrivals
  /-- What arrived on the relay was received in order or waits to be received. -/
  relayOrder : events.filterMap Event.arrivedOnRelay =
    receipts.filterMap Receipt.fromRelay ++ bridge.relayArrivals
  /-- Each datagram received locally was handed to the relay once, unchanged and in order. -/
  relayed : bridge.relayed = outgoings target receipts
  /-- Each datagram received on the relay was sent once to whoever was heard last then, unchanged
  and in order, or dropped because nobody was heard yet. -/
  delivered : bridge.delivered = incomings [] receipts
  /-- Whoever was heard last is remembered. -/
  sender : bridge.sender = lastHeard receipts

/-- The directions of a bridge end only when they are told to. -/
structure Lawful (bridge : Bridge) : Prop where
  /-- The direction to the relay has ended as it was told to. -/
  outward : bridge.outward = .ended → bridge.stopping = true
  /-- So has the direction from the relay. -/
  inward : bridge.inward = .ended → bridge.stopping = true
  /-- A close has told them. -/
  closed : bridge.closed = true → bridge.stopping = true

variable {target : Endpoint} {events : List Event} {receipts : List Receipt} {bridge : Bridge}

/-! ## Steps -/

/-- What a step of the direction to the relay comes to. -/
inductive OutwardStep (bridge : Bridge) : Option Receipt → Bridge → Prop where
  /-- It cannot go on. -/
  | stuck : OutwardStep bridge none bridge
  /-- Its rest is over. -/
  | rested : OutwardStep bridge none { bridge with outward := .waiting }
  /-- It ends as it is told to. -/
  | ended (told : bridge.stopping = true) :
    OutwardStep bridge none { bridge with outward := .ended }
  /-- It receives what arrived first and hands it over if it is a datagram. -/
  | received (arrival : Arrival) (arrivals : List Arrival) (outward : Activity)
    (first : bridge.localArrivals = arrival :: arrivals) (goesOn : outward ≠ .ended) :
    OutwardStep bridge (some (.locally arrival))
      { bridge with
        localArrivals := arrivals
        sender := (Receipt.locally arrival).speaker.or bridge.sender
        relayed := bridge.relayed ++ outgoings bridge.target [.locally arrival]
        outward := outward }

/-- What a step of the direction from the relay comes to. -/
inductive InwardStep (bridge : Bridge) : Option Receipt → Bridge → Prop where
  /-- It cannot go on. -/
  | stuck : InwardStep bridge none bridge
  /-- Its rest is over. -/
  | rested : InwardStep bridge none { bridge with inward := .waiting }
  /-- It ends as it is told to. -/
  | ended (told : bridge.stopping = true) :
    InwardStep bridge none { bridge with inward := .ended }
  /-- It receives what arrived first and sends it on if it is a datagram and someone was heard. -/
  | received (arrival : Arrival) (arrivals : List Arrival) (inward : Activity)
    (first : bridge.relayArrivals = arrival :: arrivals) (goesOn : inward ≠ .ended) :
    InwardStep bridge (some (.onRelay arrival))
      { bridge with
        relayArrivals := arrivals
        delivered := bridge.delivered ++
          ((Receipt.onRelay arrival).incoming bridge.sender).toList
        inward := inward }

/-- The kinds of step are all that the direction to the relay can do. -/
theorem outwardStep (now : Nat) (bridge : Bridge) :
    OutwardStep bridge (bridge.receipt (.runOutward now)) (bridge.runOutward now) := by
  rw [runOutward, receipt]
  cases doing : bridge.outward with
  | sending => exact .stuck
  | ended => exact .stuck
  | resting stop =>
    by_cases rested : stop ≤ now
    · simpa [rested] using .rested
    · simpa [rested] using .stuck
  | waiting =>
    cases told : bridge.stopping with
    | true =>
      have step := OutwardStep.ended told
      simpa [told] using step
    | false =>
      cases first : bridge.localArrivals with
      | nil => exact .stuck
      | cons arrival arrivals =>
        cases arrival with
        | failure error =>
          have step := OutwardStep.received _ _ (.resting (now + restTime)) first nofun
          simpa [outgoings, List.filterMap_cons, Receipt.outgoing, Receipt.speaker, told] using step
        | datagram bytes source =>
          have step := OutwardStep.received _ _ .sending first nofun
          simpa [outgoings, List.filterMap_cons, Receipt.outgoing, Receipt.speaker, told] using step

/-- The kinds of step are all that the direction from the relay can do. -/
theorem inwardStep (now : Nat) (bridge : Bridge) :
    InwardStep bridge (bridge.receipt (.runInward now)) (bridge.runInward now) := by
  rw [runInward, receipt]
  cases doing : bridge.inward with
  | sending => exact .stuck
  | ended => exact .stuck
  | resting stop =>
    by_cases rested : stop ≤ now
    · simpa [rested] using .rested
    · simpa [rested] using .stuck
  | waiting =>
    cases told : bridge.stopping with
    | true =>
      have step := InwardStep.ended told
      simpa [told] using step
    | false =>
      cases first : bridge.relayArrivals with
      | nil => exact .stuck
      | cons arrival arrivals =>
        cases arrival with
        | failure error =>
          have step := InwardStep.received _ _ (.resting (now + restTime)) first nofun
          simpa [Receipt.incoming, told] using step
        | datagram bytes source =>
          cases heard : bridge.sender with
          | none =>
            have step := InwardStep.received _ _ bridge.inward first (by simp [doing])
            simpa [Receipt.incoming, told, heard, doing] using step
          | some listener =>
            have step := InwardStep.received _ _ .sending first nofun
            simpa [Receipt.incoming, told, heard] using step

/-! ## The account -/

/-- An event in which nothing arrives and nothing is received leaves the account as it is. -/
theorem account_unmoved (account : Account target events receipts bridge) {event : Event}
    (localQuiet : event.arrivedLocally = none) (relayQuiet : event.arrivedOnRelay = none)
    (outward inward : Activity) (stopping closed closing : Bool) (releases : Nat) :
    Account target (events ++ [event]) (receipts ++ [])
      { bridge with outward, inward, stopping, closed, closing, releases } where
  aim := account.aim
  localOrder := by
    rw [List.filterMap_append, List.filterMap_cons_none localQuiet, List.filterMap_nil,
      List.append_nil, List.append_nil, account.localOrder]
  relayOrder := by
    rw [List.filterMap_append, List.filterMap_cons_none relayQuiet, List.filterMap_nil,
      List.append_nil, List.append_nil, account.relayOrder]
  relayed := by rw [account.relayed, List.append_nil]
  delivered := by rw [account.delivered, List.append_nil]
  sender := by rw [account.sender, List.append_nil]

/-- The account is kept by each step of the direction to the relay. -/
theorem account_outwardStep (account : Account target events receipts bridge) (now : Nat)
    {receipt : Option Receipt} {after : Bridge} (step : OutwardStep bridge receipt after) :
    Account target (events ++ [.runOutward now]) (receipts ++ receipt.toList) after := by
  have unmoved := @account_unmoved _ _ _ _ account (.runOutward now) rfl rfl
  cases step with
  | stuck => exact unmoved ..
  | rested => exact unmoved ..
  | ended told => exact unmoved ..
  | received arrival arrivals outward first goesOn =>
    -- The receipt goes from the head of the queue to the end of the receipts, so both orders stay.
    constructor
    case aim => exact account.aim
    case localOrder =>
      simp [List.filterMap_cons, Event.arrivedLocally, account.localOrder, first]
    case relayOrder => simp [List.filterMap_cons, Event.arrivedOnRelay, account.relayOrder]
    case relayed => simp [outgoings, account.relayed, account.aim]
    case delivered => simp [incomings_append, account.delivered]
    case sender => simp [lastHeard, account.sender, List.getLast?_append]

/-- The account is kept by each step of the direction from the relay. -/
theorem account_inwardStep (account : Account target events receipts bridge) (now : Nat)
    {receipt : Option Receipt} {after : Bridge} (step : InwardStep bridge receipt after) :
    Account target (events ++ [.runInward now]) (receipts ++ receipt.toList) after := by
  have unmoved := @account_unmoved _ _ _ _ account (.runInward now) rfl rfl
  cases step with
  | stuck => exact unmoved ..
  | rested => exact unmoved ..
  | ended told => exact unmoved ..
  | received arrival arrivals inward first goesOn =>
    constructor
    case aim => exact account.aim
    case localOrder => simp [List.filterMap_cons, Event.arrivedLocally, account.localOrder]
    case relayOrder =>
      simp [List.filterMap_cons, Event.arrivedOnRelay, account.relayOrder, first]
    case relayed => simp [outgoings, account.relayed]
    -- The sender remembered is the one heard last, by the account so far.
    case delivered => simp [incomings_append, account.delivered, account.sender]
    case sender => simp [lastHeard, account.sender]

/-- An arrival on the local socket waits behind the others. -/
theorem account_arriveLocally (account : Account target events receipts bridge)
    (arrival : Arrival) :
    Account target (events ++ [.arriveLocally arrival]) (receipts ++ [])
      (bridge.arriveLocally arrival) where
  aim := account.aim
  localOrder := by simp [Event.arrivedLocally, arriveLocally, account.localOrder]
  relayOrder := by
    simp [List.filterMap_cons, Event.arrivedOnRelay, arriveLocally, account.relayOrder]
  relayed := by simp [arriveLocally, account.relayed]
  delivered := by simp [arriveLocally, account.delivered]
  sender := by simp [arriveLocally, account.sender]

/-- An arrival on the relay waits behind the others. -/
theorem account_arriveOnRelay (account : Account target events receipts bridge)
    (arrival : Arrival) :
    Account target (events ++ [.arriveOnRelay arrival]) (receipts ++ [])
      (bridge.arriveOnRelay arrival) where
  aim := account.aim
  localOrder := by
    simp [List.filterMap_cons, Event.arrivedLocally, arriveOnRelay, account.localOrder]
  relayOrder := by simp [Event.arrivedOnRelay, arriveOnRelay, account.relayOrder]
  relayed := by simp [arriveOnRelay, account.relayed]
  delivered := by simp [arriveOnRelay, account.delivered]
  sender := by simp [arriveOnRelay, account.sender]

/-- The account is kept by every event. -/
theorem account_step (account : Account target events receipts bridge) (event : Event) :
    Account target (events ++ [event]) (receipts ++ (bridge.receipt event).toList)
      (bridge.step event) := by
  cases event with
  | arriveLocally arrival => exact account_arriveLocally account arrival
  | arriveOnRelay arrival => exact account_arriveOnRelay account arrival
  | runOutward now => exact account_outwardStep account now (outwardStep now bridge)
  | runInward now => exact account_inwardStep account now (inwardStep now bridge)
  | finishOutward result =>
    rw [step, finishOutward]
    split
    · exact account_unmoved account rfl rfl ..
    · exact account_unmoved account rfl rfl ..
  | finishInward result =>
    rw [step, finishInward]
    split
    · exact account_unmoved account rfl rfl ..
    · exact account_unmoved account rfl rfl ..
  | close =>
    rw [step, close]
    split
    · exact account_unmoved account rfl rfl ..
    · exact account_unmoved account rfl rfl ..
  | finishClose =>
    rw [step, finishClose]
    split
    · exact account_unmoved account rfl rfl ..
    · exact account_unmoved account rfl rfl ..
  | drop => exact account_unmoved account rfl rfl ..

/-! ## The end of a bridge -/

/-- A step ends the direction to the relay only if it is told to. -/
theorem lawful_outwardStep (lawful : Lawful bridge) {receipt : Option Receipt} {after : Bridge}
    (step : OutwardStep bridge receipt after) :
    Lawful after ∧ after.stopping = bridge.stopping := by
  cases step with
  | stuck => exact ⟨lawful, rfl⟩
  | rested => exact ⟨⟨nofun, lawful.inward, lawful.closed⟩, rfl⟩
  | ended told => exact ⟨⟨fun _ => told, lawful.inward, lawful.closed⟩, rfl⟩
  | received arrival arrivals outward first goesOn =>
    exact ⟨⟨fun ended => absurd ended goesOn, lawful.inward, lawful.closed⟩, rfl⟩

/-- A step ends the direction from the relay only if it is told to. -/
theorem lawful_inwardStep (lawful : Lawful bridge) {receipt : Option Receipt} {after : Bridge}
    (step : InwardStep bridge receipt after) :
    Lawful after ∧ after.stopping = bridge.stopping := by
  cases step with
  | stuck => exact ⟨lawful, rfl⟩
  | rested => exact ⟨⟨lawful.outward, nofun, lawful.closed⟩, rfl⟩
  | ended told => exact ⟨⟨lawful.outward, fun _ => told, lawful.closed⟩, rfl⟩
  | received arrival arrivals inward first goesOn =>
    exact ⟨⟨lawful.outward, fun ended => absurd ended goesOn, lawful.closed⟩, rfl⟩

/-- Only a close and a drop tell the directions to stop, and without being told neither ends. -/
theorem lawful_step (lawful : Lawful bridge) (event : Event) :
    Lawful (bridge.step event) ∧ (bridge.step event).stopping = (bridge.stopping || event.stops) := by
  cases event with
  | arriveLocally arrival =>
    exact ⟨⟨lawful.outward, lawful.inward, lawful.closed⟩, (Bool.or_false _).symm⟩
  | arriveOnRelay arrival =>
    exact ⟨⟨lawful.outward, lawful.inward, lawful.closed⟩, (Bool.or_false _).symm⟩
  | runOutward now =>
    simp only [Event.stops, Bool.or_false]
    exact lawful_outwardStep lawful (outwardStep now bridge)
  | runInward now =>
    simp only [Event.stops, Bool.or_false]
    exact lawful_inwardStep lawful (inwardStep now bridge)
  | finishOutward result =>
    simp only [step, finishOutward, Event.stops, Bool.or_false]
    split
    · exact ⟨⟨nofun, lawful.inward, lawful.closed⟩, rfl⟩
    · exact ⟨lawful, rfl⟩
  | finishInward result =>
    simp only [step, finishInward, Event.stops, Bool.or_false]
    split
    · exact ⟨⟨lawful.outward, nofun, lawful.closed⟩, rfl⟩
    · exact ⟨lawful, rfl⟩
  | close =>
    rw [step, close, Event.stops, Bool.or_true]
    split
    -- A close after a close does nothing, but the first one has told them already.
    · exact ⟨lawful, lawful.closed ‹_›⟩
    · exact ⟨⟨fun _ => rfl, fun _ => rfl, fun _ => rfl⟩, rfl⟩
  | finishClose =>
    simp only [step, finishClose, Event.stops, Bool.or_false]
    split
    · exact ⟨⟨lawful.outward, lawful.inward, lawful.closed⟩, rfl⟩
    · exact ⟨lawful, rfl⟩
  | drop => exact ⟨⟨fun _ => rfl, fun _ => rfl, fun _ => rfl⟩, (Bool.or_true _).symm⟩

/-- The directions are told to stop just if a close or a drop is among the events. -/
theorem lawful_run (lawful : Lawful bridge) (events : List Event) :
    Lawful (bridge.run events) ∧
      (bridge.run events).stopping = (bridge.stopping || events.any Event.stops) := by
  induction events generalizing bridge with
  | nil => exact ⟨lawful, (Bool.or_false _).symm⟩
  | cons event events ih =>
    obtain ⟨next, told⟩ := lawful_step lawful event
    obtain ⟨last, toldLast⟩ := ih next
    refine ⟨last, ?_⟩
    rw [List.any_cons, ← Bool.or_assoc, ← told, ← toldLast]
    rfl

/-! ## Runs -/

/-- The account is kept by every run. -/
theorem account_run (account : Account target events receipts bridge) (later : List Event) :
    Account target (events ++ later) (receipts ++ bridge.history later) (bridge.run later) := by
  induction later generalizing events receipts bridge with
  | nil => simpa [history, run] using account
  | cons event later ih =>
    have next := ih (account_step account event)
    rw [List.append_assoc, List.append_assoc, List.singleton_append] at next
    exact next

/-- Both directions go on: once its send is over, whatever came of it, and its rest has passed, a
direction receives what arrived first. -/
structure Running (bridge : Bridge) : Prop where
  outward : ∀ arrival arrivals, bridge.localArrivals = arrival :: arrivals →
    ∃ time, ∀ now, time ≤ now → ∀ result,
      (bridge.history [.finishOutward result, .runOutward now, .runOutward now]).head? =
        some (.locally arrival)
  inward : ∀ arrival arrivals, bridge.relayArrivals = arrival :: arrivals →
    ∃ time, ∀ now, time ≤ now → ∀ result,
      (bridge.history [.finishInward result, .runInward now, .runInward now]).head? =
        some (.onRelay arrival)

/-- Directions that are not told to stop go on. -/
theorem running_of_lawful (lawful : Lawful bridge) (goesOn : bridge.stopping = false) :
    Running bridge := by
  constructor
  case outward =>
    intro arrival arrivals first
    cases doing : bridge.outward with
    | waiting =>
      refine ⟨0, fun now _ result => ?_⟩
      simp [history, receipt, step, finishOutward, doing, goesOn, first]
    | sending =>
      refine ⟨0, fun now _ result => ?_⟩
      simp [history, receipt, step, finishOutward, doing, goesOn, first]
    | resting stop =>
      refine ⟨stop, fun now late result => ?_⟩
      simp [history, receipt, step, finishOutward, runOutward, doing, goesOn, first, late]
    | ended => exact absurd (lawful.outward doing) (by simp [goesOn])
  case inward =>
    intro arrival arrivals first
    cases doing : bridge.inward with
    | waiting =>
      refine ⟨0, fun now _ result => ?_⟩
      simp [history, receipt, step, finishInward, doing, goesOn, first]
    | sending =>
      refine ⟨0, fun now _ result => ?_⟩
      simp [history, receipt, step, finishInward, doing, goesOn, first]
    | resting stop =>
      refine ⟨stop, fun now late result => ?_⟩
      simp [history, receipt, step, finishInward, runInward, doing, goesOn, first, late]
    | ended => exact absurd (lawful.inward doing) (by simp [goesOn])

/-- It is all the same to a bridge whether a send has succeeded. -/
theorem step_unharmed (bridge : Bridge) (event : Event) :
    bridge.step event.unharmed = bridge.step event ∧
      bridge.receipt event.unharmed = bridge.receipt event := by
  cases event <;> exact ⟨rfl, rfl⟩

/-- It is all the same over a run, for what becomes of the bridge and for what it receives. -/
theorem run_unharmed (bridge : Bridge) (events : List Event) :
    bridge.run (events.map Event.unharmed) = bridge.run events ∧
      bridge.history (events.map Event.unharmed) = bridge.history events := by
  induction events generalizing bridge with
  | nil => exact ⟨rfl, rfl⟩
  | cons event events ih =>
    obtain ⟨sameStep, sameReceipt⟩ := step_unharmed bridge event
    obtain ⟨sameRun, sameHistory⟩ := ih (bridge.step event)
    constructor
    · rw [run, List.map_cons, List.foldl_cons, sameStep]
      exact sameRun
    · rw [List.map_cons, history, history, sameStep, sameReceipt, sameHistory]

/-- What a bridge does by itself until nothing is left to do is a run without a stop. -/
theorem exists_run_settle (turns now stop : Nat) (bridge : Bridge) :
    ∃ events : List Event, events.any Event.stops = false ∧
      bridge.settle turns now stop = bridge.run events := by
  induction turns generalizing now bridge with
  | zero => exact ⟨[], rfl, rfl⟩
  | succ turns ih =>
    rw [settle]
    dsimp only
    split
    · obtain ⟨events, goesOn, same⟩ := ih now (bridge.turn now)
      refine ⟨[.runOutward now, .finishOutward (.ok ()), .runInward now, .finishInward (.ok ()),
        .finishClose] ++ events, goesOn, ?_⟩
      rw [same, turn, run, run, run, List.foldl_append]
    · split
      · exact ih _ bridge
      · exact ⟨[], rfl, rfl⟩

/-- A bridge is faithful under any schedule. Each datagram received locally is handed over once,
unchanged, for the target and in the order of arrival. Each datagram received on the relay is sent
on, unchanged and in order, to whoever was last heard then, or dropped if nobody was. Whether a
send succeeds matters to nothing else. No error ends a direction: until a close or a drop each
goes on to receive what arrived first. -/
theorem run_faithful (target : Endpoint) (events : List Event) :
    Account target events (history { target } events) (run { target } events) ∧
    (run { target } (events.map Event.unharmed) = run { target } events ∧
      history { target } (events.map Event.unharmed) = history { target } events) ∧
    Lawful (run { target } events) ∧
    (run { target } events).stopping = events.any Event.stops ∧
    (events.any Event.stops = false → Running (run { target } events)) := by
  have start : Account target [] [] { target } := ⟨rfl, rfl, rfl, rfl, rfl, rfl⟩
  have lawfulStart : Lawful { target } := ⟨nofun, nofun, nofun⟩
  obtain ⟨lawful, told⟩ := lawful_run lawfulStart events
  rw [Bool.false_or] at told
  refine ⟨account_run start events, run_unharmed _ events, lawful, told, fun goesOn => ?_⟩
  exact running_of_lawful lawful (told.trans goesOn)

/-- A local host. -/
def onPort (port : UInt16) : Endpoint := ⟨.v4 .localhost, port, 0⟩

/-- Errors on every path and two local hosts that take turns. -/
def busySchedule : List Event :=
  [.arriveOnRelay (.datagram [1] (onPort 80)), .runInward 0,
    .arriveLocally (.datagram [2] (onPort 7001)), .runOutward 0,
    .finishOutward (.error (.bare .brokenPipe)),
    .arriveOnRelay (.datagram [3] (onPort 80)), .runInward 0,
    .arriveLocally (.failure (.bare .connectionReset)),
    .arriveLocally (.datagram [4] (onPort 7002)), .runOutward 1, .runOutward 51, .runOutward 51,
    .finishInward (.error (.bare .brokenPipe)),
    .arriveOnRelay (.failure (.bare .connectionReset)),
    .arriveOnRelay (.datagram [5] (onPort 80)), .runInward 52, .runInward 102, .runInward 102]

/-- The first datagram on the relay is dropped; everything else goes its way. -/
theorem run_faithful_busySchedule :
    let bridge := run { target := onPort 80 } busySchedule
    busySchedule.any Event.stops = false ∧ Running bridge ∧
      bridge.relayed = [(onPort 80, [2]), (onPort 80, [4])] ∧
      bridge.delivered = [(onPort 7001, [3]), (onPort 7002, [5])] :=
  ⟨by decide, (run_faithful (onPort 80) busySchedule).2.2.2.2 (by decide), by decide, by decide⟩

end Bridge

end Outbound.Relay
