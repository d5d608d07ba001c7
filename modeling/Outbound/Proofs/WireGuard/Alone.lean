import Outbound.WireGuard.Calls

/-!
# Calls that nothing interrupts

A transmission sends the datagrams that are drawn for it, in order (`transmit_posts`). An open and
a rebind that nothing comes in between of do, stretch by stretch, what they do at one go
(`openSocket_alone`, `rebind_alone`).
-/
namespace Outbound.WireGuard

variable {κ σ : Type}

/-! ## Transmissions -/

/-- Send datagrams in order, with the pauses after them, up to the first that cannot be sent. Gives
the time and the state of the outlet, too. -/
def Outlet.sendAll (outlet : Outlet σ) (target : Endpoint) :
    List Post → (now : Nat) → σ → Except IoError Unit × Nat × σ
  | [], now, state => (.ok (), now, state)
  | post :: posts, now, state =>
    match outlet.send now post.datagram target state with
    | (.error error, state) => (.error error, now, state)
    | (.ok (), state) => outlet.sendAll target posts (now + post.pause) state

/-- Sending goes on with later datagrams if all earlier ones were sent. -/
theorem Outlet.sendAll_append (outlet : Outlet σ) (target : Endpoint) (posts later : List Post)
    (now : Nat) (state : σ) :
    outlet.sendAll target (posts ++ later) now state =
      match outlet.sendAll target posts now state with
      | (.error error, now, state) => (.error error, now, state)
      | (.ok (), now, state) => outlet.sendAll target later now state := by
  induction posts generalizing now state with
  | nil => rfl
  | cons post posts ih =>
    rw [List.cons_append, sendAll, sendAll]
    rcases outlet.send now post.datagram target state with ⟨error | _, state⟩
    · rfl
    · exact ih _ _

/-- One datagram is sent, and nothing waits for anything after it. -/
theorem Outlet.sendAll_singleton (outlet : Outlet σ) (target : Endpoint) (datagram : Bytes)
    (now : Nat) (state : σ) :
    outlet.sendAll target [⟨datagram, 0⟩] now state =
      ((outlet.send now datagram target state).1, now,
        (outlet.send now datagram target state).2) := by
  rw [sendAll]
  rcases outlet.send now datagram target state with ⟨error | _, state⟩ <;> rfl

/-- What a transmission leaves, without its randomness. -/
def Sent.outcome (sent : Sent σ) : Except IoError Unit × Nat × σ :=
  (sent.result, sent.now, sent.state)

namespace Policy

variable (policy : Policy) (outlet : Outlet σ) (target : Endpoint)

/-- So many fillers are sent as they are drawn. If all are, as much randomness is left as after
drawing them. -/
theorem sendFillers_posts (left now : Nat) (entropy : Entropy) (state : σ) :
    let sent := policy.sendFillers outlet target left now entropy state
    sent.outcome = outlet.sendAll target (policy.fillerPosts left entropy).1 now state ∧
      (sent.result = .ok () → sent.entropy = (policy.fillerPosts left entropy).2) := by
  induction left generalizing now entropy state with
  | zero => exact ⟨rfl, fun _ => rfl⟩
  | succ left ih =>
    simp only [sendFillers, fillerPosts, Outlet.sendAll]
    rcases outlet.send now (policy.filler entropy).1 target state with ⟨error | _, state⟩
    · exact ⟨rfl, fun sent => by cases sent⟩
    · by_cases pauses : (0 < left && !policy.delay.isZero) = true
      · simp only [if_pos pauses]
        exact ih _ _ _
      · simp only [if_neg pauses]
        exact ih _ _ _

/-- The fillers before a packet are sent as they are drawn. -/
theorem sendBurst_posts (packet : Bytes) (now : Nat) (entropy : Entropy) (state : σ) :
    let sent := policy.sendBurst outlet target packet now entropy state
    sent.outcome = outlet.sendAll target (policy.burstPosts packet entropy).1 now state ∧
      (sent.result = .ok () → sent.entropy = (policy.burstPosts packet entropy).2) := by
  rw [sendBurst, burstPosts]
  split
  · exact policy.sendFillers_posts outlet target _ _ _ _
  · exact ⟨rfl, fun _ => rfl⟩

/-- A transmission sends the datagrams that are drawn for its packet. -/
theorem transmit_posts (reserved : Reserved) (packet : Bytes) (now : Nat) (entropy : Entropy)
    (state : σ) :
    (policy.transmit reserved outlet target packet now entropy state).outcome =
      outlet.sendAll target (policy.posts reserved packet entropy) now state := by
  obtain ⟨outcome, left⟩ := policy.sendBurst_posts outlet target packet now entropy state
  simp only [transmit, posts, Outlet.sendAll_append]
  generalize policy.sendBurst outlet target packet now entropy state = burst at outcome left
  obtain ⟨result, now, entropy, state⟩ := burst
  rw [← outcome]
  cases result with
  | error error => rfl
  | ok done =>
    rw [← left rfl]
    exact (outlet.sendAll_singleton target ..).symm

end Policy

/-! ## Calls -/

namespace Calls

/-- The bind for a caller who sees no numbers. -/
def plain (calls : Calls κ) : Bind κ where
  endpoint := calls.bind.endpoint
  policy := calls.bind.policy
  reserved := calls.bind.reserved
  slot := calls.bind.slot.map (·.socket)

variable (calls : Calls κ) {listener : Listener κ σ} {state next : σ} {answer : Except Error κ}

/-- An open that nothing interrupts is opening a socket at one go. -/
theorem openSocket_alone
    (heard : listener.listen calls.bind.endpoint state = (answer, next)) :
    let (result, bind, _) := calls.plain.openSocket listener state
    let moves := [.open, .answer calls.stages.length answer]
    (calls.after moves).plain = bind ∧ ∃ given, given.map (·.socket) = result ∧
      .opens calls.stages.length given ∈ calls.effects moves := by
  have waits : ∀ stage, (calls.stages ++ [stage])[calls.stages.length]? = some stage :=
    fun stage => List.getElem?_concat_length
  have asked : listener.listen calls.plain.endpoint state = (answer, next) := heard
  simp only [after, effects, List.foldl_cons, List.foldl_nil, step, startOpen, Bind.openSocket,
    Bind.opened?, asked]
  cases slot : calls.bind.slot with
  | some socket =>
    have filled : calls.plain.slot = some socket.socket := by rw [plain, slot, Option.map_some]
    simp only [filled, start, Purpose.afterOpen, waits]
    exact ⟨rfl, .ok socket, rfl, List.mem_cons_self ..⟩
  | none =>
    have empty : calls.plain.slot = none := by rw [plain, slot, Option.map_none]
    simp only [empty, start, waits, Bind.finishOpen]
    rcases answer with error | socket
    · exact ⟨rfl, .error error, rfl, by simp [number, Purpose.afterOpen, advance]⟩
    · simp only [number, slot]
      exact ⟨rfl, .ok ⟨calls.made, socket⟩, rfl, by simp [Purpose.afterOpen, advance]⟩

/-- A rebind that nothing interrupts is replacing the socket at one go. -/
theorem rebind_alone (heard : listener.listen calls.bind.endpoint state = (answer, next)) :
    let (result, _, bind, _) := calls.plain.rebind listener calls.isPaused calls.now state
    let call := calls.stages.length
    let moves := [.rebind, .elapse Bind.settleTime, .wake call, .answer call answer,
      .elapse Bind.settleTime, .wake call]
    (calls.after moves).plain = bind ∧ .rebound call result ∈ calls.effects moves := by
  have waits : ∀ stage, (calls.stages ++ [stage])[calls.stages.length]? = some stage :=
    fun stage => List.getElem?_concat_length
  have goes : ∀ first second : Stage (Opened κ),
      (calls.stages ++ [first]).set calls.stages.length second = calls.stages ++ [second] := by
    intro first second
    rw [List.set_append_right _ _ (Nat.le_refl _), Nat.sub_self, List.set_cons_zero]
  have asked : listener.listen calls.plain.endpoint state = (answer, next) := heard
  simp only [after, effects, List.foldl_cons, List.foldl_nil, step, Bind.rebind, Bind.beginRebind,
    asked]
  by_cases paused : calls.isPaused = true
  · simp only [if_pos paused, start, Stage.afterRebind, waits]
    exact ⟨rfl, List.mem_cons_self ..⟩
  · simp only [if_neg paused, start, Stage.afterRebind, waits, Bind.proceed, Nat.le_refl, if_pos,
      advance, goes]
    rcases answer with error | socket
    · simp only [number, Bind.finishRebind, goes, waits]
      exact ⟨rfl, by simp⟩
    · simp only [number, Bind.finishRebind, goes, waits, Nat.le_refl, if_pos]
      exact ⟨rfl, by simp⟩

end Calls

end Outbound.WireGuard
