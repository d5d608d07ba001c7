import Outbound.Proofs.Draws
import Outbound.Relay.Port

/-!
# Probing ports

Which ports can be bound is up to the host, which may change its mind from one probe to the next.
What holds whatever it answers is told by the probes that were made (`Probing`): one for each port
drawn, up to the first that binds, and of the socket bound there nothing is kept but the result.
-/
namespace Outbound.Relay

variable {κ σ : Type}

/-! ## Probes -/

/-- A socket that was to be bound, and the answer. -/
structure Probe (κ : Type) where
  /-- Where. -/
  endpoint : Endpoint
  /-- The socket, or why there is none. -/
  answer : Except IoError κ

/-- A probe that binds no socket. -/
def Probe.Fails (probe : Probe κ) : Prop := ∃ error, probe.answer = .error error

/-- What binds sockets, keeping every probe. -/
def recorded (bind : Endpoint → σ → Except IoError κ × σ) (endpoint : Endpoint)
    (state : σ × List (Probe κ)) : Except IoError κ × σ × List (Probe κ) :=
  let (answer, next) := bind endpoint state.1
  (answer, next, state.2 ++ [⟨endpoint, answer⟩])

/-- The numbers of the ports from the first to the last. -/
def ports (first last : UInt16) : Range := .ofBounds first.toUInt64 last.toUInt64

/-- What it takes for probes to be those of so many attempts at ports of a range, and for a socket
to be what they found. -/
structure Probing (first last : UInt16) (attempts : Nat) (entropy : Entropy)
    (probes : List (Probe κ)) (result : Option κ) (left : Entropy) : Prop where
  /-- Each probe is of a port of the range on the local host. -/
  within : ∀ probe ∈ probes, probe.endpoint.ip = .v4 .localhost ∧
    first ≤ probe.endpoint.port ∧ probe.endpoint.port ≤ last
  /-- There is one probe for each number drawn, of the port of this number. -/
  drawn : (ports first last).draws probes.length entropy =
    (probes.map (·.endpoint.port.toNat), left)
  /-- There are no more probes than attempts. -/
  bounded : probes.length ≤ attempts
  /-- A socket is found just if it is that of the last probe, and none before it binds. -/
  found : ∀ socket, result = some socket ↔ ∃ earlier final, probes = earlier ++ [final] ∧
    final.answer = .ok socket ∧ ∀ probe ∈ earlier, probe.Fails
  /-- None is found just if there are as many probes as attempts, and all of them fail. -/
  exhausted : result = none ↔ probes.length = attempts ∧ ∀ probe ∈ probes, probe.Fails
  /-- No socket is bound but the one found. -/
  bound : probes.filterMap (·.answer.toOption) = result.toList

variable {first last : UInt16}

/-- What is drawn between the ends of a range of ports is the number of one of them. -/
theorem exists_port (ordered : first ≤ last) (entropy : Entropy) :
    ∃ (port : UInt16) (left : Entropy),
      entropy.between first.toNat last.toNat = (port.toNat, left) ∧
      (ports first last).draw entropy = (port.toNat, left) ∧ first ≤ port ∧ port ≤ last := by
  have ends := UInt16.le_iff_toNat_le.mp ordered
  have wide : first.toUInt64 ≤ last.toUInt64 := by
    rw [UInt64.le_iff_toNat_le, UInt16.toNat_toUInt64, UInt16.toNat_toUInt64]
    exact ends
  have draw : (ports first last).draw entropy = entropy.between first.toNat last.toNat := by
    rw [ports, Range.ofBounds, dif_pos wide, Range.draw]
    simp only [UInt16.toNat_toUInt64]
  obtain ⟨least, greatest⟩ := Entropy.between_mem ends entropy
  rw [draw]
  generalize entropy.between first.toNat last.toNat = drawn at least greatest
  obtain ⟨value, left⟩ := drawn
  dsimp only at least greatest
  have number : (UInt16.ofNat value).toNat = value :=
    UInt16.toNat_ofNat_of_lt' (Nat.lt_of_le_of_lt greatest last.toNat_lt)
  rw [← number] at least greatest
  refine ⟨.ofNat value, left, ?_, ?_, UInt16.le_iff_toNat_le.mpr least,
    UInt16.le_iff_toNat_le.mpr greatest⟩
  · rw [number]
  · rw [number]

/-! ## What attempts come to -/

/-- Without an attempt there is no probe, and nothing is found. -/
theorem probing_nil (first last : UInt16) (entropy : Entropy) :
    Probing first last 0 entropy ([] : List (Probe κ)) none entropy where
  within := fun probe mem => by cases mem
  drawn := rfl
  bounded := Nat.le_refl 0
  found := by
    intro socket
    constructor
    · intro same
      cases same
    · rintro ⟨earlier, final, same, -⟩
      exact absurd same (by simp)
  exhausted := ⟨fun _ => ⟨rfl, fun probe mem => by cases mem⟩, fun _ => rfl⟩
  bound := rfl

section

variable {attempts : Nat} {entropy left : Entropy} {endpoint : Endpoint}

/-- A probe that binds is the last. -/
theorem probing_bound (socket : κ) (within : endpoint.ip = .v4 .localhost ∧
      first ≤ endpoint.port ∧ endpoint.port ≤ last)
    (drawn : (ports first last).draw entropy = (endpoint.port.toNat, left)) :
    Probing first last (attempts + 1) entropy [⟨endpoint, .ok socket⟩] (some socket) left where
  within := List.forall_mem_singleton.mpr within
  drawn := by
    rw [List.length_singleton, Range.draws, drawn]
    rfl
  bounded := Nat.succ_le_succ (Nat.zero_le attempts)
  found := by
    intro other
    constructor
    · intro same
      cases same
      exact ⟨[], _, rfl, rfl, fun probe mem => by cases mem⟩
    · rintro ⟨earlier, final, same, answer, -⟩
      have alone : final = ⟨endpoint, .ok socket⟩ := by
        have ends := congrArg List.getLast? same
        rw [List.getLast?_concat, List.getLast?_singleton] at ends
        exact (Option.some_inj.mp ends).symm
      rw [alone] at answer
      cases answer
      rfl
  exhausted := by
    constructor
    · intro same
      cases same
    · rintro ⟨-, fails⟩
      obtain ⟨error, answer⟩ := List.forall_mem_singleton.mp fails
      cases answer
  bound := rfl

/-- After a probe that fails come those of the attempts that are left. -/
theorem Probing.cons {probes : List (Probe κ)} {result : Option κ} {later : Entropy}
    (probing : Probing first last attempts left probes result later) (error : IoError)
    (within : endpoint.ip = .v4 .localhost ∧ first ≤ endpoint.port ∧ endpoint.port ≤ last)
    (drawn : (ports first last).draw entropy = (endpoint.port.toNat, left)) :
    Probing first last (attempts + 1) entropy (⟨endpoint, .error error⟩ :: probes) result
      later where
  within := List.forall_mem_cons.mpr ⟨within, probing.within⟩
  drawn := by
    rw [List.length_cons, Range.draws, drawn]
    simp only [probing.drawn, List.map_cons]
  bounded := Nat.succ_le_succ probing.bounded
  found := by
    intro socket
    rw [probing.found]
    constructor
    · rintro ⟨earlier, final, rfl, answer, fails⟩
      exact ⟨⟨endpoint, .error error⟩ :: earlier, final, rfl, answer,
        List.forall_mem_cons.mpr ⟨⟨error, rfl⟩, fails⟩⟩
    · rintro ⟨earlier, final, same, answer, fails⟩
      cases earlier with
      | nil =>
        -- The probe that fails would be the one that binds.
        cases same
        cases answer
      | cons probe earlier =>
        obtain ⟨rfl, rest⟩ := List.cons.inj same
        exact ⟨earlier, final, rest, answer, (List.forall_mem_cons.mp fails).2⟩
  exhausted := by
    rw [probing.exhausted, List.length_cons, Nat.add_right_cancel_iff, List.forall_mem_cons]
    exact and_congr_right fun _ => ⟨fun fails => ⟨⟨error, rfl⟩, fails⟩, fun fails => fails.2⟩
  bound := probing.bound

end

/-- Attempts come to such probes, and keeping these changes nothing. -/
theorem probing_probe (bind : Endpoint → σ → Except IoError κ × σ) (ordered : first ≤ last)
    (attempts : Nat) (entropy : Entropy) (state : σ) (log : List (Probe κ)) :
    ∃ probes result left final,
      probe bind first last attempts entropy state = (result, left, final) ∧
      probe (recorded bind) first last attempts entropy (state, log) =
        (result, left, final, log ++ probes) ∧
      Probing first last attempts entropy probes result left := by
  induction attempts generalizing entropy state log with
  | zero =>
    refine ⟨[], none, entropy, state, rfl, ?_, probing_nil first last entropy⟩
    rw [List.append_nil]
    rfl
  | succ attempts ih =>
    obtain ⟨port, left, between, draw, least, greatest⟩ := exists_port ordered entropy
    have kept : recorded bind ⟨.v4 .localhost, port, 0⟩ (state, log) =
        ((bind ⟨.v4 .localhost, port, 0⟩ state).1, (bind ⟨.v4 .localhost, port, 0⟩ state).2,
          log ++ [⟨⟨.v4 .localhost, port, 0⟩, (bind ⟨.v4 .localhost, port, 0⟩ state).1⟩]) := rfl
    simp only [probe, between, UInt16.ofNat_toNat, kept]
    rcases bind ⟨.v4 .localhost, port, 0⟩ state with ⟨error | socket, next⟩
    · obtain ⟨probes, result, later, final, plain, noted, probing⟩ := ih left next
        (log ++ [⟨⟨.v4 .localhost, port, 0⟩, .error error⟩])
      refine ⟨⟨⟨.v4 .localhost, port, 0⟩, .error error⟩ :: probes, result, later, final, plain, ?_,
        probing.cons error ⟨rfl, least, greatest⟩ draw⟩
      rw [List.append_assoc, List.singleton_append] at noted
      exact noted
    · exact ⟨[⟨⟨.v4 .localhost, port, 0⟩, .ok socket⟩], some socket, left, next, rfl, rfl,
        probing_bound socket ⟨rfl, least, greatest⟩ draw⟩

/-- Ports are probed within bounds, and the outcome is told as it is. A range that starts with zero
or is the wrong way round is refused as a fault of the configuration, without a draw and without a
probe. Otherwise, whatever is drawn and however the host answers, the probes are those of so many
attempts, and the result is the socket that they found, or that no port was available. Keeping the
probes changes nothing. -/
theorem ports_probed (bind : Endpoint → σ → Except IoError κ × σ) (first last : UInt16)
    (attempts : Nat) (entropy : Entropy) (state : σ) :
    ∃ probes result left final,
      bindRandomPort bind first last attempts entropy state = (result, left, final) ∧
      bindRandomPort (recorded bind) first last attempts entropy (state, []) =
        (result, left, final, probes) ∧
      if first = 0 ∨ last < first then
        (∃ error, result = .error error ∧ error.isConfig = true ∧
          error = .configValue "turn_relay.port_range" s!"invalid port range {first}-{last}") ∧
        probes = [] ∧ left = entropy ∧ final = state
      else ∃ found, Probing first last attempts entropy probes found left ∧
        result = found.elim (.error (.noPortAvailable first last attempts)) .ok := by
  rw [bindRandomPort, bindRandomPort]
  split
  case isTrue refused =>
    exact ⟨[], _, entropy, state, rfl, rfl, ⟨_, rfl, rfl, rfl⟩, rfl, rfl, rfl⟩
  case isFalse sound =>
    have ordered : first ≤ last := UInt16.not_lt.mp fun inverted => sound (.inr inverted)
    obtain ⟨probes, found, left, final, plain, noted, probing⟩ :=
      probing_probe bind ordered attempts entropy state []
    rw [plain, noted]
    cases found with
    | none => exact ⟨probes, _, left, final, rfl, rfl, none, probing, rfl⟩
    | some socket => exact ⟨probes, _, left, final, rfl, rfl, some socket, probing, rfl⟩

end Outbound.Relay
