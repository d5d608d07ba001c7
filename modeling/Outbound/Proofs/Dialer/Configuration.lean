import Outbound.Dialer
import Outbound.Proofs.Conversion
import Outbound.Proofs.Steps

/-!
# Faults of the configuration

Settings are checked once, when a dialer is made, and the policy of cutting is then read from them a
second time; the two readings agree. What goes wrong with a dialer later is an error of the host, of
a forwarder or of the network, and none of these is a fault of the configuration. One fault alone is
left to a dial: it wants a tunnel, and nothing that starts forwarders was given.
-/
namespace Outbound

/-! ## Which settings are accepted -/

/-- The texts of the settings can be read, and some piece is not empty. -/
structure TlsFragmentOptions.Legible (options : TlsFragmentOptions) : Prop where
  /-- The sizes are a range that does not hold zero alone. -/
  size : ∃ range, Range.parse options.size = .ok range ∧ range.max ≠ 0
  /-- The pauses are left out, or they are a range. -/
  sleep : options.sleep = "" ∨ ∃ range, Range.parse options.sleep = .ok range

/-- The settings do not contradict each other, and those that are enabled can be read. -/
structure DialerOptions.Consistent (options : DialerOptions) : Prop where
  /-- Handshakes are not cut where data travels with the first segment. -/
  compatible : ¬ (options.tlsFragmentEnabled = true ∧ options.tcpFastOpen = true)
  /-- Enabled cutting can be read. -/
  fragment : ∀ tls, options.tlsFragment = some tls → tls.enabled = true → tls.Legible
  /-- An enabled tunnel has a far end. -/
  tunnel : options.tunnel.enabled = true → options.tunnel.target ≠ ""

/-- There is a policy of some settings just if they can be read. -/
theorem Tls.Policy.exists_ofOptions_iff (options : TlsFragmentOptions) :
    (∃ policy, ofOptions options = .ok policy) ↔ options.Legible := by
  unfold ofOptions
  simp only [bind_eq_ok, mapError_eq_ok]
  constructor
  · rintro ⟨policy, range, size, made⟩
    split at made
    case isTrue => cases made
    case isFalse positive =>
      refine ⟨⟨range, size, by simpa [Range.isZero] using positive⟩, ?_⟩
      split at made
      case isTrue absent => exact .inl (String.isEmpty_iff.mp absent)
      case isFalse =>
        obtain ⟨pauses, sleep, -⟩ := bind_eq_ok.mp made
        exact .inr ⟨pauses, mapError_eq_ok.mp sleep⟩
  · rintro ⟨⟨range, size, positive⟩, sleep⟩
    have drawn : ¬ range.isZero = true := by simpa [Range.isZero] using positive
    by_cases absent : options.sleep.isEmpty = true
    · refine ⟨⟨range, .fixed 0, options.sniSplit⟩, range, size, ?_⟩
      rw [if_neg drawn, if_pos absent]
      rfl
    · obtain ⟨pauses, read⟩ := sleep.resolve_left (mt String.isEmpty_iff.mpr absent)
      refine ⟨⟨range, pauses, options.sniSplit⟩, range, size, ?_⟩
      rw [if_neg drawn, if_neg absent]
      exact bind_eq_ok.mpr ⟨pauses, mapError_eq_ok.mpr read, rfl⟩

/-- Settings of cutting are accepted unless they are enabled and cannot be read. -/
theorem TlsFragmentOptions.validate_eq_ok_iff (options : TlsFragmentOptions) :
    options.validate = .ok () ↔ (options.enabled = true → options.Legible) := by
  rw [validate, ← Tls.Policy.exists_ofOptions_iff]
  cases options.enabled with
  | false => simp
  | true => simp [map_eq_ok]

/-- Settings of a tunnel are accepted if they name a far end. -/
theorem TunnelOptions.validate_eq_ok_iff (options : TunnelOptions) :
    options.validate = .ok () ↔ options.target ≠ "" := by
  rw [validate, Ne, ← String.isEmpty_iff]
  cases options.target.isEmpty with
  | false => simp
  | true => simp

/-- The settings that are accepted are the consistent ones. -/
theorem DialerOptions.validate_eq_ok_iff (options : DialerOptions) :
    options.validate = .ok () ↔ options.Consistent := by
  have tunnel : (if options.tunnel.enabled then options.tunnel.validate else .ok ()) = .ok () ↔
      (options.tunnel.enabled = true → options.tunnel.target ≠ "") := by
    cases options.tunnel.enabled with
    | false => simp
    | true => simp [TunnelOptions.validate_eq_ok_iff]
  unfold validate
  constructor
  · intro accepted
    split at accepted
    case isTrue => cases accepted
    case isFalse compatible =>
      dsimp only at accepted
      split at accepted
      case h_1 tls present =>
        obtain ⟨⟨⟩, cut, led⟩ := bind_eq_ok.mp accepted
        refine ⟨by simpa using compatible, fun other same => ?_, tunnel.mp led⟩
        obtain rfl : tls = other := Option.some_inj.mp (present.symm.trans same)
        exact tls.validate_eq_ok_iff.mp cut
      case h_2 absent =>
        have led := accepted
        refine ⟨by simpa using compatible, fun tls present => ?_, tunnel.mp led⟩
        rw [absent] at present
        cases present
  · intro consistent
    rw [if_neg (by simpa using consistent.compatible)]
    have led := tunnel.mpr consistent.tunnel
    cases present : options.tlsFragment with
    | none => exact led
    | some tls =>
      have cut := tls.validate_eq_ok_iff.mpr (consistent.fragment tls present)
      exact bind_eq_ok.mpr ⟨(), cut, led⟩

/-! ## Which dialers are made -/

namespace Tls.Policy

variable {found : Option TlsFragmentOptions} {fragment : Option Policy}

/-- The policy in use can be made if the settings can be read that are present and enabled. -/
theorem exists_ofEnabled
    (legible : ∀ tls, found = some tls → tls.enabled = true → tls.Legible) :
    ∃ fragment, ofEnabled found = .ok fragment := by
  cases found with
  | none => exact ⟨none, rfl⟩
  | some tls =>
    rw [ofEnabled]
    by_cases enabled : tls.enabled = true
    · obtain ⟨policy, made⟩ := (exists_ofOptions_iff tls).mpr (legible tls rfl enabled)
      rw [if_pos enabled]
      exact ⟨some policy, map_eq_ok.mpr ⟨policy, made, rfl⟩⟩
    · rw [if_neg enabled]
      exact ⟨none, rfl⟩

/-- The policy in use is that of the settings that are present and enabled. -/
theorem ofEnabled_eq_some_iff (made : ofEnabled found = .ok fragment) (policy : Policy) :
    fragment = some policy ↔
      ∃ tls, found = some tls ∧ tls.enabled = true ∧ ofOptions tls = .ok policy := by
  cases found with
  | none =>
    cases made
    simp
  | some tls =>
    rw [ofEnabled] at made
    by_cases enabled : tls.enabled = true
    · rw [if_pos enabled] at made
      obtain ⟨own, read, rfl⟩ := map_eq_ok.mp made
      simp [enabled, read]
    · rw [if_neg enabled] at made
      cases made
      simp [enabled]

/-- A policy is in use just if settings are present and enabled. -/
theorem isSome_of_ofEnabled (made : ofEnabled found = .ok fragment) :
    fragment.isSome = found.any (·.enabled) := by
  cases found with
  | none =>
    cases made
    rfl
  | some tls =>
    rw [ofEnabled] at made
    by_cases enabled : tls.enabled = true
    · rw [if_pos enabled] at made
      obtain ⟨own, -, rfl⟩ := map_eq_ok.mp made
      simp [enabled]
    · rw [if_neg enabled] at made
      cases made
      simp [enabled]

end Tls.Policy

namespace Socket.Binder

variable {options : DialerOptions} {router : Option Router}

/-- Sockets can be made from all settings that are accepted. -/
theorem exists_ofOptions (valid : options.validate = .ok ()) :
    ∃ made, ofOptions options router = .ok made := by
  simp [ofOptions, valid]

/-- A binder is made from settings that are accepted, and sends data with the first segment if they
say so. -/
theorem valid_of_ofOptions {binder : Binder} {asked : List Question}
    (made : ofOptions options router = .ok (binder, asked)) :
    options.validate = .ok () ∧ binder.dial4.fastOpen = options.tcpFastOpen ∧
      binder.dial6.fastOpen = options.tcpFastOpen := by
  unfold ofOptions at made
  split at made
  case h_1 => cases made
  case h_2 valid =>
    cases made
    exact ⟨valid, rfl, rfl⟩

/-- A socket for connections is asked to send data with the first segment if its family is. -/
theorem fastOpen_mem_tcp (binder : Binder) (destination : Endpoint) :
    .fastOpen ∈ (binder.tcp destination).settings ↔
      (binder.dialConfig destination).fastOpen = true := by
  cases open' : (binder.dialConfig destination).fastOpen with
  | false => simp [tcp, common, open']
  | true => simp [tcp, open']

end Socket.Binder

namespace Dialer

variable {options : DialerOptions} {router : Option Socket.Router}

/-- What a dialer takes from its settings. -/
structure Follows (dialer : Dialer) (options : DialerOptions) : Prop where
  /-- They are accepted. -/
  valid : options.validate = .ok ()
  /-- Handshakes are cut as the enabled settings say. -/
  fragment : Tls.Policy.ofEnabled options.tlsFragment = .ok dialer.fragment
  /-- The tunnel is the enabled one. -/
  tunnel : dialer.tunnel = if options.tunnel.enabled then some options.tunnel else none
  /-- Data travels with the first segment as they say, whatever the destination. -/
  fastOpen : ∀ destination,
    (dialer.binder.dialConfig destination).fastOpen = options.tcpFastOpen

/-- A dialer follows the settings that it is made from. -/
theorem follows_of_ofOptions {dialer : Dialer} {asked : List Socket.Question}
    (made : ofOptions options router = .ok (dialer, asked)) : dialer.Follows options := by
  obtain ⟨⟨binder, bound⟩, binderMade, made⟩ := bind_eq_ok.mp made
  obtain ⟨fragment, fragmentMade, made⟩ := bind_eq_ok.mp made
  cases made
  obtain ⟨valid, open4, open6⟩ := Socket.Binder.valid_of_ofOptions binderMade
  refine ⟨valid, mapError_eq_ok.mp fragmentMade, rfl, fun destination => ?_⟩
  rw [Socket.Binder.dialConfig]
  split
  · exact open6
  · exact open4

/-- The settings that a dialer can be made from are those that are accepted. -/
theorem exists_ofOptions_iff (options : DialerOptions) (router : Option Socket.Router) :
    (∃ made, ofOptions options router = .ok made) ↔ options.validate = .ok () := by
  constructor
  · rintro ⟨⟨dialer, asked⟩, made⟩
    exact (follows_of_ofOptions made).valid
  · intro valid
    have consistent := options.validate_eq_ok_iff.mp valid
    obtain ⟨⟨binder, asked⟩, binderMade⟩ :
        ∃ made, Socket.Binder.ofOptions options router = .ok made :=
      Socket.Binder.exists_ofOptions valid
    obtain ⟨fragment, fragmentMade⟩ := Tls.Policy.exists_ofEnabled consistent.fragment
    refine ⟨_, bind_eq_ok.mpr ⟨_, binderMade, bind_eq_ok.mpr ⟨fragment, ?_, rfl⟩⟩⟩
    exact mapError_eq_ok.mpr fragmentMade

end Dialer

/-! ## What goes wrong later -/

/-- A result does not blame the configuration. -/
def HostError.Blameless {α : Type} (result : Except HostError α) : Prop :=
  ∀ error, result = .error error → error.isConfig = false

/-- A success blames nothing. -/
theorem HostError.blameless_ok {α : Type} (value : α) :
    Blameless (.ok value : Except HostError α) := fun _ same => by cases same

/-- A failure blames the configuration only if its error does. -/
theorem HostError.blameless_error {α : Type} {error : HostError}
    (runtime : error.isConfig = false) : Blameless (.error error : Except HostError α) :=
  fun _ same => by cases same; exact runtime

/-- The error of a result that does not blame the configuration. -/
theorem HostError.isConfig_of_blameless {α σ : Type} {result : Except HostError α × σ}
    (blameless : Blameless result.1) {error : HostError} {after : σ}
    (failed : result = (.error error, after)) : error.isConfig = false :=
  blameless error (congrArg Prod.fst failed)

open HostError (Blameless blameless_error blameless_ok isConfig_of_blameless)

namespace Socket

variable {κ σ : Type} (host : Host κ σ)

/-- A request that is refused is no fault of the configuration. -/
theorem Setting.isConfig_refused (setting : Setting) (error : IoError) :
    (setting.refused error).isConfig = false := by
  cases setting with
  | dontFragment domain => cases domain <;> rfl
  | _ => rfl

/-- Setting a socket up by one request. -/
theorem Host.blameless_apply (socket : κ) (setting : Setting) (state : σ) :
    Blameless (host.apply socket setting state).1 := by
  intro error failed
  rw [apply] at failed
  cases fault : setting.fault? with
  | some known =>
    rw [fault] at failed
    cases failed
    cases setting with
    | interface name =>
      rw [Setting.fault?] at fault
      split at fault
      · cases fault
        rfl
      · cases fault
    | _ => cases fault
  | none =>
    rw [fault] at failed
    obtain ⟨reason, -, rfl⟩ := mapError_eq_error.mp failed
    exact setting.isConfig_refused reason

/-- Setting a socket up by one request after another. -/
theorem Host.blameless_applyAll (socket : κ) (settings : List Setting) (state : σ) :
    Blameless (host.applyAll socket settings state).1 := by
  induction settings generalizing state with
  | nil => exact fun error failed => by cases failed
  | cons setting settings ih =>
    rw [applyAll]
    split
    case h_1 failed =>
      exact blameless_error (isConfig_of_blameless (host.blameless_apply _ _ _) failed)
    case h_2 after _ => exact ih after

/-- Making a socket. -/
theorem Binder.blameless_prepare (preparation : Preparation) (state : σ) :
    Blameless (Binder.prepare host preparation state).1 := by
  rw [prepare]
  split
  case h_1 => exact blameless_error rfl
  case h_2 =>
    split
    case h_1 failed =>
      exact blameless_error (isConfig_of_blameless (host.blameless_applyAll _ _ _) failed)
    case h_2 => exact blameless_ok _

/-- Making a listening socket. -/
theorem Binder.blameless_listenSocket (binder : Binder) (destination : Endpoint) (state : σ) :
    Blameless (binder.listenSocket host destination state).1 := by
  rw [listenSocket]
  dsimp only
  split
  case h_1 =>
    split
    case h_1 failed =>
      exact blameless_error (isConfig_of_blameless (host.blameless_applyAll _ _ _) failed)
    case h_2 => exact blameless_ok _
  case h_2 =>
    split
    case isFalse => exact blameless_error rfl
    case isTrue =>
      split
      case h_1 =>
        split
        case h_1 failed =>
          exact blameless_error (isConfig_of_blameless (host.blameless_applyAll _ _ _) failed)
        case h_2 => exact blameless_ok _
      case h_2 => exact blameless_error rfl

/-- Handing a socket to the protect service. -/
theorem Binder.blameless_protect (binder : Binder) (socket : κ) (state : σ) :
    Blameless (binder.protect host socket state).1 := by
  rw [protect]
  split
  case h_1 => exact blameless_ok _
  case h_2 path _ =>
    dsimp only
    split
    case h_2 => exact blameless_ok _
    case h_1 fault refused =>
      intro _ same
      cases same
      unfold protectFault at refused
      split at refused
      case h_1 => cases refused; rfl
      case h_2 => cases refused; rfl
      case h_3 =>
        split at refused
        · cases refused
        · cases refused
          rfl

end Socket

namespace Dialer

variable {κ σ : Type} (dialer : Dialer) (host : Socket.Host κ σ)

/-- Making a socket ready. -/
theorem blameless_ready (network : Network) (destination : Endpoint) (state : σ) :
    Blameless (dialer.ready host network destination state).1 := by
  cases network
  all_goals
    rw [ready]
    dsimp only
    split
    case h_1 failed =>
      exact blameless_error (Socket.Binder.blameless_prepare host _ state _ failed)
    case h_2 socket _ =>
      exact fun error failed => dialer.binder.blameless_protect host socket _ error
        (map_eq_error.mp failed)

/-- Connecting fails for a reason of the network. -/
theorem isConfig_connectFault {destination : Endpoint} {timeout : Nat}
    {answer : Socket.Connected} {fault : HostError}
    (failed : connectFault destination timeout answer = some fault) : fault.isConfig = false := by
  cases answer with
  | opened => cases failed
  | failed error => cases failed; rfl
  | timedOut => cases failed; rfl

/-- Connecting without a tunnel. -/
theorem blameless_connect (network : Network) (destination : Endpoint) (entropy : Entropy)
    (tracker : Tracker) (state : σ) :
    Blameless (dialer.connect host network destination entropy tracker state).1 := by
  rw [connect]
  split
  case h_1 failed =>
    exact blameless_error (isConfig_of_blameless (dialer.blameless_ready host _ _ _) failed)
  case h_2 socket after _ =>
    cases network with
    | udp =>
      dsimp only
      split
      case h_1 => exact blameless_error rfl
      case h_2 =>
        split
        case h_1 => exact blameless_error rfl
        case h_2 => exact blameless_ok _
    | tcp =>
      dsimp only
      split
      case h_1 => exact blameless_ok _
      case h_2 =>
        split
        case h_1 fault failed =>
          exact blameless_error (isConfig_connectFault failed)
        case h_2 => exact blameless_ok _

/-- A forwarder that cannot be started is no fault of the configuration. -/
theorem isConfig_start {forwarder : Forwarder σ} {destination : Endpoint}
    {options : TunnelOptions} {entropy : Entropy} {state : σ} {error : Error}
    (failed : (Tunnel.start forwarder destination options entropy state).1 = .error error) :
    error.isConfig = false := by
  rw [Tunnel.start] at failed
  dsimp only at failed
  split at failed
  · cases failed
  · cases failed
    rfl

/-- The error of a dial is a fault of the configuration just if the tunnel has no forwarder. -/
theorem isConfig_dial_iff (forwarder : Option (Forwarder σ)) (network : Network)
    (destination : Endpoint) (entropy : Entropy) (tracker : Tracker) (state : σ) {error : Error}
    (failed : (dialer.dial host forwarder network destination entropy tracker state).result =
      .error error) :
    error.isConfig = true ↔ dialer.tunnel.isSome = true ∧ forwarder.isNone = true := by
  have connected : ∀ {network destination entropy tracker state fault},
      (dialer.connect host network destination entropy tracker state).1 = .error fault →
        fault.toError.isConfig = false := by
    intro network destination entropy tracker state fault failed
    rw [HostError.isConfig_toError]
    exact dialer.blameless_connect host network destination entropy tracker state _ failed
  cases tunnel : dialer.tunnel with
  | none =>
    simp only [dial, tunnel] at failed
    obtain ⟨fault, refused, rfl⟩ := mapError_eq_error.mp failed
    simp [connected refused]
  | some options =>
    cases forwarder with
    | none =>
      simp only [dial, tunnel] at failed
      cases failed
      simp [noForwarderError, Error.isConfig]
    | some forwarder =>
      simp only [dial, tunnel] at failed
      -- A forwarder was asked for, so the error is its own or that of connecting to it.
      have runtime : error.isConfig = false := by
        split at failed
        case h_1 refusal _ _ refused =>
          cases failed
          exact isConfig_start (congrArg Prod.fst refused)
        case h_2 =>
          split at failed
          case h_1 fault _ _ refused =>
            cases failed
            exact connected (congrArg Prod.fst refused)
          case h_2 => cases failed
      simp [runtime]

/-- The error of a listening socket is no fault of the configuration. -/
theorem isConfig_listen (destination : Endpoint) (state : σ) {error : Error}
    (failed : (dialer.listen host destination state).1 = .error error) :
    error.isConfig = false := by
  rw [listen] at failed
  split at failed
  case h_1 fault _ refused =>
    cases failed
    rw [HostError.isConfig_toError]
    exact dialer.binder.blameless_listenSocket host destination state _ (congrArg Prod.fst refused)
  case h_2 socket after _ =>
    split at failed
    case h_1 fault _ refused =>
      cases failed
      rw [HostError.isConfig_toError]
      exact dialer.binder.blameless_protect host socket after _ (congrArg Prod.fst refused)
    case h_2 =>
      split at failed
      case h_1 =>
        cases failed
        rfl
      case h_2 => cases failed

end Dialer

/-! ## When faults come to light -/

/-- What the settings decide about a dialer that is made from them, and what its calls may find
fault with. -/
structure Dialer.Settled (dialer : Dialer) (options : DialerOptions) : Prop where
  /-- Handshakes are cut just if that is enabled. -/
  cuts : dialer.fragment.isSome = options.tlsFragmentEnabled
  /-- They are cut by the policy of the settings. -/
  policy : ∀ policy, dialer.fragment = some policy ↔
    ∃ tls, options.tlsFragment = some tls ∧ tls.enabled = true ∧
      Tls.Policy.ofOptions tls = .ok policy
  /-- No socket is asked to send data with the first segment if handshakes are cut. -/
  apart : dialer.fragment.isSome = true →
    ∀ destination, .fastOpen ∉ (dialer.binder.tcp destination).settings
  /-- A dial that fails blames the configuration just if the tunnel has no forwarder. -/
  dial : ∀ {κ σ : Type} (host : Socket.Host κ σ) (forwarder : Option (Forwarder σ))
    (network : Network) (destination : Endpoint) (entropy : Entropy) (tracker : Tracker)
    (state : σ) (error : Error),
    (dialer.dial host forwarder network destination entropy tracker state).result =
      .error error →
        (error.isConfig = true ↔ options.tunnel.enabled = true ∧ forwarder.isNone = true)
  /-- Then it fails before anything is asked of the host. -/
  unstarted : options.tunnel.enabled = true → ∀ {κ σ : Type} (host : Socket.Host κ σ)
    (network : Network) (destination : Endpoint) (entropy : Entropy) (tracker : Tracker)
    (state : σ), dialer.dial host none network destination entropy tracker state =
      ⟨.error noForwarderError, none, entropy, tracker, state⟩
  /-- A listening socket that cannot be made never blames the configuration. -/
  listen : ∀ {κ σ : Type} (host : Socket.Host κ σ) (destination : Endpoint) (state : σ)
    (error : Error), (dialer.listen host destination state).1 = .error error →
      error.isConfig = false

/-- Faults of the configuration are refused when a dialer is made: the settings that pass are the
consistent ones, a dialer is made from each of them, and none of its calls blames them later, except
for a tunnel without a forwarder. -/
theorem Dialer.settled_when_made (options : DialerOptions) (router : Option Socket.Router) :
    ((∃ made, ofOptions options router = .ok made) ↔ options.validate = .ok ()) ∧
      (options.validate = .ok () ↔ options.Consistent) ∧
      ∀ dialer asked, ofOptions options router = .ok (dialer, asked) → dialer.Settled options := by
  refine ⟨exists_ofOptions_iff options router, options.validate_eq_ok_iff, ?_⟩
  intro dialer asked made
  have follows := follows_of_ofOptions made
  have consistent := options.validate_eq_ok_iff.mp follows.valid
  have cuts : dialer.fragment.isSome = options.tlsFragmentEnabled :=
    Tls.Policy.isSome_of_ofEnabled follows.fragment
  have tunnel : dialer.tunnel.isSome = options.tunnel.enabled := by
    rw [follows.tunnel]
    cases options.tunnel.enabled <;> rfl
  constructor
  case cuts => exact cuts
  case policy => exact Tls.Policy.ofEnabled_eq_some_iff follows.fragment
  case apart =>
    intro cut destination asked
    have fast := (dialer.binder.fastOpen_mem_tcp destination).mp asked
    rw [follows.fastOpen] at fast
    exact consistent.compatible ⟨cuts ▸ cut, fast⟩
  case dial =>
    intro κ σ host forwarder network destination entropy tracker state error failed
    rw [← tunnel]
    exact dialer.isConfig_dial_iff host forwarder network destination entropy tracker state failed
  case unstarted =>
    intro enabled κ σ host network destination entropy tracker state
    obtain ⟨own, present⟩ := Option.isSome_iff_exists.mp (tunnel.trans enabled)
    simp only [Dialer.dial, present]
  case listen =>
    exact fun host destination state error => dialer.isConfig_listen host destination state

end Outbound
