import Outbound.HostError
import Outbound.Tunnel

/-!
# Errors on their way out

An error of the host becomes an error of the dialer, and that an error of input or output, which is
all that the user of a connection sees. On the way it may be wrapped, given on and wrapped again.
What it is survives all of that (`HostError.Surfaces`): a fault of the configuration stays one, an
error of input or output comes out as it went in, and every other fault shows in the kind. A
forwarder that cannot be started has its error told again (`Tunnel.Retells`).
-/
namespace Outbound

namespace HostError

/-! ## Errors inside errors -/

/-- An error holds one of input or output, however often that was wrapped and given on. -/
inductive Holds : HostError → IoError → Prop where
  /-- The host has met it. -/
  | io (cause : IoError) : Holds (.io cause) cause
  /-- It was met elsewhere. -/
  | general (cause : IoError) : Holds (.general (.io cause)) cause
  /-- What holds it has left a dialer, and is wrapped again. -/
  | dialed (error : HostError) (cause : IoError) (holds : Holds error cause) :
      Holds (.general error.toError) cause
  /-- What holds it has left a connection, and is wrapped again. -/
  | surfaced (error : HostError) (cause : IoError) (holds : Holds error cause) :
      Holds (.io error.toError.toIo) cause

/-- An error of input or output leaves the dialer as it is, whatever it was wrapped in. -/
theorem toError_of_holds {error : HostError} {cause : IoError} (holds : error.Holds cause) :
    error.toError = .io cause := by
  induction holds with
  | io cause => rfl
  | general cause => rfl
  | dialed error cause holds ih => exact ih
  | surfaced error cause holds ih =>
    rw [ih]
    rfl

/-- The error that leaves the dialer is a fault of the configuration if the host's error is. -/
theorem isConfig_toError (error : HostError) :
    error.toError.isConfig = error.isConfig := by
  cases error <;> rfl

end HostError

/-- The kind of a fault of the configuration. -/
theorem Error.kind_toIo_of_isConfig {error : Error} (config : error.isConfig = true) :
    error.toIo.kind = .invalidInput := by
  cases error with
  | noPortAvailable | turnRelay | invalidAddress | io => cases config
  | _ => rfl

/-- An error that is none of input or output comes out with its own wording. -/
theorem Error.text_toIo {error : Error} (own : ∀ cause, error ≠ .io cause) :
    error.toIo.text = error.message := by
  cases error with
  | io cause => exact absurd rfl (own cause)
  | _ => rfl

namespace HostError

/-- What becomes of an error of the host when it is given on as one of the dialer, and that as one
of input or output. -/
structure Surfaces (error : HostError) : Prop where
  /-- It stays a fault of the configuration, or stays none. -/
  config : error.toError.isConfig = error.isConfig
  /-- A fault of the configuration has the kind of a bad argument. -/
  refused : error.isConfig = true → error.toError.toIo.kind = .invalidInput
  /-- Connecting for too long has the kind of that. -/
  late : ∀ endpoint milliseconds, error = .timeout endpoint milliseconds →
    error.toError.toIo.kind = .timedOut
  /-- A range without a free port has the kind of an address in use. -/
  busy : ∀ first last attempts, error = .general (.noPortAvailable first last attempts) →
    error.toError.toIo.kind = .addrInUse
  /-- An error of input or output comes out with its kind and its text. -/
  held : ∀ cause, error.Holds cause → error.toError.toIo = cause
  /-- Whatever is none of these has no kind of its own. -/
  other : error.isConfig = false → (∀ endpoint milliseconds, error ≠ .timeout endpoint milliseconds) →
    (∀ first last attempts, error ≠ .general (.noPortAvailable first last attempts)) →
    (∀ cause, ¬ error.Holds cause) → error.toError.toIo.kind = .other
  /-- The host's own faults keep their wording. -/
  worded : (∃ option reason, error = .socketOption option reason) ∨
    (∃ path reason, error = .protect path reason) ∨
    (∃ endpoint milliseconds, error = .timeout endpoint milliseconds) →
      error.toError.toIo.text = error.message
  /-- So does what was wrapped, unless it is an error of input or output. -/
  general : ∀ inner, error = .general inner → (∀ cause, inner ≠ .io cause) →
    error.toError.toIo.text = inner.message
  /-- A feature that the host lacks is told as any that is not available. -/
  lacking : ∀ feature, error = .unsupported feature →
    error.toError.toIo.text = (Error.unsupported feature).message

/-- Every error of the host surfaces. -/
theorem surfaces (error : HostError) : error.Surfaces where
  config := error.isConfig_toError
  refused config := Error.kind_toIo_of_isConfig (error.isConfig_toError.trans config)
  late endpoint milliseconds same := by
    rw [same]
    rfl
  busy first last attempts same := by
    rw [same]
    rfl
  held cause holds := by
    rw [toError_of_holds holds]
    rfl
  other runtime timely bound plain := by
    cases error with
    | socketOption option reason => rfl
    | unsupported feature => cases runtime
    | protect path reason => rfl
    | timeout endpoint milliseconds => exact absurd rfl (timely endpoint milliseconds)
    | io cause => exact absurd (.io cause) (plain cause)
    | general inner =>
      cases inner with
      | noPortAvailable first last attempts => exact absurd rfl (bound first last attempts)
      | io cause => exact absurd (.general cause) (plain cause)
      | turnRelay server stage text => rfl
      | invalidAddress address reason => rfl
      | _ => cases runtime
  worded own := by
    rcases own with ⟨option, reason, rfl⟩ | ⟨path, reason, rfl⟩ | ⟨endpoint, milliseconds, rfl⟩
    · rfl
    · rfl
    · rfl
  general inner same own := by
    rw [same]
    exact Error.text_toIo own
  lacking feature same := by
    rw [same]
    rfl

end HostError

/-! ## Forwarders that cannot be started -/

namespace Tunnel

/-- Where the forwarder of a dial is to listen. -/
def listener (entropy : Entropy) : Endpoint :=
  ⟨.v4 .localhost, UInt16.ofNat (entropy.between firstPort lastPort).1, 0⟩

/-- How the error of a forwarder is told again. -/
structure Retells (refusal : Error) (failure : IoError) : Prop where
  /-- An error of input or output keeps its kind. -/
  kind : ∀ cause, refusal = .io cause → failure.kind = cause.kind
  /-- Any other error has no kind of its own. -/
  other : (∀ cause, refusal ≠ .io cause) → failure.kind = .other
  /-- The wording of the error ends the text. -/
  text : ∃ front, failure.text = front ++ refusal.message

/-- The error of a dial whose forwarder could not be started is one of input or output, and tells
the error of the forwarder again. -/
theorem exists_retells_startError (endpoint : Endpoint) (refusal : Error) :
    ∃ failure, startError endpoint refusal = .io failure ∧ Retells refusal failure := by
  refine ⟨_, rfl, ?_, ?_, ⟨s!"failed to listen tunnel on {endpoint.text}: ", rfl⟩⟩
  · rintro cause rfl
    rfl
  · intro own
    cases refusal with
    | io cause => exact absurd rfl (own cause)
    | _ => rfl

variable {σ : Type} {forwarder : Forwarder σ} {destination : Endpoint} {options : TunnelOptions}
  {entropy : Entropy} {state : σ}

/-- A tunnel cannot be started if its forwarder cannot. -/
theorem start_of_refused {refusal : Error}
    (refused : (forwarder.start (listener entropy) destination options state).1 = .error refusal) :
    (start forwarder destination options entropy state).1 =
      .error (startError (listener entropy) refusal) := by
  rw [listener] at refused ⊢
  rw [start]
  dsimp only
  generalize forwarder.start _ destination options state = answered at refused
  obtain ⟨answer, after⟩ := answered
  obtain rfl : answer = .error refusal := refused
  rfl

end Tunnel

/-- No conversion loses what an error is or why it arose. An error of the host surfaces. The error
with which a forwarder refuses to start becomes one of input or output, which is no fault of the
configuration and tells it again. -/
theorem errors_surface :
    (∀ error : HostError, error.Surfaces) ∧
    ∀ {σ : Type} (forwarder : Forwarder σ) (destination : Endpoint) (options : TunnelOptions)
      (entropy : Entropy) (state : σ) (refusal : Error),
      (forwarder.start (Tunnel.listener entropy) destination options state).1 = .error refusal →
      ∃ failure, (Tunnel.start forwarder destination options entropy state).1 =
          .error (.io failure) ∧
        (Error.io failure).isConfig = false ∧ Tunnel.Retells refusal failure := by
  refine ⟨HostError.surfaces, fun forwarder destination options entropy state refusal refused => ?_⟩
  obtain ⟨failure, told, retells⟩ :=
    Tunnel.exists_retells_startError (Tunnel.listener entropy) refusal
  refine ⟨failure, ?_, rfl, retells⟩
  rw [Tunnel.start_of_refused refused, told]

/-- Not even a fault that a forwarder finds with its configuration is one of the dial's. -/
theorem errors_surface_misconfigured :
    let refusal := Error.configValue "tunnel.target" "missing tunnel target"
    let forwarder : Forwarder Unit := ⟨fun _ _ _ state => (.error refusal, state)⟩
    ∃ failure, (Tunnel.start forwarder ⟨.v4 .localhost, 443, 0⟩ {} ⟨id, 0⟩ ()).1 =
        .error (.io failure) ∧
      (Error.io failure).isConfig = false ∧ Tunnel.Retells refusal failure :=
  errors_surface.2 _ _ _ _ _ _ rfl

end Outbound
