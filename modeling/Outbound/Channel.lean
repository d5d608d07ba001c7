import Outbound.Stream

/-!
# Channels

A channel is a connected datagram socket: it sends and receives one datagram a call, and answers
like a stream.
-/
namespace Outbound

/-- A datagram socket whose state is `σ`. -/
structure Channel (σ : Type) where
  /-- Send one datagram; the answer counts its bytes. -/
  send : Turn → Bytes → σ → Answer Nat × σ
  /-- Receive one datagram, cut to so many bytes. -/
  receive : Turn → Nat → σ → Answer Bytes × σ

end Outbound
