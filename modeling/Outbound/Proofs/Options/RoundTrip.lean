import Outbound.Options.Dialer
import Outbound.Options.FakePackets
import Outbound.Options.Shaping
import Outbound.Options.Turn
import Outbound.Proofs.Address.Text
import Outbound.Proofs.Json.Record

/-!
# Settings and their texts

All settings come back from their texts, and a text that some fields are left out of is read as the
settings with these fields at their defaults (`settings_come_back`). For each type of settings it is
enough that every field is written under its name and that the reader finds it there.
-/
namespace Outbound

open Json (Codec Members Value)

namespace TlsFragmentOptions

/-- The settings with some fields at their defaults. -/
def reset (gone : List String) (options : TlsFragmentOptions) : TlsFragmentOptions :=
  let absent : TlsFragmentOptions := {}
  { enabled := if "enabled" ∈ gone then absent.enabled else options.enabled
    size := if "size" ∈ gone then absent.size else options.size
    sleep := if "sleep" ∈ gone then absent.sleep else options.sleep
    sniSplit := if "sni_split" ∈ gone then absent.sniSplit else options.sniSplit }

/-- Every field is written under its name. -/
theorem regular_members (options : TlsFragmentOptions) : Members.Regular names options.members :=
  (((Members.regular_write Codec.regular_bool _ _).append
    (Members.regular_write Codec.regular_text _ _)).append
    (Members.regular_write Codec.regular_text _ _)).append
    (Members.regular_write Codec.regular_bool _ _)

/-- What is left of the settings is read with the other fields at their defaults. -/
theorem read_without (options : TlsFragmentOptions) (gone : List String) :
    codec.read (.record (options.members.without gone)) = some (options.reset gone) := by
  refine options.regular_members.of_then (by decide) ?_
  refine Members.field_then Codec.regular_bool options.enabled
    (by simp [members, List.lookup_append]) ?_
  refine Members.field_then Codec.regular_text options.size
    (by simp [members, List.lookup_append]) ?_
  refine Members.field_then Codec.regular_text options.sleep
    (by simp [members, List.lookup_append]) ?_
  refine Members.field_then Codec.regular_bool options.sniSplit
    (by simp [members, List.lookup_append]) ?_
  rfl

/-- Settings come back from their text. -/
theorem faithful_codec : codec.Faithful reset :=
  Codec.faithful_record (fun _ => rfl) regular_members read_without fun _ => by simp [reset]

/-- Settings are read back as part of others. -/
theorem regular_codec : codec.Regular :=
  Codec.regular_record (fun _ => rfl) regular_members read_without fun _ => by simp [reset]

end TlsFragmentOptions

namespace FakePacketOptions

/-- The settings with some fields at their defaults. -/
def reset (gone : List String) (options : FakePacketOptions) : FakePacketOptions :=
  let absent : FakePacketOptions := {}
  { count := if "fake_packets" ∈ gone then absent.count else options.count
    size := if "fake_packets_size" ∈ gone then absent.size else options.size
    delay := if "fake_packets_delay" ∈ gone then absent.delay else options.delay
    mode := if "fake_packets_mode" ∈ gone then absent.mode else options.mode }

/-- Every field is written under its name. -/
theorem regular_members (options : FakePacketOptions) : Members.Regular names options.members :=
  (((Members.regular_write Codec.regular_text _ _).append
    (Members.regular_write Codec.regular_text _ _)).append
    (Members.regular_write Codec.regular_text _ _)).append
    (Members.regular_write Codec.regular_text _ _)

/-- What is left of the settings is read with the other fields at their defaults. -/
theorem read_without (options : FakePacketOptions) (gone : List String) :
    codec.read (.record (options.members.without gone)) = some (options.reset gone) := by
  refine options.regular_members.of_then (by decide) ?_
  refine Members.field_then Codec.regular_text options.count
    (by simp [members, List.lookup_append]) ?_
  refine Members.field_then Codec.regular_text options.size
    (by simp [members, List.lookup_append]) ?_
  refine Members.field_then Codec.regular_text options.delay
    (by simp [members, List.lookup_append]) ?_
  refine Members.field_then Codec.regular_text options.mode
    (by simp [members, List.lookup_append]) ?_
  rfl

/-- Settings come back from their text. -/
theorem faithful_codec : codec.Faithful reset :=
  Codec.faithful_record (fun _ => rfl) regular_members read_without fun _ => by simp [reset]

end FakePacketOptions

namespace ShapingOptions

/-- The settings with some fields at their defaults. -/
def reset (gone : List String) (options : ShapingOptions) : ShapingOptions :=
  let absent : ShapingOptions := {}
  { mixedCaseSni := if "mixedcase_sni" ∈ gone then absent.mixedCaseSni else options.mixedCaseSni
    paddingMode := if "padding_mode" ∈ gone then absent.paddingMode else options.paddingMode
    paddingSize := if "padding_size" ∈ gone then absent.paddingSize else options.paddingSize
    paddingSni := if "padding_sni" ∈ gone then absent.paddingSni else options.paddingSni }

/-- Every field is written under its name. -/
theorem regular_members (options : ShapingOptions) : Members.Regular names options.members :=
  (((Members.regular_write Codec.regular_bool _ _).append
    (Members.regular_write Codec.regular_text _ _)).append
    (Members.regular_write Codec.regular_text _ _)).append
    (Members.regular_write Codec.regular_text _ _)

/-- What is left of the settings is read with the other fields at their defaults. -/
theorem read_without (options : ShapingOptions) (gone : List String) :
    codec.read (.record (options.members.without gone)) = some (options.reset gone) := by
  refine options.regular_members.of_then (by decide) ?_
  refine Members.field_then Codec.regular_bool options.mixedCaseSni
    (by simp [members, List.lookup_append]) ?_
  refine Members.field_then Codec.regular_text options.paddingMode
    (by simp [members, List.lookup_append]) ?_
  refine Members.field_then Codec.regular_text options.paddingSize
    (by simp [members, List.lookup_append]) ?_
  refine Members.field_then Codec.regular_text options.paddingSni
    (by simp [members, List.lookup_append]) ?_
  rfl

/-- Settings come back from their text. -/
theorem faithful_codec : codec.Faithful reset :=
  Codec.faithful_record (fun _ => rfl) regular_members read_without fun _ => by simp [reset]

end ShapingOptions

namespace TunnelOptions

/-- The settings with some fields at their defaults. -/
def reset (gone : List String) (options : TunnelOptions) : TunnelOptions :=
  let absent : TunnelOptions := {}
  { enabled := if "enabled" ∈ gone then absent.enabled else options.enabled
    path := if "path" ∈ gone then absent.path else options.path
    host := if "host" ∈ gone then absent.host else options.host
    serverName := if "server_name" ∈ gone then absent.serverName else options.serverName
    insecure := if "insecure" ∈ gone then absent.insecure else options.insecure
    target := if "target" ∈ gone then absent.target else options.target }

/-- Every field is written under its name. -/
theorem regular_members (options : TunnelOptions) : Members.Regular names options.members :=
  (((((Members.regular_write Codec.regular_bool _ _).append
    (Members.regular_write Codec.regular_text _ _)).append
    (Members.regular_write Codec.regular_text _ _)).append
    (Members.regular_write Codec.regular_text _ _)).append
    (Members.regular_write Codec.regular_bool _ _)).append
    (Members.regular_write Codec.regular_text _ _)

/-- What is left of the settings is read with the other fields at their defaults. -/
theorem read_without (options : TunnelOptions) (gone : List String) :
    codec.read (.record (options.members.without gone)) = some (options.reset gone) := by
  refine options.regular_members.of_then (by decide) ?_
  refine Members.field_then Codec.regular_bool options.enabled
    (by simp [members, List.lookup_append]) ?_
  refine Members.field_then Codec.regular_text options.path
    (by simp [members, List.lookup_append]) ?_
  refine Members.field_then Codec.regular_text options.host
    (by simp [members, List.lookup_append]) ?_
  refine Members.field_then Codec.regular_text options.serverName
    (by simp [members, List.lookup_append]) ?_
  refine Members.field_then Codec.regular_bool options.insecure
    (by simp [members, List.lookup_append]) ?_
  refine Members.field_then Codec.regular_text options.target
    (by simp [members, List.lookup_append]) ?_
  rfl

/-- Settings come back from their text. -/
theorem faithful_codec : codec.Faithful reset :=
  Codec.faithful_record (fun _ => rfl) regular_members read_without fun _ => by simp [reset]

/-- Settings are read back as part of others. -/
theorem regular_codec : codec.Regular :=
  Codec.regular_record (fun _ => rfl) regular_members read_without fun _ => by simp [reset]

end TunnelOptions

namespace ServerOptions

/-- The settings with some fields at their defaults. -/
def reset (gone : List String) (options : ServerOptions) : ServerOptions :=
  let absent : ServerOptions := {}
  { server := if "server" ∈ gone then absent.server else options.server
    port := if "server_port" ∈ gone then absent.port else options.port }

/-- Every field is written under its name. -/
theorem regular_members (options : ServerOptions) : Members.Regular names options.members :=
  (Members.regular_write Codec.regular_text _ _).append
    (Members.regular_write Codec.regular_word16 _ _)

/-- Where the fields of the server are written, what is left of them is read. -/
theorem ofMembers_without (options : ServerOptions) (members : Members)
    (server : members.lookup "server" = some (Codec.text.write options.server))
    (port : members.lookup "server_port" = some (Codec.word16.write options.port))
    (gone : List String) : ofMembers (members.without gone) = some (options.reset gone) := by
  refine Members.field_then Codec.regular_text options.server server ?_
  refine Members.field_then Codec.regular_word16 options.port port ?_
  rfl

/-- What is left of the settings is read with the other fields at their defaults. -/
theorem read_without (options : ServerOptions) (gone : List String) :
    codec.read (.record (options.members.without gone)) = some (options.reset gone) := by
  refine options.regular_members.of_then (by decide) ?_
  exact options.ofMembers_without options.members (by simp [members, List.lookup_append])
    (by simp [members, List.lookup_append]) gone

/-- Settings come back from their text. -/
theorem faithful_codec : codec.Faithful reset :=
  Codec.faithful_record (fun _ => rfl) regular_members read_without fun _ => by simp [reset]

end ServerOptions

namespace TurnOptions

/-- The settings with some fields at their defaults. -/
def reset (gone : List String) (options : TurnOptions) : TurnOptions :=
  let absent : TurnOptions := {}
  { server := options.server.reset gone
    username := if "username" ∈ gone then absent.username else options.username
    password := if "password" ∈ gone then absent.password else options.password
    realm := if "realm" ∈ gone then absent.realm else options.realm }

/-- Every field is written under its name. -/
theorem regular_members (options : TurnOptions) : Members.Regular names options.members :=
  ((options.server.regular_members.append
    (Members.regular_write Codec.regular_text _ _)).append
    (Members.regular_write Codec.regular_text _ _)).append
    (Members.regular_write Codec.regular_text _ _)

/-- The members are sound and not nested. -/
theorem sound_flat (options : TurnOptions) :
    ∀ member ∈ options.members, member.2.isSound = true ∧ member.2.depth = 0 := by
  have port : (Codec.word16.write options.server.port).isSound = true :=
    Value.isSound_nat (Nat.lt_trans options.server.port.toNat_lt (by decide))
  intro member mem
  simp only [members, ServerOptions.members, Members.write, List.cons_append, List.nil_append,
    List.mem_cons, List.not_mem_nil, or_false] at mem
  obtain rfl | rfl | rfl | rfl | rfl := mem
  case inr.inl => exact ⟨port, rfl⟩
  all_goals exact ⟨rfl, rfl⟩

/-- What is left of the settings is read with the other fields at their defaults. -/
theorem read_without (options : TurnOptions) (gone : List String) :
    codec.read (.record (options.members.without gone)) = some (options.reset gone) := by
  have kept : ∀ member ∈ options.members.without gone, member ∈ options.members :=
    fun _ mem => List.mem_of_mem_filter mem
  have sound := Value.isSound_record fun member mem => (options.sound_flat member (kept _ mem)).1
  have depth := Value.depth_record fun member mem => (options.sound_flat member (kept _ mem)).2
  have server := options.server.ofMembers_without options.members
    (by simp [members, ServerOptions.members, List.lookup_append])
    (by simp [members, ServerOptions.members, List.lookup_append]) gone
  have accepted : ¬(!(Value.record (options.members.without gone)).isSound ||
      maxDepth < (Value.record (options.members.without gone)).depth) = true := by
    rw [sound, depth]
    decide
  refine (if_neg accepted).trans ?_
  refine options.regular_members.of_then (by decide) ?_
  rw [server, Option.bind_eq_bind, Option.bind_some]
  refine Members.field_then Codec.regular_text options.username
    (by simp [members, ServerOptions.members, List.lookup_append]) ?_
  refine Members.field_then Codec.regular_text options.password
    (by simp [members, ServerOptions.members, List.lookup_append]) ?_
  refine Members.field_then Codec.regular_text options.realm
    (by simp [members, ServerOptions.members, List.lookup_append]) ?_
  rfl

/-- Settings come back from their text. -/
theorem faithful_codec : codec.Faithful reset :=
  Codec.faithful_record (fun _ => rfl) regular_members read_without fun _ => by
    simp [reset, ServerOptions.reset]

end TurnOptions

namespace DialerOptions

/-- The settings with some fields at their defaults. -/
def reset (gone : List String) (options : DialerOptions) : DialerOptions :=
  let absent : DialerOptions := {}
  { bindInterface := if "bind_interface" ∈ gone then absent.bindInterface else options.bindInterface
    inet4BindAddress :=
      if "inet4_bind_address" ∈ gone then absent.inet4BindAddress else options.inet4BindAddress
    inet6BindAddress :=
      if "inet6_bind_address" ∈ gone then absent.inet6BindAddress else options.inet6BindAddress
    routingMark := if "routing_mark" ∈ gone then absent.routingMark else options.routingMark
    reuseAddr := if "reuse_addr" ∈ gone then absent.reuseAddr else options.reuseAddr
    protectPath := if "protect_path" ∈ gone then absent.protectPath else options.protectPath
    connectTimeoutMs :=
      if "connect_timeout_ms" ∈ gone then absent.connectTimeoutMs else options.connectTimeoutMs
    tcpFastOpen := if "tcp_fast_open" ∈ gone then absent.tcpFastOpen else options.tcpFastOpen
    tcpMultiPath := if "tcp_multi_path" ∈ gone then absent.tcpMultiPath else options.tcpMultiPath
    udpFragment := if "udp_fragment" ∈ gone then absent.udpFragment else options.udpFragment
    udpFragmentDefault :=
      if "udp_fragment_default" ∈ gone then absent.udpFragmentDefault
      else options.udpFragmentDefault
    tlsFragment := if "tls_fragment" ∈ gone then absent.tlsFragment else options.tlsFragment
    tunnel := if "tunnel" ∈ gone then absent.tunnel else options.tunnel
    isWireguardListener :=
      if "is_wireguard_listener" ∈ gone then absent.isWireguardListener
      else options.isWireguardListener }

/-- Every field is written under its name. -/
theorem regular_members (options : DialerOptions) : Members.Regular names options.members :=
  (((((((((((((Members.regular_writeOptional Codec.regular_text _ _).append
    (Members.regular_writeOptional (Codec.regular_spelled Ipv4.parse_text) _ _)).append
    (Members.regular_writeOptional (Codec.regular_spelled Ipv6.parse_text) _ _)).append
    (Members.regular_write Codec.regular_word32 _ _)).append
    (Members.regular_write Codec.regular_bool _ _)).append
    (Members.regular_writeOptional Codec.regular_text _ _)).append
    (Members.regular_writeOptional Codec.regular_word64 _ _)).append
    (Members.regular_write Codec.regular_bool _ _)).append
    (Members.regular_write Codec.regular_bool _ _)).append
    (Members.regular_writeOptional Codec.regular_bool _ _)).append
    (Members.regular_write Codec.regular_bool _ _)).append
    (Members.regular_writeOptional TlsFragmentOptions.regular_codec _ _)).append
    (Members.regular_write TunnelOptions.regular_codec _ _)).append
    (Members.regular_write Codec.regular_bool _ _)

/-- What is left of the settings is read with the other fields at their defaults. -/
theorem read_without (options : DialerOptions) (gone : List String) :
    codec.read (.record (options.members.without gone)) = some (options.reset gone) := by
  refine options.regular_members.of_then (by decide) ?_
  refine Members.optional_then Codec.regular_text options.bindInterface
    (by simp [members, List.lookup_append]) ?_
  refine Members.optional_then (Codec.regular_spelled Ipv4.parse_text) options.inet4BindAddress
    (by simp [members, List.lookup_append]) ?_
  refine Members.optional_then (Codec.regular_spelled Ipv6.parse_text) options.inet6BindAddress
    (by simp [members, List.lookup_append]) ?_
  refine Members.field_then Codec.regular_word32 options.routingMark
    (by simp [members, List.lookup_append]) ?_
  refine Members.field_then Codec.regular_bool options.reuseAddr
    (by simp [members, List.lookup_append]) ?_
  refine Members.optional_then Codec.regular_text options.protectPath
    (by simp [members, List.lookup_append]) ?_
  refine Members.optional_then Codec.regular_word64 options.connectTimeoutMs
    (by simp [members, List.lookup_append]) ?_
  refine Members.field_then Codec.regular_bool options.tcpFastOpen
    (by simp [members, List.lookup_append]) ?_
  refine Members.field_then Codec.regular_bool options.tcpMultiPath
    (by simp [members, List.lookup_append]) ?_
  refine Members.optional_then Codec.regular_bool options.udpFragment
    (by simp [members, List.lookup_append]) ?_
  refine Members.field_then Codec.regular_bool options.udpFragmentDefault
    (by simp [members, List.lookup_append]) ?_
  refine Members.optional_then TlsFragmentOptions.regular_codec options.tlsFragment
    (by simp [members, List.lookup_append]) ?_
  refine Members.field_then TunnelOptions.regular_codec options.tunnel
    (by simp [members, List.lookup_append]) ?_
  refine Members.field_then Codec.regular_bool options.isWireguardListener
    (by simp [members, List.lookup_append]) ?_
  rfl

/-- Settings come back from their text. -/
theorem faithful_codec : codec.Faithful reset :=
  Codec.faithful_record (fun _ => rfl) regular_members read_without fun _ => by simp [reset]

end DialerOptions

/-- All settings come back from their texts, also from texts that some fields are left out of. -/
theorem settings_come_back :
    DialerOptions.codec.Faithful DialerOptions.reset ∧
      TlsFragmentOptions.codec.Faithful TlsFragmentOptions.reset ∧
      FakePacketOptions.codec.Faithful FakePacketOptions.reset ∧
      ServerOptions.codec.Faithful ServerOptions.reset ∧
      TurnOptions.codec.Faithful TurnOptions.reset ∧
      TunnelOptions.codec.Faithful TunnelOptions.reset ∧
      ShapingOptions.codec.Faithful ShapingOptions.reset :=
  ⟨DialerOptions.faithful_codec, TlsFragmentOptions.faithful_codec,
    FakePacketOptions.faithful_codec, ServerOptions.faithful_codec, TurnOptions.faithful_codec,
    TunnelOptions.faithful_codec, ShapingOptions.faithful_codec⟩

end Outbound
