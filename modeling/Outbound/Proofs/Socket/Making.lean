import Outbound.Socket.Binder

/-!
# How sockets are made

A socket is made by requests to the host, one after another. Which requests were put to it and how
they were answered is told by a host that keeps them (`Host.recorded`): those of a `Preparation` in
its order, up to the first that is refused (`Preparation.Makes`). What a binder prepares for an
address never mixes two families: the local address is of the kind of the socket, and datagrams are
kept whole for every kind of address that the socket carries (`Binder.families_kept`).
-/
namespace Outbound.Socket

variable {κ σ α : Type}

/-! ## Requests -/

/-- A request that reached a host, and the answer. -/
inductive Request (κ : Type) where
  /-- For a socket. -/
  | create (domain : Domain) (transport : Transport) (answer : Except IoError κ)
  /-- To set a socket up. -/
  | set (socket : κ) (setting : Setting) (answer : Except IoError Unit)

namespace Host

/-- A call that has nothing to do with the making of sockets. -/
def unrecorded (call : σ → α × σ) (state : σ × List (Request κ)) : α × σ × List (Request κ) :=
  let (answer, next) := call state.1
  (answer, next, state.2)

/-- A host that keeps the requests by which sockets are made. -/
def recorded (host : Host κ σ) : Host κ (σ × List (Request κ)) where
  create domain transport state :=
    let (answer, next) := host.create domain transport state.1
    (answer, next, state.2 ++ [.create domain transport answer])
  set socket setting state :=
    let (answer, next) := host.set socket setting state.1
    (answer, next, state.2 ++ [.set socket setting answer])
  controls := host.controls
  protect socket path := unrecorded (host.protect socket path)
  connect socket destination timeout := unrecorded (host.connect socket destination timeout)
  pursue socket destination timeout turn :=
    unrecorded (host.pursue socket destination timeout turn)
  watch socket := unrecorded (host.watch socket)
  associate socket peer := unrecorded (host.associate socket peer)
  stream socket :=
    { write := fun turn buffer => unrecorded ((host.stream socket).write turn buffer)
      read := fun turn room => unrecorded ((host.stream socket).read turn room)
      flush := fun turn => unrecorded ((host.stream socket).flush turn)
      shutdown := fun turn => unrecorded ((host.stream socket).shutdown turn) }
  channel socket :=
    { send := fun turn datagram => unrecorded ((host.channel socket).send turn datagram)
      receive := fun turn room => unrecorded ((host.channel socket).receive turn room) }

/-- A request for a socket is kept with its answer. -/
theorem recorded_create (host : Host κ σ) (domain : Domain) (transport : Transport) (state : σ)
    (log : List (Request κ)) :
    host.recorded.create domain transport (state, log) =
      ((host.create domain transport state).1, (host.create domain transport state).2,
        log ++ [.create domain transport (host.create domain transport state).1]) := rfl

/-- A request to set a socket up is kept with its answer. -/
theorem recorded_set (host : Host κ σ) (socket : κ) (setting : Setting) (state : σ)
    (log : List (Request κ)) :
    host.recorded.set socket setting (state, log) =
      ((host.set socket setting state).1, (host.set socket setting state).2,
        log ++ [.set socket setting (host.set socket setting state).1]) := rfl

end Host

/-- How the settings of a socket go: what its host is asked for them, and how that ends. -/
inductive Applied (socket : κ) : List Setting → List (Request κ) → Except HostError Unit → Prop
  /-- None is left. -/
  | done : Applied socket [] [] (.ok ())
  /-- The first is granted, and the others follow. -/
  | granted {setting : Setting} {settings : List Setting} {requests : List (Request κ)}
      {result : Except HostError Unit} (sound : setting.fault? = none)
      (others : Applied socket settings requests result) :
      Applied socket (setting :: settings) (.set socket setting (.ok ()) :: requests) result
  /-- The first is refused, and nothing follows. -/
  | refused {setting : Setting} {settings : List Setting} {error : IoError}
      (sound : setting.fault? = none) :
      Applied socket (setting :: settings) [.set socket setting (.error error)]
        (.error (setting.refused error))
  /-- The first cannot be put to the host, and nothing follows. -/
  | faulty {setting : Setting} {settings : List Setting} {fault : HostError}
      (unsound : setting.fault? = some fault) :
      Applied socket (setting :: settings) [] (.error fault)

/-- How a preparation goes: what a host is asked for it, and how that ends. -/
inductive Preparation.Makes (preparation : Preparation) :
    List (Request κ) → Except HostError κ → Prop
  /-- There is no socket. -/
  | unmade (error : IoError) :
      Makes preparation [.create preparation.domain preparation.transport (.error error)]
        (.error (.io error))
  /-- There is a socket, and it is set up. -/
  | made {socket : κ} {requests : List (Request κ)} {result : Except HostError Unit}
      (applied : Applied socket preparation.settings requests result) :
      Makes preparation
        (.create preparation.domain preparation.transport (.ok socket) :: requests)
        (result.map fun () => socket)

/-- What a host is asked in a call, and how the call ends, go together in some way; and the call
goes the same on the host that keeps requests. -/
def Host.Tells (host : Host κ σ) (call : ∀ {σ : Type}, Host κ σ → σ → Except HostError α × σ)
    (way : List (Request κ) → Except HostError α → Prop) : Prop :=
  ∀ state log, ∃ requests result next, call host state = (result, next) ∧
    call host.recorded (state, log) = (result, next, log ++ requests) ∧ way requests result

/-- The first setting that fails ends the others. -/
theorem Host.tells_applyAll (host : Host κ σ) (socket : κ) (settings : List Setting) :
    host.Tells (fun host => host.applyAll socket settings) (Applied socket settings) := by
  intro state log
  induction settings generalizing state log with
  | nil =>
    refine ⟨[], .ok (), state, rfl, ?_, .done⟩
    rw [List.append_nil]
    rfl
  | cons setting settings ih =>
    dsimp only
    rw [applyAll, applyAll, apply, apply]
    cases fault : setting.fault? with
    | some found =>
      refine ⟨[], .error found, state, rfl, ?_, .faulty fault⟩
      rw [List.append_nil]
    | none =>
      rw [recorded_set]
      rcases host.set socket setting state with ⟨error | ⟨⟩, next⟩
      · exact ⟨_, _, next, rfl, rfl, .refused fault⟩
      · obtain ⟨requests, result, last, plain, noted, applied⟩ := ih next
          (log ++ [.set socket setting (.ok ())])
        refine ⟨_, result, last, plain, ?_, .granted fault applied⟩
        rw [List.append_assoc, List.singleton_append] at noted
        exact noted

/-- Set a socket up, and have it. -/
def Host.setUp (host : Host κ σ) (socket : κ) (settings : List Setting) (state : σ) :
    Except HostError κ × σ :=
  match host.applyAll socket settings state with
  | (.error error, state) => (.error error, state)
  | (.ok (), state) => (.ok socket, state)

/-- A socket is had once the last setting is granted. -/
theorem Host.tells_setUp (host : Host κ σ) (socket : κ) (settings : List Setting) :
    host.Tells (fun host => host.setUp socket settings) fun requests result =>
      ∃ outcome, Applied socket settings requests outcome ∧
        outcome.map (fun () => socket) = result := by
  intro state log
  obtain ⟨requests, outcome, next, plain, noted, applied⟩ :=
    host.tells_applyAll socket settings state log
  refine ⟨requests, _, next, ?_, ?_, outcome, applied, rfl⟩
  · dsimp only [setUp] at plain ⊢
    rw [plain]
    cases outcome <;> rfl
  · dsimp only [setUp] at noted ⊢
    rw [noted]
    cases outcome <;> rfl

/-- A socket is made as prepared. -/
theorem Binder.tells_prepare (host : Host κ σ) (preparation : Preparation) :
    host.Tells (fun host => prepare host preparation) preparation.Makes := by
  intro state log
  dsimp only
  rw [prepare, prepare, Host.recorded_create]
  rcases host.create preparation.domain preparation.transport state with ⟨error | socket, next⟩
  · exact ⟨_, _, next, rfl, rfl, .unmade error⟩
  · obtain ⟨requests, result, last, plain, noted, outcome, applied, rfl⟩ :=
      host.tells_setUp socket preparation.settings next
        (log ++ [.create preparation.domain preparation.transport (.ok socket)])
    rw [List.append_assoc, List.singleton_append] at noted
    exact ⟨_, _, last, plain, noted, .made applied⟩

/-- How two preparations go of which the second stands in where there is no socket for the first. -/
inductive Preparation.MakesEither (first second : Preparation) :
    List (Request κ) → Except HostError κ → Prop
  /-- There is a socket for the first. -/
  | first {socket : κ} {requests : List (Request κ)} {result : Except HostError κ}
      (makes : first.Makes (.create first.domain first.transport (.ok socket) :: requests) result) :
      MakesEither first second (.create first.domain first.transport (.ok socket) :: requests)
        result
  /-- There is none, and the second takes its place. -/
  | second {error : IoError} {requests : List (Request κ)} {result : Except HostError κ}
      (makes : second.Makes requests result) :
      MakesEither first second (.create first.domain first.transport (.error error) :: requests)
        result

section

variable {binder : Binder} {host : Host κ σ} {destination : Endpoint} {address : Ip}
  {state next : σ}

/-- A listening socket for one family is one preparation. -/
theorem Binder.listenSocket_single {family : Family}
    (chosen : binder.listenFamily destination.ip = (family, address)) (single : family ≠ .dual) :
    binder.listenSocket host destination state =
      prepare host (binder.listening host.controls destination family address) state := by
  rw [listenSocket, prepare]
  simp only [chosen, if_neg single]
  rcases host.create (binder.listening host.controls destination family address).domain
    (binder.listening host.controls destination family address).transport state with
    ⟨error | socket, next⟩
  · rfl
  · rfl

/-- A listening socket for both families is set up once it is there. -/
theorem Binder.listenSocket_dual {socket : κ}
    (chosen : binder.listenFamily destination.ip = (.dual, address))
    (there : host.create .v6 .datagrams state = (.ok socket, next)) :
    binder.listenSocket host destination state =
      host.setUp socket (binder.listening host.controls destination .dual address).settings
        next := by
  rw [listenSocket, chosen]
  simp only [listening, Family.domain, there]
  rfl

/-- Where there is no socket for both families, one of the fourth version takes its place. -/
theorem Binder.listenSocket_fallback {error : IoError}
    (chosen : binder.listenFamily destination.ip = (.dual, address))
    (missing : host.create .v6 .datagrams state = (.error error, next)) :
    binder.listenSocket host destination state =
      prepare host (binder.listening host.controls destination .v4 Family.v4.unspecified) next := by
  rw [listenSocket, chosen, prepare]
  simp only [listening, Family.domain, missing, if_true]
  rcases host.create .v4 .datagrams next with ⟨error | socket, last⟩
  · rfl
  · rfl

/-- A listening socket for one family is made as prepared. -/
theorem Binder.tells_listenSocket {family : Family}
    (chosen : binder.listenFamily destination.ip = (family, address)) (single : family ≠ .dual) :
    host.Tells (fun host => binder.listenSocket host destination)
      (binder.listening host.controls destination family address).Makes := by
  intro state log
  dsimp only
  rw [listenSocket_single chosen single, listenSocket_single chosen single]
  exact tells_prepare host (binder.listening host.controls destination family address) state log

/-- A listening socket for both families is made as prepared, or else one of the fourth version. -/
theorem Binder.tells_listenSocket_dual
    (chosen : binder.listenFamily destination.ip = (.dual, address)) :
    host.Tells (fun host => binder.listenSocket host destination)
      ((binder.listening host.controls destination .dual address).MakesEither
        (binder.listening host.controls destination .v4 Family.v4.unspecified)) := by
  intro state log
  have kept := host.recorded_create .v6 .datagrams state log
  rcases created : host.create .v6 .datagrams state with ⟨error | socket, next⟩
  · rw [created] at kept
    obtain ⟨requests, result, last, plain, noted, makes⟩ :=
      tells_prepare host (binder.listening host.controls destination .v4 Family.v4.unspecified) next
        (log ++ [.create .v6 .datagrams (.error error)])
    dsimp only at plain noted ⊢
    rw [List.append_assoc, List.singleton_append] at noted
    rw [listenSocket_fallback chosen created, listenSocket_fallback chosen kept]
    exact ⟨_, result, last, plain, noted, .second makes⟩
  · rw [created] at kept
    obtain ⟨requests, result, last, plain, noted, outcome, applied, rfl⟩ :=
      host.tells_setUp socket (binder.listening host.controls destination .dual address).settings
        next (log ++ [.create .v6 .datagrams (.ok socket)])
    dsimp only at plain noted ⊢
    rw [List.append_assoc, List.singleton_append] at noted
    rw [listenSocket_dual chosen created, listenSocket_dual chosen kept]
    exact ⟨_, _, last, plain, noted, .first (.made applied)⟩

end

/-! ## What is prepared -/

/-- The family of the addresses of one domain. -/
def Domain.family : Domain → Family
  | v4 => .v4
  | v6 => .v6

/-- The local address that is set for a domain. -/
def bindAddress (options : DialerOptions) : Domain → Option Ip
  | .v4 => options.inet4BindAddress.map .v4
  | .v6 => options.inet6BindAddress.map .v6

/-- The family of a domain has sockets of this domain. -/
theorem Domain.domain_family (domain : Domain) : domain.family.domain = domain := by
  cases domain <;> rfl

/-- The family of one domain is not both. -/
theorem Domain.family_ne_dual (domain : Domain) : domain.family ≠ .dual := by
  cases domain <;> exact fun same => by cases same

/-- The address that is set for a domain belongs to it. -/
theorem of_bindAddress {options : DialerOptions} {domain : Domain} {ip : Ip}
    (set : bindAddress options domain = some ip) : Domain.of ip = domain := by
  cases domain <;> obtain ⟨_, _, rfl⟩ := Option.map_eq_some_iff.mp set <;> rfl

/-- So does the address that stands for every address, where none is set. -/
theorem of_localAddress (options : DialerOptions) (domain : Domain) :
    Domain.of ((bindAddress options domain).getD domain.family.unspecified) = domain := by
  cases set : bindAddress options domain with
  | some ip => exact of_bindAddress set
  | none => cases domain <;> rfl

/-- The local address that a request is for. -/
def Setting.address? : Setting → Option Ip
  | bind address => some address
  | _ => none

/-- What a preparation is for addresses of a family, and for a local address if there is one. -/
structure Preparation.Suits (preparation : Preparation) (transport : Transport) (family : Family)
    (address : Option Ip) : Prop where
  /-- The socket carries what it is for. -/
  carries : preparation.transport = transport
  /-- It is of the domain of the family. -/
  kind : preparation.domain = family.domain
  /-- It speaks the other domain too just if the family is both. -/
  dual : .dualStack ∈ preparation.settings ↔ family = .dual
  /-- It is bound once, to the local address, or not at all if there is none. -/
  bound : preparation.settings.filterMap Setting.address? = address.toList
  /-- What it is bound to is of its own domain. -/
  own : ∀ ip, .bind ip ∈ preparation.settings → Domain.of ip = preparation.domain

/-- How a preparation keeps datagrams whole. -/
structure Preparation.KeepsWhole (preparation : Preparation) (options : DialerOptions)
    (family : Family) : Prop where
  /-- It does for every domain of the family, unless datagrams may be fragmented. -/
  covers : ∀ domain, .dontFragment domain ∈ preparation.settings ↔
    options.udpFragmentAllowed = false ∧ domain ∈ family.domains
  /-- All of it comes before the socket is bound. -/
  first : ∃ earlier ip later, preparation.settings = earlier ++ .bind ip :: later ∧
    ∀ domain, .dontFragment domain ∉ later

/-- How a binder makes the sockets that settings ask for. -/
structure Binder.KeepsFamilies (binder : Binder) (options : DialerOptions) : Prop where
  /-- A socket for connections is of the family of the destination. It is bound to the address that
  is set for this family, and to none if none is. -/
  tcp : ∀ {κ σ : Type} (host : Host κ σ) (destination : Endpoint), ∃ preparation : Preparation,
    host.Tells (fun host => binder.tcpSocket host destination) preparation.Makes ∧
    preparation.Suits (.connection options.tcpMultiPath) (Domain.of destination.ip).family
      (bindAddress options (.of destination.ip))
  /-- A socket for datagrams is of the family of the destination. It is bound to the address that is
  set for this family, and to the one that stands for every address if none is. -/
  udp : ∀ {κ σ : Type} (host : Host κ σ) (destination : Endpoint), ∃ preparation : Preparation,
    host.Tells (fun host => binder.udpSocket host destination) preparation.Makes ∧
    preparation.Suits .datagrams (Domain.of destination.ip).family
      ((bindAddress options (.of destination.ip)).getD
        (Domain.of destination.ip).family.unspecified) ∧
    preparation.KeepsWhole options (Domain.of destination.ip).family
  /-- So is a listening socket, unless the destination stands for every address of the fourth
  version and none is set for this family. -/
  listen : ∀ {κ σ : Type} (host : Host κ σ) (destination : Endpoint),
    destination.ip ≠ .v4 .unspecified ∨ options.inet4BindAddress.isSome →
    ∃ preparation : Preparation,
    host.Tells (fun host => binder.listenSocket host destination) preparation.Makes ∧
    preparation.Suits .datagrams (Domain.of destination.ip).family
      ((bindAddress options (.of destination.ip)).getD
        (Domain.of destination.ip).family.unspecified) ∧
    preparation.KeepsWhole options (Domain.of destination.ip).family
  /-- Then it is of both families, and of the fourth version if there is no socket of the sixth. It
  is bound to the address that stands for every address. -/
  listen_dual : ∀ {κ σ : Type} (host : Host κ σ) (destination : Endpoint),
    destination.ip = .v4 .unspecified → options.inet4BindAddress = none →
    ∃ both single : Preparation,
    host.Tells (fun host => binder.listenSocket host destination) (both.MakesEither single) ∧
    both.Suits .datagrams .dual (some (.v6 .unspecified)) ∧ both.KeepsWhole options .dual ∧
    single.Suits .datagrams .v4 (some (.v4 .unspecified)) ∧ single.KeepsWhole options .v4

/-- A request that has nothing to do with families. -/
def Setting.Neutral : Setting → Prop
  | dontFragment _ | dualStack | bind _ => False
  | _ => True

/-- Requests in the order in which every preparation lists them. -/
def layout (family : Family) (front : List Setting) (whole : Bool) (back : List Setting)
    (address : Option Ip) : List Setting :=
  (if family = .dual then [.dualStack] else []) ++ front ++
    (if whole then family.domains.map .dontFragment else []) ++ back ++
    (address.map .bind).toList ++ [.nonblocking]

section

variable {family : Family} {front back : List Setting} {whole : Bool} {address : Option Ip}
  (front_neutral : ∀ setting ∈ front, setting.Neutral)
  (back_neutral : ∀ setting ∈ back, setting.Neutral)

include front_neutral back_neutral

/-- A request that has to do with families is one of three kinds. -/
theorem mem_layout {setting : Setting} (concerned : ¬setting.Neutral) :
    setting ∈ layout family front whole back address ↔
      family = .dual ∧ setting = .dualStack ∨
      whole = true ∧ setting ∈ family.domains.map .dontFragment ∨
      setting ∈ (address.map .bind).toList := by
  have front : setting ∉ front := fun mem => concerned (front_neutral setting mem)
  have back : setting ∉ back := fun mem => concerned (back_neutral setting mem)
  have other : setting ≠ .nonblocking := by
    rintro rfl
    exact concerned trivial
  have dual : setting ∈ (if family = .dual then [Setting.dualStack] else []) ↔
      family = .dual ∧ setting = .dualStack := by
    split
    case isTrue both => simp only [both, List.mem_singleton, true_and]
    case isFalse single => simp only [single, List.not_mem_nil, false_and]
  have kept : setting ∈ (if whole then family.domains.map .dontFragment else []) ↔
      whole = true ∧ setting ∈ family.domains.map .dontFragment := by
    cases whole <;> simp
  simp only [layout, List.mem_append, List.mem_singleton, front, back, other, dual, kept, or_false,
    or_assoc]

/-- Of the settings in a layout, what is bound is the address. -/
theorem filterMap_layout :
    (layout family front whole back address).filterMap Setting.address? = address.toList := by
  have neutral (settings : List Setting) (each : ∀ setting ∈ settings, setting.Neutral) :
      settings.filterMap Setting.address? = [] := by
    refine List.filterMap_eq_nil_iff.mpr fun setting mem => ?_
    have unconcerned := each setting mem
    cases setting <;> trivial
  simp only [layout, List.filterMap_append, neutral front front_neutral, neutral back back_neutral]
  cases family <;> cases whole <;> cases address <;> rfl

variable (whole) in
/-- A preparation so laid out suits the family, if the address does. -/
theorem suits_of_layout {preparation : Preparation} {transport : Transport}
    (carries : preparation.transport = transport) (kind : preparation.domain = family.domain)
    (own : ∀ ip, address = some ip → Domain.of ip = family.domain)
    (laid : preparation.settings = layout family front whole back address) :
    preparation.Suits transport family address where
  carries := carries
  kind := kind
  dual := by
    rw [laid, mem_layout front_neutral back_neutral id]
    simp
  bound := by
    rw [laid]
    exact filterMap_layout front_neutral back_neutral
  own := by
    intro ip mem
    rw [laid, mem_layout front_neutral back_neutral id] at mem
    rw [kind]
    exact own ip (by simpa using mem)

/-- Datagrams are kept whole in such a layout before the socket is bound. -/
theorem keepsWhole_of_layout {preparation : Preparation} {options : DialerOptions} {ip : Ip}
    (forbidden : whole = !options.udpFragmentAllowed)
    (laid : preparation.settings = layout family front whole back (some ip)) :
    preparation.KeepsWhole options family where
  covers := by
    intro domain
    rw [laid, mem_layout front_neutral back_neutral id, forbidden]
    simp
  first := by
    refine ⟨_, ip, [.nonblocking], laid.trans (List.append_assoc _ _ _), ?_⟩
    intro domain mem
    cases List.mem_singleton.mp mem

end

/-- Requests that are made under a condition have nothing to do with families if they have not
anyway. -/
theorem neutral_ite (condition : Prop) [Decidable condition] (settings : List Setting)
    (neutral : ∀ setting ∈ settings, setting.Neutral) :
    ∀ setting ∈ if condition then settings else [], setting.Neutral := by
  split
  · exact neutral
  · exact List.forall_mem_nil _

namespace Binder

/-- Interface and mark have nothing to do with families. -/
theorem common_neutral (binder : Binder) (destination : Ip) :
    ∀ setting ∈ binder.common destination, setting.Neutral := by
  intro setting mem
  rcases List.mem_append.mp mem with interface | mark
  · obtain ⟨name, -, rfl⟩ := Option.map_eq_some_iff.mp (Option.mem_toList.mp interface)
    trivial
  · split at mark
    · cases mark
    · rw [List.mem_singleton.mp mark]
      trivial

/-- Datagrams are kept whole unless they may be fragmented. -/
theorem wholeDatagrams_eq (binder : Binder) (family : Family) :
    binder.wholeDatagrams family =
      if !binder.udpFragment then family.domains.map .dontFragment else [] := by
  rw [wholeDatagrams]
  cases binder.udpFragment <;> rfl

/-- A listening socket suits its family, if its address does. -/
theorem listening_suits {binder : Binder} {options : DialerOptions} {family : Family} {address : Ip}
    (fragment : binder.udpFragment = options.udpFragmentAllowed)
    (own : Domain.of address = family.domain) (controls : Nat) (destination : Endpoint) :
    (binder.listening controls destination family address).Suits .datagrams family address ∧
    (binder.listening controls destination family address).KeepsWhole options family := by
  have reuse := neutral_ite binder.listen.reuseAddress [.reuseAddress]
    (List.forall_mem_singleton.mpr trivial)
  have front := List.forall_mem_append.mpr ⟨binder.common_neutral destination.ip, reuse⟩
  have back := neutral_ite binder.listen.wireguard ((List.range controls).map .control)
    (List.forall_mem_map.mpr fun _ _ => trivial)
  refine ⟨suits_of_layout _ front back rfl rfl (fun ip same => Option.some_inj.mp same ▸ own) ?laid,
    keepsWhole_of_layout front back rfl ?laid⟩
  rw [listening, wholeDatagrams_eq, fragment, layout]
  simp only [List.append_assoc, Option.map_some, Option.toList_some, List.singleton_append]

/-- What a binder takes from the settings. -/
theorem ofOptions_inv {options : DialerOptions} {router : Option Router} {binder : Binder}
    {asked : List Question} (made : ofOptions options router = .ok (binder, asked)) :
    (∀ destination, binder.dialConfig destination =
      { family := (Domain.of destination.ip).family
        localAddress := bindAddress options (.of destination.ip)
        multipath := options.tcpMultiPath
        fastOpen := options.tcpFastOpen }) ∧
    binder.listen.inet4 = options.inet4BindAddress ∧
    binder.listen.inet6 = options.inet6BindAddress ∧
    binder.udpFragment = options.udpFragmentAllowed := by
  rw [ofOptions] at made
  split at made
  · cases made
  · cases made
    refine ⟨?_, rfl, rfl, rfl⟩
    rintro ⟨ip | ip, port, scope⟩ <;> rfl

/-- Whom a listening socket is for, unless it is for both families. -/
theorem listenFamily_of_pinned {binder : Binder} {options : DialerOptions} {destination : Ip}
    (inet4 : binder.listen.inet4 = options.inet4BindAddress)
    (inet6 : binder.listen.inet6 = options.inet6BindAddress)
    (pinned : destination ≠ .v4 .unspecified ∨ options.inet4BindAddress.isSome) :
    binder.listenFamily destination = ((Domain.of destination).family,
      (bindAddress options (.of destination)).getD (Domain.of destination).family.unspecified) := by
  cases destination with
  | v6 address =>
    rw [listenFamily, inet6]
    simp only [Domain.of, Domain.family, bindAddress, Family.unspecified, Option.getD_map]
  | v4 address =>
    rw [listenFamily, inet4]
    simp only [Domain.of, Domain.family, bindAddress, Family.unspecified]
    cases set : options.inet4BindAddress with
    | some bound =>
      split <;> rfl
    | none =>
      rw [set] at pinned
      have other : address ≠ .unspecified := by
        rintro rfl
        simp at pinned
      rw [if_neg other]
      rfl

section

variable {binder : Binder} {options : DialerOptions} {destination : Endpoint}
  (dials : binder.dialConfig destination =
    { family := (Domain.of destination.ip).family
      localAddress := bindAddress options (.of destination.ip)
      multipath := options.tcpMultiPath
      fastOpen := options.tcpFastOpen })

include dials

/-- A socket for connections suits the family of the destination. -/
theorem tcp_suits :
    (binder.tcp destination).Suits (.connection options.tcpMultiPath)
      (Domain.of destination.ip).family (bindAddress options (.of destination.ip)) := by
  have fast := neutral_ite options.tcpFastOpen [.fastOpen] (List.forall_mem_singleton.mpr trivial)
  have probed : ∀ setting ∈ [Setting.keepAlive keepAliveIdle keepAliveInterval], setting.Neutral :=
    List.forall_mem_singleton.mpr trivial
  have front := List.forall_mem_append.mpr ⟨binder.common_neutral destination.ip,
    List.forall_mem_append.mpr ⟨probed, fast⟩⟩
  refine suits_of_layout false front (List.forall_mem_nil _) ?_ ?_ ?_ ?_
  · rw [tcp, dials]
  · exact (Domain.domain_family _).symm
  · intro ip set
    rw [Domain.domain_family]
    exact of_bindAddress set
  · rw [tcp, dials, layout, if_neg (Domain.family_ne_dual _)]
    simp only [List.append_assoc, List.nil_append, Bool.false_eq_true, if_false]

/-- A socket for datagrams to one destination suits its family. -/
theorem udp_suits (fragment : binder.udpFragment = options.udpFragmentAllowed) :
    (binder.udp destination).Suits .datagrams (Domain.of destination.ip).family
      ((bindAddress options (.of destination.ip)).getD
        (Domain.of destination.ip).family.unspecified) ∧
    (binder.udp destination).KeepsWhole options (Domain.of destination.ip).family := by
  refine ⟨suits_of_layout _ (binder.common_neutral destination.ip) (List.forall_mem_nil _) ?_ ?_ ?_
    ?laid, keepsWhole_of_layout (binder.common_neutral destination.ip) (List.forall_mem_nil _) rfl
    ?laid⟩
  · rfl
  · exact (Domain.domain_family _).symm
  · intro ip same
    rw [Domain.domain_family, ← Option.some_inj.mp same]
    exact of_localAddress options _
  · rw [udp, dials, wholeDatagrams_eq, fragment, layout, if_neg (Domain.family_ne_dual _)]
    simp only [List.append_assoc, List.nil_append, Option.map_some, Option.toList_some,
      List.singleton_append]

end

end Binder

/-- Sockets and the addresses they are bound to never mix families, whatever the settings, the
router and the destination. A socket is made by requests that end with the first that is refused.
Its family is that of the destination, but for a listening socket whose destination stands for every
address; it is bound to an address of its own family, which is the one that is set, if any; and
datagrams of every family it carries are kept whole, unless they may be fragmented. -/
theorem Binder.families_kept {options : DialerOptions} {router : Option Router} {binder : Binder}
    {asked : List Question} (made : ofOptions options router = .ok (binder, asked)) :
    binder.KeepsFamilies options := by
  obtain ⟨dials, inet4, inet6, fragment⟩ := ofOptions_inv made
  exact
    { tcp := fun host destination =>
        ⟨_, tells_prepare host (binder.tcp destination), tcp_suits (dials destination)⟩
      udp := fun host destination =>
        ⟨_, tells_prepare host (binder.udp destination), udp_suits (dials destination) fragment⟩
      listen := by
        intro κ σ host destination pinned
        have chosen := binder.listenFamily_of_pinned inet4 inet6 pinned
        exact ⟨_, tells_listenSocket chosen (Domain.family_ne_dual _),
          listening_suits fragment ((of_localAddress options _).trans (Domain.domain_family _).symm)
            host.controls destination⟩
      listen_dual := by
        intro κ σ host destination every unset
        have chosen : binder.listenFamily destination.ip = (.dual, .v6 .unspecified) := by
          rw [every, listenFamily, if_pos rfl, inet4, unset]
          rfl
        have both_own : Domain.of (.v6 .unspecified) = Family.dual.domain := rfl
        have single_own : Domain.of (.v4 .unspecified) = Family.v4.domain := rfl
        obtain ⟨both, both_whole⟩ :=
          listening_suits fragment both_own host.controls destination
        obtain ⟨single, single_whole⟩ :=
          listening_suits fragment single_own host.controls destination
        exact ⟨_, _, tells_listenSocket_dual chosen, both, both_whole, single, single_whole⟩ }

/-- A binder whose sockets of the fourth version are bound to the local host. -/
theorem Binder.families_kept_pinned :
    ∃ binder asked, ofOptions { inet4BindAddress := some .localhost } none = .ok (binder, asked) ∧
      binder.KeepsFamilies { inet4BindAddress := some .localhost } := by
  obtain ⟨binder, asked, made⟩ : ∃ binder asked,
      ofOptions { inet4BindAddress := some .localhost } none = .ok (binder, asked) := ⟨_, _, rfl⟩
  exact ⟨binder, asked, made, families_kept made⟩

end Outbound.Socket
