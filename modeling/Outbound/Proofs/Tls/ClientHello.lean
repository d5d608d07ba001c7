import Outbound.Proofs.Tls.Span
import Outbound.Proofs.Tls.Window

/-!
# The grammar of a ClientHello

`ClientHello` describes the messages in which a host name is found: five nested counted parts,
with whatever stands before the name passed over and whatever stands after it left alone. Its
octets are `ClientHello.encode`, and `ClientHello.hostSpan` counts the octets written before the
name. `ServerName.locate` finds a span exactly in those messages, and finds that one; each step
of the walk has one lemma that says so for its own part of the message.
-/
namespace Outbound.Tls

namespace ServerName

/-! ## The parts of a message -/

/-- A server name in a list of them. -/
structure NameEntry where
  /-- What kind of name it is. -/
  type : UInt8
  /-- The name. -/
  name : Bytes
  /-- The name can be counted. -/
  fits : name.length < 65536

/-- The octets of a server name. -/
def NameEntry.encode (entry : NameEntry) : Bytes := entry.type :: Bytes.counted16 entry.name

/-- A list of server names that holds a host name. -/
structure NameList where
  /-- The names before the host name. -/
  skipped : List NameEntry
  /-- The host name. -/
  host : Bytes
  /-- What follows in the list. -/
  rest : Bytes
  /-- The names before it are no host names. -/
  foreign : ∀ entry ∈ skipped, entry.type ≠ hostNameType
  /-- The host name is not empty. -/
  named : host ≠ []
  /-- The host name can be counted. -/
  fits : host.length < 65536

/-- The octets of a list of server names. -/
def NameList.encode (list : NameList) : Bytes :=
  list.skipped.flatMap NameEntry.encode ++ hostNameType :: (Bytes.counted16 list.host ++ list.rest)

/-- The span of the host name in a list that starts at `offset`. -/
def NameList.hostAt (offset : Nat) (list : NameList) : Span :=
  .covering (offset + (list.skipped.flatMap NameEntry.encode).length + 1 + 2) list.host

/-- The data of an extension that carries server names. -/
structure NameExtension where
  /-- The server names. -/
  list : NameList
  /-- What follows in the extension. -/
  rest : Bytes
  /-- The list can be counted. -/
  fits : list.encode.length < 65536

/-- The octets of the data. -/
def NameExtension.encode (extension : NameExtension) : Bytes :=
  Bytes.counted16 extension.list.encode ++ extension.rest

/-- The span of the host name in data that starts at `offset`. -/
def NameExtension.hostAt (offset : Nat) (extension : NameExtension) : Span :=
  extension.list.hostAt (offset + 2)

/-- An extension. -/
structure Extension where
  /-- What the extension is about. -/
  type : UInt16
  /-- Its data. -/
  data : Bytes
  /-- The data can be counted. -/
  fits : data.length < 65536

/-- The octets of an extension. -/
def Extension.encode (extension : Extension) : Bytes :=
  Bytes.word16Bytes extension.type ++ Bytes.counted16 extension.data

/-- A block of extensions of which one carries server names. -/
structure ExtensionBlock where
  /-- The extensions before that one. -/
  skipped : List Extension
  /-- The data of the first extension that carries server names. -/
  names : NameExtension
  /-- What follows in the block. -/
  rest : Bytes
  /-- The extensions before it are about something else. -/
  foreign : ∀ extension ∈ skipped, extension.type.toNat ≠ extensionType
  /-- The data can be counted. -/
  fits : names.encode.length < 65536

/-- The octets of a block of extensions. -/
def ExtensionBlock.encode (block : ExtensionBlock) : Bytes :=
  block.skipped.flatMap Extension.encode ++ (Bytes.word16Bytes (UInt16.ofNat extensionType) ++
    (Bytes.counted16 block.names.encode ++ block.rest))

/-- The span of the host name in a block that starts at `offset`. -/
def ExtensionBlock.hostAt (offset : Nat) (block : ExtensionBlock) : Span :=
  block.names.hostAt (offset + (block.skipped.flatMap Extension.encode).length + 2 + 2)

/-- The parts of a message after its length. -/
structure HelloMessage where
  /-- The version of the client. -/
  version : Bytes
  /-- The random octets. -/
  random : Bytes
  /-- The session id. -/
  sessionId : Bytes
  /-- The cipher suites. -/
  cipherSuites : Bytes
  /-- The compression methods. -/
  compressionMethods : Bytes
  /-- The extensions. -/
  block : ExtensionBlock
  /-- What follows in the message. -/
  rest : Bytes
  /-- A version has two octets. -/
  versionLength : version.length = 2
  /-- There are thirty-two random octets. -/
  randomLength : random.length = 32
  /-- The session id can be counted. -/
  sessionIdFits : sessionId.length < 256
  /-- The cipher suites can be counted. -/
  cipherSuitesFit : cipherSuites.length < 65536
  /-- The compression methods can be counted. -/
  compressionMethodsFit : compressionMethods.length < 256
  /-- The extensions can be counted. -/
  fits : block.encode.length < 65536

/-- The octets of the parts of a message after its length. -/
def HelloMessage.encode (message : HelloMessage) : Bytes :=
  message.version ++ (message.random ++ (Bytes.counted8 message.sessionId ++
    (Bytes.counted16 message.cipherSuites ++ (Bytes.counted8 message.compressionMethods ++
      (Bytes.counted16 message.block.encode ++ message.rest)))))

/-- The span of the host name in a message whose parts start at `offset`. -/
def HelloMessage.hostAt (offset : Nat) (message : HelloMessage) : Span :=
  message.block.hostAt (offset + 2 + 32 + 1 + message.sessionId.length + 2 +
    message.cipherSuites.length + 1 + message.compressionMethods.length + 2)

end ServerName

/-- A ClientHello that carries a host name, and what follows it. -/
structure ClientHello where
  /-- The parts of the message after its length. -/
  message : ServerName.HelloMessage
  /-- What follows the message. -/
  rest : Bytes
  /-- The message can be counted. -/
  fits : message.encode.length < 16777216

namespace ClientHello

/-- The octets of a ClientHello and of what follows it. -/
def encode (hello : ClientHello) : Bytes :=
  clientHelloType :: (Bytes.counted24 hello.message.encode ++ hello.rest)

/-- The host name carried. -/
def host (hello : ClientHello) : Bytes := hello.message.block.names.list.host

/-- The span of the host name. -/
def hostSpan (hello : ClientHello) : Span := hello.message.hostAt 4

end ClientHello

namespace ServerName

/-! ## Names and extensions in front -/

/-- The list with one more name in front. -/
def NameList.cons (entry : NameEntry) (other : entry.type ≠ hostNameType) (list : NameList) :
    NameList :=
  { list with
    skipped := entry :: list.skipped
    foreign := List.forall_mem_cons.mpr ⟨other, list.foreign⟩ }

/-- The octets of one more name come first. -/
theorem NameList.encode_cons (entry : NameEntry) (other : entry.type ≠ hostNameType)
    (list : NameList) :
    (cons entry other list).encode =
      entry.type :: (Bytes.counted16 entry.name ++ list.encode) := by
  simp [cons, encode, NameEntry.encode]

/-- One more name moves the host name by its octets. -/
theorem NameList.hostAt_cons (entry : NameEntry) (other : entry.type ≠ hostNameType)
    (list : NameList) (offset : Nat) :
    (cons entry other list).hostAt offset =
      list.hostAt (offset + 1 + 2 + entry.name.length) := by
  simp only [cons, hostAt, NameEntry.encode, List.flatMap_cons, List.length_append,
    List.length_cons, Bytes.length_counted16]
  congr 1
  omega

/-- The block with one more extension in front. -/
def ExtensionBlock.cons (extension : Extension) (other : extension.type.toNat ≠ extensionType)
    (block : ExtensionBlock) : ExtensionBlock :=
  { block with
    skipped := extension :: block.skipped
    foreign := List.forall_mem_cons.mpr ⟨other, block.foreign⟩ }

/-- The octets of one more extension come first. -/
theorem ExtensionBlock.encode_cons (extension : Extension)
    (other : extension.type.toNat ≠ extensionType) (block : ExtensionBlock) :
    (cons extension other block).encode =
      Bytes.word16Bytes extension.type ++ (Bytes.counted16 extension.data ++ block.encode) := by
  simp [cons, encode, Extension.encode]

/-- One more extension moves the host name by its octets. -/
theorem ExtensionBlock.hostAt_cons (extension : Extension)
    (other : extension.type.toNat ≠ extensionType) (block : ExtensionBlock) (offset : Nat) :
    (cons extension other block).hostAt offset =
      block.hostAt (offset + 2 + 2 + extension.data.length) := by
  simp only [cons, hostAt, Extension.encode, List.flatMap_cons, List.length_append,
    Bytes.length_word16Bytes, Bytes.length_counted16]
  congr 1
  omega

/-! ## The walk finds the host name of a message -/

/-- The walk of a list of server names finds its host name, given a round for each octet. -/
theorem inList_encode {entries : Nat} (list : NameList) (offset : Nat)
    (enough : list.encode.length ≤ entries) :
    inList entries ⟨offset, list.encode⟩ = .ok (list.hostAt offset) := by
  induction entries generalizing list offset with
  | zero => simp [NameList.encode] at enough
  | succ entries ih =>
    obtain ⟨skipped, host, rest, foreign, named, fits⟩ := list
    cases skipped with
    | nil =>
      have positive : host.length ≠ 0 := fun empty => named (List.length_eq_zero_iff.mp empty)
      simp only [NameList.encode, NameList.hostAt, List.flatMap_nil, List.nil_append, inList,
        reduceCtorEq, if_false, bind, Except.bind, Window.word8_cons,
        Window.word16_counted16 _ fits, ne_eq, not_true_eq_false, Window.skip_append, positive,
        List.length_nil, Nat.add_zero, Span.covering]
    | cons entry skipped =>
      obtain ⟨other, foreign⟩ := List.forall_mem_cons.mp foreign
      let list : NameList := ⟨skipped, host, rest, foreign, named, fits⟩
      change (NameList.cons entry other list).encode.length ≤ _ at enough
      change inList _ ⟨offset, (NameList.cons entry other list).encode⟩ =
        .ok ((NameList.cons entry other list).hostAt offset)
      rw [NameList.encode_cons] at enough ⊢
      have found := ih list (offset + 1 + 2 + entry.name.length) (by
        simp only [List.length_cons, List.length_append] at enough
        omega)
      simp only [inList, reduceCtorEq, if_false, bind, Except.bind, Window.word8_cons,
        Window.word16_counted16 _ entry.fits, ne_eq, other, not_false_eq_true, if_true,
        Window.skip_append, found, NameList.hostAt_cons]

/-- The walk of an extension that carries server names finds the host name. -/
theorem inExtension_encode (extension : NameExtension) (offset : Nat) :
    inExtension ⟨offset, extension.encode⟩ = .ok (extension.hostAt offset) := by
  simp only [inExtension, NameExtension.encode, bind, Except.bind,
    Window.word16_counted16 _ extension.fits, Window.part_append,
    inList_encode _ _ (Nat.le_refl _), NameExtension.hostAt]

/-- The walk of a block of extensions finds the host name, given a round for each octet. -/
theorem inExtensions_encode {extensions : Nat} (block : ExtensionBlock) (offset : Nat)
    (enough : block.encode.length ≤ extensions) :
    inExtensions extensions ⟨offset, block.encode⟩ = .ok (block.hostAt offset) := by
  have nonempty : ∀ (word : UInt16) (rest : Bytes), Bytes.word16Bytes word ++ rest ≠ [] :=
    fun word rest empty => by simp [Bytes.word16Bytes] at empty
  induction extensions generalizing block offset with
  | zero => simp [ExtensionBlock.encode, Bytes.word16Bytes] at enough
  | succ extensions ih =>
    obtain ⟨skipped, names, rest, foreign, fits⟩ := block
    cases skipped with
    | nil =>
      simp only [ExtensionBlock.encode, ExtensionBlock.hostAt, List.flatMap_nil, List.nil_append,
        inExtensions, nonempty, if_false, bind, Except.bind, Window.word16_word16Bytes,
        Window.word16_counted16 _ fits, show (UInt16.ofNat extensionType).toNat = extensionType
          from rfl, ne_eq, not_true_eq_false, Window.part_append, inExtension_encode,
        List.length_nil, Nat.add_zero]
    | cons extension skipped =>
      obtain ⟨other, foreign⟩ := List.forall_mem_cons.mp foreign
      let block : ExtensionBlock := ⟨skipped, names, rest, foreign, fits⟩
      change (ExtensionBlock.cons extension other block).encode.length ≤ _ at enough
      change inExtensions _ ⟨offset, (ExtensionBlock.cons extension other block).encode⟩ =
        .ok ((ExtensionBlock.cons extension other block).hostAt offset)
      rw [ExtensionBlock.encode_cons] at enough ⊢
      have found := ih block (offset + 2 + 2 + extension.data.length) (by
        simp only [List.length_append, Bytes.length_word16Bytes] at enough
        omega)
      simp only [inExtensions, nonempty, if_false, bind, Except.bind, Window.word16_word16Bytes,
        Window.word16_counted16 _ extension.fits, ne_eq, other, not_false_eq_true, if_true,
        Window.skip_append, found, ExtensionBlock.hostAt_cons]

/-- The walk of the parts of a message finds the host name. -/
theorem inMessage_encode (message : HelloMessage) (offset : Nat) :
    inMessage ⟨offset, message.encode⟩ = .ok (message.hostAt offset) := by
  have version (rest : Bytes) : (Window.mk offset (message.version ++ rest)).skip .clientVersion 2 =
      .ok ⟨offset + 2, rest⟩ :=
    message.versionLength ▸ Window.skip_append offset message.version rest
  have random (rest : Bytes) :
      (Window.mk (offset + 2) (message.random ++ rest)).skip .random 32 =
        .ok ⟨offset + 2 + 32, rest⟩ :=
    message.randomLength ▸ Window.skip_append (offset + 2) message.random rest
  have nonempty : Bytes.counted16 message.block.encode ++ message.rest ≠ [] :=
    fun empty => by simp [Bytes.counted16, Bytes.word16Bytes] at empty
  simp only [inMessage, HelloMessage.encode, bind, Except.bind, version, random,
    Window.word8_counted8, UInt8.toNat_ofNat_of_lt' message.sessionIdFits,
    UInt8.toNat_ofNat_of_lt' message.compressionMethodsFit, Window.skip_append,
    Window.word16_counted16 _ message.cipherSuitesFit, nonempty, if_false,
    Window.word16_counted16 _ message.fits, Window.part_append,
    inExtensions_encode _ _ (Nat.le_refl _), HelloMessage.hostAt]

/-- The walk of a ClientHello finds its host name. -/
theorem locate_encode (hello : ClientHello) : locate hello.encode = .ok hello.hostSpan := by
  simp only [locate, ClientHello.encode, bind, Except.bind, Window.word8_cons, ne_eq,
    not_true_eq_false, if_false, Window.word24_counted24 _ hello.fits, Window.part_append,
    inMessage_encode, ClientHello.hostSpan]

/-! ## Only messages of the grammar have a host name -/

/-- A list in which the walk finds a host name is a list of the grammar, and the span found is
that of its host name. -/
theorem exists_list_of_inList {entries : Nat} {window : Window} {span : Span}
    (found : inList entries window = .ok span) :
    ∃ list : NameList, list.encode = window.bytes ∧ list.hostAt window.offset = span := by
  induction entries generalizing window with
  | zero => cases found
  | succ entries ih =>
    rw [inList] at found
    split at found
    · cases found
    · obtain ⟨⟨type, afterType⟩, typed, found⟩ := bind_eq_ok.mp found
      obtain ⟨⟨length, afterLength⟩, counted, found⟩ := bind_eq_ok.mp found
      obtain ⟨octets, place⟩ := Window.bytes_of_word8 typed
      dsimp only at found
      split at found
      · next other =>
        obtain ⟨next, skipped, found⟩ := bind_eq_ok.mp found
        obtain ⟨name, fits, -, following, placed⟩ := Window.counted16_of_skip counted skipped
        obtain ⟨list, encoded, located⟩ := ih found
        refine ⟨NameList.cons ⟨type, name, fits⟩ other list, ?_, ?_⟩
        · rw [NameList.encode_cons, encoded, octets, following]
        · rw [NameList.hostAt_cons, ← located, placed, place]
      · next same =>
        obtain ⟨next, skipped, found⟩ := bind_eq_ok.mp found
        obtain ⟨host, fits, exact, following, -⟩ := Window.counted16_of_skip counted skipped
        obtain ⟨-, -, placed⟩ := Window.bytes_of_word16 counted
        split at found
        · cases found
        · next positive =>
          cases found
          have named : host ≠ [] := fun empty => positive (by rw [← exact, empty]; rfl)
          refine ⟨⟨[], host, next.bytes, by simp, named, fits⟩, ?_, ?_⟩
          · rw [octets, following, Decidable.not_not.mp same]
            rfl
          · simp only [NameList.hostAt, Span.covering, List.flatMap_nil, List.length_nil,
              Nat.add_zero, placed, place, exact]

/-- The same of an extension that carries server names. -/
theorem exists_extension_of_inExtension {window : Window} {span : Span}
    (found : inExtension window = .ok span) :
    ∃ extension : NameExtension,
      extension.encode = window.bytes ∧ extension.hostAt window.offset = span := by
  obtain ⟨⟨length, afterLength⟩, counted, found⟩ := bind_eq_ok.mp found
  obtain ⟨⟨data, rest⟩, parted, found⟩ := bind_eq_ok.mp found
  obtain ⟨fits, octets, place⟩ := Window.counted16_of_part counted parted
  obtain ⟨list, encoded, located⟩ := exists_list_of_inList found
  refine ⟨⟨list, rest.bytes, encoded ▸ fits⟩, ?_, ?_⟩
  · simp only [NameExtension.encode, encoded, octets]
  · rw [NameExtension.hostAt, ← place, located]

/-- The same of a block of extensions. -/
theorem exists_block_of_inExtensions {extensions : Nat} {window : Window} {span : Span}
    (found : inExtensions extensions window = .ok span) :
    ∃ block : ExtensionBlock,
      block.encode = window.bytes ∧ block.hostAt window.offset = span := by
  induction extensions generalizing window with
  | zero => cases found
  | succ extensions ih =>
    rw [inExtensions] at found
    split at found
    · cases found
    · obtain ⟨⟨type, afterType⟩, typed, found⟩ := bind_eq_ok.mp found
      obtain ⟨⟨length, afterLength⟩, counted, found⟩ := bind_eq_ok.mp found
      obtain ⟨bound, octets, place⟩ := Window.bytes_of_word16 typed
      dsimp only at found
      split at found
      · next other =>
        obtain ⟨next, skipped, found⟩ := bind_eq_ok.mp found
        obtain ⟨data, fits, -, following, placed⟩ := Window.counted16_of_skip counted skipped
        obtain ⟨block, encoded, located⟩ := ih found
        have kind : (UInt16.ofNat type).toNat ≠ extensionType := by
          rwa [UInt16.toNat_ofNat_of_lt' bound]
        refine ⟨ExtensionBlock.cons ⟨UInt16.ofNat type, data, fits⟩ kind block, ?_, ?_⟩
        · rw [ExtensionBlock.encode_cons, encoded, octets, following]
        · rw [ExtensionBlock.hostAt_cons, ← located, placed, place]
      · next same =>
        obtain ⟨⟨data, rest⟩, parted, found⟩ := bind_eq_ok.mp found
        obtain ⟨fits, following, placed⟩ := Window.counted16_of_part counted parted
        obtain ⟨names, encoded, located⟩ := exists_extension_of_inExtension found
        refine ⟨⟨[], names, rest.bytes, by simp, encoded ▸ fits⟩, ?_, ?_⟩
        · simp only [ExtensionBlock.encode, List.flatMap_nil, List.nil_append, encoded, octets,
            following, Decidable.not_not.mp same]
        · simp only [ExtensionBlock.hostAt, List.flatMap_nil, List.length_nil, Nat.add_zero,
            ← located, placed, place]

/-- The same of the parts of a message. -/
theorem exists_message_of_inMessage {window : Window} {span : Span}
    (found : inMessage window = .ok span) :
    ∃ message : HelloMessage,
      message.encode = window.bytes ∧ message.hostAt window.offset = span := by
  obtain ⟨afterVersion, versionRead, found⟩ := bind_eq_ok.mp found
  obtain ⟨afterRandom, randomRead, found⟩ := bind_eq_ok.mp found
  obtain ⟨⟨sessionCount, session⟩, sessionCounted, found⟩ := bind_eq_ok.mp found
  obtain ⟨afterSession, sessionRead, found⟩ := bind_eq_ok.mp found
  obtain ⟨⟨suitesCount, suites⟩, suitesCounted, found⟩ := bind_eq_ok.mp found
  obtain ⟨afterSuites, suitesRead, found⟩ := bind_eq_ok.mp found
  obtain ⟨⟨methodsCount, methods⟩, methodsCounted, found⟩ := bind_eq_ok.mp found
  obtain ⟨afterMethods, methodsRead, found⟩ := bind_eq_ok.mp found
  split at found
  · cases found
  · obtain ⟨⟨blockCount, blockStart⟩, blockCounted, found⟩ := bind_eq_ok.mp found
    obtain ⟨⟨data, rest⟩, parted, found⟩ := bind_eq_ok.mp found
    obtain ⟨version, versionLength, versionOctets, versionPlace⟩ :=
      Window.bytes_of_skip versionRead
    obtain ⟨random, randomLength, randomOctets, randomPlace⟩ := Window.bytes_of_skip randomRead
    obtain ⟨sessionId, sessionFits, sessionOctets, sessionPlace⟩ :=
      Window.counted8_of_skip sessionCounted sessionRead
    obtain ⟨cipherSuites, suitesFit, -, suitesOctets, suitesPlace⟩ :=
      Window.counted16_of_skip suitesCounted suitesRead
    obtain ⟨compressionMethods, methodsFit, methodsOctets, methodsPlace⟩ :=
      Window.counted8_of_skip methodsCounted methodsRead
    obtain ⟨fits, blockOctets, blockPlace⟩ := Window.counted16_of_part blockCounted parted
    obtain ⟨block, encoded, located⟩ := exists_block_of_inExtensions found
    refine ⟨⟨version, random, sessionId, cipherSuites, compressionMethods, block, rest.bytes,
      versionLength, randomLength, sessionFits, suitesFit, methodsFit, encoded ▸ fits⟩, ?_, ?_⟩
    · simp only [HelloMessage.encode, versionOctets, randomOctets, sessionOctets, suitesOctets,
        methodsOctets, blockOctets, encoded]
    · rw [HelloMessage.hostAt, ← located, blockPlace, methodsPlace, suitesPlace, sessionPlace,
        randomPlace, versionPlace]

/-- A buffer in which the walk finds a host name is a ClientHello of the grammar. -/
theorem exists_hello_of_locate {body : Bytes} {span : Span} (found : locate body = .ok span) :
    ∃ hello : ClientHello, hello.encode = body ∧ hello.hostSpan = span := by
  obtain ⟨⟨type, afterType⟩, typed, found⟩ := bind_eq_ok.mp found
  obtain ⟨octets, place⟩ := Window.bytes_of_word8 typed
  dsimp only at found
  split at found
  · cases found
  · next same =>
    obtain ⟨⟨length, afterLength⟩, counted, found⟩ := bind_eq_ok.mp found
    obtain ⟨⟨data, rest⟩, parted, found⟩ := bind_eq_ok.mp found
    obtain ⟨bound, lengthOctets, lengthPlace⟩ := Window.bytes_of_word24 counted
    obtain ⟨exact, dataOctets, dataPlace⟩ := Window.bytes_of_part parted
    obtain ⟨message, encoded, located⟩ := exists_message_of_inMessage found
    refine ⟨⟨message, rest.bytes, ?_⟩, ?_, ?_⟩
    · rw [encoded, exact]
      exact bound
    · change body = type :: afterType.bytes at octets
      change afterLength.bytes = data.bytes ++ rest.bytes at dataOctets
      simp only [ClientHello.encode, Bytes.counted24, encoded, exact, octets, lengthOctets,
        dataOctets, Decidable.not_not.mp same, List.append_assoc]
    · rw [ClientHello.hostSpan, ← located, dataPlace, lengthPlace, place]

/-! ## Where the host name stands -/

/-- The host name of a list stands where `NameList.hostAt` says. -/
theorem NameList.encode_split (list : NameList) (offset : Nat) :
    ∃ front back : Bytes, list.encode = front ++ (list.host ++ back) ∧
      list.hostAt offset = .covering (offset + front.length) list.host := by
  refine ⟨list.skipped.flatMap NameEntry.encode ++
    (hostNameType :: Bytes.word16Bytes (UInt16.ofNat list.host.length)), list.rest, ?_, ?_⟩
  · simp [encode, Bytes.counted16]
  · simp only [hostAt, List.length_append, List.length_cons, Bytes.length_word16Bytes]
    congr 1

/-- The same of an extension that carries server names. -/
theorem NameExtension.encode_split (extension : NameExtension) (offset : Nat) :
    ∃ front back : Bytes, extension.encode = front ++ (extension.list.host ++ back) ∧
      extension.hostAt offset = .covering (offset + front.length) extension.list.host := by
  obtain ⟨front, back, octets, place⟩ := extension.list.encode_split (offset + 2)
  refine ⟨Bytes.word16Bytes (UInt16.ofNat extension.list.encode.length) ++ front,
    back ++ extension.rest, ?_, ?_⟩
  · rw [encode, Bytes.counted16]
    simp only [List.append_assoc, octets]
  · rw [hostAt, place, List.length_append, Bytes.length_word16Bytes, Nat.add_assoc]

/-- The same of a block of extensions. -/
theorem ExtensionBlock.encode_split (block : ExtensionBlock) (offset : Nat) :
    ∃ front back : Bytes, block.encode = front ++ (block.names.list.host ++ back) ∧
      block.hostAt offset = .covering (offset + front.length) block.names.list.host := by
  obtain ⟨front, back, octets, place⟩ := block.names.encode_split
    (offset + (block.skipped.flatMap Extension.encode).length + 2 + 2)
  refine ⟨block.skipped.flatMap Extension.encode ++ (Bytes.word16Bytes
    (UInt16.ofNat extensionType) ++ (Bytes.word16Bytes (UInt16.ofNat block.names.encode.length) ++
      front)), back ++ block.rest, ?_, ?_⟩
  · rw [encode, Bytes.counted16]
    simp only [List.append_assoc, octets]
  · rw [hostAt, place]
    simp only [List.length_append, Bytes.length_word16Bytes]
    congr 1
    omega

/-- The same of the parts of a message. -/
theorem HelloMessage.encode_split (message : HelloMessage) (offset : Nat) :
    ∃ front back : Bytes, message.encode = front ++ (message.block.names.list.host ++ back) ∧
      message.hostAt offset =
        .covering (offset + front.length) message.block.names.list.host := by
  obtain ⟨front, back, octets, place⟩ := message.block.encode_split
    (offset + 2 + 32 + 1 + message.sessionId.length + 2 + message.cipherSuites.length + 1 +
      message.compressionMethods.length + 2)
  refine ⟨message.version ++ (message.random ++ (Bytes.counted8 message.sessionId ++
    (Bytes.counted16 message.cipherSuites ++ (Bytes.counted8 message.compressionMethods ++
      (Bytes.word16Bytes (UInt16.ofNat message.block.encode.length) ++ front))))),
    back ++ message.rest, ?_, ?_⟩
  · have counted : Bytes.counted16 message.block.encode =
        Bytes.word16Bytes (UInt16.ofNat message.block.encode.length) ++ message.block.encode := rfl
    rw [encode, counted]
    simp only [octets, List.append_assoc]
  · rw [hostAt, place]
    simp only [List.length_append, Bytes.counted8, List.length_cons, Bytes.length_counted16,
      Bytes.length_word16Bytes, message.versionLength, message.randomLength]
    congr 1
    omega

end ServerName

namespace ClientHello

/-- The host name of a ClientHello stands where `hostSpan` says. -/
theorem encode_split (hello : ClientHello) :
    ∃ front back : Bytes, hello.encode = front ++ (hello.host ++ back) ∧
      hello.hostSpan = .covering front.length hello.host := by
  obtain ⟨front, back, octets, place⟩ := hello.message.encode_split 4
  refine ⟨clientHelloType :: (Bytes.word24Bytes hello.message.encode.length ++ front),
    back ++ hello.rest, ?_, ?_⟩
  · rw [encode, Bytes.counted24, host]
    simp only [List.cons_append, List.append_assoc, octets]
  · rw [hostSpan, place, host, List.length_cons, List.length_append]
    congr 1
    simp only [Bytes.word24Bytes, List.length_cons, List.length_nil]
    omega

/-- The span of the host name is not empty and lies in the message. -/
theorem hostSpan_bounds (hello : ClientHello) :
    hello.hostSpan.start < hello.hostSpan.stop ∧ hello.hostSpan.stop ≤ hello.encode.length := by
  obtain ⟨front, back, octets, place⟩ := hello.encode_split
  have named : 0 < hello.host.length :=
    List.length_pos_iff.mpr hello.message.block.names.list.named
  rw [place, octets]
  simp only [Span.covering, List.length_append]
  omega

/-- The octets of the span are the host name. -/
theorem slice_hostSpan (hello : ClientHello) : hello.hostSpan.slice hello.encode = hello.host := by
  obtain ⟨front, back, octets, place⟩ := hello.encode_split
  rw [place, octets, Span.slice_covering]

end ClientHello

namespace ServerName

/-- A span that is found is not empty and lies in the message. -/
theorem bounds_of_locate {body : Bytes} {span : Span} (found : locate body = .ok span) :
    span.start < span.stop ∧ span.stop ≤ body.length := by
  obtain ⟨hello, rfl, rfl⟩ := exists_hello_of_locate found
  exact hello.hostSpan_bounds

/-- The walk accepts exactly the grammar: a span is found in a buffer if and only if the buffer
is a ClientHello of the grammar, perhaps with more after it, and the span is that of its first
host name. In particular the host name of every such ClientHello is found, its span is not empty
and lies in the buffer, and the octets there are the host name. -/
theorem locate_exact :
    (∀ (body : Bytes) (span : Span), locate body = .ok span ↔
      ∃ hello : ClientHello, hello.encode = body ∧ hello.hostSpan = span) ∧
    ∀ hello : ClientHello, locate hello.encode = .ok hello.hostSpan ∧
      hello.hostSpan.start < hello.hostSpan.stop ∧
      hello.hostSpan.stop ≤ hello.encode.length ∧
      hello.hostSpan.slice hello.encode = hello.host := by
  constructor
  · intro body span
    constructor
    · exact exists_hello_of_locate
    · rintro ⟨hello, rfl, rfl⟩
      exact locate_encode hello
  · intro hello
    obtain ⟨nonempty, inside⟩ := hello.hostSpan_bounds
    exact ⟨locate_encode hello, nonempty, inside, hello.slice_hostSpan⟩

end ServerName

end Outbound.Tls
