/-!
# Input and output errors

An error of an input or output operation is a kind and a text. `IoError.bare` is the error that
carries no text of its own and shows the description of its kind.
-/
namespace Outbound

/-- What went wrong in an input or output operation. -/
inductive IoKind where
  | addrInUse | addrNotAvailable | alreadyExists | argumentListTooLong | brokenPipe
  | connectionAborted | connectionRefused | connectionReset | crossesDevices | deadlock
  | directoryNotEmpty | executableFileBusy | fileTooLarge | hostUnreachable | interrupted
  | invalidData | invalidFilename | invalidInput | isADirectory | networkDown
  | networkUnreachable | notADirectory | notConnected | notFound | notSeekable | other
  | outOfMemory | permissionDenied | quotaExceeded | readOnlyFilesystem | resourceBusy
  | staleNetworkFileHandle | storageFull | timedOut | tooManyLinks | uncategorized
  | unexpectedEof | unsupported | wouldBlock | writeZero
  deriving DecidableEq, Inhabited

namespace IoKind

/-- The description shown when an error has no text of its own. -/
def description : IoKind → String
  | addrInUse => "address in use"
  | addrNotAvailable => "address not available"
  | alreadyExists => "entity already exists"
  | argumentListTooLong => "argument list too long"
  | brokenPipe => "broken pipe"
  | connectionAborted => "connection aborted"
  | connectionRefused => "connection refused"
  | connectionReset => "connection reset"
  | crossesDevices => "cross-device link or rename"
  | deadlock => "deadlock"
  | directoryNotEmpty => "directory not empty"
  | executableFileBusy => "executable file busy"
  | fileTooLarge => "file too large"
  | hostUnreachable => "host unreachable"
  | interrupted => "operation interrupted"
  | invalidData => "invalid data"
  | invalidFilename => "invalid filename"
  | invalidInput => "invalid input parameter"
  | isADirectory => "is a directory"
  | networkDown => "network down"
  | networkUnreachable => "network unreachable"
  | notADirectory => "not a directory"
  | notConnected => "not connected"
  | notFound => "entity not found"
  | notSeekable => "seek on unseekable file"
  | other => "other error"
  | outOfMemory => "out of memory"
  | permissionDenied => "permission denied"
  | quotaExceeded => "quota exceeded"
  | readOnlyFilesystem => "read-only filesystem or storage medium"
  | resourceBusy => "resource busy"
  | staleNetworkFileHandle => "stale network file handle"
  | storageFull => "no storage space"
  | timedOut => "timed out"
  | tooManyLinks => "too many links"
  | uncategorized => "uncategorized error"
  | unexpectedEof => "unexpected end of file"
  | unsupported => "unsupported"
  | wouldBlock => "operation would block"
  | writeZero => "write zero"

/-- The name of a kind. -/
def name : IoKind → String
  | addrInUse => "AddrInUse"
  | addrNotAvailable => "AddrNotAvailable"
  | alreadyExists => "AlreadyExists"
  | argumentListTooLong => "ArgumentListTooLong"
  | brokenPipe => "BrokenPipe"
  | connectionAborted => "ConnectionAborted"
  | connectionRefused => "ConnectionRefused"
  | connectionReset => "ConnectionReset"
  | crossesDevices => "CrossesDevices"
  | deadlock => "Deadlock"
  | directoryNotEmpty => "DirectoryNotEmpty"
  | executableFileBusy => "ExecutableFileBusy"
  | fileTooLarge => "FileTooLarge"
  | hostUnreachable => "HostUnreachable"
  | interrupted => "Interrupted"
  | invalidData => "InvalidData"
  | invalidFilename => "InvalidFilename"
  | invalidInput => "InvalidInput"
  | isADirectory => "IsADirectory"
  | networkDown => "NetworkDown"
  | networkUnreachable => "NetworkUnreachable"
  | notADirectory => "NotADirectory"
  | notConnected => "NotConnected"
  | notFound => "NotFound"
  | notSeekable => "NotSeekable"
  | other => "Other"
  | outOfMemory => "OutOfMemory"
  | permissionDenied => "PermissionDenied"
  | quotaExceeded => "QuotaExceeded"
  | readOnlyFilesystem => "ReadOnlyFilesystem"
  | resourceBusy => "ResourceBusy"
  | staleNetworkFileHandle => "StaleNetworkFileHandle"
  | storageFull => "StorageFull"
  | timedOut => "TimedOut"
  | tooManyLinks => "TooManyLinks"
  | uncategorized => "Uncategorized"
  | unexpectedEof => "UnexpectedEof"
  | unsupported => "Unsupported"
  | wouldBlock => "WouldBlock"
  | writeZero => "WriteZero"

/-- Every kind. -/
def all : List IoKind :=
  [addrInUse, addrNotAvailable, alreadyExists, argumentListTooLong, brokenPipe,
    connectionAborted, connectionRefused, connectionReset, crossesDevices, deadlock,
    directoryNotEmpty, executableFileBusy, fileTooLarge, hostUnreachable, interrupted,
    invalidData, invalidFilename, invalidInput, isADirectory, networkDown, networkUnreachable,
    notADirectory, notConnected, notFound, notSeekable, other, outOfMemory, permissionDenied,
    quotaExceeded, readOnlyFilesystem, resourceBusy, staleNetworkFileHandle, storageFull,
    timedOut, tooManyLinks, uncategorized, unexpectedEof, unsupported, wouldBlock, writeZero]

/-- The kind of a name. -/
def ofName? (name : String) : Option IoKind := all.find? fun kind => kind.name = name

/-- No kind is left out. -/
theorem mem_all (kind : IoKind) : kind ∈ all := by
  cases kind <;> decide

end IoKind

/-- An error of an input or output operation. -/
structure IoError where
  /-- What went wrong. -/
  kind : IoKind
  /-- The text shown. -/
  text : String
  deriving DecidableEq, Inhabited

namespace IoError

/-- The error of a kind, without a text of its own. -/
def bare (kind : IoKind) : IoError := ⟨kind, kind.description⟩

end IoError

end Outbound
