import Courier.Bytes

/-! # Operating system errors

An `IoError` is a number reported by the system, a bare kind of failure, or a kind with a text of its
own. `IoError.kind` classifies all three, and `IoError.message` is the text shown for them.
-/

namespace Courier

/-- The classes of failure that callers tell apart. -/
inductive IoKind where
  | notFound | permissionDenied | connectionRefused | connectionReset | hostUnreachable
  | networkUnreachable | connectionAborted | notConnected | addrInUse | addrNotAvailable
  | networkDown | brokenPipe | alreadyExists | wouldBlock | notADirectory | isADirectory
  | directoryNotEmpty | readOnlyFilesystem | filesystemLoop | staleNetworkFileHandle
  | invalidInput | invalidData | timedOut | writeZero | storageFull | notSeekable
  | quotaExceeded | fileTooLarge | resourceBusy | executableFileBusy | deadlock
  | crossesDevices | tooManyLinks | invalidFilename | argumentListTooLong | interrupted
  | unsupported | unexpectedEof | outOfMemory | inProgress | other | uncategorized
deriving DecidableEq, Repr

namespace IoKind

/-- Every kind. -/
def all : List IoKind :=
  [ notFound, permissionDenied, connectionRefused, connectionReset, hostUnreachable,
    networkUnreachable, connectionAborted, notConnected, addrInUse, addrNotAvailable,
    networkDown, brokenPipe, alreadyExists, wouldBlock, notADirectory, isADirectory,
    directoryNotEmpty, readOnlyFilesystem, filesystemLoop, staleNetworkFileHandle, invalidInput,
    invalidData, timedOut, writeZero, storageFull, notSeekable, quotaExceeded, fileTooLarge,
    resourceBusy, executableFileBusy, deadlock, crossesDevices, tooManyLinks, invalidFilename,
    argumentListTooLong, interrupted, unsupported, unexpectedEof, outOfMemory, inProgress, other,
    uncategorized ]

/-- The name of the alternative itself. -/
def label : IoKind → String
  | notFound => "NotFound"
  | permissionDenied => "PermissionDenied"
  | connectionRefused => "ConnectionRefused"
  | connectionReset => "ConnectionReset"
  | hostUnreachable => "HostUnreachable"
  | networkUnreachable => "NetworkUnreachable"
  | connectionAborted => "ConnectionAborted"
  | notConnected => "NotConnected"
  | addrInUse => "AddrInUse"
  | addrNotAvailable => "AddrNotAvailable"
  | networkDown => "NetworkDown"
  | brokenPipe => "BrokenPipe"
  | alreadyExists => "AlreadyExists"
  | wouldBlock => "WouldBlock"
  | notADirectory => "NotADirectory"
  | isADirectory => "IsADirectory"
  | directoryNotEmpty => "DirectoryNotEmpty"
  | readOnlyFilesystem => "ReadOnlyFilesystem"
  | filesystemLoop => "FilesystemLoop"
  | staleNetworkFileHandle => "StaleNetworkFileHandle"
  | invalidInput => "InvalidInput"
  | invalidData => "InvalidData"
  | timedOut => "TimedOut"
  | writeZero => "WriteZero"
  | storageFull => "StorageFull"
  | notSeekable => "NotSeekable"
  | quotaExceeded => "QuotaExceeded"
  | fileTooLarge => "FileTooLarge"
  | resourceBusy => "ResourceBusy"
  | executableFileBusy => "ExecutableFileBusy"
  | deadlock => "Deadlock"
  | crossesDevices => "CrossesDevices"
  | tooManyLinks => "TooManyLinks"
  | invalidFilename => "InvalidFilename"
  | argumentListTooLong => "ArgumentListTooLong"
  | interrupted => "Interrupted"
  | unsupported => "Unsupported"
  | unexpectedEof => "UnexpectedEof"
  | outOfMemory => "OutOfMemory"
  | inProgress => "InProgress"
  | other => "Other"
  | uncategorized => "Uncategorized"

def ofLabel? (label : String) : Option IoKind :=
  all.find? fun kind => kind.label == label

/-- The text of an error that is nothing but its kind. -/
def description : IoKind → String
  | notFound => "entity not found"
  | permissionDenied => "permission denied"
  | connectionRefused => "connection refused"
  | connectionReset => "connection reset"
  | hostUnreachable => "host unreachable"
  | networkUnreachable => "network unreachable"
  | connectionAborted => "connection aborted"
  | notConnected => "not connected"
  | addrInUse => "address in use"
  | addrNotAvailable => "address not available"
  | networkDown => "network down"
  | brokenPipe => "broken pipe"
  | alreadyExists => "entity already exists"
  | wouldBlock => "operation would block"
  | notADirectory => "not a directory"
  | isADirectory => "is a directory"
  | directoryNotEmpty => "directory not empty"
  | readOnlyFilesystem => "read-only filesystem or storage medium"
  | filesystemLoop => "filesystem loop or indirection limit (e.g. symlink loop)"
  | staleNetworkFileHandle => "stale network file handle"
  | invalidInput => "invalid input parameter"
  | invalidData => "invalid data"
  | timedOut => "timed out"
  | writeZero => "write zero"
  | storageFull => "no storage space"
  | notSeekable => "seek on unseekable file"
  | quotaExceeded => "quota exceeded"
  | fileTooLarge => "file too large"
  | resourceBusy => "resource busy"
  | executableFileBusy => "executable file busy"
  | deadlock => "deadlock"
  | crossesDevices => "cross-device link or rename"
  | tooManyLinks => "too many links"
  | invalidFilename => "invalid filename"
  | argumentListTooLong => "argument list too long"
  | interrupted => "operation interrupted"
  | unsupported => "unsupported"
  | unexpectedEof => "unexpected end of file"
  | outOfMemory => "out of memory"
  | inProgress => "in progress"
  | other => "other error"
  | uncategorized => "uncategorized error"

/-- The kind that a system error number belongs to. -/
def ofErrno : Int → IoKind
  | 1 | 13 => permissionDenied
  | 2 => notFound
  | 4 => interrupted
  | 7 => argumentListTooLong
  | 11 => wouldBlock
  | 12 => outOfMemory
  | 16 => resourceBusy
  | 17 => alreadyExists
  | 18 => crossesDevices
  | 20 => notADirectory
  | 21 => isADirectory
  | 22 => invalidInput
  | 26 => executableFileBusy
  | 27 => fileTooLarge
  | 28 => storageFull
  | 29 => notSeekable
  | 30 => readOnlyFilesystem
  | 31 => tooManyLinks
  | 32 => brokenPipe
  | 35 => deadlock
  | 36 => invalidFilename
  | 38 | 95 => unsupported
  | 39 => directoryNotEmpty
  | 40 => filesystemLoop
  | 98 => addrInUse
  | 99 => addrNotAvailable
  | 100 => networkDown
  | 101 => networkUnreachable
  | 103 => connectionAborted
  | 104 => connectionReset
  | 107 => notConnected
  | 110 => timedOut
  | 111 => connectionRefused
  | 113 => hostUnreachable
  | 115 => inProgress
  | 116 => staleNetworkFileHandle
  | 122 => quotaExceeded
  | _ => uncategorized

end IoKind

/-- The system's texts for the error numbers from 0 on; a hole in the numbering is `none`. -/
def errnoTexts : List (Option String) :=
  [ some "Success", some "Operation not permitted", some "No such file or directory",
    some "No such process", some "Interrupted system call", some "Input/output error",
    some "No such device or address", some "Argument list too long", some "Exec format error",
    some "Bad file descriptor", some "No child processes", some "Resource temporarily unavailable",
    some "Cannot allocate memory", some "Permission denied", some "Bad address",
    some "Block device required", some "Device or resource busy", some "File exists",
    some "Invalid cross-device link", some "No such device", some "Not a directory",
    some "Is a directory", some "Invalid argument", some "Too many open files in system",
    some "Too many open files", some "Inappropriate ioctl for device", some "Text file busy",
    some "File too large", some "No space left on device", some "Illegal seek",
    some "Read-only file system", some "Too many links", some "Broken pipe",
    some "Numerical argument out of domain", some "Numerical result out of range",
    some "Resource deadlock avoided", some "File name too long", some "No locks available",
    some "Function not implemented", some "Directory not empty",
    some "Too many levels of symbolic links", none, some "No message of desired type",
    some "Identifier removed", some "Channel number out of range", some "Level 2 not synchronized",
    some "Level 3 halted", some "Level 3 reset", some "Link number out of range",
    some "Protocol driver not attached", some "No CSI structure available", some "Level 2 halted",
    some "Invalid exchange", some "Invalid request descriptor", some "Exchange full",
    some "No anode", some "Invalid request code", some "Invalid slot", none,
    some "Bad font file format", some "Device not a stream", some "No data available",
    some "Timer expired", some "Out of streams resources", some "Machine is not on the network",
    some "Package not installed", some "Object is remote", some "Link has been severed",
    some "Advertise error", some "Srmount error", some "Communication error on send",
    some "Protocol error", some "Multihop attempted", some "RFS specific error",
    some "Bad message", some "Value too large for defined data type",
    some "Name not unique on network", some "File descriptor in bad state",
    some "Remote address changed", some "Can not access a needed shared library",
    some "Accessing a corrupted shared library", some ".lib section in a.out corrupted",
    some "Attempting to link in too many shared libraries",
    some "Cannot exec a shared library directly",
    some "Invalid or incomplete multibyte or wide character",
    some "Interrupted system call should be restarted", some "Streams pipe error",
    some "Too many users", some "Socket operation on non-socket",
    some "Destination address required", some "Message too long",
    some "Protocol wrong type for socket", some "Protocol not available",
    some "Protocol not supported", some "Socket type not supported",
    some "Operation not supported", some "Protocol family not supported",
    some "Address family not supported by protocol", some "Address already in use",
    some "Cannot assign requested address", some "Network is down", some "Network is unreachable",
    some "Network dropped connection on reset", some "Software caused connection abort",
    some "Connection reset by peer", some "No buffer space available",
    some "Transport endpoint is already connected", some "Transport endpoint is not connected",
    some "Cannot send after transport endpoint shutdown",
    some "Too many references: cannot splice", some "Connection timed out",
    some "Connection refused", some "Host is down", some "No route to host",
    some "Operation already in progress", some "Operation now in progress",
    some "Stale file handle", some "Structure needs cleaning", some "Not a XENIX named type file",
    some "No XENIX semaphores available", some "Is a named type file", some "Remote I/O error",
    some "Disk quota exceeded", some "No medium found", some "Wrong medium type",
    some "Operation canceled", some "Required key not available", some "Key has expired",
    some "Key has been revoked", some "Key was rejected by service", some "Owner died",
    some "State not recoverable", some "Operation not possible due to RF-kill",
    some "Memory page has hardware error" ]

/-- The system's text for an error number. -/
def errnoText (code : Int) : String :=
  if code < 0 then s!"Unknown error {code}"
  else
    match errnoTexts[code.toNat]? with
    | some (some text) => text
    | _ => s!"Unknown error {code}"

/-- A failed operation on a file, a socket or a stream. -/
inductive IoError where
  /-- The system reported this error number. -/
  | os (code : Int)
  /-- A failure of which only the kind is known. -/
  | plain (kind : IoKind)
  /-- A failure with a text of its own. -/
  | described (kind : IoKind) (text : String)
deriving DecidableEq, Repr

namespace IoError

def kind : IoError → IoKind
  | os code => IoKind.ofErrno code
  | plain kind => kind
  | described kind _ => kind

def message : IoError → String
  | os code => errnoText code ++ s!" (os error {code})"
  | plain kind => kind.description
  | described _ text => text

/-- Whether the operation was only interrupted, and is to be tried again. -/
def isInterrupted (error : IoError) : Bool :=
  error.kind = .interrupted

end IoError

end Courier
