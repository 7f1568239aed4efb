/-!
# Error numbers of the system

The failures that a system call can name, with the number and the texts of each.
-/

namespace NamespaceEntry

/-- A failure named by a system call. -/
inductive Errno where
  | notPermitted
  | noEntry
  | noProcess
  | interrupted
  | inputOutput
  | noDeviceOrAddress
  | argumentsTooLong
  | execFormat
  | badDescriptor
  | noChild
  | tryAgain
  | noMemory
  | accessDenied
  | badAddress
  | notBlockDevice
  | busy
  | exists
  | crossDevice
  | noDevice
  | notDirectory
  | isDirectory
  | invalidArgument
  | fileTableFull
  | tooManyFiles
  | notTerminal
  | textBusy
  | fileTooLarge
  | noSpace
  | illegalSeek
  | readOnly
  | tooManyLinks
  | brokenPipe
  | outOfDomain
  | outOfRange
  | deadlock
  | nameTooLong
  | noLock
  | notImplemented
  | notEmpty
  | linkLoop
  | noMessage
  | identifierRemoved
  | channelRange
  | level2NotSynchronized
  | level3Halted
  | level3Reset
  | linkRange
  | noProtocolDriver
  | noCsi
  | level2Halted
  | invalidExchange
  | invalidRequest
  | exchangeFull
  | noAnode
  | invalidRequestCode
  | invalidSlot
  | badFont
  | notStream
  | noData
  | timerExpired
  | noStreams
  | noNetwork
  | noPackage
  | remote
  | linkSevered
  | advertise
  | serverMount
  | communication
  | protocol
  | multihop
  | remoteFileSharing
  | badMessage
  | overflow
  | notUnique
  | badDescriptorState
  | remoteChanged
  | libraryAccess
  | libraryCorrupt
  | librarySection
  | tooManyLibraries
  | libraryExec
  | illegalSequence
  | restart
  | streamsPipe
  | tooManyUsers
  | notSocket
  | noDestination
  | messageTooLong
  | wrongProtocol
  | noProtocolOption
  | protocolUnsupported
  | socketUnsupported
  | notSupported
  | protocolFamilyUnsupported
  | addressFamilyUnsupported
  | addressInUse
  | addressUnavailable
  | networkDown
  | networkUnreachable
  | networkReset
  | connectionAborted
  | connectionReset
  | noBuffers
  | connected
  | notConnected
  | endpointShutDown
  | tooManyReferences
  | timedOut
  | connectionRefused
  | hostDown
  | hostUnreachable
  | already
  | inProgress
  | stale
  | needsCleaning
  | notNamedFile
  | noSemaphores
  | namedFile
  | remoteInputOutput
  | quotaExceeded
  | noMedium
  | wrongMedium
  | canceled
  | noKey
  | keyExpired
  | keyRevoked
  | keyRejected
  | ownerDied
  | notRecoverable
  | radioBlocked
  | memoryPoisoned
  | unknown
  deriving DecidableEq, Repr

namespace Errno

structure Entry where
  number : Nat
  name : String
  description : String
  deriving DecidableEq, Repr

/-- The table of failures. No system call gives the number zero. -/
def entry : Errno → Entry
  | .notPermitted => ⟨1, "EPERM", "Operation not permitted"⟩
  | .noEntry => ⟨2, "ENOENT", "No such file or directory"⟩
  | .noProcess => ⟨3, "ESRCH", "No such process"⟩
  | .interrupted => ⟨4, "EINTR", "Interrupted system call"⟩
  | .inputOutput => ⟨5, "EIO", "I/O error"⟩
  | .noDeviceOrAddress => ⟨6, "ENXIO", "No such device or address"⟩
  | .argumentsTooLong => ⟨7, "E2BIG", "Argument list too long"⟩
  | .execFormat => ⟨8, "ENOEXEC", "Exec format error"⟩
  | .badDescriptor => ⟨9, "EBADF", "Bad file number"⟩
  | .noChild => ⟨10, "ECHILD", "No child processes"⟩
  | .tryAgain => ⟨11, "EAGAIN", "Try again"⟩
  | .noMemory => ⟨12, "ENOMEM", "Out of memory"⟩
  | .accessDenied => ⟨13, "EACCES", "Permission denied"⟩
  | .badAddress => ⟨14, "EFAULT", "Bad address"⟩
  | .notBlockDevice => ⟨15, "ENOTBLK", "Block device required"⟩
  | .busy => ⟨16, "EBUSY", "Device or resource busy"⟩
  | .exists => ⟨17, "EEXIST", "File exists"⟩
  | .crossDevice => ⟨18, "EXDEV", "Cross-device link"⟩
  | .noDevice => ⟨19, "ENODEV", "No such device"⟩
  | .notDirectory => ⟨20, "ENOTDIR", "Not a directory"⟩
  | .isDirectory => ⟨21, "EISDIR", "Is a directory"⟩
  | .invalidArgument => ⟨22, "EINVAL", "Invalid argument"⟩
  | .fileTableFull => ⟨23, "ENFILE", "File table overflow"⟩
  | .tooManyFiles => ⟨24, "EMFILE", "Too many open files"⟩
  | .notTerminal => ⟨25, "ENOTTY", "Not a typewriter"⟩
  | .textBusy => ⟨26, "ETXTBSY", "Text file busy"⟩
  | .fileTooLarge => ⟨27, "EFBIG", "File too large"⟩
  | .noSpace => ⟨28, "ENOSPC", "No space left on device"⟩
  | .illegalSeek => ⟨29, "ESPIPE", "Illegal seek"⟩
  | .readOnly => ⟨30, "EROFS", "Read-only file system"⟩
  | .tooManyLinks => ⟨31, "EMLINK", "Too many links"⟩
  | .brokenPipe => ⟨32, "EPIPE", "Broken pipe"⟩
  | .outOfDomain => ⟨33, "EDOM", "Math argument out of domain of func"⟩
  | .outOfRange => ⟨34, "ERANGE", "Math result not representable"⟩
  | .deadlock => ⟨35, "EDEADLK", "Resource deadlock would occur"⟩
  | .nameTooLong => ⟨36, "ENAMETOOLONG", "File name too long"⟩
  | .noLock => ⟨37, "ENOLCK", "No record locks available"⟩
  | .notImplemented => ⟨38, "ENOSYS", "Function not implemented"⟩
  | .notEmpty => ⟨39, "ENOTEMPTY", "Directory not empty"⟩
  | .linkLoop => ⟨40, "ELOOP", "Too many symbolic links encountered"⟩
  | .noMessage => ⟨42, "ENOMSG", "No message of desired type"⟩
  | .identifierRemoved => ⟨43, "EIDRM", "Identifier removed"⟩
  | .channelRange => ⟨44, "ECHRNG", "Channel number out of range"⟩
  | .level2NotSynchronized => ⟨45, "EL2NSYNC", "Level 2 not synchronized"⟩
  | .level3Halted => ⟨46, "EL3HLT", "Level 3 halted"⟩
  | .level3Reset => ⟨47, "EL3RST", "Level 3 reset"⟩
  | .linkRange => ⟨48, "ELNRNG", "Link number out of range"⟩
  | .noProtocolDriver => ⟨49, "EUNATCH", "Protocol driver not attached"⟩
  | .noCsi => ⟨50, "ENOCSI", "No CSI structure available"⟩
  | .level2Halted => ⟨51, "EL2HLT", "Level 2 halted"⟩
  | .invalidExchange => ⟨52, "EBADE", "Invalid exchange"⟩
  | .invalidRequest => ⟨53, "EBADR", "Invalid request descriptor"⟩
  | .exchangeFull => ⟨54, "EXFULL", "Exchange full"⟩
  | .noAnode => ⟨55, "ENOANO", "No anode"⟩
  | .invalidRequestCode => ⟨56, "EBADRQC", "Invalid request code"⟩
  | .invalidSlot => ⟨57, "EBADSLT", "Invalid slot"⟩
  | .badFont => ⟨59, "EBFONT", "Bad font file format"⟩
  | .notStream => ⟨60, "ENOSTR", "Device not a stream"⟩
  | .noData => ⟨61, "ENODATA", "No data available"⟩
  | .timerExpired => ⟨62, "ETIME", "Timer expired"⟩
  | .noStreams => ⟨63, "ENOSR", "Out of streams resources"⟩
  | .noNetwork => ⟨64, "ENONET", "Machine is not on the network"⟩
  | .noPackage => ⟨65, "ENOPKG", "Package not installed"⟩
  | .remote => ⟨66, "EREMOTE", "Object is remote"⟩
  | .linkSevered => ⟨67, "ENOLINK", "Link has been severed"⟩
  | .advertise => ⟨68, "EADV", "Advertise error"⟩
  | .serverMount => ⟨69, "ESRMNT", "Srmount error"⟩
  | .communication => ⟨70, "ECOMM", "Communication error on send"⟩
  | .protocol => ⟨71, "EPROTO", "Protocol error"⟩
  | .multihop => ⟨72, "EMULTIHOP", "Multihop attempted"⟩
  | .remoteFileSharing => ⟨73, "EDOTDOT", "RFS specific error"⟩
  | .badMessage => ⟨74, "EBADMSG", "Not a data message"⟩
  | .overflow => ⟨75, "EOVERFLOW", "Value too large for defined data type"⟩
  | .notUnique => ⟨76, "ENOTUNIQ", "Name not unique on network"⟩
  | .badDescriptorState => ⟨77, "EBADFD", "File descriptor in bad state"⟩
  | .remoteChanged => ⟨78, "EREMCHG", "Remote address changed"⟩
  | .libraryAccess => ⟨79, "ELIBACC", "Can not access a needed shared library"⟩
  | .libraryCorrupt => ⟨80, "ELIBBAD", "Accessing a corrupted shared library"⟩
  | .librarySection => ⟨81, "ELIBSCN", ".lib section in a.out corrupted"⟩
  | .tooManyLibraries => ⟨82, "ELIBMAX", "Attempting to link in too many shared libraries"⟩
  | .libraryExec => ⟨83, "ELIBEXEC", "Cannot exec a shared library directly"⟩
  | .illegalSequence => ⟨84, "EILSEQ", "Illegal byte sequence"⟩
  | .restart => ⟨85, "ERESTART", "Interrupted system call should be restarted"⟩
  | .streamsPipe => ⟨86, "ESTRPIPE", "Streams pipe error"⟩
  | .tooManyUsers => ⟨87, "EUSERS", "Too many users"⟩
  | .notSocket => ⟨88, "ENOTSOCK", "Socket operation on non-socket"⟩
  | .noDestination => ⟨89, "EDESTADDRREQ", "Destination address required"⟩
  | .messageTooLong => ⟨90, "EMSGSIZE", "Message too long"⟩
  | .wrongProtocol => ⟨91, "EPROTOTYPE", "Protocol wrong type for socket"⟩
  | .noProtocolOption => ⟨92, "ENOPROTOOPT", "Protocol not available"⟩
  | .protocolUnsupported => ⟨93, "EPROTONOSUPPORT", "Protocol not supported"⟩
  | .socketUnsupported => ⟨94, "ESOCKTNOSUPPORT", "Socket type not supported"⟩
  | .notSupported => ⟨95, "EOPNOTSUPP", "Operation not supported on transport endpoint"⟩
  | .protocolFamilyUnsupported => ⟨96, "EPFNOSUPPORT", "Protocol family not supported"⟩
  | .addressFamilyUnsupported => ⟨97, "EAFNOSUPPORT", "Address family not supported by protocol"⟩
  | .addressInUse => ⟨98, "EADDRINUSE", "Address already in use"⟩
  | .addressUnavailable => ⟨99, "EADDRNOTAVAIL", "Cannot assign requested address"⟩
  | .networkDown => ⟨100, "ENETDOWN", "Network is down"⟩
  | .networkUnreachable => ⟨101, "ENETUNREACH", "Network is unreachable"⟩
  | .networkReset => ⟨102, "ENETRESET", "Network dropped connection because of reset"⟩
  | .connectionAborted => ⟨103, "ECONNABORTED", "Software caused connection abort"⟩
  | .connectionReset => ⟨104, "ECONNRESET", "Connection reset by peer"⟩
  | .noBuffers => ⟨105, "ENOBUFS", "No buffer space available"⟩
  | .connected => ⟨106, "EISCONN", "Transport endpoint is already connected"⟩
  | .notConnected => ⟨107, "ENOTCONN", "Transport endpoint is not connected"⟩
  | .endpointShutDown => ⟨108, "ESHUTDOWN", "Cannot send after transport endpoint shutdown"⟩
  | .tooManyReferences => ⟨109, "ETOOMANYREFS", "Too many references: cannot splice"⟩
  | .timedOut => ⟨110, "ETIMEDOUT", "Connection timed out"⟩
  | .connectionRefused => ⟨111, "ECONNREFUSED", "Connection refused"⟩
  | .hostDown => ⟨112, "EHOSTDOWN", "Host is down"⟩
  | .hostUnreachable => ⟨113, "EHOSTUNREACH", "No route to host"⟩
  | .already => ⟨114, "EALREADY", "Operation already in progress"⟩
  | .inProgress => ⟨115, "EINPROGRESS", "Operation now in progress"⟩
  | .stale => ⟨116, "ESTALE", "Stale file handle"⟩
  | .needsCleaning => ⟨117, "EUCLEAN", "Structure needs cleaning"⟩
  | .notNamedFile => ⟨118, "ENOTNAM", "Not a XENIX named type file"⟩
  | .noSemaphores => ⟨119, "ENAVAIL", "No XENIX semaphores available"⟩
  | .namedFile => ⟨120, "EISNAM", "Is a named type file"⟩
  | .remoteInputOutput => ⟨121, "EREMOTEIO", "Remote I/O error"⟩
  | .quotaExceeded => ⟨122, "EDQUOT", "Quota exceeded"⟩
  | .noMedium => ⟨123, "ENOMEDIUM", "No medium found"⟩
  | .wrongMedium => ⟨124, "EMEDIUMTYPE", "Wrong medium type"⟩
  | .canceled => ⟨125, "ECANCELED", "Operation canceled"⟩
  | .noKey => ⟨126, "ENOKEY", "Required key not available"⟩
  | .keyExpired => ⟨127, "EKEYEXPIRED", "Key has expired"⟩
  | .keyRevoked => ⟨128, "EKEYREVOKED", "Key has been revoked"⟩
  | .keyRejected => ⟨129, "EKEYREJECTED", "Key was rejected by service"⟩
  | .ownerDied => ⟨130, "EOWNERDEAD", "Owner died"⟩
  | .notRecoverable => ⟨131, "ENOTRECOVERABLE", "State not recoverable"⟩
  | .radioBlocked => ⟨132, "ERFKILL", "Operation not possible due to RF-kill"⟩
  | .memoryPoisoned => ⟨133, "EHWPOISON", "Memory page has hardware error"⟩
  | .unknown => ⟨0, "UnknownErrno", "Unknown errno"⟩

def name (e : Errno) : String := e.entry.name

def description (e : Errno) : String := e.entry.description

/-- The number of a failure; a failure without a name has none. -/
def number? (e : Errno) : Option Nat := if e = .unknown then none else some e.entry.number

def all : List Errno :=
  [.notPermitted, .noEntry, .noProcess, .interrupted, .inputOutput, .noDeviceOrAddress,
    .argumentsTooLong, .execFormat, .badDescriptor, .noChild, .tryAgain, .noMemory, .accessDenied,
    .badAddress, .notBlockDevice, .busy, .exists, .crossDevice, .noDevice, .notDirectory,
    .isDirectory, .invalidArgument, .fileTableFull, .tooManyFiles, .notTerminal, .textBusy,
    .fileTooLarge, .noSpace, .illegalSeek, .readOnly, .tooManyLinks, .brokenPipe, .outOfDomain,
    .outOfRange, .deadlock, .nameTooLong, .noLock, .notImplemented, .notEmpty, .linkLoop,
    .noMessage, .identifierRemoved, .channelRange, .level2NotSynchronized, .level3Halted,
    .level3Reset, .linkRange, .noProtocolDriver, .noCsi, .level2Halted, .invalidExchange,
    .invalidRequest, .exchangeFull, .noAnode, .invalidRequestCode, .invalidSlot, .badFont,
    .notStream, .noData, .timerExpired, .noStreams, .noNetwork, .noPackage, .remote, .linkSevered,
    .advertise, .serverMount, .communication, .protocol, .multihop, .remoteFileSharing,
    .badMessage, .overflow, .notUnique, .badDescriptorState, .remoteChanged, .libraryAccess,
    .libraryCorrupt, .librarySection, .tooManyLibraries, .libraryExec, .illegalSequence, .restart,
    .streamsPipe, .tooManyUsers, .notSocket, .noDestination, .messageTooLong, .wrongProtocol,
    .noProtocolOption, .protocolUnsupported, .socketUnsupported, .notSupported,
    .protocolFamilyUnsupported, .addressFamilyUnsupported, .addressInUse, .addressUnavailable,
    .networkDown, .networkUnreachable, .networkReset, .connectionAborted, .connectionReset,
    .noBuffers, .connected, .notConnected, .endpointShutDown, .tooManyReferences, .timedOut,
    .connectionRefused, .hostDown, .hostUnreachable, .already, .inProgress, .stale,
    .needsCleaning, .notNamedFile, .noSemaphores, .namedFile, .remoteInputOutput, .quotaExceeded,
    .noMedium, .wrongMedium, .canceled, .noKey, .keyExpired, .keyRevoked, .keyRejected,
    .ownerDied, .notRecoverable, .radioBlocked, .memoryPoisoned]

def ofNumber (n : Int) : Errno := (all.find? fun e => (e.entry.number : Int) == n).getD .unknown

def message (e : Errno) : String := e.name ++ ": " ++ e.description

/-- The words that the C library has for a failure, where it has its own. -/
def systemDescription : Errno → String
  | .inputOutput => "Input/output error"
  | .badDescriptor => "Bad file descriptor"
  | .tryAgain => "Resource temporarily unavailable"
  | .noMemory => "Cannot allocate memory"
  | .crossDevice => "Invalid cross-device link"
  | .fileTableFull => "Too many open files in system"
  | .notTerminal => "Inappropriate ioctl for device"
  | .outOfDomain => "Numerical argument out of domain"
  | .outOfRange => "Numerical result out of range"
  | .deadlock => "Resource deadlock avoided"
  | .noLock => "No locks available"
  | .linkLoop => "Too many levels of symbolic links"
  | .badMessage => "Bad message"
  | .illegalSequence => "Invalid or incomplete multibyte or wide character"
  | .notSupported => "Operation not supported"
  | .networkReset => "Network dropped connection on reset"
  | .quotaExceeded => "Disk quota exceeded"
  | .unknown => "Unknown error"
  | e => e.description

/-- The words of the C library, with the number. -/
def systemMessage (e : Errno) : String :=
  match e.number? with
  | some n => e.systemDescription ++ " (os error " ++ toString n ++ ")"
  | none => e.systemDescription

end Errno

end NamespaceEntry
