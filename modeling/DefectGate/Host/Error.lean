import DefectGate.Host.ErrorNumber

/-!
# System errors

What the operating system or the layer above it answers when an operation fails: an error number, a
bare condition, or a condition explained by a text of its own.
-/
namespace DefectGate.Host

/-- What went wrong, independent of the system call. -/
inductive Condition where
  | addressInUse
  | addressNotAvailable
  | alreadyExists
  | argumentListTooLong
  | brokenPipe
  | connectionAborted
  | connectionRefused
  | connectionReset
  | crossesDevices
  | deadlock
  | directoryNotEmpty
  | executableFileBusy
  | fileTooLarge
  | filesystemLoop
  | hostUnreachable
  | inProgress
  | interrupted
  | invalidData
  | invalidFilename
  | invalidInput
  | isADirectory
  | networkDown
  | networkUnreachable
  | notADirectory
  | notConnected
  | notFound
  | notSeekable
  | other
  | outOfMemory
  | permissionDenied
  | quotaExceeded
  | readOnlyFilesystem
  | resourceBusy
  | staleNetworkFileHandle
  | storageFull
  | timedOut
  | tooManyLinks
  | uncategorized
  | unexpectedEnd
  | unsupported
  | wouldBlock
  | writeZero
  deriving DecidableEq, Repr

def Condition.text : Condition → String
  | .addressInUse => "address in use"
  | .addressNotAvailable => "address not available"
  | .alreadyExists => "entity already exists"
  | .argumentListTooLong => "argument list too long"
  | .brokenPipe => "broken pipe"
  | .connectionAborted => "connection aborted"
  | .connectionRefused => "connection refused"
  | .connectionReset => "connection reset"
  | .crossesDevices => "cross-device link or rename"
  | .deadlock => "deadlock"
  | .directoryNotEmpty => "directory not empty"
  | .executableFileBusy => "executable file busy"
  | .fileTooLarge => "file too large"
  | .filesystemLoop => "filesystem loop or indirection limit (e.g. symlink loop)"
  | .hostUnreachable => "host unreachable"
  | .inProgress => "in progress"
  | .interrupted => "operation interrupted"
  | .invalidData => "invalid data"
  | .invalidFilename => "invalid filename"
  | .invalidInput => "invalid input parameter"
  | .isADirectory => "is a directory"
  | .networkDown => "network down"
  | .networkUnreachable => "network unreachable"
  | .notADirectory => "not a directory"
  | .notConnected => "not connected"
  | .notFound => "entity not found"
  | .notSeekable => "seek on unseekable file"
  | .other => "other error"
  | .outOfMemory => "out of memory"
  | .permissionDenied => "permission denied"
  | .quotaExceeded => "quota exceeded"
  | .readOnlyFilesystem => "read-only filesystem or storage medium"
  | .resourceBusy => "resource busy"
  | .staleNetworkFileHandle => "stale network file handle"
  | .storageFull => "no storage space"
  | .timedOut => "timed out"
  | .tooManyLinks => "too many links"
  | .uncategorized => "uncategorized error"
  | .unexpectedEnd => "unexpected end of file"
  | .unsupported => "unsupported"
  | .wouldBlock => "operation would block"
  | .writeZero => "write zero"

inductive Error where
  | number (n : Int)
  | condition (c : Condition)
  | explained (c : Condition) (text : String)
  deriving DecidableEq, Repr

namespace Error

def message : Error → String
  | .number n => s!"{ErrorNumber.text n} (os error {n})"
  | .condition c => c.text
  | .explained _ text => text

/-- Whether the error says that the named thing does not exist; every other error says that it
can not be used. -/
def isNotFound : Error → Bool
  | .number n => n = ErrorNumber.noEntry
  | .condition c => c = .notFound
  | .explained c _ => c = .notFound

/-- A path with a zero byte in it can not be handed to the system. -/
def zeroByteInPath : Error :=
  .explained .invalidInput "file name contained an unexpected NUL byte"

/-- A program name or argument with a zero byte in it can not be handed to the system. -/
def zeroByteInArgument : Error :=
  .explained .invalidInput "nul byte found in provided data"

def notText : Error := .explained .invalidData "stream did not contain valid UTF-8"

def nothingWritten : Error := .explained .writeZero "failed to write whole buffer"

end Error
end DefectGate.Host
