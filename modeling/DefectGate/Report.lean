import DefectGate.Failure

/-!
# Reports

What a finished run found: the target as it was before the analyzer started, the log and the count.
-/
namespace DefectGate

structure Digest where
  algorithm : String
  value : String
  deriving DecidableEq, Repr

/-- A file identified by its size and content. -/
structure Fingerprint where
  path : String
  size : UInt64
  digest : Digest
  deriving DecidableEq, Repr

/-- A log on disk and the number of its lines. -/
structure LogFile where
  path : Host.Path
  lines : Nat
  deriving DecidableEq, Repr

structure Report where
  analyzer : String
  target : Fingerprint
  log : LogFile
  count : Count
  deriving DecidableEq, Repr

end DefectGate
