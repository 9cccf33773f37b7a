/-!
# Failures of the operating system

The ways in which an operation on a socket fails, with their numbers and wording.
-/

namespace PathSession

/-- A failed operation on a socket. -/
inductive IoFault
  | connectionReset
  | brokenPipe
  | connectionRefused
  | networkUnreachable
  | addressInUse
  | addressNotAvailable
  | tooManyOpenFiles
  deriving DecidableEq, Repr

namespace IoFault

/-- The number of a failure. -/
def number : IoFault → Nat
  | tooManyOpenFiles => 24
  | brokenPipe => 32
  | addressInUse => 98
  | addressNotAvailable => 99
  | networkUnreachable => 101
  | connectionReset => 104
  | connectionRefused => 111

/-- The kind of a failure. -/
def kind : IoFault → String
  | tooManyOpenFiles => "Uncategorized"
  | brokenPipe => "BrokenPipe"
  | addressInUse => "AddrInUse"
  | addressNotAvailable => "AddrNotAvailable"
  | networkUnreachable => "NetworkUnreachable"
  | connectionReset => "ConnectionReset"
  | connectionRefused => "ConnectionRefused"

/-- A failure in words. -/
def words : IoFault → String
  | tooManyOpenFiles => "Too many open files"
  | brokenPipe => "Broken pipe"
  | addressInUse => "Address already in use"
  | addressNotAvailable => "Cannot assign requested address"
  | networkUnreachable => "Network is unreachable"
  | connectionReset => "Connection reset by peer"
  | connectionRefused => "Connection refused"

/-- A failure in words, with its number. -/
def text (f : IoFault) : String := s!"{f.words} (os error {f.number})"

/-- A failure as the journal shows its parts. -/
def inspect (f : IoFault) : String :=
  s!"Os \x7b code: {f.number}, kind: {f.kind}, message: \"{f.words}\" \x7d"

end IoFault

end PathSession
