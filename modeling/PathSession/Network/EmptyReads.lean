/-!
# Empty reads

A socket may be reported readable and then yield nothing.  Once is normal: it is how the end of
what was waiting shows.  A run of such reads is not, and a reader that has counted enough of them
gives up.

* `EmptyReads`, `EmptyReads.new`;
* `EmptyReads.dataRead`, `EmptyReads.wouldBlock`: a read that yielded octets, and one that did not.
-/

namespace PathSession

/-- A count of reads in a row that yielded nothing. -/
structure EmptyReads where
  /-- the count at which the reader gives up -/
  limit : UInt32
  count : UInt32
  /-- nothing is known to be waiting, so that a read has no reason to be made -/
  drained : Bool
  deriving DecidableEq, Repr

namespace EmptyReads

/-- Nothing read yet; a limit below one counts as one. -/
def new (limit : UInt32) : EmptyReads := { limit := max limit 1, count := 0, drained := true }

/-- A read yielded octets. -/
def dataRead (e : EmptyReads) : EmptyReads := { e with count := 0, drained := false }

/-- A read yielded nothing; tells whether the limit is reached.  The first one after octets were
read is not counted. -/
def wouldBlock (e : EmptyReads) : EmptyReads × Bool :=
  if e.drained then
    let e := { e with count := e.count + 1 }
    (e, decide (e.limit ≤ e.count))
  else
    ({ e with drained := true }, false)

end EmptyReads

end PathSession
