import Announce.Record.Scanner

/-!
# Listing a payload

A listing holds all complete records of a payload and says where and how the
scan for them ended.
-/

namespace Announce

open Log (Logged)

/-- The complete records of a payload. -/
structure Listing where
  payloadLength : Nat
  records : List Record
  /-- The end of the last complete record. -/
  stop : Nat
  /-- Whether an incomplete record begins there. -/
  truncated : Bool
deriving DecidableEq, Repr

namespace Listing

/-- List the records of a payload. -/
def ofPayload (payload : Bytes) : Logged Listing := do
  let (records, last) ← (Scanner.start payload).drain
  pure ⟨payload.length, records, last.position, last.truncated⟩

/-- Where the record begins that the payload does not hold completely. -/
def truncatedAt (listing : Listing) : Option Nat :=
  if listing.truncated then some listing.stop else none

end Listing

end Announce
