import Announce.Log.Logged
import Announce.PeerId
import Announce.Record.Scanner
import Announce.Record.Tag

/-!
# Neighbor lists

The direct neighbors of a node are the identifiers in the value of one record,
one after the other.  Writing keeps the first occurrence of each text, cuts the
list to a limit and makes an identifier of each text that is left.  Reading
takes the first record with the tag of neighbor lists.
-/

namespace Announce.Neighbors

open Log (Logged)

/-- The number of neighbors that one announcement carries unless told otherwise. -/
def defaultLimit : UInt64 := 10

/-- The longest value that a list of at most `limit` neighbors can need.  The
product stays at the largest number of 64 bits. -/
def maxValueSize (limit : UInt64) : Nat :=
  min (limit.toNat * PeerId.size) (UInt64.size - 1)

/-- The texts of a list that are not among those `seen` before it, in order.
Behind its place a text counts as seen. -/
def unseen (seen : List String) : List String → List String
  | [] => []
  | id :: ids =>
      if id ∈ seen then unseen seen ids else id :: unseen (id :: seen) ids

/-- The different texts of a list, in the order in which they first occur. -/
def distinct (ids : List String) : List String :=
  unseen [] ids

/-- The texts that a list is made of: the different ones, up to the limit. -/
def retained (ids : List String) (limit : UInt64) : List String :=
  (distinct ids).take limit.toNat

/-- The value of a record with the identifiers of the given texts. -/
def value (ids : List String) : Bytes :=
  ids.flatMap fun id => (PeerId.ofText id).bytes

/-- Write a neighbor record. -/
def encode (ids : List String) (limit : UInt64) : Logged (Except Oversize Bytes) := do
  let kept := distinct ids
  let duplicates := ids.length - kept.length
  if 0 < duplicates then
    Logged.emit (.duplicatesDropped duplicates)
  if limit.toNat < kept.length then
    Logged.emit (.listCut (kept.length - limit.toNat) limit.toNat)
  pure (Record.encode Tag.directNeighbors (value (retained ids limit)))

/-- The message of a list whose record would be too long. -/
def oversizeMessage (oversize : Oversize) : String :=
  "neighbor list too large " ++ oversize.extent

/-- The identifiers that fill a value, without a fragment at its end. -/
def blocks (octets : Bytes) : List PeerId :=
  if full : 8 ≤ octets.length then
    ⟨octets.take 8, List.length_take_of_le full⟩ :: blocks (octets.drop 8)
  else
    []
termination_by octets.length
decreasing_by simp only [List.length_drop]; omega

/-- The neighbors that a payload announces.  A payload without a complete
neighbor record announces none at all, which is not the empty list. -/
def decode (payload : Bytes) : Logged (Option (List PeerId)) := do
  match ← findValue payload Tag.directNeighbors with
  | none => pure none
  | some octets =>
      let fragment := octets.length % PeerId.size
      if fragment ≠ 0 then
        Logged.emit (.fragmentDiscarded fragment)
      pure (some (blocks octets))

/-- The neighbors that a payload announces, as digits. -/
def decodeTexts (payload : Bytes) : Logged (Option (List String)) := do
  let ids ← decode payload
  pure (ids.map (·.map PeerId.toHex))

end Announce.Neighbors
