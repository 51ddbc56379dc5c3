import Announce.Neighbors
import Announce.Payload.Listing

/-!
# Payloads in the making

A draft is a string of bytes that records are appended to and that can be
changed byte by byte.  A record that cannot be written leaves the draft as it
is.
-/

namespace Announce.Draft

/-- A change of a draft, or a question about it. -/
inductive Step where
  /-- Append a record. -/
  | put (tag : UInt8) (value : Bytes)
  /-- Append a neighbor record. -/
  | putNeighbors (ids : List String) (limit : UInt64)
  /-- Append bytes as they are. -/
  | append (octets : Bytes)
  /-- Keep only the first `length` bytes. -/
  | truncate (length : Nat)
  /-- Overwrite the byte at a place. -/
  | set (index : Nat) (octet : UInt8)
  /-- List the records. -/
  | scan
  /-- Look for the first record with a tag. -/
  | find (tag : UInt8)
  /-- Read the neighbors. -/
  | decode
deriving DecidableEq, Repr

/-- The answer to a step. -/
inductive Answer where
  | done
  | recordOversize (oversize : Oversize)
  | listOversize (oversize : Oversize)
  | listing (listing : Listing)
  | value (found : Option Bytes)
  | neighbors (ids : Option (List PeerId))
deriving DecidableEq, Repr

/-- Write at the end of a draft.  Whatever the writer leaves there belongs to
the draft. -/
def write (draft : Bytes) (failure : Oversize → Answer) (writer : Writer Unit) :
    Answer × Bytes :=
  match writer.run draft with
  | .ok _ after => (.done, after)
  | .error oversize after => (failure oversize, after)

/-- Append a neighbor record that has been written apart from the draft. -/
def appendNeighbors (ids : List String) (limit : UInt64) : Writer Unit :=
  match (Neighbors.encode ids limit).value with
  | .ok record => Writer.put record
  | .error oversize => throw oversize

theorem written_appendNeighbors (ids : List String) (limit : UInt64) :
    (appendNeighbors ids limit).written = (Neighbors.encode ids limit).value := by
  rw [appendNeighbors]
  cases (Neighbors.encode ids limit).value <;> rfl

/-- A neighbor record is appended as a whole or not at all. -/
theorem atomic_appendNeighbors (ids : List String) (limit : UInt64) :
    (appendNeighbors ids limit).Atomic := by
  intro buffer
  rw [written_appendNeighbors, appendNeighbors]
  cases (Neighbors.encode ids limit).value <;> rfl

/-- Take one step.  Questions leave the draft as it is. -/
def step (draft : Bytes) : Step → Answer × Bytes
  | .put tag value => write draft .recordOversize (Record.append tag value)
  | .putNeighbors ids limit => write draft .listOversize (appendNeighbors ids limit)
  | .append octets => (.done, draft ++ octets)
  | .truncate length => (.done, draft.take length)
  | .set index octet => (.done, List.set draft index octet)
  | .scan => (.listing (Listing.ofPayload draft).value, draft)
  | .find tag => (.value (findValue draft tag).value, draft)
  | .decode => (.neighbors (Neighbors.decode draft).value, draft)

/-- Take steps one after another.  Each answer comes with the draft after it. -/
def run (draft : Bytes) : List Step → List (Answer × Bytes)
  | [] => []
  | request :: requests =>
      let (answer, after) := step draft request
      (answer, after) :: run after requests

/-- The draft after a series of steps. -/
def after (draft : Bytes) (requests : List Step) : Bytes :=
  requests.foldl (fun draft request => (step draft request).2) draft

end Announce.Draft
