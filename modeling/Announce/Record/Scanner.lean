import Announce.Log.Logged
import Announce.Record

/-!
# Scanning a payload for its records

A scanner reads complete records from the front of a payload.  It stops at the
end, or for good at the first record that the payload does not hold completely;
nothing of such a record is read.  A scanner learns that its payload is
truncated only when it is asked for a record past the last complete one, and it
reports that once.
-/

namespace Announce

open Log (Incompleteness Event Logged)

/-- What stands at the front of a string of bytes. -/
inductive Front where
  /-- No byte is left. -/
  | empty
  /-- A complete record stands in front of `rest`. -/
  | record (tag : UInt8) (value rest : Bytes)
  /-- A record begins here and is not complete. -/
  | incomplete (reason : Incompleteness)
deriving DecidableEq, Repr

/-- Find out what stands at the front. -/
def Front.of : Bytes → Front
  | [] => .empty
  | [_] => .incomplete .shortHeader
  | tag :: length :: rest =>
      match Bytes.splitExact? length.toNat rest with
      | some (value, rest) => .record tag value rest
      | none => .incomplete .valuePastEnd

/-- Behind a complete record there is less to read. -/
theorem Front.length_lt_of_of_eq_record {octets rest : Bytes} {tag : UInt8}
    {value : Bytes} (front : Front.of octets = .record tag value rest) :
    rest.length < octets.length := by
  unfold Front.of at front
  split at front
  · simp at front
  · simp at front
  · split at front
    · next split =>
        obtain ⟨joined, -⟩ := Bytes.eq_of_splitExact? split
        simp only [Front.record.injEq] at front
        obtain ⟨-, -, rfl⟩ := front
        simp only [joined, List.length_cons, List.length_append]
        omega
    · simp at front

/-- A reader on its way through a payload. -/
structure Scanner where
  /-- The number of payload bytes already read. -/
  position : Nat
  /-- The payload bytes not yet read. -/
  rest : Bytes
  /-- Whether an incomplete record has stopped the reader. -/
  truncated : Bool
deriving DecidableEq, Repr

namespace Scanner

/-- A scanner at the front of a payload. -/
def start (payload : Bytes) : Scanner :=
  ⟨0, payload, false⟩

/-- The length of the whole payload. -/
def payloadLength (scanner : Scanner) : Nat :=
  scanner.position + scanner.rest.length

/-- Read one record, if a complete one is left. -/
def next (scanner : Scanner) : Logged (Option Record × Scanner) :=
  if scanner.truncated then
    pure (none, scanner)
  else
    match Front.of scanner.rest with
    | .empty => pure (none, scanner)
    | .record tag value rest =>
        let record : Record := ⟨tag, scanner.position, value⟩
        pure (some record, ⟨scanner.position + record.size, rest, false⟩)
    | .incomplete reason => do
        Logged.emit (.scanStopped scanner.position scanner.payloadLength reason)
        pure (none, { scanner with truncated := true })

/-- Reading a record leaves less to read. -/
theorem length_rest_lt_of_next {scanner after : Scanner} {record : Record}
    (found : scanner.next.value = (some record, after)) :
    after.rest.length < scanner.rest.length := by
  unfold next at found
  split at found
  · simp at found
  · split at found
    · simp at found
    · next front =>
        simp only [Logged.value_pure, Prod.mk.injEq] at found
        obtain ⟨-, rfl⟩ := found
        exact Front.length_lt_of_of_eq_record front
    · simp at found

/-- Skip `count` records and read the next one. -/
def nth (scanner : Scanner) : Nat → Logged (Option Record × Scanner)
  | 0 => scanner.next
  | count + 1 => do
      match ← scanner.next with
      | (none, after) => pure (none, after)
      | (some _, after) => after.nth count

/-- Read up to and including the first record that a test accepts. -/
def seek (accept : Record → Bool) (scanner : Scanner) :
    Logged (Option Record × Scanner) :=
  match found : scanner.next with
  | ⟨events, none, after⟩ => ⟨events, none, after⟩
  | ⟨events, some record, after⟩ =>
      have : after.rest.length < scanner.rest.length :=
        length_rest_lt_of_next (by rw [found])
      if accept record then
        ⟨events, some record, after⟩
      else
        let later := seek accept after
        ⟨events ++ later.events, later.value⟩
termination_by scanner.rest.length

/-- A search ends where no record is left. -/
theorem seek_of_next_none {accept : Record → Bool} {scanner after : Scanner}
    (ends : scanner.next.value = (none, after)) :
    scanner.seek accept = ⟨scanner.next.events, none, after⟩ := by
  rw [seek]
  split
  · next found => simp_all
  · next found => simp_all

/-- A search ends at a record that the test accepts. -/
theorem seek_of_next_accepted {accept : Record → Bool} {scanner after : Scanner}
    {record : Record} (found : scanner.next.value = (some record, after))
    (accepted : accept record = true) :
    scanner.seek accept = ⟨scanner.next.events, some record, after⟩ := by
  rw [seek]
  split
  · next step => simp_all
  · next step => simp_all

/-- A search goes on behind a record that the test does not accept. -/
theorem seek_of_next_refused {accept : Record → Bool} {scanner after : Scanner}
    {record : Record} (found : scanner.next.value = (some record, after))
    (refused : accept record = false) :
    scanner.seek accept =
      ⟨scanner.next.events ++ (after.seek accept).events, (after.seek accept).value⟩ := by
  rw [seek]
  split
  · next step => simp_all
  · next step => simp_all

/-- Read up to and including the first record with the given tag. -/
def find (tag : UInt8) (scanner : Scanner) : Logged (Option Record × Scanner) :=
  scanner.seek fun record => record.tag = tag

/-- Read all records that are left. -/
def drain (scanner : Scanner) : Logged (List Record × Scanner) :=
  match found : scanner.next with
  | ⟨events, none, after⟩ => ⟨events, [], after⟩
  | ⟨events, some record, after⟩ =>
      have : after.rest.length < scanner.rest.length :=
        length_rest_lt_of_next (by rw [found])
      let later := after.drain
      ⟨events ++ later.events, record :: later.value.1, later.value.2⟩
termination_by scanner.rest.length

/-- Nothing is read where no record is left. -/
theorem drain_of_next_none {scanner after : Scanner}
    (ends : scanner.next.value = (none, after)) :
    scanner.drain = ⟨scanner.next.events, [], after⟩ := by
  rw [drain]
  split
  · next step => simp_all
  · next step => simp_all

/-- Reading all records reads the next one and then all others. -/
theorem drain_of_next_some {scanner after : Scanner} {record : Record}
    (found : scanner.next.value = (some record, after)) :
    scanner.drain =
      ⟨scanner.next.events ++ after.drain.events,
        record :: after.drain.value.1, after.drain.value.2⟩ := by
  rw [drain]
  split
  · next step => simp_all
  · next step => simp_all

/-- The number of records that are left.  They are counted by another scanner
in the same place, so this one stays where it is. -/
def remaining (scanner : Scanner) : Logged Nat := do
  let (records, _) ← scanner.drain
  pure records.length

/-- A request to a scanner. -/
inductive Step where
  | next
  | nth (count : Nat)
  | find (tag : UInt8)
  | remaining
deriving DecidableEq, Repr

/-- What a scanner answers. -/
inductive Answer where
  | record (found : Option Record)
  | count (records : Nat)
deriving DecidableEq, Repr

/-- Put one request to a scanner. -/
def step (scanner : Scanner) : Step → Logged (Answer × Scanner)
  | .next => do
      let (found, after) ← scanner.next
      pure (.record found, after)
  | .nth count => do
      let (found, after) ← scanner.nth count
      pure (.record found, after)
  | .find tag => do
      let (found, after) ← scanner.find tag
      pure (.record found, after)
  | .remaining => do
      let records ← scanner.remaining
      pure (.count records, scanner)

/-- Put requests to a scanner one after another.  Each answer comes with the
state of the scanner after it. -/
def run (scanner : Scanner) : List Step → Logged (List (Answer × Scanner))
  | [] => pure []
  | request :: requests => do
      let (answer, after) ← scanner.step request
      let later ← after.run requests
      pure ((answer, after) :: later)

end Scanner

/-- The value of the first record with the given tag, if a complete one comes
before the end of the payload and before an incomplete record. -/
def findValue (payload : Bytes) (tag : UInt8) : Logged (Option Bytes) := do
  let (found, _) ← (Scanner.start payload).find tag
  pure (found.map Record.value)

end Announce
