import Announce.Proofs.Reading
import Mathlib.Data.List.Forall2

/-!
# Scanners as cursors

Whatever requests are put to a scanner and in whatever order, it answers like a
cursor over the list of all records of its payload.  The cursor counts records
and knows nothing of bytes.  A scanner learns that its payload is truncated only
from a request that finds no record, so a cursor that stands behind the last
record is not the same as one that has been refused.
-/

namespace Announce

/-- A place in a list of records. -/
structure Cursor where
  /-- The number of records in front of the cursor. -/
  index : Nat
  /-- Whether a request has found no record. -/
  refused : Bool
deriving DecidableEq, Repr

namespace Cursor

def start : Cursor :=
  ⟨0, false⟩

/-- Read the record with a number, or go behind all records if there is none. -/
def readAt (records : List Record) (cursor : Cursor) (index : Nat) :
    Scanner.Answer × Cursor :=
  match records[index]? with
  | some record => (.record (some record), { cursor with index := index + 1 })
  | none => (.record none, ⟨records.length, true⟩)

def step (records : List Record) (cursor : Cursor) : Scanner.Step → Scanner.Answer × Cursor
  | .next => cursor.readAt records cursor.index
  | .nth count => cursor.readAt records (cursor.index + count)
  | .find tag =>
      cursor.readAt records
        (cursor.index + (records.drop cursor.index).findIdx fun record => record.tag = tag)
  | .remaining => (.count (records.length - cursor.index), cursor)

def run (records : List Record) (cursor : Cursor) :
    List Scanner.Step → List (Scanner.Answer × Cursor)
  | [] => []
  | request :: requests =>
      let (answer, after) := cursor.step records request
      (answer, after) :: after.run records requests

/-- The place in the payload at which a cursor stands. -/
def position (records : List Record) (cursor : Cursor) : Nat :=
  match records[cursor.index]? with
  | some record => record.offset
  | none => endOfRecords records

/-- A scanner over a payload shows the position of a cursor over its records, and
shows a truncation if the cursor has been refused and an incomplete record
follows the last complete one. -/
structure Shows (payload : Bytes) (cursor : Cursor) (scanner : Scanner) : Prop where
  position : scanner.position = cursor.position (scan payload).1
  truncated : scanner.truncated = true ↔
    cursor.refused = true ∧ Incomplete (payload.drop (endOfRecords (scan payload).1))

/-- The relation that requests preserve.  What a scanner has ahead are the
records behind the cursor; a refused cursor goes with the scanner that has read
all records, and no other one has been stopped. -/
structure Follows (payload : Bytes) (cursor : Cursor) (scanner : Scanner) : Prop where
  ahead : scanner.drain.value = ((scan payload).1.drop cursor.index, (scan payload).2)
  inside : cursor.index ≤ (scan payload).1.length
  refused : cursor.refused = true →
    cursor.index = (scan payload).1.length ∧ scanner = (scan payload).2
  clean : cursor.refused = false → scanner.truncated = false

variable {payload : Bytes} {cursor : Cursor} {scanner : Scanner}

/-! ## One request -/

theorem follows_start (payload : Bytes) : Follows payload start (.start payload) where
  ahead := rfl
  inside := Nat.zero_le _
  refused := by simp [start]
  clean := fun _ => rfl

theorem Follows.shows (follows : Follows payload cursor scanner) :
    Shows payload cursor scanner := by
  constructor
  · rw [Cursor.position]
    have ahead := follows.ahead
    cases present : (scan payload).1[cursor.index]? with
    | some record =>
        rcases List.getElem?_eq_some_iff.mp present with ⟨inside, same⟩
        rw [List.drop_eq_getElem_cons inside, same] at ahead
        exact (offset_of_drain_eq_cons ahead).symm
    | none =>
        have behind := position_drain scanner
        rw [ahead, List.drop_eq_nil_of_le (List.getElem?_eq_none_iff.mp present)] at behind
        exact behind.symm.trans (position_scan payload)
  · rw [← position_scan, ← truncated_scan_iff]
    cases refused : cursor.refused with
    | true => simp [(follows.refused refused).2]
    | false => simp [follows.clean refused]

/-- Reading at a place ahead of a scanner reads at that place behind the cursor. -/
theorem Follows.reads (follows : Follows payload cursor scanner) {index : Nat}
    {outcome : Log.Logged (Option Record × Scanner)} (reads : scanner.Reads index outcome) :
    .record outcome.value.1 = (cursor.readAt (scan payload).1 (cursor.index + index)).1 ∧
      Follows payload (cursor.readAt (scan payload).1 (cursor.index + index)).2
        outcome.value.2 := by
  have ahead := follows.ahead
  cases reads with
  | @found record after present clean behind =>
      rw [ahead, List.getElem?_drop] at present
      rw [ahead, List.drop_drop] at behind
      rcases List.getElem?_eq_some_iff.mp present with ⟨inside, -⟩
      simp only [readAt, present, true_and]
      constructor
      · exact congrArg Log.Logged.value behind
      · exact inside
      · intro refused
        have := (follows.refused refused).1
        omega
      · exact fun _ => clean
  | missing absent =>
      rw [ahead, List.getElem?_drop] at absent
      simp only [readAt, absent, ahead, true_and]
      constructor
      · rw [(ended_scan payload).drain_eq, List.drop_length]
      · exact Nat.le_refl _
      · exact fun _ => ⟨rfl, rfl⟩
      · simp

/-- A request to a scanner is answered as the same request to the cursor, and the
two stay together. -/
theorem Follows.step (follows : Follows payload cursor scanner) (request : Scanner.Step) :
    (scanner.step request).value.1 = (cursor.step (scan payload).1 request).1 ∧
      Follows payload (cursor.step (scan payload).1 request).2
        (scanner.step request).value.2 := by
  cases request with
  | next => exact follows.reads scanner.reads_next
  | nth count => exact follows.reads (scanner.reads_nth count)
  | find tag =>
      have reads := scanner.reads_seek fun record => record.tag = tag
      rw [follows.ahead] at reads
      exact follows.reads reads
  | remaining =>
      refine ⟨?_, follows⟩
      change Scanner.Answer.count scanner.drain.value.1.length = _
      rw [follows.ahead, List.length_drop]
      rfl

/-! ## Any number of requests -/

theorem Follows.run (follows : Follows payload cursor scanner)
    (requests : List Scanner.Step) :
    List.Forall₂
      (fun result expected => result.1 = expected.1 ∧ expected.2.Shows payload result.2)
      (scanner.run requests).value (cursor.run (scan payload).1 requests) := by
  induction requests generalizing cursor scanner with
  | nil => exact .nil
  | cons request requests ih =>
      rcases follows.step request with ⟨answer, after⟩
      exact .cons ⟨answer, after.shows⟩ (ih after)

end Cursor

/-- Every run of a scanner over a payload is the run of a cursor over the records
of a full scan, with the same answers and with every state shown.  Once a request
has found no record, every later request for one finds none and changes nothing. -/
theorem run_follows_cursor (payload : Bytes) (requests : List Scanner.Step) :
    List.Forall₂
      (fun result expected => result.1 = expected.1 ∧ expected.2.Shows payload result.2)
      ((Scanner.start payload).run requests).value
      (Cursor.start.run (scan payload).1 requests) ∧
    ∀ (earlier later : Nat) (request : Scanner.Step) (after : Scanner),
      earlier < later →
      ((Scanner.start payload).run requests).value[earlier]? = some (.record none, after) →
      requests[later]? = some request → request ≠ .remaining →
      ((Scanner.start payload).run requests).value[later]? = some (.record none, after) :=
  ⟨(Cursor.follows_start payload).run requests,
    fun _ _ _ _ before refused asked reading =>
      Scanner.run_of_refused before refused asked reading⟩

/-- A scanner over one record and a lone tag, refused by a skip, stays refused. -/
theorem run_follows_cursor_lone_tag :
    let requests : List Scanner.Step := [.nth 1, .remaining, .find 1]
    let refused : Scanner.Answer × Scanner := (.record none, ⟨2, [4], true⟩)
    ((Scanner.start [1, 0, 4]).run requests).value[0]? = some refused ∧
    ((Scanner.start [1, 0, 4]).run requests).value[2]? = some refused := by
  intro requests refused
  have first : ((Scanner.start [1, 0, 4]).run requests).value[0]? = some refused := rfl
  exact ⟨first, (run_follows_cursor [1, 0, 4] requests).2 0 2 (.find 1) _ (by decide) first
    rfl (by decide)⟩

end Announce
