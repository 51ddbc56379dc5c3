import Announce.Payload.Draft
import Announce.Proofs.NeighborList

/-!
# Drafts written record by record

A draft to which records and neighbor records are appended, one after the other,
can be read at any time.  A value that is too long leaves the draft as it is, and
what is read is what the other writes appended, in order.
-/

namespace Announce.Draft

/-- A step that appends a record. -/
inductive Write where
  | put (tag : UInt8) (value : Bytes)
  | putNeighbors (ids : List String) (limit : UInt64)
deriving DecidableEq, Repr

namespace Write

def step : Write → Step
  | .put tag value => .put tag value
  | .putNeighbors ids limit => .putNeighbors ids limit

def tag : Write → UInt8
  | .put tag _ => tag
  | .putNeighbors .. => 0x04

/-- The value of the record: that of a neighbor record has the identifiers of the
different texts, in the order in which they first occur and up to the limit. -/
def value : Write → Bytes
  | .put _ value => value
  | .putNeighbors ids limit =>
      (ids.eraseDups.take limit.toNat).flatMap fun id => (PeerId.ofText id).bytes

/-- What the writer of the record makes of it. -/
def encoded : Write → Except Oversize Bytes
  | .put tag value => Record.encode tag value
  | .putNeighbors ids limit => (Neighbors.encode ids limit).value

def pair (write : Write) : UInt8 × Bytes :=
  (write.tag, write.value)

def failure : Write → Oversize → Answer
  | .put .. => .recordOversize
  | .putNeighbors .. => .listOversize

/-- The answer to a write whose value is too long. -/
def refusal (write : Write) : Answer :=
  write.failure { size := write.value.length, limit := 255 }

/-- The neighbors that a write announces, if it writes a neighbor record. -/
def neighbors? : Write → Option (List PeerId)
  | .put tag value => if tag = 0x04 then some (Neighbors.blocks value) else none
  | .putNeighbors ids limit => some ((ids.eraseDups.take limit.toNat).map PeerId.ofText)

/-- The writer of the record. -/
def writer : Write → Writer Unit
  | .put tag value => Record.append tag value
  | .putNeighbors ids limit => appendNeighbors ids limit

theorem step_eq (draft : Bytes) (write : Write) :
    Draft.step draft write.step = Draft.write draft write.failure write.writer := by
  cases write <;> rfl

theorem written_writer (write : Write) : write.writer.written = write.encoded := by
  cases write with
  | put tag value => rfl
  | putNeighbors ids limit => rw [writer, written_appendNeighbors, encoded]

theorem atomic_writer (write : Write) : write.writer.Atomic := by
  cases write with
  | put tag value => exact Record.atomic_append tag value
  | putNeighbors ids limit => exact atomic_appendNeighbors ids limit

theorem refusal_ne_done (write : Write) : write.refusal ≠ .done := by
  cases write <;> simp [refusal, failure]

theorem encoded_eq (write : Write) :
    write.encoded = Record.encode write.tag write.value := by
  cases write with
  | put tag value => rfl
  | putNeighbors ids limit =>
      rw [encoded, Neighbors.value_encode, Neighbors.retained_eq]
      rfl

/-- Both kinds of writes announce the blocks of their values. -/
theorem neighbors?_eq (write : Write) :
    write.neighbors? =
      if write.tag = 0x04 then some (Neighbors.blocks write.value) else none := by
  cases write with
  | put tag value => rfl
  | putNeighbors ids limit =>
      rw [neighbors?, ← Neighbors.blocks_value]
      rfl

end Write

/-! ## One step -/

/-- What a write can do to a draft: append an entry, or be refused. -/
inductive Outcome (draft : Bytes) (write : Write) : Answer × Bytes → Prop where
  | written (entry : Entry) : entry.pair = write.pair →
      Outcome draft write (.done, draft ++ entry.wire)
  | refused : 255 < write.value.length → Outcome draft write (write.refusal, draft)

/-- A step that appends a record goes on with all of what its writer wrote, or with the
draft as it was. -/
theorem step_write_eq (draft : Bytes) (write : Write) :
    step draft write.step =
      match write.encoded with
      | .ok written => (.done, draft ++ written)
      | .error oversize => (write.failure oversize, draft) := by
  rw [write.step_eq, Draft.write, write.atomic_writer, write.written_writer]
  cases write.encoded <;> rfl

theorem outcome_step (draft : Bytes) (write : Write) :
    Outcome draft write (step draft write.step) := by
  rw [step_write_eq, write.encoded_eq]
  rcases Nat.lt_or_ge Record.maxValueSize write.value.length with large | fits
  · rw [Record.encode_of_lt large]
    exact .refused large
  · let entry : Entry := ⟨write.tag, write.value, fits⟩
    rw [entry.encode_eq]
    exact .written entry rfl

/-! ## Runs of writes -/

/-- The writes of a run that were not refused. -/
def succeeded (draft : Bytes) (writes : List Write) : List Write :=
  ((writes.zip (run draft (writes.map Write.step))).filter
    fun (_, answer, _) => answer = .done).map Prod.fst

theorem succeeded_cons (draft : Bytes) (write : Write) (writes : List Write) :
    succeeded draft (write :: writes) =
      let (answer, next) := step draft write.step
      if answer = .done then write :: succeeded next writes else succeeded next writes := by
  simp only [succeeded, List.map_cons, run, List.zip_cons_cons, List.filter_cons]
  split <;> simp_all

/-- A run of writes appends the entries of those that were not refused. -/
theorem exists_after_eq (draft : Bytes) (writes : List Write) :
    ∃ entries : List Entry, entries.map Entry.pair = (succeeded draft writes).map Write.pair ∧
      after draft (writes.map Write.step) = draft ++ wireAll entries := by
  induction writes generalizing draft with
  | nil => exact ⟨[], rfl, (List.append_nil draft).symm⟩
  | cons write writes ih =>
      have outcome := outcome_step draft write
      rw [succeeded_cons, List.map_cons, after, List.foldl_cons, ← after]
      generalize step draft write.step = result at outcome ⊢
      cases outcome with
      | written entry same =>
          rcases ih (draft ++ entry.wire) with ⟨entries, pairs, appended⟩
          refine ⟨entry :: entries, ?_, ?_⟩
          · simp [same, pairs]
          · rw [appended, wireAll_cons, List.append_assoc]
      | refused large =>
          rcases ih draft with ⟨entries, pairs, appended⟩
          refine ⟨entries, ?_, appended⟩
          simp [write.refusal_ne_done, pairs]

theorem getElem?_run (draft : Bytes) (requests : List Step) (index : Nat) :
    (run draft requests)[index]? =
      requests[index]?.map fun request => step (after draft (requests.take index)) request := by
  induction requests generalizing draft index with
  | nil => rfl
  | cons request requests ih =>
      cases index with
      | zero => rfl
      | succ index => exact ih _ index

theorem after_take_succ {draft : Bytes} {requests : List Step} {index : Nat} {request : Step}
    (asked : requests[index]? = some request) :
    after draft (requests.take (index + 1)) =
      (step (after draft (requests.take index)) request).2 := by
  rw [List.take_add_one, asked]
  simp [after]

/-! ## Reading what was written -/

/-- A draft reads as a list of writes: a scan goes to its end and yields the records
of the writes in order, and what is looked up is in the first write that has it. -/
structure ReadsAs (draft : Bytes) (writes : List Write) : Prop where
  complete : (scan draft).2.truncated = false
  stop : (scan draft).2.position = draft.length
  records : (scan draft).1.map Record.pair = writes.map Write.pair
  values : ∀ tag, (findValue draft tag).value =
    (writes.find? fun write => write.tag = tag).map Write.value
  neighbors : (Neighbors.decode draft).value = writes.findSome? Write.neighbors?

theorem find?_map_pair (entries : List Entry) (tag : UInt8) :
    (entries.find? fun entry => entry.tag = tag).map Entry.value =
      ((entries.map Entry.pair).find? fun pair => pair.1 = tag).map Prod.snd := by
  rw [List.find?_map, Option.map_map]
  rfl

theorem findSome?_neighbors? (writes : List Write) :
    writes.findSome? Write.neighbors? =
      (writes.find? fun write => write.tag = 0x04).map
        fun write => Neighbors.blocks write.value := by
  induction writes with
  | nil => rfl
  | cons write writes ih =>
      by_cases same : write.tag = 0x04 <;> simp [Write.neighbors?_eq, same, ih]

theorem readsAs_wireAll {entries : List Entry} {writes : List Write}
    (same : entries.map Entry.pair = writes.map Write.pair) :
    ReadsAs (wireAll entries) writes := by
  have scanned := scan_wireAll entries
  have values : ∀ tag, (findValue (wireAll entries) tag).value =
      (writes.find? fun write => write.tag = tag).map Write.value := by
    intro tag
    rw [findValue_eq, scanned, find?_placeAll, find?_map_pair, same, List.find?_map,
      Option.map_map]
    rfl
  constructor
  · rw [scanned]
  · rw [scanned]
  · rw [scanned, map_pair_placeAll, same]
  · exact values
  · rw [Neighbors.value_decode, values, findSome?_neighbors?, Option.map_map]
    rfl

theorem scan_wireAll_append_wire (entries : List Entry) (entry : Entry) :
    (scan (wireAll entries ++ entry.wire)).1 =
      (scan (wireAll entries)).1 ++ [entry.placedAt (wireAll entries).length] := by
  have whole : wireAll entries ++ entry.wire = wireAll (entries ++ [entry]) := by simp
  rw [whole, scan_wireAll, scan_wireAll, placeAll_append, Nat.zero_add]
  rfl

/-- After any number of writes to an empty draft it reads as those that were not
refused.  The next write is refused exactly if its value is too long, and leaves
the draft as it is; otherwise it appends one record behind all others. -/
theorem writes_read_in_order (writes : List Write) (count : Nat) :
    let steps := writes.map Write.step
    let draft := after [] (steps.take count)
    ReadsAs draft (succeeded [] (writes.take count)) ∧
    ∀ write, writes[count]? = some write →
      ∃ answer next,
        (run [] steps)[count]? = some (answer, next) ∧
        next = after [] (steps.take (count + 1)) ∧
        (answer = .done ↔ write.value.length ≤ 255) ∧
        (answer ≠ .done → answer = write.refusal ∧ next = draft) ∧
        (answer = .done → ∃ bytes,
          write.encoded = .ok bytes ∧ next = draft ++ bytes ∧
          (scan next).1 = (scan draft).1 ++ [⟨write.tag, draft.length, write.value⟩]) := by
  rcases exists_after_eq [] (writes.take count) with ⟨entries, pairs, appended⟩
  rw [List.map_take, List.nil_append] at appended
  constructor
  · rw [appended]
    exact readsAs_wireAll pairs
  · intro write asked
    have requested : (writes.map Write.step)[count]? = some write.step := by
      rw [List.getElem?_map, asked, Option.map_some]
    have outcome := outcome_step (after [] ((writes.map Write.step).take count)) write
    rw [getElem?_run, after_take_succ requested, requested, Option.map_some]
    rw [appended] at outcome ⊢
    generalize step (wireAll entries) write.step = result at outcome ⊢
    rcases result with ⟨answer, next⟩
    refine ⟨answer, next, rfl, rfl, ?_⟩
    cases outcome with
    | written entry same =>
        have tag : entry.tag = write.tag := congrArg Prod.fst same
        have value : entry.value = write.value := congrArg Prod.snd same
        have fits : write.value.length ≤ 255 := value ▸ entry.fits
        refine ⟨⟨fun _ => fits, fun _ => rfl⟩, fun refused => absurd rfl refused, ?_⟩
        intro _
        refine ⟨entry.wire, ?_, rfl, ?_⟩
        · rw [write.encoded_eq, ← tag, ← value, entry.encode_eq]
        · rw [scan_wireAll_append_wire, Entry.placedAt, tag, value]
    | refused large =>
        have refused := write.refusal_ne_done
        refine ⟨⟨fun done => absurd done refused, ?_⟩, fun _ => ⟨rfl, rfl⟩, ?_⟩
        · intro fits
          exact absurd large (Nat.not_lt.mpr fits)
        · exact fun done => absurd done refused

/-- Between a nickname and a neighbor record, 256 bytes under the tag of neighbor
lists are refused.  The draft reads as the other two. -/
theorem writes_read_in_order_oversize :
    let large : Write := .put 0x04 (List.replicate 256 0)
    let writes : List Write := [.put 0x01 [0xAA], large, .putNeighbors ["ab"] 10]
    let steps := writes.map Write.step
    writes[1]? = some large ∧
    (run [] steps)[1]? = some (.recordOversize ⟨256, 255⟩, [1, 1, 0xAA]) ∧
    ReadsAs (after [] steps) [.put 0x01 [0xAA], .putNeighbors ["ab"] 10] := by
  intro large writes steps
  have asked : writes[1]? = some large := rfl
  have size : large.value.length = 256 := List.length_replicate
  have refusal : large.refusal = .recordOversize ⟨256, 255⟩ := by
    rw [Write.refusal, size]
    rfl
  have first : after [] (steps.take 1) = [1, 1, 0xAA] := rfl
  rcases (writes_read_in_order writes 1).2 large asked with
    ⟨answer, next, found, -, fits, refused, -⟩
  have notDone : answer ≠ .done := by
    rw [Ne, fits, size]
    decide
  rcases refused notDone with ⟨rfl, rfl⟩
  have others : succeeded [] writes = [.put 0x01 [0xAA], .putNeighbors ["ab"] 10] := by
    decide +kernel
  have reads := (writes_read_in_order writes 3).1
  rw [refusal, first] at found
  refine ⟨asked, found, ?_⟩
  rw [← others]
  exact reads

end Announce.Draft
