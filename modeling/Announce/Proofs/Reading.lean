import Announce.Proofs.Scan

/-!
# Reading by place

What a scanner has ahead of it is what reading all records would give.  Every way
of reading one record, by the next place, by a number of places to skip or by a
tag, reads at some place ahead and leaves the records behind that place ahead, or
finds no record there and leaves nothing.
-/

namespace Announce

open Log (Logged Event)

namespace Scanner

/-- The states in which a scanner can be. -/
inductive State : Scanner → Prop where
  /-- An incomplete record has stopped the scanner. -/
  | stopped (position : Nat) (rest : Bytes) : State ⟨position, rest, true⟩
  | atEnd (position : Nat) : State ⟨position, [], false⟩
  | atEntry (position : Nat) (entry : Entry) (rest : Bytes) :
      State ⟨position, entry.wire ++ rest, false⟩
  | atIncomplete (position : Nat) {tail : Bytes} (incomplete : Incomplete tail) :
      State ⟨position, tail, false⟩

theorem state (scanner : Scanner) : State scanner := by
  rcases scanner with ⟨position, rest, truncated⟩
  cases truncated with
  | true => exact .stopped position rest
  | false =>
      rcases eq_nil_or_wire_append_or_incomplete rest with
        rfl | ⟨entry, rest, rfl⟩ | incomplete
      · exact .atEnd position
      · exact .atEntry position entry rest
      · exact .atIncomplete position incomplete

/-- A scanner that finds no more record and stays as it is. -/
def Ended (scanner : Scanner) : Prop :=
  scanner.next = ⟨[], none, scanner⟩

/-- What one reading can do.  A record stands at the position of the scanner, is
read without a report and moves the scanner by its size.  Where no record is
found, the scanner stays where it is and has ended. -/
theorem next_cases (scanner : Scanner) :
    (∃ record after, scanner.next = ⟨[], some record, after⟩ ∧
      scanner.truncated = false ∧ after.truncated = false ∧
      record.offset = scanner.position ∧ after.position = record.offset + record.size) ∨
    (∃ events after, scanner.next = ⟨events, none, after⟩ ∧ after.Ended ∧
      after.position = scanner.position) := by
  cases scanner.state with
  | stopped position rest => exact .inr ⟨_, _, rfl, rfl, rfl⟩
  | atEnd position => exact .inr ⟨_, _, rfl, rfl, rfl⟩
  | atEntry position entry rest =>
      exact .inl ⟨_, _, next_wire_append position entry rest, rfl, rfl, rfl, rfl⟩
  | atIncomplete position incomplete =>
      exact .inr ⟨_, _, next_incomplete position incomplete, rfl, rfl⟩

section

variable {scanner after : Scanner} {events : List Event} {record : Record}

theorem drain_of_next_eq_none (ends : scanner.next = ⟨events, none, after⟩) :
    scanner.drain = ⟨events, [], after⟩ := by
  rw [drain_of_next_none (by rw [ends]), ends]

theorem drain_of_next_eq_some (found : scanner.next = ⟨[], some record, after⟩) :
    scanner.drain =
      ⟨after.drain.events, record :: after.drain.value.1, after.drain.value.2⟩ := by
  rw [drain_of_next_some (by rw [found]), found]
  rfl

theorem Ended.drain_eq (ended : scanner.Ended) : scanner.drain = ⟨[], [], scanner⟩ :=
  drain_of_next_eq_none ended

end

/-- Induction along the records that a scanner has ahead of it. -/
theorem ahead_induction {motive : Scanner → Prop}
    (none : ∀ scanner events after, scanner.next = ⟨events, none, after⟩ → after.Ended →
      after.position = scanner.position → motive scanner)
    (some : ∀ scanner record after, scanner.next = ⟨[], some record, after⟩ →
      scanner.truncated = false → after.truncated = false →
      record.offset = scanner.position → after.position = record.offset + record.size →
      motive after → motive scanner)
    (scanner : Scanner) : motive scanner := by
  rcases scanner.next_cases with
    ⟨record, after, found, clean, cleanAfter, offset, position⟩ |
      ⟨events, after, ends, ended, position⟩
  · have shorter : after.rest.length < scanner.rest.length :=
      length_rest_lt_of_next (by rw [found])
    exact some scanner record after found clean cleanAfter offset position
      (ahead_induction none some after)
  · exact none scanner events after ends ended position
termination_by scanner.rest.length

/-- The scanner that has read all records has ended. -/
theorem ended_drain (scanner : Scanner) : scanner.drain.value.2.Ended := by
  induction scanner using ahead_induction with
  | none scanner events after ends ended position =>
      rw [drain_of_next_eq_none ends]
      exact ended
  | some scanner record after found clean cleanAfter offset position ih =>
      rw [drain_of_next_eq_some found]
      exact ih

/-- The outcome of reading the record at a place among those ahead. -/
inductive Reads (scanner : Scanner) (index : Nat) :
    Logged (Option Record × Scanner) → Prop where
  | found {record : Record} {after : Scanner} :
      scanner.drain.value.1[index]? = some record → after.truncated = false →
      after.drain = ⟨scanner.drain.events, scanner.drain.value.1.drop (index + 1),
        scanner.drain.value.2⟩ →
      Reads scanner index ⟨[], some record, after⟩
  | missing :
      scanner.drain.value.1[index]? = none →
      Reads scanner index ⟨scanner.drain.events, none, scanner.drain.value.2⟩

namespace Reads

variable {scanner after : Scanner} {index : Nat} {record : Record}
variable {outcome : Logged (Option Record × Scanner)}

theorem answer (reads : scanner.Reads index outcome) :
    outcome.value.1 = scanner.drain.value.1[index]? := by
  cases reads with
  | found present clean behind => exact present.symm
  | missing absent => exact absent.symm

theorem later (found : scanner.next = ⟨[], some record, after⟩)
    (reads : after.Reads index outcome) : scanner.Reads (index + 1) outcome := by
  have ahead := drain_of_next_eq_some found
  cases reads with
  | found present clean behind =>
      refine .found ?_ clean ?_
      · rw [ahead]
        exact present
      · rw [ahead]
        exact behind
  | missing absent =>
      have missing : scanner.Reads (index + 1)
          ⟨scanner.drain.events, none, scanner.drain.value.2⟩ := by
        apply Reads.missing
        rw [ahead]
        exact absent
      rw [ahead] at missing
      exact missing

theorem of_next_none {events : List Event} (ends : scanner.next = ⟨events, none, after⟩)
    (index : Nat) : scanner.Reads index ⟨events, none, after⟩ := by
  have ahead := drain_of_next_eq_none ends
  have missing : scanner.Reads index ⟨scanner.drain.events, none, scanner.drain.value.2⟩ := by
    apply Reads.missing
    rw [ahead]
    rfl
  rw [ahead] at missing
  exact missing

theorem of_next_some (found : scanner.next = ⟨[], some record, after⟩)
    (clean : after.truncated = false) : scanner.Reads 0 ⟨[], some record, after⟩ := by
  have ahead := drain_of_next_eq_some found
  refine .found ?_ clean ?_
  · rw [ahead]
    rfl
  · rw [ahead]
    rfl

end Reads

theorem reads_next (scanner : Scanner) : scanner.Reads 0 scanner.next := by
  rcases scanner.next_cases with
    ⟨record, after, found, -, clean, -, -⟩ | ⟨events, after, ends, -, -⟩
  · rw [found]
    exact .of_next_some found clean
  · rw [ends]
    exact .of_next_none ends 0

/-- Skipping `count` records reads at place `count`. -/
theorem reads_nth (count : Nat) (scanner : Scanner) : scanner.Reads count (scanner.nth count) := by
  induction count generalizing scanner with
  | zero => exact scanner.reads_next
  | succ count ih =>
      rcases scanner.next_cases with
        ⟨record, after, found, -, -, -, -⟩ | ⟨events, after, ends, -, -⟩
      · have skipped : scanner.nth (count + 1) = after.nth count := by
          rw [nth, found]
          rfl
        rw [skipped]
        exact (ih after).later found
      · have stopped : scanner.nth (count + 1) = ⟨events ++ [], none, after⟩ := by
          rw [nth, ends]
          rfl
        rw [stopped, List.append_nil]
        exact .of_next_none ends (count + 1)

/-- A search reads at the first place ahead whose record the test accepts. -/
theorem reads_seek (accept : Record → Bool) (scanner : Scanner) :
    scanner.Reads (scanner.drain.value.1.findIdx accept) (scanner.seek accept) := by
  induction scanner using ahead_induction with
  | none scanner events after ends ended position =>
      rw [seek_of_next_none (by rw [ends]), ends]
      exact .of_next_none ends _
  | some scanner record after found clean cleanAfter offset position ih =>
      rw [drain_of_next_eq_some found, List.findIdx_cons]
      cases accepted : accept record with
      | true =>
          rw [seek_of_next_accepted (by rw [found]) accepted, found]
          exact .of_next_some found cleanAfter
      | false =>
          rw [seek_of_next_refused (by rw [found]) accepted, found]
          exact ih.later found

end Scanner

/-! ## Where a scan ends -/

/-- The end of the last record in a list, or zero if there is none. -/
def endOfRecords (records : List Record) : Nat :=
  match records.getLast? with
  | some record => record.offset + record.size
  | none => 0

theorem position_drain (scanner : Scanner) :
    scanner.drain.value.2.position =
      match scanner.drain.value.1.getLast? with
      | some record => record.offset + record.size
      | none => scanner.position := by
  induction scanner using Scanner.ahead_induction with
  | none scanner events after ends ended position =>
      rw [Scanner.drain_of_next_eq_none ends]
      exact position
  | some scanner record after found clean cleanAfter offset position ih =>
      rw [Scanner.drain_of_next_eq_some found]
      simp only [ih, List.getLast?_cons]
      cases after.drain.value.1.getLast? with
      | none => exact position
      | some last => rfl

/-- Reading all records goes on by the sizes of all of them. -/
theorem position_drain_eq_add (scanner : Scanner) :
    scanner.drain.value.2.position =
      scanner.position + (scanner.drain.value.1.map Record.size).sum := by
  induction scanner using Scanner.ahead_induction with
  | none scanner events after ends ended position =>
      rw [Scanner.drain_of_next_eq_none ends]
      exact position
  | some scanner record after found clean cleanAfter offset position ih =>
      rw [Scanner.drain_of_next_eq_some found]
      simp only [ih, List.map_cons, List.sum_cons]
      omega

theorem ended_scan (payload : Bytes) : (scan payload).2.Ended :=
  Scanner.ended_drain (Scanner.start payload)

theorem position_scan (payload : Bytes) :
    (scan payload).2.position = endOfRecords (scan payload).1 :=
  position_drain (Scanner.start payload)

theorem endOfRecords_eq_zero_or (records : List Record) :
    endOfRecords records = 0 ∨
      ∃ record ∈ records, endOfRecords records = record.offset + record.size := by
  unfold endOfRecords
  cases last : records.getLast? with
  | none => exact .inl rfl
  | some record => exact .inr ⟨record, List.mem_of_getLast? last, rfl⟩

/-- No record of a scan ends behind the place where the scan stopped. -/
theorem end_le_position_scan {payload : Bytes} {record : Record}
    (member : record ∈ (scan payload).1) :
    record.offset + record.size ≤ (scan payload).2.position := by
  rcases Layout.exists_toBytes_eq payload with ⟨layout, rfl⟩
  rw [scan_toBytes] at member ⊢
  simpa using (bounds_of_mem_placeAll member).2

theorem position_scan_le (payload : Bytes) :
    (scan payload).2.position ≤ payload.length := by
  rcases Layout.exists_toBytes_eq payload with ⟨layout, rfl⟩
  rw [scan_toBytes]
  simp [Layout.toBytes]

/-- A scan has stopped on a truncation exactly if it has not come to the end of the
payload. -/
theorem truncated_scan_iff_ne (payload : Bytes) :
    (scan payload).2.truncated = true ↔ payload.length ≠ (scan payload).2.position := by
  rcases Layout.exists_toBytes_eq payload with ⟨layout, rfl⟩
  rw [scan_toBytes]
  simp [Layout.toBytes]

theorem offset_of_drain_eq_cons {scanner : Scanner} {record : Record} {records : List Record}
    {last : Scanner} (ahead : scanner.drain.value = (record :: records, last)) :
    record.offset = scanner.position := by
  rcases scanner.next_cases with
    ⟨first, after, found, -, -, offset, -⟩ | ⟨events, after, ends, -, -⟩
  · rw [Scanner.drain_of_next_eq_some found] at ahead
    simp only [Prod.mk.injEq, List.cons.injEq] at ahead
    rcases ahead with ⟨⟨rfl, -⟩, -⟩
    exact offset
  · rw [Scanner.drain_of_next_eq_none ends] at ahead
    simp at ahead

/-! ## Scanners that have ended -/

namespace Scanner

variable {scanner after : Scanner} {index : Nat} {record : Record}

/-- Reading from a scanner that has ended finds nothing and changes nothing. -/
theorem Ended.outcome_eq (ended : scanner.Ended) {outcome : Log.Logged (Option Record × Scanner)}
    (reads : scanner.Reads index outcome) : outcome.value = (none, scanner) := by
  have ahead := ended.drain_eq
  cases reads with
  | found present clean behind => simp [ahead] at present
  | missing absent => rw [ahead]

/-- A reading that finds nothing ends the scanner. -/
theorem Reads.ended {outcome : Log.Logged (Option Record × Scanner)}
    (reads : scanner.Reads index outcome) (nothing : outcome.value.1 = none) :
    outcome.value.2.Ended := by
  cases reads with
  | found present clean behind => simp at nothing
  | missing absent => exact ended_drain scanner

/-- Every request that reads a record reads at some place ahead. -/
theorem exists_reads_of_step (scanner : Scanner) {request : Step}
    (reading : request ≠ .remaining) :
    ∃ index outcome, scanner.Reads index outcome ∧
      scanner.step request = ⟨outcome.events, .record outcome.value.1, outcome.value.2⟩ := by
  cases request with
  | next => exact ⟨_, _, scanner.reads_next, Logged.ext (List.append_nil _) rfl⟩
  | nth count => exact ⟨_, _, scanner.reads_nth count, Logged.ext (List.append_nil _) rfl⟩
  | find tag => exact ⟨_, _, scanner.reads_seek _, Logged.ext (List.append_nil _) rfl⟩
  | remaining => exact absurd rfl reading

theorem ended_of_step {request : Step}
    (nothing : (scanner.step request).value = (.record none, after)) : after.Ended := by
  have reading : request ≠ .remaining := by
    rintro rfl
    simp [step] at nothing
  rcases scanner.exists_reads_of_step reading with ⟨index, outcome, reads, stepped⟩
  rw [stepped] at nothing
  simp only [Prod.mk.injEq, Answer.record.injEq] at nothing
  rcases nothing with ⟨absent, rfl⟩
  exact reads.ended absent

theorem Ended.step (ended : scanner.Ended) (request : Step) :
    (scanner.step request).value.2 = scanner ∧
      (request ≠ .remaining → (scanner.step request).value = (.record none, scanner)) := by
  by_cases reading : request = .remaining
  · subst reading
    exact ⟨rfl, fun other => absurd rfl other⟩
  · rcases scanner.exists_reads_of_step reading with ⟨index, outcome, reads, stepped⟩
    rw [stepped, ended.outcome_eq reads]
    exact ⟨rfl, fun _ => rfl⟩

theorem value_run_cons (scanner : Scanner) (request : Step) (requests : List Step) :
    (scanner.run (request :: requests)).value =
      (scanner.step request).value ::
        ((scanner.step request).value.2.run requests).value := rfl

/-- A scanner that has ended refuses every request for a record and stays as it is. -/
theorem Ended.run (ended : scanner.Ended) {requests : List Step} {request : Step}
    (asked : requests[index]? = some request) (reading : request ≠ .remaining) :
    (scanner.run requests).value[index]? = some (.record none, scanner) := by
  induction requests generalizing index with
  | nil => simp at asked
  | cons first requests ih =>
      rw [value_run_cons]
      cases index with
      | zero =>
          simp only [List.getElem?_cons_zero, Option.some.injEq] at asked
          subst asked
          exact congrArg some ((ended.step first).2 reading)
      | succ index =>
          rw [List.getElem?_cons_succ, (ended.step first).1]
          exact ih asked

/-- Behind a request that found nothing, every request for a record finds nothing
and leaves the scanner as it was then. -/
theorem run_of_refused {requests : List Step} {request : Step} {earlier later : Nat}
    (before : earlier < later)
    (refused : (scanner.run requests).value[earlier]? = some (.record none, after))
    (asked : requests[later]? = some request) (reading : request ≠ .remaining) :
    (scanner.run requests).value[later]? = some (.record none, after) := by
  induction requests generalizing scanner earlier later with
  | nil => simp at asked
  | cons first requests ih =>
      rcases Nat.exists_eq_succ_of_ne_zero (Nat.ne_zero_of_lt before) with ⟨later, rfl⟩
      rw [value_run_cons] at refused ⊢
      cases earlier with
      | zero =>
          have stepped : (scanner.step first).value = (.record none, after) :=
            Option.some.inj refused
          rw [stepped]
          exact (ended_of_step stepped).run asked reading
      | succ earlier => exact ih (Nat.lt_of_succ_lt_succ before) refused asked

end Scanner

/-! ## Looking up a tag -/

/-- The value that is looked up under a tag is that of the first record of the
scan with this tag. -/
theorem findValue_eq (payload : Bytes) (tag : UInt8) :
    (findValue payload tag).value =
      ((scan payload).1.find? fun record => record.tag = tag).map Record.value := by
  have reads := Scanner.reads_seek (fun record => record.tag = tag) (Scanner.start payload)
  change Option.map Record.value ((Scanner.start payload).seek _).value.1 = _
  rw [reads.answer, ← List.find?_eq_getElem?_findIdx]
  rfl

theorem find?_placeAll (position : Nat) (entries : List Entry) (tag : UInt8) :
    ((placeAll position entries).find? fun record => record.tag = tag).map Record.value =
      (entries.find? fun entry => entry.tag = tag).map Entry.value := by
  induction entries generalizing position with
  | nil => rfl
  | cons entry entries ih =>
      by_cases same : entry.tag = tag
      · simp [placeAll, Entry.placedAt, same]
      · simp [placeAll, Entry.placedAt, same, ih]

/-- The value that is looked up under a tag is that of the first entry with it. -/
theorem findValue_toBytes (layout : Layout) (tag : UInt8) :
    (findValue layout.toBytes tag).value =
      (layout.entries.find? fun entry => entry.tag = tag).map Entry.value := by
  rw [findValue_eq, scan_toBytes, find?_placeAll]

end Announce
