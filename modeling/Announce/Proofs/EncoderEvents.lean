import Announce.Proofs.LogChoice

/-!
# What the encoder reports

A run of the encoder reports a limit that is too wide, what it leaves out of the list and
the record that it has written, in this order.  That it reads its record again leaves no
trace, for the record stands alone and is complete.  The numbers in these reports and the
size of the record add up to the number of texts that were asked for.
-/

namespace Announce

open Log (Logged Event)

/-! ## Reading a record that stands in front -/

theorem findValue_wire_append (entry : Entry) (rest : Bytes) :
    findValue (entry.wire ++ rest) entry.tag = ⟨[], some entry.value⟩ := by
  have next := Scanner.next_wire_append 0 entry rest
  have found : (Scanner.start (entry.wire ++ rest)).find entry.tag =
      ⟨[], some (entry.placedAt 0), ⟨0 + entry.size, rest, false⟩⟩ := by
    have accepted : decide ((entry.placedAt 0).tag = entry.tag) = true := decide_eq_true rfl
    rw [Scanner.find, Scanner.start, Scanner.seek_of_next_accepted (by rw [next]) accepted, next]
  rw [findValue, found]
  rfl

namespace Neighbors

/-- Nothing is reported when a record of whole identifiers is read. -/
theorem decode_entryOf_eq (ids : List PeerId) (few : ids.length ≤ 31) :
    decode (entryOf ids few).wire = ⟨[], some ids⟩ := by
  have found := findValue_wire_append (entryOf ids few) []
  rw [List.append_nil] at found
  have whole : (entryOf ids few).value.length % PeerId.size = 0 := by
    change (ids.flatMap PeerId.bytes).length % 8 = 0
    rw [length_flatMap_bytes, Nat.mul_mod_right]
  apply Logged.ext
  · change (findValue _ (entryOf ids few).tag >>= _).events = _
    rw [found, Logged.events_bind]
    simp [whole]
  · exact decode_entryOf ids few

/-! ## Writing -/

/-- Repeated texts are reported before the list is cut. -/
theorem events_encode (ids : List String) (limit : UInt64) :
    (encode ids limit).events =
      (if 0 < ids.length - ids.eraseDups.length then
        [.duplicatesDropped (ids.length - ids.eraseDups.length)] else []) ++
      (if limit.toNat < ids.eraseDups.length then
        [.listCut (ids.eraseDups.length - limit.toNat) limit.toNat] else []) := by
  unfold encode
  rw [distinct_eq]
  dsimp only
  split <;> split <;> rfl

theorem level_of_mem_events_encode {ids : List String} {limit : UInt64} {event : Event}
    (reported : event ∈ (encode ids limit).events) : event.level = .debug := by
  rw [events_encode, List.mem_append] at reported
  rcases reported with repeated | cut
  · split at repeated
    · rw [List.mem_singleton.mp repeated]
      rfl
    · simp at repeated
  · split at cut
    · rw [List.mem_singleton.mp cut]
      rfl
    · simp at cut

/-- The record that was just written is read as the identifiers of the texts that are kept,
and reading it adds nothing to the report. -/
theorem decode_of_encoded {ids : List String} {limit : UInt64} {record : Bytes}
    (encoded : (encode ids limit).value = .ok record) :
    decode record = ⟨[], some ((retained ids limit).map PeerId.ofText)⟩ := by
  rcases value_encode_eq_ok_iff.mp encoded with ⟨few, rfl⟩
  have few' : ((retained ids limit).map PeerId.ofText).length ≤ 31 := by
    rwa [List.length_map]
  have decoded := decode_entryOf_eq _ few'
  rw [wire_entryOf, ← value_eq] at decoded
  exact decoded

/-! ## Accounting for the texts -/

/-- The number of identifiers in what was written, or in what was too large for a record. -/
def heldCount : Except Oversize Bytes → Nat
  | .ok record => (record.length - 2) / 8
  | .error oversize => oversize.size / 8

theorem length_of_encoded {ids : List String} {limit : UInt64} {record : Bytes}
    (encoded : (encode ids limit).value = .ok record) :
    record.length = 2 + 8 * (retained ids limit).length := by
  rcases value_encode_eq_ok_iff.mp encoded with ⟨-, rfl⟩
  rw [List.length_cons, List.length_cons, length_value]
  omega

/-- Whether they fit into a record or not, these are the texts that are kept. -/
theorem heldCount_encode (ids : List String) (limit : UInt64) :
    heldCount (encode ids limit).value = (retained ids limit).length := by
  cases written : (encode ids limit).value with
  | ok record =>
      have size := length_of_encoded written
      rw [heldCount]
      omega
  | error oversize =>
      rcases value_encode_eq_error_iff.mp written with ⟨-, rfl⟩
      exact Nat.mul_div_cancel_left _ (by decide)

theorem length_distinct_le (ids : List String) : (distinct ids).length ≤ ids.length := by
  rw [distinct_eq]
  exact (eraseDups_sublist ids).length_le

end Neighbors

namespace EncodeOptions

/-- The warning that a record cannot hold as many identifiers as the limit lets through. -/
def limitWarning (options : EncodeOptions) : List Event :=
  if Record.maxValueSize < Neighbors.maxValueSize options.maxNeighbors then
    [.capExceedsRecord options.maxNeighbors.toNat]
  else []

/-- The report of the record that is written. -/
def writtenReport (options : EncodeOptions) : Except Oversize Bytes → List Event
  | .ok record => [.recordEncoded options.peerIds.length record.length]
  | .error _ => []

theorem mem_limitWarning_iff {options : EncodeOptions} {event : Event} :
    event ∈ options.limitWarning ↔
      event = .capExceedsRecord options.maxNeighbors.toNat ∧
        Record.maxValueSize < Neighbors.maxValueSize options.maxNeighbors := by
  unfold limitWarning
  split
  · next wide => simp [wide]
  · next narrow => simp [narrow]

theorem level_of_mem_writtenReport {options : EncodeOptions} {written : Except Oversize Bytes}
    {event : Event} (reported : event ∈ options.writtenReport written) : event.level = .info := by
  cases written with
  | ok record =>
      rw [List.mem_singleton.mp reported]
      rfl
  | error oversize => cases reported

/-- Nothing is reported about texts that are refused. -/
theorem events_run (options : EncodeOptions) :
    options.run.events =
      if options.offender? = none then
        options.limitWarning ++ (Neighbors.encode options.peerIds options.maxNeighbors).events ++
          options.writtenReport (Neighbors.encode options.peerIds options.maxNeighbors).value
      else [] := by
  unfold run
  rw [options.check_eq]
  cases options.offender? with
  | some text => rfl
  | none =>
      rw [if_pos rfl, List.append_assoc]
      dsimp only [onSuccess, Except.mapError, limitWarning]
      cases written : (Neighbors.encode options.peerIds options.maxNeighbors).value with
      | error oversize => split <;> simp [written, writtenReport]
      | ok record =>
          have quiet := Neighbors.decode_of_encoded written
          split <;> simp [written, writtenReport, quiet]

/-- The encoder warns of nothing but its limit. -/
theorem mem_events_run_iff_of_warn {options : EncodeOptions} {event : Event}
    (warns : event.level = .warn) :
    event ∈ options.run.events ↔
      options.offender? = none ∧ event = .capExceedsRecord options.maxNeighbors.toNat ∧
        Record.maxValueSize < Neighbors.maxValueSize options.maxNeighbors := by
  rw [events_run]
  split
  · next clean =>
      rw [and_iff_right clean, ← mem_limitWarning_iff, List.mem_append, List.mem_append]
      constructor
      · rintro ((warning | encoding) | written)
        · exact warning
        · have level := Neighbors.level_of_mem_events_encode encoding
          rw [warns] at level
          cases level
        · have level := level_of_mem_writtenReport written
          rw [warns] at level
          cases level
      · intro warning
        exact .inl (.inl warning)
  · next refused => simp [refused]

/-- Of the events of a run those of the writer alone are meant for debugging. -/
theorem filter_events_run_of_debug {options : EncodeOptions} (clean : options.offender? = none) :
    (options.run.events.filter fun event => event.level = .debug) =
      (Neighbors.encode options.peerIds options.maxNeighbors).events := by
  have warning : (options.limitWarning.filter fun event => event.level = .debug) = [] := by
    rw [List.filter_eq_nil_iff]
    intro event reported
    rw [(mem_limitWarning_iff.mp reported).1]
    simp [Event.level]
  have encoding : ((Neighbors.encode options.peerIds options.maxNeighbors).events.filter
      fun event => event.level = .debug) =
        (Neighbors.encode options.peerIds options.maxNeighbors).events := by
    rw [List.filter_eq_self]
    intro event reported
    simpa using Neighbors.level_of_mem_events_encode reported
  have written (outcome : Except Oversize Bytes) :
      ((options.writtenReport outcome).filter fun event => event.level = .debug) = [] := by
    rw [List.filter_eq_nil_iff]
    intro event reported
    simp [level_of_mem_writtenReport reported]
  rw [events_run, if_pos clean, List.filter_append, List.filter_append, warning, encoding, written,
    List.nil_append, List.append_nil]

/-- What is told of a record is the number of texts that were asked for and its length. -/
theorem encoded_of_mem_events_run {options : EncodeOptions} {requested length : Nat}
    (reported : .recordEncoded requested length ∈ options.run.events) :
    requested = options.peerIds.length ∧ ∃ record,
      (Neighbors.encode options.peerIds options.maxNeighbors).value = .ok record ∧
        length = record.length := by
  rw [events_run] at reported
  split at reported
  · rw [List.mem_append, List.mem_append] at reported
    rcases reported with (warning | encoding) | written
    · cases (mem_limitWarning_iff.mp warning).1
    · cases Neighbors.level_of_mem_events_encode encoding
    · cases outcome : (Neighbors.encode options.peerIds options.maxNeighbors).value with
      | ok record =>
          rw [outcome] at written
          cases List.mem_singleton.mp written
          exact ⟨rfl, record, rfl, rfl⟩
      | error oversize =>
          rw [outcome] at written
          cases written
  · cases reported

end EncodeOptions

namespace Neighbors

/-- Every text that is asked for is accounted for.  It is a repetition, and the number of
these is reported if there are any, or it is cut off by the limit, and the number of these
is reported if there are any, or it is held by the record or by the list that is too large
for one.  No number is subtracted from a smaller one.  A run of the encoder that accepts
its texts reports nothing else for debugging, and tells of a record how many texts were
asked for. -/
theorem events_account_for_texts (ids : List String) (limit : UInt64) :
    ∃ duplicates dropped held : Nat,
      (encode ids limit).events =
        (if 0 < duplicates then [.duplicatesDropped duplicates] else []) ++
          (if 0 < dropped then [.listCut dropped limit.toNat] else []) ∧
      heldCount (encode ids limit).value = held ∧
      ids.length = duplicates + dropped + held ∧
      (0 < dropped → held = limit.toNat) ∧
      duplicates + (distinct ids).length = ids.length ∧
      (0 < dropped ↔ limit.toNat < (distinct ids).length) ∧
      (0 < dropped → dropped + limit.toNat = (distinct ids).length) ∧
      ∀ strict : Bool, (strict = true → requireStrict ids = .ok ()) →
        let run := EncodeOptions.run ⟨ids, limit, strict⟩
        (run.events.filter fun event => event.level = .debug) = (encode ids limit).events ∧
        ∀ requested length, .recordEncoded requested length ∈ run.events →
          requested = ids.length ∧ length = 2 + 8 * held := by
  have shorter := length_distinct_le ids
  have kept : (retained ids limit).length = min limit.toNat (distinct ids).length :=
    List.length_take
  have reported := events_encode ids limit
  rw [← distinct_eq] at reported
  refine ⟨ids.length - (distinct ids).length, (distinct ids).length - limit.toNat,
    (retained ids limit).length, ?_, heldCount_encode ids limit, ?_, ?_, ?_, ?_, ?_, ?_⟩
  · rw [reported]
    simp only [Nat.sub_pos_iff_lt]
  · omega
  · omega
  · omega
  · omega
  · omega
  · intro strict accepted run
    constructor
    · exact EncodeOptions.filter_events_run_of_debug
        (EncodeOptions.offender?_eq_none_iff.mpr accepted)
    · intro requested length written
      rcases EncodeOptions.encoded_of_mem_events_run written with ⟨same, record, encoded, size⟩
      exact ⟨same, size.trans (length_of_encoded encoded)⟩

/-- Of thirty-six strict identifiers three are repetitions and one more is cut off, and what is
left is too large for a record all the same. -/
theorem events_account_for_texts_oversize :
    let ids := (List.range 36).map fun index =>
      Hex.encode [0, 0, 0, 0, 0, 0, 0, .ofNat (index % 33)]
    requireStrict ids = .ok () ∧ (encode ids 32).value = .error ⟨256, 255⟩ ∧
    (encode ids 32).events = [.duplicatesDropped 3, .listCut 1 32] ∧
    ids.length = 3 + 1 + 256 / 8 ∧ 256 / 8 = (32 : UInt64).toNat ∧
    ((EncodeOptions.run ⟨ids, 32, true⟩).events.filter fun event => event.level = .debug) =
      [.duplicatesDropped 3, .listCut 1 32] := by
  intro ids
  have accepted : requireStrict ids = .ok () := by
    rw [requireStrict_eq_ok_iff]
    intro text member
    rcases List.mem_map.mp member with ⟨index, -, rfl⟩
    exact PeerId.exists_parse_iff.mp ⟨⟨_, rfl⟩, PeerId.parse_eq_ok_iff.mpr (Hex.decode_encode _)⟩
  have different : (distinct ids).length = 33 := by decide +kernel
  have requested : ids.length = 36 := List.length_map _
  have failed : (encode ids 32).value = .error ⟨256, 255⟩ := by
    rw [value_encode_eq_error_iff, retained, List.length_take, different]
    decide
  rcases events_account_for_texts ids 32 with
    ⟨duplicates, dropped, held, reported, holds, all, full, repeated, cut, rest, runs⟩
  rw [different] at repeated cut rest
  rw [failed] at holds
  have isCut : 0 < dropped := cut.mpr (by decide)
  have three : duplicates = 3 := Nat.add_right_cancel (repeated.trans requested)
  have one : dropped = 1 := Nat.add_right_cancel (rest isCut)
  rw [three, one] at reported
  rw [three, one, ← holds] at all
  rw [← holds] at full
  refine ⟨accepted, failed, reported, all, full isCut, ?_⟩
  rw [(runs true fun _ => accepted).1, reported]
  rfl

end Neighbors

end Announce
