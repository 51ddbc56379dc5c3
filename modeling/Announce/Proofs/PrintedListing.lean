import Announce.Proofs.Printed
import Announce.Proofs.Reading

/-!
# What a printed listing tells

A listing that is printed as JSON can be read back into its records, and the records
written again are the payload up to the place where the scan stopped.  So nothing of
the payload is lost but the incomplete record behind that place, and of this one the
length is still known.
-/

namespace Announce

/-! ## The bytes that were scanned -/

/-- Every byte in front of the place where a scan stopped belongs to one record. -/
theorem sum_size_scan (payload : Bytes) :
    ((scan payload).1.map Record.size).sum = (scan payload).2.position := by
  rw [scan, position_drain_eq_add]
  exact (Nat.zero_add _).symm

/-- The records of a scan, written again, are the bytes in front of the place where it
stopped. -/
theorem encodeAll_scan (payload : Bytes) :
    Record.encodeAll ((scan payload).1.map Record.pair) =
      .ok (payload.take (scan payload).2.position) := by
  rcases Layout.exists_toBytes_eq payload with ⟨layout, rfl⟩
  rw [scan_toBytes]
  dsimp only
  rw [layout.take_toBytes, map_pair_placeAll, encodeAll_map_pair]

/-- A scan has stopped on a truncation exactly if bytes are left behind its records. -/
theorem truncated_scan_iff_lt (payload : Bytes) :
    (scan payload).2.truncated = true ↔ (scan payload).2.position < payload.length := by
  rw [truncated_scan_iff_ne]
  have bound := position_scan_le payload
  omega

theorem position_scan_of_not_truncated {payload : Bytes}
    (clean : (scan payload).2.truncated = false) :
    (scan payload).2.position = payload.length := by
  by_contra other
  have stopped := (truncated_scan_iff_ne payload).mpr (Ne.symm other)
  rw [clean] at stopped
  cases stopped

section

variable {payload payload' : Bytes} (records : (scan payload).1 = (scan payload').1)
include records

theorem position_scan_congr : (scan payload).2.position = (scan payload').2.position := by
  rw [← sum_size_scan, ← sum_size_scan, records]

theorem take_position_scan_congr :
    payload.take (scan payload).2.position = payload'.take (scan payload').2.position := by
  have written := encodeAll_scan payload
  rw [records, encodeAll_scan] at written
  exact (Except.ok.inj written).symm

end

/-! ## Listings -/

namespace Listing

/-- The sizes of the listed records add up to the offset of the incomplete record. -/
theorem sum_size_of_truncated {payload : Bytes}
    (stopped : (ofPayload payload).value.truncated = true) :
    let total := ((ofPayload payload).value.records.map Record.size).sum
    (ofPayload payload).value.truncatedAt = some total ∧ total < payload.length := by
  have total : ((ofPayload payload).value.records.map Record.size).sum =
      (ofPayload payload).value.stop := sum_size_scan payload
  rw [total, truncatedAt, if_pos stopped]
  exact ⟨rfl, (truncated_scan_iff_lt payload).mp stopped⟩

/-- If none is incomplete, then the sizes of the records add up to the whole payload. -/
theorem sum_size_of_not_truncated {payload : Bytes}
    (clean : (ofPayload payload).value.truncated = false) :
    ((ofPayload payload).value.records.map Record.size).sum = payload.length :=
  (sum_size_scan payload).trans (position_scan_of_not_truncated clean)

/-- What two payloads with the same listing have in common. -/
theorem payload_of_ofPayload_eq {payload payload' : Bytes}
    (same : (ofPayload payload).value = (ofPayload payload').value) :
    payload.take (ofPayload payload).value.stop = payload'.take (ofPayload payload').value.stop ∧
      ((ofPayload payload).value.truncated = false → payload = payload') := by
  have records : (scan payload).1 = (scan payload').1 := congrArg Listing.records same
  have scanned := take_position_scan_congr records
  refine ⟨scanned, fun clean => ?_⟩
  have clean' : (scan payload').2.truncated = false :=
    (congrArg Listing.truncated same).symm.trans clean
  rwa [position_scan_of_not_truncated clean, position_scan_of_not_truncated clean',
    List.take_length, List.take_length] at scanned

end Listing

/-! ## Reports -/

theorem Json.nat_injective : Function.Injective Json.nat := fun _ _ same =>
  Int.ofNat.inj (Json.integer.inj same)

namespace InspectReport

theorem isPlain_recordJson (record : Record) : (recordJson record).IsPlain := by
  refine .map fun field member => ?_
  simp only [List.mem_cons, List.not_mem_nil, or_false] at member
  rcases member with rfl | rfl | rfl | rfl | rfl | rfl
  · exact .nat _
  · exact .nat _
  · exact .string _
  · exact .nat _
  · exact .nat _
  · exact .string _

theorem isPlain_toJson (report : InspectReport) : report.toJson.IsPlain := by
  refine .map fun field member => ?_
  simp only [List.mem_cons, List.not_mem_nil, or_false] at member
  rcases member with rfl | rfl | rfl | rfl
  · exact .nat _
  · refine .sequence fun item listed => ?_
    rcases List.mem_map.mp listed with ⟨record, -, rfl⟩
    exact isPlain_recordJson record
  · exact .boolean _
  · cases report.listing.truncatedAt with
    | none => exact .null
    | some offset => exact .nat _

/-- The offset, the tag and the value of a record are all that it has, and each of them
is shown. -/
theorem recordJson_injective : Function.Injective recordJson := by
  rintro ⟨tag, offset, value⟩ ⟨tag', offset', value'⟩ same
  have offsets : some (Json.nat offset) = some (.nat offset') :=
    congrArg (Json.field? "offset") same
  have tags : some (Json.nat tag.toNat) = some (.nat tag'.toNat) :=
    congrArg (Json.field? "tag") same
  have values : some (Json.string (Hex.encode value)) = some (.string (Hex.encode value')) :=
    congrArg (Json.field? "value") same
  rw [Json.nat_injective (Option.some.inj offsets),
    UInt8.toNat_inj.mp (Json.nat_injective (Option.some.inj tags)),
    Hex.encode_injective (Json.string.inj (Option.some.inj values))]

theorem toJson_ofPayload_inj {payload payload' : Bytes}
    (same : toJson ⟨(Listing.ofPayload payload).value⟩ =
      toJson ⟨(Listing.ofPayload payload').value⟩) :
    (Listing.ofPayload payload).value = (Listing.ofPayload payload').value := by
  have lengths : some (Json.nat payload.length) = some (.nat payload'.length) :=
    congrArg (Json.field? "payload_len") same
  have sequences : some (Json.sequence ((scan payload).1.map recordJson)) =
      some (.sequence ((scan payload').1.map recordJson)) :=
    congrArg (Json.field? "records") same
  have flags : some (Json.boolean (scan payload).2.truncated) =
      some (.boolean (scan payload').2.truncated) :=
    congrArg (Json.field? "truncated") same
  have records := recordJson_injective.list_map (Json.sequence.inj (Option.some.inj sequences))
  -- The place where the scan stopped is not shown if it is the end, but the records tell it.
  rw [value_ofPayload, value_ofPayload, Json.nat_injective (Option.some.inj lengths), records,
    position_scan_congr records, Json.boolean.inj (Option.some.inj flags)]

theorem ofPayload_eq_of_toBytes {payload payload' : Bytes}
    (same : (Output.ofJson (toJson ⟨(Listing.ofPayload payload).value⟩)).toBytes =
      (Output.ofJson (toJson ⟨(Listing.ofPayload payload').value⟩)).toBytes) :
    (Listing.ofPayload payload).value = (Listing.ofPayload payload').value := by
  apply toJson_ofPayload_inj
  exact (isPlain_toJson _).eq_of_compact_eq (isPlain_toJson _) (Output.text_eq_of_ofLines same)

end InspectReport

/-! ## Runs -/

theorem output_run_inspect (settings : Invocation) {host : Host} {source : PayloadOptions}
    {payload : Bytes} (loaded : source.load host = .ok payload) :
    (Invocation.run host
        { settings with command := .inspect source, format := some .json }).output =
      .ofJson (InspectReport.toJson ⟨(Listing.ofPayload payload).value⟩) := by
  have value := value_run_inspect host .json source
  rw [loaded] at value
  rw [← value_inspectReport]
  exact (Outcome.succeeds_ofResult value).output

/-- A listing that is printed as JSON accounts for every byte of the payload.  The sizes
of the records add up to the offset of the incomplete record, which is given exactly if
there is one, and to the length of the payload otherwise.  If another payload has the
same listing in print, then it has the same length, its scan has ended at the same place
and in the same way, and up to that place it has the same bytes. -/
theorem inspect_output_tells_payload (settings : Invocation) {host : Host}
    {source : PayloadOptions} {payload : Bytes} (loaded : source.load host = .ok payload) :
    let output := (Invocation.run host
      { settings with command := .inspect source, format := some .json }).output
    let listing := (Listing.ofPayload payload).value
    (∃ (records : List Json) (sizes : List Nat) (truncatedAt : Json),
      output = .ofJson (.map [("payload_len", .nat payload.length),
        ("records", .sequence records), ("truncated", .boolean listing.truncated),
        ("truncated_at", truncatedAt)]) ∧
      records.map (Json.field? "wire_size") = sizes.map (fun size => some (.nat size)) ∧
      (listing.truncated = true →
        truncatedAt = .nat sizes.sum ∧ sizes.sum < payload.length) ∧
      (listing.truncated = false → sizes.sum = payload.length) ∧
      (truncatedAt = .null ↔ listing.truncated = false)) ∧
    ∀ (settings' : Invocation) {host' : Host} {source' : PayloadOptions} {payload' : Bytes},
      source'.load host' = .ok payload' →
      let output' := (Invocation.run host'
        { settings' with command := .inspect source', format := some .json }).output
      let listing' := (Listing.ofPayload payload').value
      output.toBytes = output'.toBytes →
      payload.length = payload'.length ∧ listing.truncated = listing'.truncated ∧
      listing.truncatedAt = listing'.truncatedAt ∧ listing.stop = listing'.stop ∧
      payload.take listing.stop = payload'.take listing'.stop ∧
      (listing.truncated = false → payload = payload') := by
  intro output listing
  have printed : output = .ofJson (InspectReport.toJson ⟨listing⟩) :=
    output_run_inspect settings loaded
  constructor
  · refine ⟨_, listing.records.map Record.size, _, printed, ?_, ?_, ?_, ?_⟩
    · rw [List.map_map, List.map_map]
      rfl
    · intro stopped
      rcases Listing.sum_size_of_truncated stopped with ⟨offset, short⟩
      rw [offset]
      exact ⟨rfl, short⟩
    · exact Listing.sum_size_of_not_truncated
    · rw [← listing.truncatedAt_eq_none_iff]
      cases listing.truncatedAt <;> simp [Json.ofOption, Json.nat]
  · intro settings' host' source' payload' loaded' output' listing' same
    have printed' : output' = .ofJson (InspectReport.toJson ⟨listing'⟩) :=
      output_run_inspect settings' loaded'
    rw [printed, printed'] at same
    have listings : listing = listing' := InspectReport.ofPayload_eq_of_toBytes same
    rcases Listing.payload_of_ofPayload_eq listings with ⟨scanned, complete⟩
    exact ⟨congrArg Listing.payloadLength listings, congrArg Listing.truncated listings,
      congrArg Listing.truncatedAt listings, congrArg Listing.stop listings, scanned, complete⟩

/-- Bytes of an incomplete record are not shown, so payloads that differ there may have
the same listing in print. -/
theorem inspect_output_tells_payload_two_tails :
    let host : Host := ⟨"x86_64-linux", fun _ => .error .notFound⟩
    let settings : Invocation := ⟨.version false, none, .text, .warn⟩
    let payload : Bytes := [4, 0, 2, 0x20, 0]
    let payload' : Bytes := [4, 0, 2, 0x20, 1]
    (PayloadOptions.load host ⟨some "0400022000", none⟩ = .ok payload ∧
      PayloadOptions.load host ⟨some "0x 0400 0220 01", none⟩ = .ok payload') ∧
    (Invocation.run host { settings with
        command := .inspect ⟨some "0400022000", none⟩, format := some .json }).output.toBytes =
      (Invocation.run host { settings with
        command := .inspect ⟨some "0x 0400 0220 01", none⟩,
        format := some .json }).output.toBytes ∧
    (Listing.ofPayload payload).value.truncatedAt =
      (Listing.ofPayload payload').value.truncatedAt ∧
    payload.take (Listing.ofPayload payload).value.stop =
      payload'.take (Listing.ofPayload payload').value.stop := by
  intro host settings payload payload'
  have loaded : PayloadOptions.load host ⟨some "0400022000", none⟩ = .ok payload := by
    decide +kernel
  have loaded' : PayloadOptions.load host ⟨some "0x 0400 0220 01", none⟩ = .ok payload' := by
    decide +kernel
  have listings : (Listing.ofPayload payload).value = (Listing.ofPayload payload').value := by
    decide +kernel
  have same : (Invocation.run host { settings with
        command := .inspect ⟨some "0400022000", none⟩, format := some .json }).output.toBytes =
      (Invocation.run host { settings with
        command := .inspect ⟨some "0x 0400 0220 01", none⟩,
        format := some .json }).output.toBytes := by
    rw [output_run_inspect settings loaded, output_run_inspect settings loaded', listings]
  rcases (inspect_output_tells_payload settings loaded).2 settings loaded' same with
    ⟨-, -, offset, -, scanned, -⟩
  exact ⟨⟨loaded, loaded'⟩, same, offset, scanned⟩

end Announce
