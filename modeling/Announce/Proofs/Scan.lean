import Announce.Proofs.Layout
import Mathlib.Algebra.GroupWithZero.Nat

/-!
# Scanning a payload

A scan reads the entries of a layout one behind the other and stops at its tail,
so a payload has exactly one layout and its scan finds it.
-/

namespace Announce

namespace Scanner

theorem next_wire_append (position : Nat) (entry : Entry) (rest : Bytes) :
    (⟨position, entry.wire ++ rest, false⟩ : Scanner).next =
      ⟨[], some (entry.placedAt position), ⟨position + entry.size, rest, false⟩⟩ := by
  simp only [next, Front.of_wire_append]
  rfl

theorem next_nil (position : Nat) :
    (⟨position, [], false⟩ : Scanner).next = ⟨[], none, ⟨position, [], false⟩⟩ := rfl

theorem next_incomplete (position : Nat) {tail : Bytes} (incomplete : Incomplete tail) :
    (⟨position, tail, false⟩ : Scanner).next =
      ⟨[.scanStopped position (position + tail.length)
          (if tail.length = 1 then .shortHeader else .valuePastEnd)],
        none, ⟨position, tail, true⟩⟩ := by
  simp only [next, Front.of_incomplete incomplete]
  rfl

/-- Reading all records reads the entries in front and goes on behind them. -/
theorem drain_wireAll_append (position : Nat) (entries : List Entry) (rest : Bytes) :
    (⟨position, wireAll entries ++ rest, false⟩ : Scanner).drain =
      let later := (⟨position + (wireAll entries).length, rest, false⟩ : Scanner).drain
      ⟨later.events, placeAll position entries ++ later.value.1, later.value.2⟩ := by
  induction entries generalizing position with
  | nil => rfl
  | cons entry entries ih =>
      have found := next_wire_append position entry (wireAll entries ++ rest)
      rw [wireAll_cons, List.append_assoc, drain_of_next_some (by rw [found]), found, ih]
      simp only [List.nil_append, placeAll, List.cons_append, List.length_append,
        Entry.length_wire, Nat.add_assoc]

/-- A scanner in front of a tail finds no record, and an incomplete one stops it. -/
theorem drain_tail (position : Nat) {tail : Bytes} (ending : tail = [] ∨ Incomplete tail) :
    (⟨position, tail, false⟩ : Scanner).drain.value =
      ([], ⟨position, tail, !tail.isEmpty⟩) := by
  rcases ending with rfl | incomplete
  · rw [drain_of_next_none (by rw [next_nil])]
    rfl
  · rw [drain_of_next_none (by rw [next_incomplete position incomplete])]
    simp [incomplete.ne_nil]

end Scanner

/-- All records of a payload, and the scanner that has read them. -/
def scan (payload : Bytes) : List Record × Scanner :=
  (Scanner.start payload).drain.value

/-- A scan finds the entries of a layout and stops in front of its tail. -/
theorem scan_toBytes (layout : Layout) :
    scan layout.toBytes =
      (placeAll 0 layout.entries,
        ⟨(wireAll layout.entries).length, layout.tail, !layout.tail.isEmpty⟩) := by
  simp only [scan, Scanner.start, Layout.toBytes, Scanner.drain_wireAll_append,
    Scanner.drain_tail _ layout.ending, Nat.zero_add, List.append_nil]

/-- A payload of entries alone is read to its end. -/
theorem scan_wireAll (entries : List Entry) :
    scan (wireAll entries) =
      (placeAll 0 entries, ⟨(wireAll entries).length, [], false⟩) := by
  have scanned := scan_toBytes ⟨entries, [], .inl rfl⟩
  rw [Layout.toBytes, List.append_nil] at scanned
  exact scanned

/-- A scan has stopped on a truncation exactly if an incomplete record stands where
it stopped, and has come to the end of the payload otherwise. -/
theorem truncated_scan_iff (payload : Bytes) :
    (scan payload).2.truncated = true ↔ Incomplete (payload.drop (scan payload).2.position) := by
  rcases Layout.exists_toBytes_eq payload with ⟨layout, rfl⟩
  rw [scan_toBytes]
  simp only [layout.drop_toBytes, Bool.not_eq_true', List.isEmpty_eq_false_iff]
  constructor
  · intro nonempty
    exact layout.ending.resolve_left nonempty
  · exact Incomplete.ne_nil

/-- A payload without an incomplete record is the bytes of its entries. -/
theorem exists_wireAll_eq {payload : Bytes} (clean : (scan payload).2.truncated = false) :
    ∃ entries : List Entry, wireAll entries = payload ∧
      (scan payload).1 = placeAll 0 entries := by
  rcases Layout.exists_toBytes_eq payload with ⟨layout, rfl⟩
  rw [scan_toBytes] at clean ⊢
  have empty : layout.tail = [] := by simpa using clean
  refine ⟨layout.entries, ?_, rfl⟩
  rw [Layout.toBytes, empty, List.append_nil]

/-! ## Writing records one after the other -/

def Entry.pair (entry : Entry) : UInt8 × Bytes :=
  (entry.tag, entry.value)

def Record.pair (record : Record) : UInt8 × Bytes :=
  (record.tag, record.value)

/-- Write tagged values as records, one after the other. -/
def Record.encodeAll : List (UInt8 × Bytes) → Except Oversize Bytes
  | [] => .ok []
  | (tag, value) :: pairs => do
      let front ← Record.encode tag value
      let back ← encodeAll pairs
      pure (front ++ back)

theorem encodeAll_map_pair (entries : List Entry) :
    Record.encodeAll (entries.map Entry.pair) = .ok (wireAll entries) := by
  induction entries with
  | nil => rfl
  | cons entry entries ih =>
      simp only [List.map_cons, Entry.pair, Record.encodeAll, Entry.encode_eq]
      change (Record.encodeAll (entries.map Entry.pair)).bind _ = _
      rw [ih]
      rfl

theorem exists_map_pair_eq {pairs : List (UInt8 × Bytes)}
    (fit : ∀ pair ∈ pairs, pair.2.length ≤ Record.maxValueSize) :
    ∃ entries : List Entry, entries.map Entry.pair = pairs := by
  induction pairs with
  | nil => exact ⟨[], rfl⟩
  | cons pair pairs ih =>
      rcases ih fun later member => fit later (.tail _ member) with ⟨entries, same⟩
      refine ⟨⟨pair.1, pair.2, fit pair (.head _)⟩ :: entries, ?_⟩
      rw [List.map_cons, same]
      rfl

/-- Tagged values that are written one after the other are the bytes of entries. -/
theorem exists_entries_of_encodeAll {pairs : List (UInt8 × Bytes)} {written : Bytes}
    (encoded : Record.encodeAll pairs = .ok written) :
    ∃ entries : List Entry, entries.map Entry.pair = pairs ∧ wireAll entries = written := by
  induction pairs generalizing written with
  | nil =>
      cases encoded
      exact ⟨[], rfl, rfl⟩
  | cons pair pairs ih =>
      rw [Record.encodeAll] at encoded
      cases first : Record.encode pair.1 pair.2 with
      | error oversize =>
          rw [first] at encoded
          cases encoded
      | ok front =>
          cases later : Record.encodeAll pairs with
          | error oversize =>
              rw [first, later] at encoded
              cases encoded
          | ok back =>
              rw [first, later] at encoded
              cases encoded
              obtain ⟨entry, tag, value, rfl⟩ := Entry.exists_of_encode first
              obtain ⟨entries, same, rfl⟩ := ih later
              refine ⟨entry :: entries, ?_, rfl⟩
              rw [List.map_cons, same, Entry.pair, tag, value]

/-! ## Records in their places -/

theorem map_pair_placeAll (position : Nat) (entries : List Entry) :
    (placeAll position entries).map Record.pair = entries.map Entry.pair := by
  induction entries generalizing position with
  | nil => rfl
  | cons entry entries ih =>
      simp only [placeAll, List.map_cons, ih]
      rfl

theorem placeAll_append (position : Nat) (front back : List Entry) :
    placeAll position (front ++ back) =
      placeAll position front ++ placeAll (position + (wireAll front).length) back := by
  induction front generalizing position with
  | nil => rfl
  | cons entry front ih =>
      simp only [List.cons_append, placeAll, ih, wireAll_cons, List.length_append,
        Entry.length_wire, Nat.add_assoc]

theorem bounds_of_mem_placeAll {position : Nat} {entries : List Entry} {record : Record}
    (member : record ∈ placeAll position entries) :
    position ≤ record.offset ∧
      record.offset + record.size ≤ position + (wireAll entries).length := by
  induction entries generalizing position with
  | nil => simp [placeAll] at member
  | cons entry entries ih =>
      simp only [wireAll_cons, List.length_append, Entry.length_wire]
      rcases List.mem_cons.mp member with rfl | later
      · simp only [Entry.size_placedAt]
        simp only [Entry.placedAt]
        omega
      · have := ih later
        omega

theorem offset_of_getElem?_placeAll {position : Nat} {entries : List Entry} {index : Nat}
    {record : Record} (found : (placeAll position entries)[index]? = some record) :
    record.offset = position + (((placeAll position entries).take index).map Record.size).sum := by
  induction entries generalizing position index with
  | nil => simp [placeAll] at found
  | cons entry entries ih =>
      cases index with
      | zero =>
          simp only [placeAll, List.getElem?_cons_zero, Option.some.injEq] at found
          subst found
          rfl
      | succ index =>
          simp only [placeAll, List.getElem?_cons_succ] at found
          simp only [placeAll, List.take_succ_cons, List.map_cons, List.sum_cons,
            Entry.size_placedAt, ih found, Nat.add_assoc]

/-! ## The layout of a payload -/

/-- The records of a scan, written one after the other, are the payload up to the
place where the scan stopped.  Each record stands behind the sizes of those
before it.  Behind that place stands nothing, or an incomplete record if the
scanner says so.  No other values under tags and no other tail make up the
payload. -/
theorem scan_decomposes_uniquely (payload : Bytes) :
    let (records, last) := scan payload
    let stop := last.position
    Record.encodeAll (records.map Record.pair) = .ok (payload.take stop) ∧
    stop ≤ payload.length ∧
    (∀ (index : Nat) (record : Record), records[index]? = some record →
      record.offset = ((records.take index).map Record.size).sum) ∧
    (last.truncated = false → payload.drop stop = []) ∧
    (last.truncated = true → Incomplete (payload.drop stop)) ∧
    ∀ (pairs : List (UInt8 × Bytes)) (tail : Bytes),
      (∀ pair ∈ pairs, pair.2.length ≤ 255) → (tail = [] ∨ Incomplete tail) →
      ∃ written, Record.encodeAll pairs = .ok written ∧
        (written ++ tail = payload →
          records.map Record.pair = pairs ∧ stop = written.length ∧
          (last.truncated = true ↔ tail ≠ [])) := by
  rcases Layout.exists_toBytes_eq payload with ⟨layout, rfl⟩
  rw [scan_toBytes]
  dsimp only
  rw [layout.take_toBytes, layout.drop_toBytes]
  refine ⟨?_, ?_, ?_, ?_, ?_, ?_⟩
  · rw [map_pair_placeAll, encodeAll_map_pair]
  · simp [Layout.toBytes]
  · intro index record found
    rw [offset_of_getElem?_placeAll found, Nat.zero_add]
  · intro clean
    simpa using clean
  · intro stopped
    exact layout.ending.resolve_left (by simpa using stopped)
  · intro pairs tail fit ending
    rcases exists_map_pair_eq fit with ⟨entries, rfl⟩
    refine ⟨wireAll entries, encodeAll_map_pair entries, fun same => ?_⟩
    -- The scan of the same payload laid out in the other way decides the rest.
    have other := scan_toBytes ⟨entries, tail, ending⟩
    rw [Layout.toBytes, same, scan_toBytes] at other
    simp only [Prod.mk.injEq, Scanner.mk.injEq] at other
    rcases other with ⟨placed, stop, -, truncated⟩
    refine ⟨?_, stop, ?_⟩
    · rw [placed, map_pair_placeAll]
    · simp [truncated]

/-- A scan of one record and a lone tag finds the one decomposition there is. -/
theorem scan_decomposes_uniquely_lone_tag :
    (∀ pair ∈ [((1 : UInt8), ([0xAA] : Bytes))], pair.2.length ≤ 255) ∧ Incomplete [4] ∧
    (scan [1, 1, 0xAA, 4]).1.map Record.pair = [(1, [0xAA])] ∧
    (scan [1, 1, 0xAA, 4]).2.position = 3 ∧
    (scan [1, 1, 0xAA, 4]).2.truncated = true := by
  have fit : ∀ pair ∈ [((1 : UInt8), ([0xAA] : Bytes))], pair.2.length ≤ 255 := by decide
  have lone : Incomplete [4] := .shortHeader 4
  rcases scan_decomposes_uniquely [1, 1, 0xAA, 4] with ⟨-, -, -, -, -, unique⟩
  rcases unique [(1, [0xAA])] [4] fit (.inr lone) with ⟨written, encoded, decided⟩
  cases encoded
  rcases decided rfl with ⟨records, stop, truncated⟩
  exact ⟨fit, lone, records, stop, truncated.mpr (by decide)⟩

end Announce
