import Announce.Proofs.ScanEvents
import Mathlib.Logic.Relation

/-!
# Reading by index

A scanner can also keep the whole payload and an index into it.  One reading then takes
sums and differences of indices, looks up two bytes and cuts out a slice, and each of these
can fault: an index has 64 bits, and bytes are found only inside the payload.  On the way
through a payload that a machine can hold no reading faults, and each one finds what the
scanner finds that keeps only the bytes ahead.  A record takes at least two bytes, so there
are not many readings before one finds nothing.
-/

namespace Announce

open Log (Logged Event Incompleteness)

/-! ## Operations that can fault -/

namespace Index

/-- The sum of two indices, which has to fit into 64 bits. -/
def add? (left right : Nat) : Option Nat :=
  if left + right < 2 ^ 64 then some (left + right) else none

/-- The difference of two indices, which must not be negative. -/
def sub? (left right : Nat) : Option Nat :=
  if right ≤ left then some (left - right) else none

theorem add?_of_lt {left right : Nat} (fits : left + right < 2 ^ 64) :
    add? left right = some (left + right) :=
  if_pos fits

theorem sub?_of_le {left right : Nat} (ordered : right ≤ left) :
    sub? left right = some (left - right) :=
  if_pos ordered

end Index

/-- The octets from one index up to another, which has to lie inside. -/
def Bytes.slice? (octets : Bytes) (start stop : Nat) : Option Bytes :=
  if start ≤ stop ∧ stop ≤ octets.length then some ((octets.take stop).drop start) else none

theorem Bytes.slice?_append (front middle back : Bytes) :
    Bytes.slice? (front ++ (middle ++ back)) front.length (front.length + middle.length) =
      some middle := by
  rw [slice?, if_pos (by simp), ← List.append_assoc, ← List.length_append, List.take_left,
    List.drop_left]

/-- A reader that knows the whole payload and its place in it. -/
structure IndexedScanner where
  payload : Bytes
  position : Nat
  truncated : Bool
deriving DecidableEq, Repr

namespace IndexedScanner

/-- Stop for good in front of an incomplete record. -/
def stop (scanner : IndexedScanner) (reason : Incompleteness) :
    Logged (Option Record × IndexedScanner) := do
  Logged.emit (.scanStopped scanner.position scanner.payload.length reason)
  pure (none, { scanner with truncated := true })

/-- The tag of the record at the scanner's place, and where its value starts and stops. -/
def header? (scanner : IndexedScanner) : Option (UInt8 × Nat × Nat) := do
  let tag ← scanner.payload[scanner.position]?
  let length ← scanner.payload[← Index.add? scanner.position 1]?
  let start ← Index.add? scanner.position Record.headerSize
  let stop ← Index.add? start length.toNat
  pure (tag, start, stop)

/-- Read one record by index, if a complete one is left.  There is no result where an
operation on indices faults. -/
def next? (scanner : IndexedScanner) : Option (Logged (Option Record × IndexedScanner)) :=
  if scanner.truncated then
    some (pure (none, scanner))
  else do
    let remaining ← Index.sub? scanner.payload.length scanner.position
    if remaining = 0 then
      some (pure (none, scanner))
    else if remaining < Record.headerSize then
      some (scanner.stop .shortHeader)
    else do
      let (tag, start, stop) ← scanner.header?
      if scanner.payload.length < stop then
        some (scanner.stop .valuePastEnd)
      else do
        let value ← Bytes.slice? scanner.payload start stop
        some (pure (some ⟨tag, scanner.position, value⟩, { scanner with position := stop }))

section

variable (front rest : Bytes) (tag length : UInt8)

theorem stop_append (reason : Incompleteness) :
    stop ⟨front ++ rest, front.length, false⟩ reason =
      ⟨[.scanStopped front.length (front.length + rest.length) reason], none,
        ⟨front ++ rest, front.length, true⟩⟩ := by
  rw [← List.length_append]
  rfl

theorem header?_append (addressable : front.length < 2 ^ 63) :
    header? ⟨front ++ tag :: length :: rest, front.length, false⟩ =
      some (tag, front.length + 2, front.length + 2 + length.toNat) := by
  have short : length.toNat < 256 := length.toNat_lt
  have second : Index.add? front.length 1 = some (front.length + 1) :=
    Index.add?_of_lt (by omega)
  have start : Index.add? front.length Record.headerSize = some (front.length + 2) :=
    Index.add?_of_lt (by rw [Record.headerSize]; omega)
  have stop : Index.add? (front.length + 2) length.toNat =
      some (front.length + 2 + length.toNat) :=
    Index.add?_of_lt (by omega)
  have tagged : (front ++ tag :: length :: rest)[front.length]? = some tag := by simp
  have measured : (front ++ tag :: length :: rest)[front.length + 1]? = some length := by simp
  rw [header?]
  simp only [tagged, second, measured, start, stop, Option.bind_eq_bind, Option.bind_some,
    Option.pure_def]

/-- Behind a whole header the length decides whether a record is read. -/
theorem next?_append (addressable : (front ++ tag :: length :: rest).length < 2 ^ 63) :
    let scanner : IndexedScanner := ⟨front ++ tag :: length :: rest, front.length, false⟩
    scanner.next? =
      if rest.length < length.toNat then some (scanner.stop .valuePastEnd)
      else some (pure (some ⟨tag, front.length, rest.take length.toNat⟩,
        { scanner with position := front.length + 2 + length.toNat })) := by
  intro scanner
  have size : scanner.payload.length = front.length + (rest.length + 2) := by
    simp [scanner]
  have remaining : Index.sub? scanner.payload.length scanner.position =
      some (rest.length + 2) := by
    rw [Index.sub?_of_le (by rw [size]; exact Nat.le_add_right _ _), size,
      Nat.add_sub_cancel_left]
  have header : scanner.header? =
      some (tag, front.length + 2, front.length + 2 + length.toNat) := by
    apply header?_append
    rw [List.length_append] at addressable
    omega
  have fresh : ¬scanner.truncated = true := Bool.false_ne_true
  have large : ¬rest.length + 2 < Record.headerSize := by
    rw [Record.headerSize]
    omega
  rw [next?, if_neg fresh, remaining, Option.bind_eq_bind, Option.bind_some,
    if_neg (Nat.succ_ne_zero _), if_neg large, header,
    Option.bind_eq_bind, Option.bind_some]
  dsimp only
  by_cases past : rest.length < length.toNat
  · have outside : scanner.payload.length < front.length + 2 + length.toNat := by
      rw [size]
      omega
    rw [if_pos past, if_pos outside]
  · have inside : ¬scanner.payload.length < front.length + 2 + length.toNat := by
      rw [size]
      omega
    have value : Bytes.slice? scanner.payload (front.length + 2)
        (front.length + 2 + length.toNat) = some (rest.take length.toNat) := by
      have taken : (rest.take length.toNat).length = length.toNat :=
        List.length_take_of_le (Nat.not_lt.mp past)
      have cut := Bytes.slice?_append (front ++ [tag, length]) (rest.take length.toNat)
        (rest.drop length.toNat)
      rw [taken, List.take_append_drop, List.append_assoc, List.length_append] at cut
      exact cut
    rw [if_neg past, if_neg inside, value, Option.bind_eq_bind, Option.bind_some]

end

end IndexedScanner

namespace Scanner

/-- The reader by index that stands where a scanner stands. -/
def indexed (payload : Bytes) (scanner : Scanner) : IndexedScanner :=
  ⟨payload, scanner.position, scanner.truncated⟩

/-! ## Inside the payload -/

/-- What a scanner has read and what it has ahead make up the payload. -/
def StandsIn (payload : Bytes) (scanner : Scanner) : Prop :=
  ∃ front, front ++ scanner.rest = payload ∧ front.length = scanner.position

variable {payload : Bytes} {scanner after : Scanner} {record : Record}

theorem standsIn_start (payload : Bytes) : (start payload).StandsIn payload :=
  ⟨[], rfl, rfl⟩

/-- What a reading does that finds a record. -/
theorem exists_entry_of_next (found : scanner.next.value = (some record, after)) :
    ∃ entry : Entry, record = entry.placedAt scanner.position ∧
      scanner.rest = entry.wire ++ after.rest ∧
      after.position = scanner.position + entry.size := by
  cases scanner.state with
  | stopped position rest => cases found
  | atEnd position => cases found
  | atEntry position entry rest =>
      rw [next_wire_append] at found
      cases found
      exact ⟨entry, rfl, rfl, rfl⟩
  | atIncomplete position incomplete =>
      rw [next_incomplete position incomplete] at found
      cases found

/-- A reading that finds nothing leaves everything ahead. -/
theorem rest_of_next_none (ends : scanner.next.value = (none, after)) :
    after.rest = scanner.rest ∧ after.position = scanner.position := by
  cases scanner.state with
  | stopped position rest =>
      cases ends
      exact ⟨rfl, rfl⟩
  | atEnd position =>
      cases ends
      exact ⟨rfl, rfl⟩
  | atEntry position entry rest =>
      rw [next_wire_append] at ends
      cases ends
  | atIncomplete position incomplete =>
      rw [next_incomplete position incomplete] at ends
      cases ends
      exact ⟨rfl, rfl⟩

/-- A reading keeps the scanner in its payload. -/
theorem StandsIn.next (stands : scanner.StandsIn payload) :
    scanner.next.value.2.StandsIn payload := by
  obtain ⟨front, whole, here⟩ := stands
  cases read : scanner.next.value with
  | mk answer after =>
      cases answer with
      | none =>
          obtain ⟨rest, position⟩ := rest_of_next_none read
          exact ⟨front, by rw [rest, whole], by rw [position, here]⟩
      | some record =>
          obtain ⟨entry, -, rest, position⟩ := exists_entry_of_next read
          refine ⟨front ++ entry.wire, ?_, ?_⟩
          · rw [List.append_assoc, ← rest, whole]
          · rw [List.length_append, Entry.length_wire, here, position]

theorem StandsIn.position_le (stands : scanner.StandsIn payload) :
    scanner.position ≤ payload.length := by
  obtain ⟨front, rfl, here⟩ := stands
  rw [List.length_append]
  omega

/-- A reading by index does not fault, and it finds what the scanner finds. -/
theorem StandsIn.next? (stands : scanner.StandsIn payload)
    (addressable : payload.length < 2 ^ 63) :
    (scanner.indexed payload).next? =
      some ((fun result => (result.1, result.2.indexed payload)) <$> scanner.next) := by
  obtain ⟨front, rfl, here⟩ := stands
  cases scanner.state with
  | stopped position rest => rfl
  | atEnd position =>
      cases here
      have remaining : Index.sub? (front ++ []).length front.length = some 0 := by
        rw [List.append_nil, Index.sub?_of_le (Nat.le_refl _), Nat.sub_self]
      rw [next_nil, indexed, IndexedScanner.next?]
      dsimp only
      rw [remaining]
      rfl
  | atEntry position entry rest =>
      cases here
      have fits : ¬(entry.value ++ rest).length < (UInt8.ofNat entry.value.length).toNat := by
        rw [entry.toNat_length, List.length_append]
        omega
      have read := IndexedScanner.next?_append front (entry.value ++ rest) entry.tag
        (UInt8.ofNat entry.value.length) addressable
      dsimp only at read
      rw [if_neg fits, entry.toNat_length, List.take_left, Nat.add_assoc] at read
      rw [next_wire_append]
      exact read
  | atIncomplete position incomplete =>
      cases here
      rw [next_incomplete _ incomplete]
      cases incomplete with
      | shortHeader tag =>
          have remaining : Index.sub? (front ++ [tag]).length front.length = some 1 := by
            rw [Index.sub?_of_le (by simp), List.length_append, Nat.add_sub_cancel_left]
            rfl
          rw [indexed, IndexedScanner.next?]
          dsimp only
          rw [remaining]
          exact congrArg some (IndexedScanner.stop_append front [tag] .shortHeader)
      | @valuePastEnd tag length rest short =>
          have read := IndexedScanner.next?_append front rest tag length addressable
          dsimp only at read
          rw [if_pos short, IndexedScanner.stop_append] at read
          exact read

/-! ## Requests as series of readings -/

/-- A scanner comes to another one by reading record after record. -/
abbrev Reaches : Scanner → Scanner → Prop :=
  Relation.ReflTransGen fun scanner after => scanner.next.value.2 = after

theorem reaches_next (scanner : Scanner) : scanner.Reaches scanner.next.value.2 :=
  .single rfl

theorem reaches_nth (count : Nat) (scanner : Scanner) :
    scanner.Reaches (scanner.nth count).value.2 := by
  induction count generalizing scanner with
  | zero => exact scanner.reaches_next
  | succ count ih =>
      have first := scanner.reaches_next
      rw [nth, Logged.value_bind]
      cases read : scanner.next.value with
      | mk answer after =>
          rw [read] at first
          cases answer with
          | none => exact first
          | some record => exact first.trans (ih after)

theorem reaches_seek (accept : Record → Bool) (scanner : Scanner) :
    scanner.Reaches (scanner.seek accept).value.2 := by
  induction scanner using ahead_induction with
  | none scanner events after ends ended position =>
      rw [seek_of_next_none (by rw [ends])]
      exact .single (by rw [ends])
  | some scanner record after found clean cleanAfter offset position ih =>
      have first : scanner.Reaches after := .single (by rw [found])
      cases accepted : accept record with
      | true =>
          rw [seek_of_next_accepted (by rw [found]) accepted]
          exact first
      | false =>
          rw [seek_of_next_refused (by rw [found]) accepted]
          exact first.trans ih

/-- A request is answered by reading record after record. -/
theorem reaches_step (scanner : Scanner) (request : Step) :
    scanner.Reaches (scanner.step request).value.2 := by
  cases request with
  | next => exact scanner.reaches_next
  | nth count => exact scanner.reaches_nth count
  | find tag => exact scanner.reaches_seek _
  | remaining => exact .refl

theorem reaches_after (scanner : Scanner) (requests : List Step) :
    scanner.Reaches (scanner.after requests) := by
  induction requests generalizing scanner with
  | nil => exact .refl
  | cons request requests ih => exact (scanner.reaches_step request).trans (ih _)

/-- Where a reading finds nothing, no request finds anything. -/
theorem step_of_next_none (ends : scanner.next.value = (none, after)) {request : Step}
    (reading : request ≠ .remaining) : (scanner.step request).value = (.record none, after) := by
  obtain ⟨index, outcome, reads, stepped⟩ := scanner.exists_reads_of_step reading
  have ahead := drain_of_next_none ends
  rw [stepped]
  cases reads with
  | found present clean behind =>
      rw [ahead] at present
      cases present
  | missing absent => rw [ahead]

theorem StandsIn.of_reaches (stands : scanner.StandsIn payload)
    (reaches : scanner.Reaches after) :
    after.StandsIn payload := by
  induction reaches with
  | refl => exact stands
  | tail _ read ih =>
      rw [← read]
      exact ih.next

/-! ## Places -/

theorem bounds_of_next (found : scanner.next.value = (some record, after)) :
    2 ≤ record.size ∧ record.size ≤ 257 ∧
      after.rest.length + record.size = scanner.rest.length := by
  obtain ⟨entry, rfl, rest, -⟩ := exists_entry_of_next found
  have fits := entry.fits
  rw [rest, List.length_append, Entry.length_wire, Entry.size_placedAt, Entry.size,
    Record.headerSize]
  rw [Record.maxValueSize] at fits
  omega

/-- A reading at a place goes on by the sizes of all records up to the one that it finds. -/
theorem Reads.position_eq {index : Nat} {outcome : Logged (Option Record × Scanner)}
    (reads : scanner.Reads index outcome) :
    outcome.value.2.position = scanner.position +
      ((scanner.drain.value.1.take (index + 1)).map Record.size).sum := by
  have whole := position_drain_eq_add scanner
  cases reads with
  | @found record after present clean behind =>
      have later := position_drain_eq_add after
      rw [behind] at later
      have split : (scanner.drain.value.1.map Record.size).sum =
          ((scanner.drain.value.1.take (index + 1)).map Record.size).sum +
            ((scanner.drain.value.1.drop (index + 1)).map Record.size).sum := by
        rw [← List.sum_append, ← List.map_append, List.take_append_drop]
      dsimp only at later ⊢
      omega
  | missing absent =>
      have short : scanner.drain.value.1.length ≤ index + 1 :=
        Nat.le_succ_of_le (List.getElem?_eq_none_iff.mp absent)
      rw [List.take_of_length_le short]
      exact whole

theorem bounds_of_mem_drain (member : record ∈ scanner.drain.value.1) :
    2 ≤ record.size ∧ record.size ≤ 257 := by
  induction scanner using ahead_induction with
  | none scanner events after ends ended position =>
      rw [drain_of_next_eq_none ends] at member
      cases member
  | some scanner first after found clean cleanAfter offset position ih =>
      rw [drain_of_next_eq_some found] at member
      cases member with
      | head =>
          obtain ⟨lower, upper, -⟩ := bounds_of_next (congrArg Logged.value found)
          exact ⟨lower, upper⟩
      | tail _ member => exact ih member

/-- Each record takes at least two of the bytes ahead. -/
theorem length_drain_le (scanner : Scanner) :
    2 * scanner.drain.value.1.length ≤ scanner.rest.length := by
  induction scanner using ahead_induction with
  | none scanner events after ends ended position =>
      rw [drain_of_next_eq_none ends]
      exact Nat.zero_le _
  | some scanner record after found clean cleanAfter offset position ih =>
      obtain ⟨lower, -, shorter⟩ := bounds_of_next (congrArg Logged.value found)
      rw [drain_of_next_eq_some found]
      simp only [List.length_cons]
      omega

/-- So many readings in a row find nothing in the end. -/
theorem next_after_replicate {count : Nat} (enough : scanner.rest.length / 2 ≤ count) :
    (scanner.after (List.replicate count .next)).next.value.1 = none := by
  induction count generalizing scanner with
  | zero =>
      rw [List.replicate_zero]
      change scanner.next.value.1 = none
      cases read : scanner.next.value with
      | mk answer after =>
          cases answer with
          | none => rfl
          | some record =>
              obtain ⟨lower, -, shorter⟩ := bounds_of_next read
              omega
  | succ count ih =>
      rw [List.replicate_succ, after_cons]
      change (scanner.next.value.2.after _).next.value.1 = none
      rcases scanner.next_cases with
        ⟨record, after, found, -⟩ | ⟨events, after, ends, ended, -⟩
      · obtain ⟨lower, -, shorter⟩ := bounds_of_next (congrArg Logged.value found)
        rw [found]
        apply ih
        dsimp only
        omega
      · rw [ends]
        dsimp only
        rw [ended.after_eq, ended]

/-! ## Every place on the way -/

/-- What holds of a scanner in a payload wherever it stands. -/
structure Safe (payload : Bytes) (scanner : Scanner) : Prop where
  inside : scanner.position ≤ payload.length
  /-- Reading by index does not fault, and it finds what the scanner finds. -/
  faultless : (scanner.indexed payload).next? =
    some ((fun result => (result.1, result.2.indexed payload)) <$> scanner.next)
  advances : ∀ record after, scanner.next.value = (some record, after) →
    record.offset = scanner.position ∧ after.position = scanner.position + record.size ∧
      2 ≤ record.size ∧ record.size ≤ 257
  stays : ∀ after, scanner.next.value = (none, after) →
    after.position = scanner.position ∧
      ∀ request, request ≠ .remaining → (scanner.step request).value = (.record none, after)
  /-- A request goes on by the sizes of the records up to the one that it finds, or of all
  records ahead if it finds none. -/
  passes : ∀ request, request ≠ .remaining → ∃ index,
    (scanner.step request).value.1 = .record scanner.drain.value.1[index]? ∧
      (scanner.step request).value.2.position = scanner.position +
        ((scanner.drain.value.1.take (index + 1)).map Record.size).sum
  sizes : ∀ record ∈ scanner.drain.value.1, 2 ≤ record.size ∧ record.size ≤ 257
  few : scanner.drain.value.1.length ≤ (payload.length - scanner.position) / 2
  /-- Of a series of readings that is longer than that, the last finds nothing. -/
  ends : ∀ count, (payload.length - scanner.position) / 2 ≤ count →
    (scanner.after (List.replicate count .next)).next.value.1 = none

theorem StandsIn.safe (stands : scanner.StandsIn payload)
    (addressable : payload.length < 2 ^ 63) :
    scanner.Safe payload := by
  have ahead : payload.length - scanner.position = scanner.rest.length := by
    obtain ⟨front, rfl, here⟩ := stands
    rw [List.length_append, here, Nat.add_sub_cancel_left]
  constructor
  case inside => exact stands.position_le
  case faultless => exact stands.next? addressable
  case advances =>
    intro record after found
    obtain ⟨lower, upper, -⟩ := bounds_of_next found
    obtain ⟨entry, rfl, -, position⟩ := exists_entry_of_next found
    exact ⟨rfl, position, lower, upper⟩
  case stays =>
    intro after ends
    exact ⟨(rest_of_next_none ends).2, fun request reading => step_of_next_none ends reading⟩
  case passes =>
    intro request reading
    obtain ⟨index, outcome, reads, stepped⟩ := scanner.exists_reads_of_step reading
    refine ⟨index, ?_, ?_⟩
    · rw [stepped, ← reads.answer]
    · rw [stepped]
      exact reads.position_eq
  case sizes => exact fun record member => bounds_of_mem_drain member
  case few =>
    have twice := scanner.length_drain_le
    omega
  case ends =>
    intro count enough
    rw [ahead] at enough
    exact next_after_replicate enough

end Scanner

/-- Whatever is asked of a scanner in a payload that a machine can hold, it answers by
reading record after record, and wherever it comes on this way it is safe: it stands inside
the payload, no operation on indices faults, a record that is found moves it by its size and
nothing else moves it, and it finds nothing any more after as many readings as the bytes
ahead have room for records. -/
theorem scanner_stays_inside {payload : Bytes} (addressable : payload.length < 2 ^ 63)
    (requests : List Scanner.Step) :
    let scanner := (Scanner.start payload).after requests
    (∀ request, scanner.Reaches (scanner.step request).value.2) ∧
      ∀ between, scanner.Reaches between → between.Safe payload := by
  intro scanner
  have stands : scanner.StandsIn payload :=
    (Scanner.standsIn_start payload).of_reaches (Scanner.reaches_after _ requests)
  refine ⟨scanner.reaches_step, ?_⟩
  intro between reaches
  exact (stands.of_reaches reaches).safe addressable

/-- A record is followed by a header whose length byte points far behind the payload.  The
sum that it is part of is no fault, and the scanner stops where it is. -/
theorem scanner_stays_inside_long_value :
    let payload : Bytes := [4, 0, 2, 0xFF, 0]
    let scanner := (Scanner.start payload).after [.next]
    payload.length < 2 ^ 63 ∧ scanner = ⟨2, [2, 0xFF, 0], false⟩ ∧
    (scanner.indexed payload).next? =
      some ⟨[.scanStopped 2 5 .valuePastEnd], none, ⟨payload, 2, true⟩⟩ ∧
    scanner.drain.value.1.length ≤ 1 := by
  intro payload scanner
  have addressable : payload.length < 2 ^ 63 := by decide
  have place : scanner = ⟨2, [2, 0xFF, 0], false⟩ := by decide +kernel
  have safe := (scanner_stays_inside addressable [.next]).2 scanner .refl
  refine ⟨addressable, place, ?_, ?_⟩
  · rw [safe.faultless, place]
    rfl
  · have room : (payload.length - scanner.position) / 2 = 1 := by
      rw [place]
      decide
    exact room ▸ safe.few

/-- An index behind the payload is a fault. -/
example : IndexedScanner.next? ⟨[4], 2, false⟩ = none := rfl

end Announce
