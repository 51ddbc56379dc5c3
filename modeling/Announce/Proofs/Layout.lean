import Announce.Record.Scanner

/-!
# Payloads taken apart

A payload is a run of complete records, followed by nothing or by the beginning
of one more record.  An entry is what a record says apart from its place, and a
layout lists the entries of a payload and keeps the bytes behind them.  Every
payload has a layout; that it has only one is a matter of scanning it.
-/

namespace Announce

/-- A tag and a value that fits into one record. -/
structure Entry where
  tag : UInt8
  value : Bytes
  fits : value.length ≤ Record.maxValueSize
deriving DecidableEq, Repr

namespace Entry

/-- The bytes of an entry in a payload: tag, length and value. -/
def wire (entry : Entry) : Bytes :=
  entry.tag :: UInt8.ofNat entry.value.length :: entry.value

def size (entry : Entry) : Nat :=
  Record.headerSize + entry.value.length

/-- The record that an entry is when its header stands at `offset`. -/
def placedAt (entry : Entry) (offset : Nat) : Record :=
  ⟨entry.tag, offset, entry.value⟩

@[simp] theorem length_wire (entry : Entry) : entry.wire.length = entry.size := by
  simp only [wire, size, Record.headerSize, List.length_cons]
  omega

@[simp] theorem size_placedAt (entry : Entry) (offset : Nat) :
    (entry.placedAt offset).size = entry.size := rfl

/-- The length byte of an entry does not wrap around. -/
theorem toNat_length (entry : Entry) :
    (UInt8.ofNat entry.value.length).toNat = entry.value.length := by
  have bound : entry.value.length < 256 := Nat.lt_succ_of_le entry.fits
  rw [UInt8.toNat_ofNat']
  exact Nat.mod_eq_of_lt bound

@[simp] theorem encode_eq (entry : Entry) :
    Record.encode entry.tag entry.value = .ok entry.wire :=
  Record.encode_of_le entry.fits

theorem exists_of_encode {tag : UInt8} {value written : Bytes}
    (encoded : Record.encode tag value = .ok written) :
    ∃ entry : Entry, entry.tag = tag ∧ entry.value = value ∧ entry.wire = written := by
  rcases Nat.lt_or_ge Record.maxValueSize value.length with large | fits
  · rw [Record.encode_of_lt large] at encoded
    cases encoded
  · rw [Record.encode_of_le fits] at encoded
    exact ⟨⟨tag, value, fits⟩, rfl, rfl, Except.ok.inj encoded⟩

end Entry

def wireAll (entries : List Entry) : Bytes :=
  entries.flatMap Entry.wire

@[simp] theorem wireAll_nil : wireAll [] = [] := rfl

@[simp] theorem wireAll_cons (entry : Entry) (entries : List Entry) :
    wireAll (entry :: entries) = entry.wire ++ wireAll entries := rfl

@[simp] theorem wireAll_append (front back : List Entry) :
    wireAll (front ++ back) = wireAll front ++ wireAll back := by
  simp [wireAll]

/-- The records that entries are when the first header stands at `position` and
each other one behind the record before it. -/
def placeAll (position : Nat) : List Entry → List Record
  | [] => []
  | entry :: entries =>
      entry.placedAt position :: placeAll (position + entry.size) entries

/-- The beginning of a record of which the rest is missing: a tag alone, or a
header that declares more bytes than follow it. -/
inductive Incomplete : Bytes → Prop where
  | shortHeader (tag : UInt8) : Incomplete [tag]
  | valuePastEnd (tag length : UInt8) {rest : Bytes} :
      rest.length < length.toNat → Incomplete (tag :: length :: rest)

theorem Incomplete.ne_nil {tail : Bytes} (incomplete : Incomplete tail) : tail ≠ [] := by
  cases incomplete <;> simp

namespace Front

theorem of_wire_append (entry : Entry) (rest : Bytes) :
    Front.of (entry.wire ++ rest) = .record entry.tag entry.value rest := by
  simp only [Front.of, Entry.wire, List.cons_append]
  rw [Bytes.splitExact?_eq, entry.toNat_length]
  simp

theorem of_incomplete {tail : Bytes} (incomplete : Incomplete tail) :
    Front.of tail =
      .incomplete (if tail.length = 1 then .shortHeader else .valuePastEnd) := by
  cases incomplete with
  | shortHeader tag => rfl
  | valuePastEnd tag length short =>
      simp [Front.of, Bytes.splitExact?_eq, Nat.not_le.mpr short]

end Front

/-- A payload is empty, or begins with an entry, or is an incomplete record. -/
theorem eq_nil_or_wire_append_or_incomplete (payload : Bytes) :
    payload = [] ∨ (∃ entry rest, payload = Entry.wire entry ++ rest) ∨
      Incomplete payload := by
  match payload with
  | [] => exact .inl rfl
  | [tag] => exact .inr (.inr (.shortHeader tag))
  | tag :: length :: rest =>
      right
      by_cases full : length.toNat ≤ rest.length
      · left
        have taken : (rest.take length.toNat).length = length.toNat :=
          List.length_take_of_le full
        have fits : (rest.take length.toNat).length ≤ Record.maxValueSize := by
          rw [taken]
          exact Nat.le_of_lt_succ length.toNat_lt
        refine ⟨⟨tag, rest.take length.toNat, fits⟩, rest.drop length.toNat, ?_⟩
        simp only [Entry.wire, taken, UInt8.ofNat_toNat, List.cons_append,
          List.take_append_drop]
      · exact .inr (.valuePastEnd tag length (Nat.not_le.mp full))

/-- The entries of a payload and the bytes behind them, which are none or an
incomplete record. -/
structure Layout where
  entries : List Entry
  tail : Bytes
  ending : tail = [] ∨ Incomplete tail

namespace Layout

def toBytes (layout : Layout) : Bytes :=
  wireAll layout.entries ++ layout.tail

def behind (entries : List Entry) (layout : Layout) : Layout :=
  { layout with entries := entries ++ layout.entries }

theorem toBytes_behind (entries : List Entry) (layout : Layout) :
    (layout.behind entries).toBytes = wireAll entries ++ layout.toBytes := by
  simp [toBytes, behind]

theorem take_toBytes (layout : Layout) :
    layout.toBytes.take (wireAll layout.entries).length = wireAll layout.entries :=
  List.take_left

theorem drop_toBytes (layout : Layout) :
    layout.toBytes.drop (wireAll layout.entries).length = layout.tail :=
  List.drop_left

/-- Every payload has a layout. -/
theorem exists_toBytes_eq (payload : Bytes) : ∃ layout : Layout, layout.toBytes = payload := by
  rcases eq_nil_or_wire_append_or_incomplete payload with
    empty | ⟨entry, rest, begins⟩ | incomplete
  · exact ⟨⟨[], [], .inl rfl⟩, empty.symm⟩
  · rcases exists_toBytes_eq rest with ⟨layout, laidOut⟩
    refine ⟨layout.behind [entry], ?_⟩
    rw [toBytes_behind, laidOut, begins, wireAll_cons, wireAll_nil, List.append_nil]
  · exact ⟨⟨[], payload, .inr incomplete⟩, rfl⟩
termination_by payload.length
decreasing_by
  simp only [begins, List.length_append, Entry.length_wire, Entry.size, Record.headerSize]
  omega

end Layout

end Announce
