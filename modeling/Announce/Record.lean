import Announce.Bytes

/-!
# Records

A payload is a flat sequence of records.  Each record is a tag byte, a byte
with the length of the value, and the value.  Records are appended to a buffer,
and a value that is too long leaves the buffer as it was.
-/

namespace Announce

/-- A complete record of a payload and the place of its header in it. -/
structure Record where
  tag : UInt8
  /-- The number of payload bytes in front of the header. -/
  offset : Nat
  value : Bytes
deriving DecidableEq, Repr

/-- A value that does not fit into one record. -/
structure Oversize where
  size : Nat
  limit : Nat
deriving DecidableEq, Repr

namespace Oversize

/-- The extent of the excess, as it ends an error message. -/
def extent (oversize : Oversize) : String :=
  s!"({oversize.size} bytes, max {oversize.limit})"

/-- The message of an encoder that was given too large a value. -/
def message (oversize : Oversize) : String :=
  "tlv value too large " ++ oversize.extent

end Oversize

/-- A writer puts octets into a buffer and can fail on its way.  What it has put
there by then stays there. -/
abbrev Writer := EStateM Oversize Bytes

namespace Writer

/-- Put octets behind those of the buffer. -/
def put (octets : Bytes) : Writer Unit :=
  modify (· ++ octets)

/-- What a writer puts into an empty buffer, unless it fails. -/
def written (writer : Writer Unit) : Except Oversize Bytes :=
  match writer.run [] with
  | .ok _ octets => .ok octets
  | .error oversize _ => .error oversize

/-- An atomic writer appends to any buffer what it puts into an empty one, or
fails on any buffer and leaves it as it was. -/
def Atomic (writer : Writer Unit) : Prop :=
  ∀ buffer, writer.run buffer =
    match writer.written with
    | .ok octets => .ok () (buffer ++ octets)
    | .error oversize => .error oversize buffer

end Writer

namespace Record

/-- The bytes of a header: the tag and the length. -/
def headerSize : Nat := 2

/-- The longest value that one length byte can declare. -/
def maxValueSize : Nat := 255

/-- The bytes that a record takes in a payload. -/
def size (record : Record) : Nat :=
  headerSize + record.value.length

/-- Append a record to a buffer, unless its value is too long for the length
byte. -/
def append (tag : UInt8) (value : Bytes) : Writer Unit := do
  if maxValueSize < value.length then
    throw ⟨value.length, maxValueSize⟩
  Writer.put [tag]
  Writer.put [UInt8.ofNat value.length]
  Writer.put value

/-- Write a record into a buffer of its own. -/
def encode (tag : UInt8) (value : Bytes) : Except Oversize Bytes :=
  (append tag value).written

section

variable {tag : UInt8} {value : Bytes}

theorem run_append_of_le (fits : value.length ≤ maxValueSize) (buffer : Bytes) :
    (append tag value).run buffer =
      .ok () (buffer ++ tag :: UInt8.ofNat value.length :: value) := by
  rw [append, if_neg (Nat.not_lt.mpr fits)]
  change EStateM.Result.ok () (((buffer ++ [tag]) ++ [UInt8.ofNat value.length]) ++ value) = _
  rw [List.append_assoc, List.append_assoc]
  rfl

/-- The length is looked at before anything is put into the buffer. -/
theorem run_append_of_lt (large : maxValueSize < value.length) (buffer : Bytes) :
    (append tag value).run buffer = .error ⟨value.length, maxValueSize⟩ buffer := by
  rw [append, if_pos large]
  rfl

theorem encode_of_le (fits : value.length ≤ maxValueSize) :
    encode tag value = .ok (tag :: UInt8.ofNat value.length :: value) := by
  rw [encode, Writer.written, run_append_of_le fits]
  rfl

theorem encode_of_lt (large : maxValueSize < value.length) :
    encode tag value = .error ⟨value.length, maxValueSize⟩ := by
  rw [encode, Writer.written, run_append_of_lt large]

/-- A record is appended as a whole or not at all. -/
theorem atomic_append (tag : UInt8) (value : Bytes) : (append tag value).Atomic := by
  intro buffer
  rcases Nat.lt_or_ge maxValueSize value.length with large | fits
  · rw [run_append_of_lt large, ← encode, encode_of_lt large]
  · rw [run_append_of_le fits, ← encode, encode_of_le fits]

end

end Record

end Announce
