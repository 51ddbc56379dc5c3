import Announce.Proofs.EncoderEvents

/-!
# What a limit allows

The longest value that a limit allows for is known before any list is.  It is larger than
a record can hold exactly if there is a list that cannot be written under the limit, and
only then the encoder warns of the limit.  Up to what a record can hold, some list needs
all of it.  The product of the limit and the size of an identifier never wraps around, so
no limit is too large for the warning.
-/

namespace Announce

open Log (Event Logged)

namespace Neighbors

/-! ## The longest value -/

/-- The largest number of 64 bits stands for the product if that is larger. -/
theorem maxValueSize_cases (limit : UInt64) :
    maxValueSize limit = 8 * limit.toNat ∨
      (maxValueSize limit = 2 ^ 64 - 1 ∧ 2 ^ 64 ≤ 8 * limit.toNat) := by
  rw [maxValueSize, PeerId.size, UInt64.size]
  omega

theorem lt_maxValueSize_iff {limit : UInt64} :
    Record.maxValueSize < maxValueSize limit ↔ 31 < limit.toNat := by
  rw [Record.maxValueSize]
  have bound := limit.toNat_lt
  have cases := maxValueSize_cases limit
  omega

theorem min_maxValueSize (limit : UInt64) :
    min (maxValueSize limit) 248 = 8 * min limit.toNat 31 := by
  have cases := maxValueSize_cases limit
  omega

/-! ## Lists that reach a limit -/

/-- As many different texts as are asked for. -/
def numerals (count : Nat) : List String :=
  (List.range count).map fun number => toString number

theorem nodup_numerals (count : Nat) : (numerals count).Nodup := by
  apply List.nodup_range.map
  intro left right same
  exact toString_nat_injective same

theorem length_retained_numerals (count : Nat) (limit : UInt64) :
    (retained (numerals count) limit).length = min limit.toNat count := by
  rw [retained_eq, eraseDups_of_nodup (nodup_numerals count), List.length_take, numerals,
    List.length_map, List.length_range]

theorem length_retained_le (ids : List String) (limit : UInt64) :
    (retained ids limit).length ≤ limit.toNat := by
  rw [retained]
  exact List.length_take_le _ _

/-- A list can fail under a limit exactly if the limit lets through more than thirty-one
texts. -/
theorem exists_error_iff {limit : UInt64} :
    (∃ ids oversize, (encode ids limit).value = .error oversize) ↔ 31 < limit.toNat := by
  constructor
  · rintro ⟨ids, oversize, failed⟩
    have many := (value_encode_eq_error_iff.mp failed).1
    exact Nat.lt_of_lt_of_le many (length_retained_le ids limit)
  · intro wide
    have many : 31 < (retained (numerals 32) limit).length := by
      rw [length_retained_numerals]
      omega
    exact ⟨numerals 32, _, value_encode_eq_error_iff.mpr ⟨many, rfl⟩⟩

end Neighbors

/-! ## The warning -/

/-- A line of the log is there exactly if its event was reported and is let through,
provided that the run reports no other event at the same level. -/
theorem Outcome.line_mem_errorLines_iff {invocation : Invocation}
    {result : Logged (Except Failure Output)} {event : Event}
    (only : ∀ other ∈ result.events, other.level = event.level → other = event) :
    event.line invocation.logStyle ∈ (ofResult invocation result).errorLines ↔
      event ∈ result.events ∧ invocation.logLevel.admits event.level = true := by
  rw [errorLines_ofResult, List.mem_append, Log.lines, List.mem_map]
  simp only [List.mem_filter]
  constructor
  · rintro (⟨other, ⟨reported, admitted⟩, same⟩ | failure)
    · -- The level can be read off the line, so the two events are at the same level.
      have level := congrArg (Log.levelOf? invocation.logStyle) same
      rw [Log.levelOf?_line, Log.levelOf?_line, Option.some.injEq] at level
      rw [← only other reported level]
      exact ⟨reported, admitted⟩
    · have unnamed := filter_levelOf?_failureLine? invocation.logStyle result.value
      rw [List.filter_eq_nil_iff] at unnamed
      have named := unnamed _ failure
      rw [Log.levelOf?_line] at named
      exact absurd rfl named
  · rintro ⟨reported, admitted⟩
    exact .inl ⟨event, ⟨reported, admitted⟩, rfl⟩

namespace EncodeOptions

/-- The line of the warning is there exactly if the limit is too wide, provided that the
texts are accepted and that warnings are let through. -/
theorem warning_mem_errorLines_iff (host : Host) {invocation : Invocation}
    {options : EncodeOptions} (encodes : invocation.command = .encode options)
    (clean : options.offender? = none) :
    (Event.capExceedsRecord options.maxNeighbors.toNat).line invocation.logStyle ∈
        (invocation.run host).errorLines ↔
      Record.maxValueSize < Neighbors.maxValueSize options.maxNeighbors ∧
        invocation.logLevel.admits .warn = true := by
  have events : ((Command.encode options).run host (invocation.format.getD .default)).events =
      options.run.events := List.append_nil _
  rw [Invocation.run, encodes, Outcome.line_mem_errorLines_iff, events,
    mem_events_run_iff_of_warn rfl]
  · simp [clean, Event.level]
  · intro other reported level
    rw [events] at reported
    exact ((mem_events_run_iff_of_warn level).mp reported).2.1

end EncodeOptions

namespace Neighbors

/-- The longest value that a limit allows for is larger than a record can hold exactly if
some list fails under this limit.  A list that is written takes no more than that, nor more
than thirty-one identifiers take, and some list takes as much.  The product of limit and
size is exact or stays at the largest number of 64 bits, and it alone decides whether a run
that accepts its texts warns of the limit, if its log shows warnings. -/
theorem maxValueSize_predicts_encode (limit : UInt64) :
    (255 < maxValueSize limit ↔
      ∃ ids oversize, (encode ids limit).value = .error oversize) ∧
    (∀ ids record, (encode ids limit).value = .ok record → ∃ value,
      0x04 :: UInt8.ofNat value.length :: value = record ∧
        value.length ≤ min (maxValueSize limit) 248) ∧
    (∃ ids value, (encode ids limit).value = .ok (0x04 :: UInt8.ofNat value.length :: value) ∧
      value.length = min (maxValueSize limit) 248) ∧
    (maxValueSize limit = 8 * limit.toNat ∨
      (maxValueSize limit = 2 ^ 64 - 1 ∧ 2 ^ 64 ≤ 8 * limit.toNat)) ∧
    ∀ (host : Host) (invocation : Invocation) (options : EncodeOptions),
      invocation.command = .encode options → options.maxNeighbors = limit →
      (options.strict = true → requireStrict options.peerIds = .ok ()) →
      ((Event.capExceedsRecord limit.toNat).line invocation.logStyle ∈
          (invocation.run host).errorLines ↔
        255 < maxValueSize limit ∧ invocation.logLevel.admits .warn = true) := by
  refine ⟨lt_maxValueSize_iff.trans exists_error_iff.symm, ?_, ?_, maxValueSize_cases limit, ?_⟩
  · intro ids record encoded
    rcases value_encode_eq_ok_iff.mp encoded with ⟨few, written⟩
    have kept := length_retained_le ids limit
    refine ⟨value (retained ids limit), written, ?_⟩
    rw [length_value, min_maxValueSize]
    omega
  · have kept := length_retained_numerals 31 limit
    have few : (retained (numerals 31) limit).length ≤ 31 := by omega
    refine ⟨numerals 31, value (retained (numerals 31) limit),
      value_encode_eq_ok_iff.mpr ⟨few, rfl⟩, ?_⟩
    rw [length_value, min_maxValueSize, kept]
  · intro host invocation options encodes same accepted
    subst same
    exact EncodeOptions.warning_mem_errorLines_iff host encodes
      (EncodeOptions.offender?_eq_none_iff.mpr accepted)

/-- The smallest limit of which the product with the size of an identifier does not fit into
64 bits: a strict identifier is written under it all the same, after a warning. -/
theorem maxValueSize_predicts_encode_two_pow :
    let limit : UInt64 := 2305843009213693952
    let options : EncodeOptions := ⟨["0123456789abcdef"], limit, true⟩
    let invocation : Invocation := ⟨.encode options, none, .text, .warn⟩
    let warning := "WARN meshannounce::cmd::encode: neighbor cap exceeds a single record; " ++
      "long lists will be rejected max_neighbors=2305843009213693952"
    let record : Bytes := [4, 8, 0x01, 0x23, 0x45, 0x67, 0x89, 0xAB, 0xCD, 0xEF]
    limit.toNat = 2 ^ 61 ∧ requireStrict options.peerIds = .ok () ∧
    (∃ ids oversize, (encode ids limit).value = .error oversize) ∧
    ((encode options.peerIds limit).value = .ok record ∧
      ∃ value, 0x04 :: UInt8.ofNat value.length :: value = record ∧
        value.length ≤ min (maxValueSize limit) 248) ∧
    warning ∈ (invocation.run ⟨"x86_64-linux", fun _ => .error .notFound⟩).errorLines := by
  intro limit options invocation warning record
  have accepted : requireStrict options.peerIds = .ok () := by decide +kernel
  have encoded : (encode options.peerIds limit).value = .ok record := rfl
  have wide : 255 < maxValueSize limit := by decide
  have line : (Event.capExceedsRecord limit.toNat).line invocation.logStyle = warning := by
    decide +kernel
  rcases maxValueSize_predicts_encode limit with ⟨fails, bounded, -, -, warns⟩
  have warned := (warns ⟨"x86_64-linux", fun _ => .error .notFound⟩ invocation options rfl rfl
    fun _ => accepted).mpr ⟨wide, rfl⟩
  rw [line] at warned
  exact ⟨rfl, accepted, fails.mp wide, ⟨encoded, bounded _ record encoded⟩, warned⟩

end Neighbors

end Announce
