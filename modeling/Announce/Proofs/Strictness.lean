import Announce.Proofs.Canonical
import Announce.Proofs.EncoderEvents

/-!
# Lists of strict identifiers

Asking for strict identifiers changes nothing about a list that consists of them: it is
written like any other list.  Of its texts all sixteen digits are kept, only their case is
lost, so two of them have the same bytes exactly if they differ in nothing but case.
-/

namespace Announce

namespace PeerId

/-! ## Strict texts -/

theorem toHex_ofText_eq_toLower {text : String} (strict : IsStrict text) :
    (ofText text).toHex = text.toLower := by
  rw [toHex_ofText_of_isStrict strict, ← String.toList_inj, String.toList_ofList]
  exact String.toList_map.symm

/-- Strict texts stand for the same identifier exactly if they differ in nothing but
case. -/
theorem ofText_eq_iff_toLower_eq {left right : String} (leftStrict : IsStrict left)
    (rightStrict : IsStrict right) :
    ofText left = ofText right ↔ left.toLower = right.toLower := by
  rw [← toHex_ofText_eq_toLower leftStrict, ← toHex_ofText_eq_toLower rightStrict]
  exact toHex_injective.eq_iff.symm

theorem decode_of_isStrict {text : String} (strict : IsStrict text) :
    Hex.decode text = .ok (ofText text).bytes :=
  parse_eq_ok_iff.mp (parse_of_isStrict strict)

end PeerId

/-! ## Runs of the encoder -/

/-- Asking for strict identifiers makes no difference where all texts are accepted. -/
theorem EncodeOptions.run_strict {ids : List String} (accepted : requireStrict ids = .ok ())
    (limit : UInt64) : run ⟨ids, limit, true⟩ = run ⟨ids, limit, false⟩ := by
  unfold run
  dsimp only
  rw [if_pos rfl, accepted]
  rfl

/-- How the log is written changes neither the exit code nor the output. -/
theorem Outcome.ofResult_agree (invocation invocation' : Invocation)
    (result : Log.Logged (Except Failure Output)) :
    (ofResult invocation result).exitCode = (ofResult invocation' result).exitCode ∧
      (ofResult invocation result).output = (ofResult invocation' result).output := by
  unfold ofResult
  cases result.value <;> exact ⟨rfl, rfl⟩

theorem Invocation.run_strict_agree {ids : List String} {limit : UInt64} (host : Host)
    {invocation invocation' : Invocation} (accepted : requireStrict ids = .ok ())
    (strict : invocation.command = .encode ⟨ids, limit, true⟩)
    (tolerant : invocation'.command = .encode ⟨ids, limit, false⟩)
    (format : invocation.format.getD .default = invocation'.format.getD .default) :
    (invocation.run host).exitCode = (invocation'.run host).exitCode ∧
      (invocation.run host).output = (invocation'.run host).output := by
  have same : ∀ format, (Command.encode ⟨ids, limit, true⟩).run host format =
      (Command.encode ⟨ids, limit, false⟩).run host format := by
    intro format
    rw [Command.run, Command.run, EncodeOptions.run_strict accepted]
  dsimp only [Invocation.run]
  rw [strict, tolerant, format, same]
  exact Outcome.ofResult_agree invocation invocation' _

/-! ## Records of strict texts -/

namespace Neighbors

section

variable {ids : List String} {limit : UInt64} {record : Bytes}

theorem isStrict_of_mem_retained (accepted : requireStrict ids = .ok ()) {id : String}
    (member : id ∈ retained ids limit) : PeerId.IsStrict id := by
  rw [retained_eq] at member
  apply requireStrict_eq_ok_iff.mp accepted
  exact List.mem_eraseDups.mp (List.mem_of_mem_take member)

theorem decodeTexts_of_requireStrict (accepted : requireStrict ids = .ok ())
    (encoded : (encode ids limit).value = .ok record) :
    (decodeTexts record).value = some ((retained ids limit).map String.toLower) := by
  rw [value_decodeTexts, decode_of_encoded encoded, Option.map_some, List.map_map,
    Option.some.injEq]
  apply List.map_congr_left
  intro id member
  exact PeerId.toHex_ofText_eq_toLower (isStrict_of_mem_retained accepted member)

/-- The blocks of a record are the bytes of the texts that are kept. -/
theorem fullBlocks_of_encoded (encoded : (encode ids limit).value = .ok record) :
    fullBlocks 8 (record.drop 2) = (retained ids limit).map fun id => (PeerId.ofText id).bytes := by
  rcases value_encode_eq_ok_iff.mp encoded with ⟨-, rfl⟩
  rw [List.drop_succ_cons, List.drop_succ_cons, List.drop_zero, ← bytes_blocks, blocks_value,
    List.map_map]
  rfl

theorem getElem?_fullBlocks_of_encoded (encoded : (encode ids limit).value = .ok record)
    {index : Nat} {id : String} (found : (retained ids limit)[index]? = some id) :
    (fullBlocks 8 (record.drop 2))[index]? = some (PeerId.ofText id).bytes := by
  rw [fullBlocks_of_encoded encoded, List.getElem?_map, found]
  rfl

end

end Neighbors

/-- A list that is accepted as strict identifiers is written alike whether or not they are
asked for.  The record is read as the texts that are kept, in lowercase.  It holds a block
for each of them, which is what all of its digits spell, and two of them share their block
exactly if they differ in nothing but case. -/
theorem encode_of_requireStrict {ids : List String} (accepted : requireStrict ids = .ok ())
    (limit : UInt64) :
    (∀ (host : Host) (arguments arguments' : List String) (invocation invocation' : Invocation),
      Invocation.parse arguments = .ok invocation →
      Invocation.parse arguments' = .ok invocation' →
      invocation.command = .encode ⟨ids, limit, true⟩ →
      invocation'.command = .encode ⟨ids, limit, false⟩ →
      invocation.format.getD .default = invocation'.format.getD .default →
      (runProgram host arguments).exitCode = (runProgram host arguments').exitCode ∧
        (runProgram host arguments).output = (runProgram host arguments').output) ∧
    ∀ record, (Neighbors.encode ids limit).value = .ok record →
      let kept := ids.eraseDups.take limit.toNat
      let blocks := fullBlocks 8 (record.drop 2)
      (Neighbors.decodeTexts record).value = some (kept.map String.toLower) ∧
      blocks.length = kept.length ∧
      ∀ (i : Nat) (id : String), kept[i]? = some id →
        ∃ block, blocks[i]? = some block ∧ Hex.decode id = .ok block ∧
          ∀ (j : Nat) (id' : String), kept[j]? = some id' →
            (blocks[j]? = some block ↔ id'.toLower = id.toLower) := by
  constructor
  · intro host arguments arguments' invocation invocation' parsed parsed' strict tolerant format
    rw [runProgram, parsed, runProgram, parsed']
    exact Invocation.run_strict_agree host accepted strict tolerant format
  · intro record encoded
    dsimp only
    rw [← Neighbors.retained_eq]
    refine ⟨Neighbors.decodeTexts_of_requireStrict accepted encoded, ?_, ?_⟩
    · rw [Neighbors.fullBlocks_of_encoded encoded, List.length_map]
    · intro i id found
      have strict := Neighbors.isStrict_of_mem_retained accepted (List.mem_of_getElem? found)
      refine ⟨(PeerId.ofText id).bytes, Neighbors.getElem?_fullBlocks_of_encoded encoded found,
        PeerId.decode_of_isStrict strict, ?_⟩
      intro j id' found'
      have strict' := Neighbors.isStrict_of_mem_retained accepted (List.mem_of_getElem? found')
      rw [Neighbors.getElem?_fullBlocks_of_encoded encoded found', Option.some.injEq,
        ← PeerId.ofText_eq_iff_toLower_eq strict' strict]
      exact PeerId.bytes_injective.eq_iff

/-- Of two texts that differ in case and a repeated one, the first two are written, with or
without strict identifiers asked for, and they share their block. -/
theorem encode_of_requireStrict_two_cases :
    let first := "AABBccddEEFF0011"
    let second := "aabbCCDDeeff0011"
    let ids := [first, second, first]
    let arguments := ["encode", "--strict"] ++ ids
    let arguments' := ["--log-level=trace", "encode"] ++ ids ++ ["--format", "json"]
    let host : Host := ⟨"x86_64-linux", fun _ => .error .notFound⟩
    let block : Bytes := [0xAA, 0xBB, 0xCC, 0xDD, 0xEE, 0xFF, 0x00, 0x11]
    let record := [4, 16] ++ block ++ block
    (requireStrict ids = .ok () ∧
      Invocation.parse arguments = .ok ⟨.encode ⟨ids, 10, true⟩, none, .text, .warn⟩ ∧
      Invocation.parse arguments' =
        .ok ⟨.encode ⟨ids, 10, false⟩, some .json, .text, .trace⟩) ∧
    ((runProgram host arguments).exitCode = (runProgram host arguments').exitCode ∧
      (runProgram host arguments).output = (runProgram host arguments').output) ∧
    (Neighbors.encode ids 10).value = .ok record ∧
    (Neighbors.decodeTexts record).value = some ["aabbccddeeff0011", "aabbccddeeff0011"] ∧
    (fullBlocks 8 (record.drop 2))[0]? = (fullBlocks 8 (record.drop 2))[1]? := by
  intro first second ids arguments arguments' host block record
  have accepted : requireStrict ids = .ok () := by decide +kernel
  have parsed : Invocation.parse arguments =
      .ok ⟨.encode ⟨ids, 10, true⟩, none, .text, .warn⟩ := by decide +kernel
  have parsed' : Invocation.parse arguments' =
      .ok ⟨.encode ⟨ids, 10, false⟩, some .json, .text, .trace⟩ := by decide +kernel
  have encoded : (Neighbors.encode ids 10).value = .ok record := by decide +kernel
  have kept : ids.eraseDups.take (10 : UInt64).toNat = [first, second] := by decide +kernel
  have firstLower : first.toLower = "aabbccddeeff0011" := by decide +kernel
  have secondLower : second.toLower = "aabbccddeeff0011" := by decide +kernel
  rcases encode_of_requireStrict accepted 10 with ⟨alike, written⟩
  have spelled := written record encoded
  rw [kept] at spelled
  rcases spelled with ⟨texts, -, blocks⟩
  rcases blocks 0 first rfl with ⟨shared, found, -, shares⟩
  have found' := (shares 1 second rfl).mpr (secondLower.trans firstLower.symm)
  rw [List.map_cons, List.map_cons, List.map_nil, firstLower, secondLower] at texts
  exact ⟨⟨accepted, parsed, parsed'⟩, alike host _ _ _ _ parsed parsed' rfl rfl rfl, encoded,
    texts, found.trans found'.symm⟩

end Announce
