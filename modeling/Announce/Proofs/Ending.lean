import Announce.Command.Run
import Announce.Proofs.HexText
import Announce.Proofs.Normal

/-!
# How commands end

A command ends with the text of its report or with a failure, and which of the two
follows from its options and from the file that it reads.  Nothing is written to
standard output by a command that fails.
-/

namespace Announce

open Log (Logged)

/-! ## Strict identifiers -/

/-- The first text of a list that is not the strict form of an identifier is the one
that is refused. -/
theorem requireStrict_eq (texts : List String) :
    requireStrict texts =
      match texts.find? fun text => ¬PeerId.IsStrict text with
      | some text => .error ⟨text⟩
      | none => .ok () := by
  induction texts with
  | nil => rfl
  | cons text texts ih =>
      by_cases strict : PeerId.IsStrict text
      · rcases PeerId.exists_parse_iff.mpr strict with ⟨id, read⟩
        rw [requireStrict, read, List.find?_cons_of_neg (by simpa using strict), ← ih]
        rfl
      · rw [requireStrict, PeerId.parse_of_not_isStrict strict,
          List.find?_cons_of_pos (by simpa using strict)]
        rfl

/-- Texts are accepted exactly if all of them are strict identifiers. -/
theorem requireStrict_eq_ok_iff {texts : List String} :
    requireStrict texts = .ok () ↔ ∀ text ∈ texts, PeerId.IsStrict text := by
  have clean : (texts.find? fun text => ¬PeerId.IsStrict text) = none ↔
      ∀ text ∈ texts, PeerId.IsStrict text := by
    simp [List.find?_eq_none]
  rw [requireStrict_eq, ← clean]
  cases texts.find? fun text => ¬PeerId.IsStrict text <;> simp

/-! ## The encoder -/

namespace Neighbors

/-- Up to thirty-one texts that are kept are written as the record of their
identifiers. -/
theorem value_encode_of_le {ids : List String} {limit : UInt64} {kept : List String}
    (same : ids.eraseDups.take limit.toNat = kept)
    (few : (kept.map PeerId.ofText).length ≤ 31) :
    (encode ids limit).value = .ok (entryOf (kept.map PeerId.ofText) few).wire := by
  rw [value_encode, retained_eq, same, value_eq]
  exact (entryOf (kept.map PeerId.ofText) few).encode_eq

theorem value_encode_of_lt {ids : List String} {limit : UInt64} {kept : List String}
    (same : ids.eraseDups.take limit.toNat = kept) (many : 31 < kept.length) :
    (encode ids limit).value = .error ⟨8 * kept.length, 255⟩ := by
  rw [value_encode_eq_error_iff, retained_eq, same]
  exact ⟨many, rfl⟩

end Neighbors

namespace EncodeOptions

/-- The first text that is refused as an identifier. -/
def offender? (options : EncodeOptions) : Option String :=
  if options.strict then options.peerIds.find? fun text => ¬PeerId.IsStrict text else none

theorem offender?_eq_none_iff {options : EncodeOptions} :
    options.offender? = none ↔
      (options.strict = true → requireStrict options.peerIds = .ok ()) := by
  rw [offender?, requireStrict_eq_ok_iff]
  split
  · next strict => simp [strict, List.find?_eq_none]
  · next tolerant => simp [tolerant]

/-- The texts that the record is made of. -/
def kept (options : EncodeOptions) : List String :=
  options.peerIds.eraseDups.take options.maxNeighbors.toNat

/-- How a run of the encoder can end. -/
inductive Ends (options : EncodeOptions) : Except Failure EncodeReport → Prop where
  | refused {text : String} : options.offender? = some text →
      Ends options (.error (.ofMalformed "encode failed" ⟨text⟩))
  | tooLarge : options.offender? = none → 31 < options.kept.length →
      Ends options (.error (.ofOversize "encode failed" ⟨8 * options.kept.length, 255⟩))
  | written (few : (options.kept.map PeerId.ofText).length ≤ 31) :
      options.offender? = none →
      Ends options (.ok ⟨options.kept.map PeerId.ofText,
        (Neighbors.entryOf (options.kept.map PeerId.ofText) few).wire⟩)

end EncodeOptions

theorem value_onSuccess {α β : Type} (result : Except Failure α)
    (next : α → Logged (Except Failure β)) :
    (onSuccess result next).value = result.bind fun value => (next value).value := by
  cases result <;> rfl

namespace EncodeOptions

theorem check_eq (options : EncodeOptions) :
    (if options.strict then requireStrict options.peerIds else .ok ()) =
      match options.offender? with
      | some text => .error ⟨text⟩
      | none => .ok () := by
  unfold offender?
  split
  · exact requireStrict_eq options.peerIds
  · rfl

/-- A run of the encoder checks its texts first, then writes the record and reads it
again. -/
theorem value_run (options : EncodeOptions) :
    options.run.value =
      match options.offender? with
      | some text => .error (.ofMalformed "encode failed" ⟨text⟩)
      | none =>
          match (Neighbors.encode options.peerIds options.maxNeighbors).value with
          | .error oversize => .error (.ofOversize "encode failed" oversize)
          | .ok record => .ok ⟨(Neighbors.decode record).value.getD [], record⟩ := by
  unfold run
  rw [options.check_eq]
  cases options.offender? with
  | some text => rfl
  | none =>
      dsimp only [onSuccess, Except.mapError]
      split <;> simp only [Logged.value_bind] <;>
        cases (Neighbors.encode options.peerIds options.maxNeighbors).value <;> rfl

theorem ends_run (options : EncodeOptions) : options.Ends options.run.value := by
  rw [value_run]
  cases checked : options.offender? with
  | some text => exact .refused checked
  | none =>
      have same : options.peerIds.eraseDups.take options.maxNeighbors.toNat = options.kept := rfl
      by_cases few : (options.kept.map PeerId.ofText).length ≤ 31
      · rw [Neighbors.value_encode_of_le same few]
        dsimp only
        rw [Neighbors.decode_entryOf, Option.getD_some]
        exact .written few checked
      · have many : 31 < options.kept.length := by simpa using few
        rw [Neighbors.value_encode_of_lt same many]
        exact .tooLarge checked many

end EncodeOptions

/-! ## Where payloads come from -/

theorem readPayloadText_eq_ok_iff_decode {text : String} {payload : Bytes} :
    readPayloadText text = .ok payload ↔ Hex.decode (payloadDigits text) = .ok payload := by
  rw [readPayloadText]
  cases Hex.decode (payloadDigits text) <;> simp [Except.mapError]

theorem readPayloadText_eq_error_iff {text : String} {failure : Failure} :
    readPayloadText text = .error failure ↔
      ∃ cause, Hex.decode (payloadDigits text) = .error cause ∧
        Failure.ofHexError "--hex is not valid hex" cause = failure := by
  rw [readPayloadText]
  cases Hex.decode (payloadDigits text) <;> simp [Except.mapError]

theorem exists_readPayloadText_iff {text : String} :
    (∃ payload, readPayloadText text = .ok payload) ↔ Hex.IsText (payloadDigits text) := by
  simp only [readPayloadText_eq_ok_iff_decode, Hex.exists_decode_iff]

theorem code_of_readPayloadText {text : String} {failure : Failure}
    (refused : readPayloadText text = .error failure) : failure.code = 60 := by
  rcases readPayloadText_eq_error_iff.mp refused with ⟨cause, -, rfl⟩
  rfl

namespace PayloadOptions

/-- How the loading of a payload can end.  A text wins over a file. -/
inductive Loads (host : Host) (source : PayloadOptions) : Except Failure Bytes → Prop where
  | text {text : String} {payload : Bytes} : source.hex = some text →
      Hex.IsText (payloadDigits text) → Loads host source (.ok payload)
  | notText {text : String} {failure : Failure} : source.hex = some text →
      ¬Hex.IsText (payloadDigits text) → failure.code = 60 → Loads host source (.error failure)
  | file {path : String} {payload : Bytes} : source.hex = none → source.file = some path →
      host.contents path = .ok payload → Loads host source (.ok payload)
  | unreadable {path : String} {fault : Fault} : source.hex = none → source.file = some path →
      host.contents path = .error fault →
      Loads host source (.error (.ofFault ("failed reading " ++ path) fault))
  | nothing : source.hex = none → source.file = none → Loads host source (.ok [])

theorem loads_load (host : Host) (source : PayloadOptions) :
    source.Loads host (source.load host) := by
  unfold load
  cases hex : source.hex with
  | some text =>
      dsimp only
      cases read : readPayloadText text with
      | ok payload => exact .text hex (exists_readPayloadText_iff.mp ⟨payload, read⟩)
      | error failure =>
          refine .notText hex ?_ (code_of_readPayloadText read)
          rw [← exists_readPayloadText_iff, read]
          simp
  | none =>
      cases file : source.file with
      | none => exact .nothing hex file
      | some path =>
          dsimp only
          cases stored : host.contents path with
          | ok payload => exact .file hex file stored
          | error fault => exact .unreadable hex file stored

end PayloadOptions

/-! ## Messages -/

theorem Oversize.extent_eq (oversize : Oversize) :
    oversize.extent =
      "(" ++ toString oversize.size ++ " bytes, max " ++ toString oversize.limit ++ ")" := rfl

namespace Failure

theorem message_ofOversize (context : String) (oversize : Oversize) :
    (ofOversize context oversize).message =
      context ++ ": " ++ ("neighbor list too large " ++ oversize.extent) := rfl

/-- The line of a list that is too long. -/
theorem line_ofOversize (size : Nat) :
    "error: " ++ (ofOversize "encode failed" ⟨size, 255⟩).message =
      "error: encode failed: neighbor list too large (" ++ toString size ++ " bytes, max 255)" := by
  have front : "error: " ++ ("encode failed" ++ ": " ++ ("neighbor list too large " ++ "(")) =
      "error: encode failed: neighbor list too large (" := by decide
  have back : " bytes, max " ++ (toString 255 ++ ")") = " bytes, max 255)" := by decide
  rw [message_ofOversize, Oversize.extent_eq, ← front, ← back]
  simp only [String.append_assoc]

/-- The line of a text that is not an identifier. -/
theorem line_ofMalformed (text : String) :
    "error: " ++ (ofMalformed "encode failed" ⟨text⟩).message =
      "error: encode failed: invalid peer id: " ++ Text.quoteText text := by
  have front : "error: " ++ ("encode failed" ++ ": " ++ "invalid peer id: ") =
      "error: encode failed: invalid peer id: " := by decide
  have message : (ofMalformed "encode failed" ⟨text⟩).message =
      "encode failed" ++ ": " ++ ("invalid peer id: " ++ Text.quoteText text) := rfl
  rw [message, ← front]
  simp only [String.append_assoc]

/-- The line of a file that cannot be read. -/
theorem line_ofFault (path : String) (fault : Fault) :
    "error: " ++ (ofFault ("failed reading " ++ path) fault).message =
      "error: failed reading " ++ path ++ ": " ++ fault.text := by
  have front : "error: " ++ "failed reading " = "error: failed reading " := by decide
  have message : (ofFault ("failed reading " ++ path) fault).message =
      "failed reading " ++ path ++ ": " ++ fault.text := rfl
  rw [message, ← front]
  simp only [String.append_assoc]

/-- The code of a fault tells a missing file and a file that may not be read from all
other faults. -/
theorem faultCode_cases (kind : FaultKind) :
    (kind = .notFound ∧ faultCode kind = 1) ∨ (kind = .permissionDenied ∧ faultCode kind = 50) ∨
      (kind ≠ .notFound ∧ kind ≠ .permissionDenied ∧ faultCode kind = 125) := by
  cases kind <;> decide

end Failure

/-! ## Outcomes -/

namespace Outcome

/-- A program has ended with a report. -/
structure Succeeds (outcome : Outcome) (output : Output) : Prop where
  exitCode : outcome.exitCode = 0
  output : outcome.output = output

/-- A program has ended with a failure: it has written nothing, and the failure is the
last thing on standard error. -/
structure Fails (outcome : Outcome) (failure : Failure) : Prop where
  exitCode : outcome.exitCode = failure.code
  output : outcome.output.toBytes = []
  lastLine : outcome.errorLines.getLast? = some ("error: " ++ failure.message)

variable {invocation : Invocation} {result : Logged (Except Failure Output)}

theorem succeeds_ofResult {output : Output} (reported : result.value = .ok output) :
    (ofResult invocation result).Succeeds output := by
  unfold ofResult
  rw [reported]
  exact ⟨rfl, rfl⟩

theorem fails_ofResult {failure : Failure} (failed : result.value = .error failure) :
    (ofResult invocation result).Fails failure := by
  unfold ofResult
  rw [failed]
  exact ⟨rfl, rfl, List.getLast?_concat⟩

end Outcome

section

variable (host : Host) (format : Format)

theorem value_run_encode (options : EncodeOptions) :
    ((Command.encode options).run host format).value =
      options.run.value.map (·.render format) := rfl

theorem value_run_decode (source : PayloadOptions) :
    ((Command.decode source).run host format).value =
      (source.load host).map fun payload => (decodeReport payload).value.render format := by
  rw [Command.run, value_onSuccess]
  cases source.load host <;> rfl

theorem value_run_inspect (source : PayloadOptions) :
    ((Command.inspect source).run host format).value =
      (source.load host).map fun payload => (inspectReport payload).value.render format := by
  rw [Command.run, value_onSuccess]
  cases source.load host <;> rfl

end

namespace EncodeOptions

/-- Strict identifiers are asked for, and one of all texts is not one. -/
def HasOffender (options : EncodeOptions) : Prop :=
  options.strict = true ∧ ∃ text ∈ options.peerIds, ¬PeerId.IsStrict text

/-- The number of identifiers that the record has to hold. -/
def count (options : EncodeOptions) : Nat :=
  min options.maxNeighbors.toNat options.peerIds.eraseDups.length

theorem length_kept (options : EncodeOptions) : options.kept.length = options.count :=
  List.length_take

theorem hasOffender_of_offender? {options : EncodeOptions} {text : String}
    (found : options.offender? = some text) :
    options.HasOffender ∧
      options.peerIds.find? (fun text => ¬PeerId.IsStrict text) = some text := by
  unfold offender? at found
  split at found
  · next strict =>
      have other := List.find?_some found
      exact ⟨⟨strict, text, List.mem_of_find?_eq_some found, by simpa using other⟩, found⟩
  · simp at found

theorem not_hasOffender_of_offender? {options : EncodeOptions}
    (none : options.offender? = none) : ¬options.HasOffender := by
  rintro ⟨strict, text, member, other⟩
  rw [offender?, if_pos strict, List.find?_eq_none] at none
  exact none text member (by simpa using other)

/-- What the outcome of the encoder says about its options. -/
structure Classifies (options : EncodeOptions) (outcome : Outcome) : Prop where
  argument : outcome.exitCode = 64 ↔ options.HasOffender
  argumentLine : options.HasOffender → ∃ text,
    options.peerIds.find? (fun text => ¬PeerId.IsStrict text) = some text ∧
    outcome.errorLines.getLast? =
      some ("error: encode failed: invalid peer id: " ++ Text.quoteText text)
  data : outcome.exitCode = 60 ↔ ¬options.HasOffender ∧ 32 ≤ options.count
  dataLine : ¬options.HasOffender → 32 ≤ options.count → outcome.errorLines.getLast? =
    some ("error: encode failed: neighbor list too large (" ++ toString (8 * options.count) ++
      " bytes, max 255)")
  success : outcome.exitCode = 0 ↔ ¬options.HasOffender ∧ options.count < 32

theorem classifies_ofResult {options : EncodeOptions} {render : EncodeReport → Output}
    {result : Logged (Except Failure Output)} (value : result.value = options.run.value.map render)
    (invocation : Invocation) : options.Classifies (.ofResult invocation result) := by
  have ends := options.ends_run
  generalize options.run.value = ending at value ends
  cases ends with
  | @refused text found =>
      have fails : (Outcome.ofResult invocation result).Fails _ := Outcome.fails_ofResult value
      rcases hasOffender_of_offender? found with ⟨offends, first⟩
      have code : (Outcome.ofResult invocation result).exitCode = 64 := fails.exitCode
      constructor
      · simp [code, offends]
      · intro _
        exact ⟨text, first, by rw [fails.lastLine, Failure.line_ofMalformed]⟩
      · simp [code, offends]
      · exact fun clean => absurd offends clean
      · simp [code, offends]
  | tooLarge clean many =>
      have fails : (Outcome.ofResult invocation result).Fails _ := Outcome.fails_ofResult value
      have code : (Outcome.ofResult invocation result).exitCode = 60 := fails.exitCode
      have noOffender := not_hasOffender_of_offender? clean
      rw [length_kept] at many fails
      have large : ¬options.count < 32 := by omega
      constructor
      · simp [code, noOffender]
      · exact fun offends => absurd offends noOffender
      · simp [code, noOffender]
        omega
      · intro _ _
        rw [fails.lastLine, Failure.line_ofOversize]
      · simp [code, noOffender, large]
  | written few clean =>
      have succeeds : (Outcome.ofResult invocation result).Succeeds _ :=
        Outcome.succeeds_ofResult value
      have noOffender := not_hasOffender_of_offender? clean
      rw [List.length_map, length_kept] at few
      have small : ¬32 ≤ options.count := by omega
      constructor
      · simp [succeeds.exitCode, noOffender]
      · exact fun offends => absurd offends noOffender
      · simp [succeeds.exitCode, small]
      · exact fun _ many => absurd many small
      · simp [succeeds.exitCode, noOffender, Nat.lt_of_not_le small]

end EncodeOptions

namespace PayloadOptions

/-- A file is to be read, and reading it ends with a fault. -/
def FailsWith (source : PayloadOptions) (host : Host) (path : String) (fault : Fault) : Prop :=
  source.hex = none ∧ source.file = some path ∧ host.contents path = .error fault

/-- What the outcome of a command that reads a payload says about where the payload
comes from. -/
structure Classifies (source : PayloadOptions) (host : Host) (outcome : Outcome) : Prop where
  data : outcome.exitCode = 60 ↔
    ∃ text, source.hex = some text ∧ ¬Hex.IsText (payloadDigits text)
  missing : outcome.exitCode = 1 ↔
    ∃ path fault, source.FailsWith host path fault ∧ fault.kind = .notFound
  denied : outcome.exitCode = 50 ↔
    ∃ path fault, source.FailsWith host path fault ∧ fault.kind = .permissionDenied
  internal : outcome.exitCode = 125 ↔
    ∃ path fault, source.FailsWith host path fault ∧ fault.kind ≠ .notFound ∧
      fault.kind ≠ .permissionDenied
  faultLine : ∀ path fault, source.FailsWith host path fault →
    outcome.errorLines.getLast? = some ("error: failed reading " ++ path ++ ": " ++ fault.text)
  success : outcome.exitCode = 0 ↔
    (∀ text, source.hex = some text → Hex.IsText (payloadDigits text)) ∧
      ∀ path fault, ¬source.FailsWith host path fault

theorem classifies_ofResult {source : PayloadOptions} {host : Host} {render : Bytes → Output}
    {result : Logged (Except Failure Output)}
    (value : result.value = (source.load host).map render) (invocation : Invocation) :
    source.Classifies host (.ofResult invocation result) := by
  have loads := source.loads_load host
  generalize source.load host = loaded at value loads
  cases loads with
  | text hex isText =>
      have succeeds : (Outcome.ofResult invocation result).Succeeds _ :=
        Outcome.succeeds_ofResult value
      constructor <;> simp [succeeds.exitCode, FailsWith, hex, isText]
  | notText hex notText code =>
      have fails : (Outcome.ofResult invocation result).Fails _ := Outcome.fails_ofResult value
      constructor <;> simp [fails.exitCode, code, FailsWith, hex, notText]
  | file hex file stored =>
      have succeeds : (Outcome.ofResult invocation result).Succeeds _ :=
        Outcome.succeeds_ofResult value
      have never : ∀ path fault, ¬source.FailsWith host path fault := by
        rintro path fault ⟨-, same, failed⟩
        rw [file, Option.some.injEq] at same
        simp [← same, stored] at failed
      constructor <;> simp [succeeds.exitCode, hex, never]
  | @unreadable path fault hex file stored =>
      have fails : (Outcome.ofResult invocation result).Fails _ := Outcome.fails_ofResult value
      have code : (Outcome.ofResult invocation result).exitCode = Failure.faultCode fault.kind :=
        fails.exitCode
      have only : ∀ path' fault', source.FailsWith host path' fault' ↔
          path' = path ∧ fault' = fault := by
        intro path' fault'
        constructor
        · rintro ⟨-, same, failed⟩
          rw [file, Option.some.injEq] at same
          rw [← same, stored] at failed
          exact ⟨same.symm, (Except.error.inj failed).symm⟩
        · rintro ⟨rfl, rfl⟩
          exact ⟨hex, file, stored⟩
      have line : (Outcome.ofResult invocation result).errorLines.getLast? =
          some ("error: failed reading " ++ path ++ ": " ++ fault.text) := by
        rw [fails.lastLine, Failure.line_ofFault]
      rcases Failure.faultCode_cases fault.kind with
        ⟨kind, known⟩ | ⟨kind, known⟩ | ⟨notMissing, notDenied, known⟩
      · rw [known] at code
        constructor <;> simp [code, line, only, hex, kind]
      · rw [known] at code
        constructor <;> simp [code, line, only, hex, kind]
      · rw [known] at code
        constructor <;> simp [code, line, only, hex, notMissing, notDenied]
  | nothing hex file =>
      have succeeds : (Outcome.ofResult invocation result).Succeeds _ :=
        Outcome.succeeds_ofResult value
      constructor <;> simp [succeeds.exitCode, FailsWith, hex, file]

end PayloadOptions

/-! ## Accepted command lines -/

/-- How a program ends, given a command line that is accepted.  The encoder refuses a
malformed text, of all that are given, before it looks at the length of the list; a
command that reads a payload fails only on the way to it.  A failure leaves nothing on
standard output, and its message comes last on standard error. -/
theorem exit_of_accepted (host : Host) {arguments : List String} {invocation : Invocation}
    (accepted : Invocation.parse arguments = .ok invocation) :
    let outcome := runProgram host arguments
    (∀ options, invocation.command = .encode options → options.Classifies outcome) ∧
    (∀ source, invocation.command = .decode source ∨ invocation.command = .inspect source →
      source.Classifies host outcome) ∧
    (∀ extended, invocation.command = .version extended → outcome.exitCode = 0) ∧
    (outcome.exitCode ≠ 0 → outcome.output.toBytes = [] ∧
      ∃ message, outcome.errorLines.getLast? = some ("error: " ++ message)) := by
  have ran : runProgram host arguments = .ofResult invocation
      (invocation.command.run host (invocation.format.getD .default)) := by
    rw [runProgram, accepted]
    rfl
  simp only [ran]
  refine ⟨?_, ?_, ?_, ?_⟩
  · intro options encodes
    rw [encodes]
    exact EncodeOptions.classifies_ofResult (value_run_encode _ _ _) invocation
  · rintro source (decodes | inspects)
    · rw [decodes]
      exact PayloadOptions.classifies_ofResult (value_run_decode _ _ _) invocation
    · rw [inspects]
      exact PayloadOptions.classifies_ofResult (value_run_inspect _ _ _) invocation
  · intro extended shows
    rw [shows]
    exact (Outcome.succeeds_ofResult rfl).exitCode
  · intro failed
    cases value : (invocation.command.run host (invocation.format.getD .default)).value with
    | ok output => exact absurd (Outcome.succeeds_ofResult value).exitCode failed
    | error failure =>
        have fails : (Outcome.ofResult invocation _).Fails failure := Outcome.fails_ofResult value
        exact ⟨fails.output, failure.message, fails.lastLine⟩

/-- Of two malformed texts behind a strict one the first is named, although the list
would be cut in front of both. -/
theorem exit_of_accepted_two_malformed :
    let arguments := ["encode", "--strict", "--max-neighbors=1", "0123456789ABCDEF", "ab", "cd"]
    let options : EncodeOptions := ⟨["0123456789ABCDEF", "ab", "cd"], 1, true⟩
    let outcome := runProgram ⟨"x86_64-linux", fun _ => .error .notFound⟩ arguments
    Invocation.parse arguments = .ok ⟨.encode options, none, .text, .warn⟩ ∧
    outcome.exitCode = 64 ∧ outcome.output.toBytes = [] ∧
    outcome.errorLines.getLast? = some "error: encode failed: invalid peer id: \"ab\"" := by
  intro arguments options outcome
  have accepted : Invocation.parse arguments = .ok ⟨.encode options, none, .text, .warn⟩ := by
    decide +kernel
  have offends : options.HasOffender := ⟨rfl, "ab", by decide, by decide⟩
  have first : options.peerIds.find? (fun text => ¬PeerId.IsStrict text) = some "ab" := by
    decide
  rcases exit_of_accepted ⟨"x86_64-linux", fun _ => .error .notFound⟩ accepted with
    ⟨encodes, -, -, failing⟩
  have classifies := encodes options rfl
  have code := classifies.argument.mpr offends
  rcases classifies.argumentLine offends with ⟨text, named, line⟩
  rw [first, Option.some.injEq] at named
  have quoted : "error: encode failed: invalid peer id: " ++ Text.quoteText "ab" =
      "error: encode failed: invalid peer id: \"ab\"" := by decide +kernel
  rw [← named, quoted] at line
  exact ⟨accepted, code, (failing (by rw [code]; decide)).1, line⟩

end Announce
