import Announce.Proofs.Ending

/-!
# Spellings of a payload

A payload given as text may have its digits in either case, a marker in front of them
and blanks anywhere.  A command cannot tell these spellings apart, nor any of them from
a file with the same bytes.
-/

namespace Announce

/-! ## Spellings -/

/-- The spellings of a payload: apart from blanks there is a marker or none, and behind
it stand the digits of the payload, each of them in either case. -/
def Spells (text : String) (payload : Bytes) : Prop :=
  ∃ marker digits : List Char,
    (marker = [] ∨ marker = ['0', 'x'] ∨ marker = ['0', 'X']) ∧
    text.toList.filter (fun character => !Text.isBlank character) = marker ++ digits ∧
    digits.map Char.toLower = (Hex.encode payload).toList

namespace Hex

theorem not_isBlank_of_isDigit {character : Char} (isDigit : IsDigit character) :
    Text.isBlank character = false :=
  forall_isDigit (by decide +kernel) character isDigit

end Hex

theorem exists_marker (characters : List Char) :
    ∃ marker, (marker = [] ∨ marker = ['0', 'x'] ∨ marker = ['0', 'X']) ∧
      characters = marker ++ withoutMarker characters := by
  unfold withoutMarker
  split
  · exact ⟨['0', 'x'], by simp, rfl⟩
  · exact ⟨['0', 'X'], by simp, rfl⟩
  · exact ⟨[], by simp, rfl⟩

/-- Digits are not taken for a marker. -/
theorem withoutMarker_of_isDigit {digits : List Char}
    (all : ∀ character ∈ digits, Hex.IsDigit character) : withoutMarker digits = digits := by
  unfold withoutMarker
  split
  · exact absurd (all 'x' (by simp)) (by decide)
  · exact absurd (all 'X' (by simp)) (by decide)
  · rfl

/-- A text is read as a payload exactly if it is one of its spellings. -/
theorem readPayloadText_eq_ok_iff {text : String} {payload : Bytes} :
    readPayloadText text = .ok payload ↔ Spells text payload := by
  have digits : readPayloadText text = .ok payload ↔
      (withoutMarker (text.toList.filter fun character => !Text.isBlank character)).map
        Char.toLower = payload.flatMap Hex.ofByte := by
    rw [← String.toList_ofList
        (l := withoutMarker (text.toList.filter fun character => !Text.isBlank character)),
      ← payloadDigits, ← Hex.decode_eq_ok_iff, readPayloadText_eq_ok_iff_decode]
  rw [digits]
  constructor
  · intro same
    rcases exists_marker (text.toList.filter fun character => !Text.isBlank character) with
      ⟨marker, known, split⟩
    refine ⟨marker, _, known, split, ?_⟩
    rw [same, Hex.encode, String.toList_ofList]
  · rintro ⟨marker, digits, known, split, same⟩
    rw [Hex.encode, String.toList_ofList] at same
    have unmarked : withoutMarker (marker ++ digits) = digits := by
      rcases known with rfl | rfl | rfl
      · exact withoutMarker_of_isDigit (Hex.isDigit_of_map_toLower same)
      · rfl
      · rfl
    rw [split, unmarked, same]

/-- The digits of a payload are one of its spellings, so every payload has some. -/
theorem spells_encode (payload : Bytes) : Spells (Hex.encode payload) payload := by
  refine ⟨[], payload.flatMap Hex.ofByte, .inl rfl, ?_, ?_⟩
  · rw [Hex.encode, String.toList_ofList, List.nil_append, List.filter_eq_self]
    intro character member
    have isDigit := Hex.isDigit_of_map_toLower (Hex.map_toLower_digits payload) character member
    rw [Hex.not_isBlank_of_isDigit isDigit, Bool.not_false]
  · rw [Hex.map_toLower_digits, Hex.encode, String.toList_ofList]

/-! ## Commands that read a payload -/

theorem PayloadOptions.load_of_readPayloadText {host : Host} {text : String} {payload : Bytes}
    (read : readPayloadText text = .ok payload) : load host ⟨some text, none⟩ = .ok payload :=
  read

theorem PayloadOptions.load_of_contents {host : Host} {path : String} {payload : Bytes}
    (stored : host.contents path = .ok payload) : load host ⟨none, some path⟩ = .ok payload := by
  change (host.contents path).mapError _ = _
  rw [stored]
  rfl

/-- The commands that read a payload. -/
inductive ReadsPayload : (PayloadOptions → Command) → Prop where
  | decode : ReadsPayload .decode
  | inspect : ReadsPayload .inspect

namespace ReadsPayload

variable {command : PayloadOptions → Command} (reads : ReadsPayload command)
include reads

/-- Of the place that a payload comes from nothing is left but the payload. -/
theorem run_congr {host host' : Host} {source source' : PayloadOptions}
    (same : source.load host = source'.load host') (settings : Invocation) :
    Invocation.run host { settings with command := command source } =
      Invocation.run host' { settings with command := command source' } := by
  cases reads <;> simp only [Invocation.run, Command.run, same] <;> rfl

theorem exists_render (host : Host) (format : Format) :
    ∃ render : Bytes → Output, ∀ source,
      ((command source).run host format).value = (source.load host).map render := by
  cases reads with
  | decode => exact ⟨_, value_run_decode host format⟩
  | inspect => exact ⟨_, value_run_inspect host format⟩

theorem exitCode_run {host : Host} {source : PayloadOptions} {payload : Bytes}
    (loaded : source.load host = .ok payload) (settings : Invocation) :
    (Invocation.run host { settings with command := command source }).exitCode = 0 := by
  rcases reads.exists_render host (settings.format.getD .default) with ⟨render, value⟩
  have reported := value source
  rw [loaded] at reported
  exact (Outcome.succeeds_ofResult reported).exitCode

end ReadsPayload

/-- Every payload has spellings, and these are the texts that are read as it.  Whatever
the format and the choice of log lines, a run on one of them succeeds, and it is the
run on a file with the payload and the run on any other spelling. -/
theorem run_of_spelling (payload : Bytes) :
    (∃ text, readPayloadText text = .ok payload) ∧
    (∀ text, readPayloadText text = .ok payload ↔ Spells text payload) ∧
    ∀ {command : PayloadOptions → Command}, ReadsPayload command →
      ∀ (settings : Invocation) (host : Host) {text : String},
        readPayloadText text = .ok payload →
        let outcome := Invocation.run host { settings with command := command ⟨some text, none⟩ }
        outcome.exitCode = 0 ∧
        (∀ (other : Host) {path : String}, other.contents path = .ok payload →
          Invocation.run other { settings with command := command ⟨none, some path⟩ } = outcome) ∧
        (∀ (other : Host) {text' : String}, readPayloadText text' = .ok payload →
          Invocation.run other { settings with command := command ⟨some text', none⟩ } =
            outcome) := by
  refine ⟨⟨_, readPayloadText_eq_ok_iff.mpr (spells_encode payload)⟩,
    fun text => readPayloadText_eq_ok_iff, ?_⟩
  intro command reads settings host text read outcome
  have spelled : PayloadOptions.load host ⟨some text, none⟩ = .ok payload :=
    PayloadOptions.load_of_readPayloadText read
  refine ⟨reads.exitCode_run spelled settings, ?_, ?_⟩
  · intro other path stored
    have filed := PayloadOptions.load_of_contents stored
    exact reads.run_congr (filed.trans spelled.symm) settings
  · intro other text' read'
    have respelled : PayloadOptions.load other ⟨some text', none⟩ = .ok payload :=
      PayloadOptions.load_of_readPayloadText read'
    exact reads.run_congr (respelled.trans spelled.symm) settings

/-- A marker and blanks, one of them outside ASCII, in front of a fragment that is
reported: the file and the other spelling are reported with the same line. -/
theorem run_of_spelling_fragment :
    let settings : Invocation := ⟨.version false, some .pretty, .json, .trace⟩
    let host : Host := ⟨"x86_64-linux", fun _ => .ok [0x04, 0x01, 0xAB]⟩
    let outcome := Invocation.run host
      { settings with command := .decode ⟨some " 0X0\u00a04\t01 aB\n", none⟩ }
    outcome.exitCode = 0 ∧
    Invocation.run host { settings with command := .decode ⟨none, some "payload.bin"⟩ } =
      outcome ∧
    Invocation.run host { settings with command := .decode ⟨some "0401ab", none⟩ } = outcome := by
  intro settings host outcome
  have read : readPayloadText " 0X0\u00a04\t01 aB\n" = .ok [0x04, 0x01, 0xAB] := by
    decide +kernel
  have read' : readPayloadText "0401ab" = .ok [0x04, 0x01, 0xAB] := by decide +kernel
  rcases run_of_spelling [0x04, 0x01, 0xAB] with ⟨-, -, runs⟩
  rcases runs .decode settings host read with ⟨success, file, spelling⟩
  exact ⟨success, file host rfl, spelling host read'⟩

end Announce
