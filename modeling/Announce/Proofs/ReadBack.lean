import Announce.Proofs.CommandLine
import Announce.Proofs.Listing
import Announce.Proofs.Spelling

/-!
# Records read back by other commands

What the encoder writes is given to the other commands, as the digits that it shows or
in a file, and they see the one record that the encoder has reported.
-/

namespace Announce

open Arguments

/-! ## Command lines with a payload -/

/-- The command lines that give a payload to the command with a name: in digits, or in
a file that holds it. -/
inductive Gives (host : Host) (name : String) (payload : Bytes) : List String → Prop where
  | digits : Gives host name payload [name, "--hex", Hex.encode payload]
  | file {path : String} : path ≠ "" → path.toList.head? ≠ some '-' →
      host.contents path = .ok payload → Gives host name payload [name, "--file", path]

theorem head?_encode (octets : Bytes) : (Hex.encode octets).toList.head? ≠ some '-' := by
  intro dashed
  exact absurd (Hex.isDigit_of_mem_encode (List.mem_of_head? dashed)) (by decide)

namespace Gives

variable {host : Host} {name : CommandName} {payload : Bytes} {texts : List String}
  {command : PayloadOptions → Command}

/-- Nothing but the payload is left to the command. -/
theorem exists_parse (gives : Gives host name.word payload texts)
    (hexKnown : (Scope.command name).setting? "hex" = some .hex)
    (fileKnown : (Scope.command name).setting? "file" = some .file)
    (described : ∀ collected, Arguments.command name collected =
      (payloadOptions collected).map command) :
    ∃ source : PayloadOptions, source.load host = .ok payload ∧
      Invocation.parse texts = .ok ⟨command source, none, .text, .warn⟩ := by
  cases gives with
  | digits =>
      have dashed : Word.of "--hex" = .long Setting.hex.word none := by decide
      have read : Reader.readAll (.command name) {} ["--hex", Hex.encode payload] =
          .ok { hex := some (Hex.encode payload) } :=
        Reader.readAll_setting dashed hexKnown (Word.of_eq_plain (head?_encode payload)) rfl
      refine ⟨⟨some (Hex.encode payload), none⟩, ?_, Invocation.parse_word read (described _)⟩
      exact readPayloadText_eq_ok_iff.mpr (spells_encode payload)
  | @file path nonempty undashed stored =>
      have dashed : Word.of "--file" = .long Setting.file.word none := by decide
      have assigned : ({} : Collected).assign path .file = .ok { file := some path } := by
        change (if path.isEmpty then _ else _) = _
        rw [if_neg (by simpa using nonempty)]
        rfl
      have read : Reader.readAll (.command name) {} ["--file", path] =
          .ok { file := some path } :=
        Reader.readAll_setting dashed fileKnown (Word.of_eq_plain undashed) assigned
      exact ⟨⟨none, some path⟩, PayloadOptions.load_of_contents stored,
        Invocation.parse_word read (described _)⟩

theorem succeeds (gives : Gives host name.word payload texts)
    (hexKnown : (Scope.command name).setting? "hex" = some .hex)
    (fileKnown : (Scope.command name).setting? "file" = some .file)
    (described : ∀ collected, Arguments.command name collected =
      (payloadOptions collected).map command)
    {render : Bytes → Output} (value : ∀ source,
      ((command source).run host .json).value = (source.load host).map render) :
    (runProgram host texts).Succeeds (render payload) := by
  rcases gives.exists_parse hexKnown fileKnown described with ⟨source, loaded, parsed⟩
  have reported := value source
  rw [loaded] at reported
  rw [runProgram, parsed]
  exact Outcome.succeeds_ofResult reported

end Gives

/-! ## The record of the encoder -/

namespace Neighbors

variable (ids : List PeerId) (few : ids.length ≤ 31)

end Neighbors

namespace EncodeOptions

variable {host : Host} {invocation : Invocation} {options : EncodeOptions}
  (encodes : invocation.command = .encode options)
include encodes

end EncodeOptions

end Announce
