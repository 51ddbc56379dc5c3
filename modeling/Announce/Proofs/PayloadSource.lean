import Announce.Proofs.Ending
import Announce.Proofs.Items

/-!
# Where an accepted command line has its payload from

A payload comes from a text on the command line or from a file.  Reading a command line
loses no option that names one of these and takes none twice, so a command line that is
accepted has exactly one of them, behind the name of its command, and this is what its
payload is read from.
-/

namespace Announce

namespace Arguments

/-! ## Sources among the items -/

/-- Whether an option says where a payload comes from. -/
def Setting.isSource : Setting → Bool
  | .hex | .file => true
  | .format | .logFormat | .logLevel | .maxNeighbors => false

/-- Whether an item says where a payload comes from. -/
def Item.isSource : Item → Bool
  | .setting option _ => option.isSource
  | .flag _ | .plain _ => false

/-- The items that say where a payload comes from. -/
def sourcesAmong (items : List Item) : List Item :=
  items.filter Item.isSource

theorem sourcesAmong_cons (item : Item) (items : List Item) :
    sourcesAmong (item :: items) = sourcesAmong [item] ++ sourcesAmong items :=
  List.filter_append [item] items

/-- No general option says where a payload comes from. -/
theorem IsOption.not_isSource {words : List String} {item : Item}
    (option : IsOption .general words item) : item.isSource = false := by
  have general {name : String} {setting : Setting}
      (known : Scope.general.setting? name = some setting) : setting.isSource = false := by
    have member : setting ∈ [Setting.format, .logFormat, .logLevel] :=
      List.mem_of_find?_eq_some known
    revert member
    cases setting <;> decide
  cases option with
  | joined long known => exact general known
  | parted long known plain => exact general known
  | flag long unset known => rfl
  | letter letters known => rfl

theorem Asks.sourcesAmong_eq_nil {texts behind : List String} {items : List Item}
    {name : CommandName} (asks : Asks texts items name behind) : sourcesAmong items = [] := by
  induction asks with
  | named name behind => rfl
  | option option _ ih =>
      rw [sourcesAmong_cons, ih, List.append_nil]
      exact List.filter_cons_of_neg (by rw [option.not_isSource]; exact Bool.false_ne_true)

/-! ## Sources that are collected -/

namespace Collected

variable {told next : Collected} {item : Item} {items : List Item}

/-- The items that the collected sources come from. -/
def sources (collected : Collected) : List Item :=
  collected.hex.toList.map (.setting .hex) ++ collected.file.toList.map (.setting .file)

theorem eq_none_of_onlyOnce {α : Type} {given : Option α} {done : Unit}
    (once : onlyOnce given = .ok done) : given = none := by
  cases given with
  | none => rfl
  | some value => cases once

/-- An item adds itself to the sources if it is one, and leaves them as they are if not. -/
theorem sources_take (taken : told.take item = .ok next) :
    next.sources.Perm (told.sources ++ sourcesAmong [item]) := by
  rcases item with ⟨setting, text⟩ | flag | text
  · cases setting with
    | format | logFormat | logLevel | maxNeighbors =>
        rcases bind_eq_ok_iff.mp taken with ⟨_, -, rest⟩
        rcases bind_eq_ok_iff.mp rest with ⟨value, -, same⟩
        cases same
        exact .of_eq (List.append_nil _).symm
    | hex =>
        rcases bind_eq_ok_iff.mp taken with ⟨_, once, same⟩
        cases same
        -- The text stands in front of the file, whichever of them was given first.
        rw [sources, sources, eq_none_of_onlyOnce once]
        exact List.perm_append_comm
    | file =>
        rcases bind_eq_ok_iff.mp taken with ⟨_, once, rest⟩
        rw [sources, sources, eq_none_of_onlyOnce once]
        split at rest
        · cases rest
        · cases rest
          rw [Option.toList_none, List.map_nil, List.append_nil]
          rfl
  · have same : next.sources = told.sources := by
      cases flag with
      | help | version => cases taken
      | strict | extended =>
          change (if _ then _ else _) = _ at taken
          split at taken
          · cases taken
          · cases taken
            rfl
    rw [same]
    exact .of_eq (List.append_nil _).symm
  · cases taken
    exact .of_eq (List.append_nil _).symm

/-- Of the sources among the items none is lost and none is taken twice. -/
theorem sources_foldlM_take (taken : items.foldlM take told = .ok next) :
    next.sources.Perm (told.sources ++ sourcesAmong items) := by
  induction items generalizing told with
  | nil =>
      cases taken
      exact .of_eq (List.append_nil _).symm
  | cons item items ih =>
      rcases foldlM_take_cons_iff.mp taken with ⟨between, first, later⟩
      rw [sourcesAmong_cons, ← List.append_assoc]
      exact (ih later).trans ((sources_take first).append_right _)

end Collected

/-- Exactly one source makes the options of a payload. -/
theorem payloadOptions_eq_ok_iff {collected : Collected} {source : PayloadOptions} :
    payloadOptions collected = .ok source ↔
      (∃ text, collected.sources = [.setting .hex text] ∧ source = ⟨some text, none⟩) ∨
        ∃ path, collected.sources = [.setting .file path] ∧ source = ⟨none, some path⟩ := by
  rcases collected with ⟨format, style, level, limit, hex, file, strict, extended, texts⟩
  cases hex <;> cases file <;>
    simp [payloadOptions, Collected.sources, pure, Except.pure, eq_comm]

theorem payloadOptions_of_command {name : CommandName} {collected : Collected}
    {described : Command} {source : PayloadOptions}
    (isDescribed : command name collected = .ok described)
    (reads : described = .decode source ∨ described = .inspect source) :
    payloadOptions collected = .ok source := by
  cases name with
  | encode | version => cases isDescribed; rcases reads with same | same <;> cases same
  | decode | inspect =>
      rcases bind_eq_ok_iff.mp isDescribed with ⟨options, whole, same⟩
      cases same
      rcases reads with same | same <;> cases same
      exact whole

end Arguments

open Arguments (Asks Spells sourcesAmong)

/-- A command line that is accepted and that asks for a payload to be read says exactly
once where the payload comes from, behind the name of the command, wherever other options
stand and however its words are read.  The payload is read from there, so it is never an
empty one from nowhere. -/
theorem payload_from_one_source {arguments : List String} {invocation : Invocation}
    {source : PayloadOptions} (accepted : Invocation.parse arguments = .ok invocation)
    (reads : invocation.command = .decode source ∨ invocation.command = .inspect source) :
    (∃ general name behind items,
      Asks arguments general name behind ∧ Spells (.command name) false behind items) ∧
    ∀ general name behind items,
      Asks arguments general name behind → Spells (.command name) false behind items →
      sourcesAmong general = [] ∧
      ((∃ text, sourcesAmong items = [.setting .hex text] ∧ source = ⟨some text, none⟩ ∧
          ∀ host, source.load host = readPayloadText text) ∨
        ∃ path, sourcesAmong items = [.setting .file path] ∧ source = ⟨none, some path⟩ ∧
          ∀ host, source.load host =
            (host.contents path).mapError (Failure.ofFault ("failed reading " ++ path))) := by
  rcases Arguments.parse_eq_ok_iff.mp accepted with ⟨asks, general, spells, special, described⟩
  refine ⟨⟨_, _, _, _, asks, spells⟩, ?_⟩
  intro items name behind items' asks' spells'
  refine ⟨asks'.sourcesAmong_eq_nil, ?_⟩
  rcases asks.unique asks' with ⟨-, rfl, rfl⟩
  rw [← spells.unique spells']
  have collected := Arguments.Collected.sources_foldlM_take special
  rcases Arguments.payloadOptions_eq_ok_iff.mp
      (Arguments.payloadOptions_of_command described reads) with
    ⟨text, only, rfl⟩ | ⟨path, only, rfl⟩
  · rw [only] at collected
    exact .inl ⟨text, collected.singleton_eq.symm, rfl, fun _ => rfl⟩
  · rw [only] at collected
    exact .inr ⟨path, collected.singleton_eq.symm, rfl, fun _ => rfl⟩

/-- An empty text is a source like any other, between general options that stand on both
sides of the name. -/
theorem payload_from_one_source_empty_text :
    let arguments := ["--format=raw", "decode", "--format", "json", "--hex="]
    Invocation.parse arguments = .ok ⟨.decode ⟨some "", none⟩, some .json, .text, .warn⟩ ∧
    ∀ host, PayloadOptions.load host ⟨some "", none⟩ = readPayloadText "" := by
  intro arguments
  have accepted : Invocation.parse arguments =
      .ok ⟨.decode ⟨some "", none⟩, some .json, .text, .warn⟩ := by decide +kernel
  refine ⟨accepted, ?_⟩
  rcases payload_from_one_source accepted (.inl rfl) with ⟨⟨_, _, _, _, asks, spells⟩, sources⟩
  rcases (sources _ _ _ _ asks spells).2 with ⟨text, -, same, loads⟩ | ⟨path, -, same, -⟩
  · cases same
    exact loads
  · cases same

end Announce
