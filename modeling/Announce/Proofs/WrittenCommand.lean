import Announce.Proofs.JsonText
import Announce.Proofs.PayloadSource

/-!
# Commands written as command lines

A command is written as its name and its options behind it, each option in one word with
its value behind an equals sign.  Such a word says one option whatever the value is, also
if the value looks like an option itself, and texts behind the separator say nothing but
themselves.  So every command that a command line can ask for is read back from the line
that it is written as, with general options on either side of its name.
-/

namespace Announce

namespace Arguments

/-! ## Numbers -/

theorem foldl_digits_toString (number : Nat) :
    (toString number).toList.foldl (fun value digit => value * 10 + (digit.toNat - 48)) 0 =
      number := by
  have horner : (fun (value : Nat) (digit : Char) => value * 10 + (digit.toNat - 48)) =
      fun value digit => 10 * value + (digit.toNat - '0'.toNat) := by
    funext value digit
    rw [Nat.mul_comm]
    rfl
  rw [horner, Nat.toString_eq_ofList_toDigits, String.toList_ofList]
  exact Nat.ofDigitChars_ten_toDigits

/-- Every number of 64 bits is read back from its decimal digits. -/
theorem readNumber?_toString (number : UInt64) :
    readNumber? (toString number.toNat) = some number := by
  obtain ⟨digit, digits, split, isDigit⟩ := exists_toString_eq_cons number.toNat
  have value := foldl_digits_toString number.toNat
  have all : (toString number.toNat).toList.all Char.isDigit = true := by
    rw [List.all_eq_true]
    exact fun _ => isDigit_of_mem_toString
  rw [split] at value all
  have unsigned : digit ≠ '+' := by
    intro plus
    rw [plus] at isDigit
    exact absurd isDigit (by decide)
  unfold readNumber?
  rw [split]
  extract_lets taken parsed
  have whole : taken = digit :: digits := by
    unfold taken
    split
    · next same => exact absurd (List.cons.inj same).1 unsigned
    · rfl
  have known : parsed = number.toNat := by
    unfold parsed
    rw [whole, value]
  rw [known, whole, if_neg (by simp [all]), if_pos number.toNat_lt_size, UInt64.ofNat_toNat]

/-! ## Words -/

/-- The word that an item is written as. -/
def Item.word : Item → String
  | .setting option text => "--" ++ option.word ++ "=" ++ text
  | .flag raised => "--" ++ raised.word
  | .plain text => text

theorem Word.of_dashes {text : String} {option : List Char}
    (dashed : text.toList = '-' :: '-' :: option) (named : option ≠ []) :
    Word.of text = Word.ofOption option := by
  rw [Word.of, dashed]
  cases option with
  | nil => exact absurd rfl named
  | cons first rest => rfl

/-- A name ends at the first equals sign, and everything behind it is the value. -/
theorem Word.ofOption_append {name : List Char} (clean : '=' ∉ name) (value : List Char) :
    Word.ofOption (name ++ '=' :: value) =
      .long (String.ofList name) (some (String.ofList value)) := by
  have other : ∀ character ∈ name, (character != '=') = true := by
    intro character member
    rw [bne_iff_ne]
    intro same
    exact clean (same ▸ member)
  rw [Word.ofOption, List.takeWhile_append_of_pos other, List.dropWhile_append_of_pos other]
  simp

theorem Word.of_setting (option : Setting) (text : String) :
    Word.of (Item.setting option text).word = .long option.word (some text) := by
  have dashed : (Item.setting option text).word.toList =
      '-' :: '-' :: (option.word.toList ++ '=' :: text.toList) := by
    simp [Item.word]
  have clean : '=' ∉ option.word.toList := by
    cases option <;> decide
  rw [Word.of_dashes dashed (by simp), Word.ofOption_append clean, String.ofList_toList,
    String.ofList_toList]

theorem Word.of_flag (flag : Flag) : Word.of (Item.flag flag).word = .long flag.word none := by
  cases flag <;> decide

/-- What a scope knows by name. -/
def Scope.Knows (scope : Scope) : Item → Prop
  | .setting option _ => option ∈ scope.settings
  | .flag flag => flag ∈ scope.flags
  | .plain _ => False

variable {scope : Scope} {item : Item} {items : List Item}

/-- In a list of things with different names a thing is found by its name. -/
theorem find?_name {α : Type} {name : α → String} (different : Function.Injective name)
    {thing : α} {things : List α} (member : thing ∈ things) :
    things.find? (fun other => name other == name thing) = some thing := by
  induction things with
  | nil => cases member
  | cons first things ih =>
      by_cases same : first = thing
      · rw [same]
        exact List.find?_cons_of_pos (beq_self_eq_true _)
      · have later : thing ∈ things := (List.mem_cons.mp member).resolve_left (Ne.symm same)
        rw [List.find?_cons_of_neg, ih later]
        rw [beq_iff_eq]
        exact fun named => same (different named)

theorem Setting.word_injective : Function.Injective Setting.word := by
  intro left right same
  cases left <;> cases right <;> first | rfl | exact absurd same (by decide)

theorem Flag.word_injective : Function.Injective Flag.word := by
  intro left right same
  cases left <;> cases right <;> first | rfl | exact absurd same (by decide)

theorem Setting.word_ne_word (option : Setting) (flag : Flag) : option.word ≠ flag.word := by
  cases option <;> cases flag <;> decide

/-- An option that a scope knows is read from its word. -/
theorem isOption_word (known : scope.Knows item) : IsOption scope [item.word] item := by
  cases item with
  | setting option text =>
      exact .joined (Word.of_setting option text) (find?_name Setting.word_injective known)
  | flag flag =>
      apply IsOption.flag (Word.of_flag flag)
      · rw [Scope.setting?, List.find?_eq_none]
        intro option _
        rw [beq_iff_eq]
        exact option.word_ne_word flag
      · exact find?_name Flag.word_injective known
  | plain text => cases known

theorem asks_words (known : ∀ item ∈ items, Scope.general.Knows item) (name : CommandName)
    (behind : List String) :
    Asks (items.map Item.word ++ name.word :: behind) items name behind := by
  induction items with
  | nil => exact .named name behind
  | cons item items ih =>
      have first := isOption_word (known item (.head _))
      change Asks ([item.word] ++ (items.map Item.word ++ name.word :: behind)) _ _ _
      exact Asks.option first (ih fun later member => known later (.tail _ member))

theorem spells_words (known : ∀ item ∈ items, scope.Knows item) {texts : List String}
    {later : List Item} (spells : Spells scope false texts later) :
    Spells scope false (items.map Item.word ++ texts) (items ++ later) := by
  induction items with
  | nil => exact spells
  | cons item items ih =>
      have first := isOption_word (known item (.head _))
      change Spells scope false ([item.word] ++ (items.map Item.word ++ texts)) _
      exact Spells.option first (ih fun later member => known later (.tail _ member))

/-- Behind the separator every text says itself. -/
theorem spells_texts (texts : List String) :
    Spells (.command .encode) true texts (texts.map .plain) := by
  induction texts with
  | nil => exact .nil
  | cons text texts ih => exact .plain rfl (.inl rfl) ih

/-! ## What is collected from written items -/

namespace Collected

/-- An item of a list that is taken is taken at some time. -/
theorem exists_take_of_mem {told collected : Collected}
    (taken : items.foldlM take told = .ok collected) (member : item ∈ items) :
    ∃ before after : Collected, before.take item = .ok after := by
  induction items generalizing told with
  | nil => cases member
  | cons first items ih =>
      obtain ⟨next, now, later⟩ := foldlM_take_cons_iff.mp taken
      cases member with
      | head => exact ⟨told, next, now⟩
      | tail _ member => exact ih later member

theorem foldlM_take_append {told next collected : Collected} {later : List Item}
    (first : items.foldlM take told = .ok next) (second : later.foldlM take next = .ok collected) :
    (items ++ later).foldlM take told = .ok collected := by
  rw [List.foldlM_append, bind_eq_ok_iff]
  exact ⟨next, first, second⟩

/-- An option that is written if it is given is collected as it is given. -/
theorem foldlM_take_given {α : Type} {given : Option α} {written : α → Item} {told : Collected}
    (collect : Option α → Collected) (absent : collect none = told)
    (present : ∀ value, told.take (written value) = .ok (collect (some value))) :
    (given.toList.map written).foldlM take told = .ok (collect given) := by
  cases given with
  | none => exact congrArg Except.ok absent.symm
  | some value => exact foldlM_take_cons_iff.mpr ⟨_, present value, rfl⟩

theorem foldlM_take_texts (told : Collected) (texts : List String) :
    (texts.map .plain).foldlM take told =
      .ok { told with peerIds := told.peerIds ++ texts } := by
  induction texts generalizing told with
  | nil =>
      rw [List.append_nil]
      rfl
  | cons text texts ih =>
      rw [List.map_cons, foldlM_take_cons_iff]
      refine ⟨_, rfl, ?_⟩
      rw [ih, List.append_assoc]
      rfl

end Collected

end Arguments

/-! ## General options -/

/-- The general options of a command line, each of them given or left out. -/
structure GeneralOptions where
  format : Option Format := none
  logStyle : Option Log.Style := none
  logLevel : Option Log.Level := none
deriving DecidableEq, Repr

open Arguments (Item Collected Scope CommandName)

namespace GeneralOptions

/-- The options that are given, in the order in which they are written. -/
def items (general : GeneralOptions) : List Item :=
  general.format.toList.map (fun format => .setting .format format.name) ++
    general.logStyle.toList.map (fun style => .setting .logFormat style.name) ++
    general.logLevel.toList.map (fun level => .setting .logLevel level.name)

/-- General options as they are written on a command line. -/
def words (general : GeneralOptions) : List String :=
  general.items.map Item.word

/-- What a command line asks for that gives a command and these general options. -/
def invocation (general : GeneralOptions) (command : Command) : Invocation where
  command := command
  format := general.format
  logStyle := general.logStyle.getD .text
  logLevel := general.logLevel.getD .warn

/-- What is collected from these general options. -/
def collected (general : GeneralOptions) : Collected where
  format := general.format
  logStyle := general.logStyle
  logLevel := general.logLevel

/-- General options are known in every scope. -/
theorem knows_of_mem_items {general : GeneralOptions} {item : Item}
    (member : item ∈ general.items) (scope : Scope) : scope.Knows item := by
  have everywhere : ∀ option ∈ [Arguments.Setting.format, .logFormat, .logLevel],
      option ∈ scope.settings := by
    cases scope with
    | general => decide
    | command name => cases name <;> decide
  simp only [items, List.mem_append, List.mem_map] at member
  rcases member with (⟨format, -, rfl⟩ | ⟨style, -, rfl⟩) | ⟨level, -, rfl⟩
  · exact everywhere .format (by decide)
  · exact everywhere .logFormat (by decide)
  · exact everywhere .logLevel (by decide)

theorem foldlM_take_items (general : GeneralOptions) :
    general.items.foldlM Collected.take {} = .ok general.collected := by
  rcases general with ⟨format, style, level⟩
  apply Collected.foldlM_take_append
  · apply Collected.foldlM_take_append
    · apply Collected.foldlM_take_given fun format => { format := format }
      · rfl
      · intro format
        cases format <;> rfl
    · apply Collected.foldlM_take_given fun style => { format := format, logStyle := style }
      · rfl
      · intro style
        cases style <;> rfl
  · apply Collected.foldlM_take_given fun level =>
      { format := format, logStyle := style, logLevel := level }
    · rfl
    · intro level
      cases level <;> rfl

end GeneralOptions

/-! ## Commands -/

/-- A payload has exactly one source, and the path of a file is not empty. -/
inductive PayloadOptions.IsWhole : PayloadOptions → Prop where
  | text (text : String) : IsWhole ⟨some text, none⟩
  | file {path : String} : path ≠ "" → IsWhole ⟨none, some path⟩

namespace Command

/-- A command that can be asked for: its payload, if it reads one, has a source. -/
def IsWhole : Command → Prop
  | .decode source | .inspect source => source.IsWhole
  | .encode _ | .version _ => True

def name : Command → CommandName
  | .encode _ => .encode
  | .decode _ => .decode
  | .inspect _ => .inspect
  | .version _ => .version

/-- The options of a command, in the order in which they are written. -/
def options : Command → List Item
  | .encode options =>
      .setting .maxNeighbors (toString options.maxNeighbors.toNat) ::
        if options.strict then [.flag .strict] else []
  | .decode source | .inspect source =>
      source.hex.toList.map (.setting .hex) ++ source.file.toList.map (.setting .file)
  | .version extended => if extended then [.flag .extended] else []

/-- The plain words of a command. -/
def plainWords : Command → List String
  | .encode options => options.peerIds
  | .decode _ | .inspect _ | .version _ => []

/-- The words of a command behind its name.  The encoder's plain words stand behind a
separator, and no other command takes any. -/
def words (command : Command) : List String :=
  command.options.map Item.word ++
    if command.name = .encode then "--" :: command.plainWords else []

/-- What is collected from the words of a command behind general options. -/
def collected (general : Collected) : Command → Collected
  | .encode options =>
      { general with
        maxNeighbors := some options.maxNeighbors
        strict := options.strict
        peerIds := options.peerIds }
  | .decode source | .inspect source =>
      { general with hex := source.hex, file := source.file }
  | .version extended => { general with extended := extended }

theorem knows_of_mem_options {command : Command} {item : Item} (member : item ∈ command.options) :
    (Scope.command command.name).Knows item := by
  cases command with
  | encode options =>
      rcases List.mem_cons.mp member with rfl | flagged
      · exact .head _
      · split at flagged
        · cases List.mem_singleton.mp flagged
          exact .head _
        · cases flagged
  | decode source | inspect source =>
      simp only [options, List.mem_append, List.mem_map] at member
      rcases member with ⟨text, -, rfl⟩ | ⟨path, -, rfl⟩
      · exact .head _
      · exact .tail _ (.head _)
  | version extended =>
      cases extended with
      | false => cases member
      | true =>
          cases List.mem_singleton.mp member
          exact .head _

theorem spells_words (command : Command) :
    Arguments.Spells (.command command.name) false command.words
      (command.options ++ command.plainWords.map Item.plain) := by
  apply Arguments.spells_words (fun _ => knows_of_mem_options)
  cases command with
  | encode options => exact .separator (by decide) (Arguments.spells_texts options.peerIds)
  | decode _ | inspect _ | version _ => exact .nil

theorem take_maxNeighbors (general : GeneralOptions) (limit : UInt64) :
    general.collected.take (.setting .maxNeighbors (toString limit.toNat)) =
      .ok { general.collected with maxNeighbors := some limit } := by
  have read : Arguments.orEnd .notNumber (Arguments.readNumber? (toString limit.toNat)) =
      .ok limit := by
    rw [Arguments.readNumber?_toString]
    rfl
  exact Arguments.bind_eq_ok_iff.mpr ⟨(), rfl, Arguments.bind_eq_ok_iff.mpr ⟨limit, read, rfl⟩⟩

theorem take_file (general : GeneralOptions) {path : String} (named : path ≠ "") :
    general.collected.take (.setting .file path) =
      .ok { general.collected with file := some path } := by
  have nonempty : ¬path.isEmpty = true := fun empty => named (String.isEmpty_iff.mp empty)
  exact Arguments.bind_eq_ok_iff.mpr ⟨(), rfl, if_neg nonempty⟩

theorem foldlM_take_words {command : Command} (whole : command.IsWhole) (general : GeneralOptions) :
    (command.options ++ command.plainWords.map Item.plain).foldlM Collected.take
      general.collected = .ok (command.collected general.collected) := by
  cases command with
  | encode options =>
      rcases options with ⟨texts, limit, strict⟩
      have told : (encode ⟨texts, limit, strict⟩).options.foldlM Collected.take
          general.collected =
            .ok { general.collected with maxNeighbors := some limit, strict := strict } := by
        rw [options, Collected.foldlM_take_cons_iff]
        refine ⟨_, take_maxNeighbors general limit, ?_⟩
        cases strict <;> rfl
      exact Collected.foldlM_take_append told (Collected.foldlM_take_texts _ texts)
  | decode source | inspect source =>
      cases whole with
      | text text => rfl
      | file named =>
          exact Collected.foldlM_take_cons_iff.mpr ⟨_, take_file general named, rfl⟩
  | version extended => cases extended <;> rfl

/-- What is collected behind the name of a command describes it. -/
theorem command_collected {command : Command} (whole : command.IsWhole)
    (general : GeneralOptions) :
    Arguments.command command.name (command.collected general.collected) = .ok command := by
  cases command with
  | encode options => rfl
  | decode source | inspect source => cases whole <;> rfl
  | version extended => rfl

end Command

namespace GeneralOptions

theorem assemble_front (general : GeneralOptions) (command : Command) :
    Arguments.assemble command general.collected
      (command.collected ({} : GeneralOptions).collected) = general.invocation command := by
  cases command <;> rfl

theorem assemble_behind (general : GeneralOptions) (command : Command) :
    Arguments.assemble command ({} : GeneralOptions).collected
      (command.collected general.collected) = general.invocation command := by
  rcases general with ⟨format, style, level⟩
  cases command <;> cases format <;> cases style <;> cases level <;> rfl

end GeneralOptions

/-- A command is read back with general options on both sides of its name. -/
theorem parse_words {command : Command} (whole : command.IsWhole)
    (front behind : GeneralOptions) :
    Invocation.parse (front.words ++ command.name.word :: (behind.words ++ command.words)) =
      .ok (Arguments.assemble command front.collected
        (command.collected behind.collected)) := by
  apply Arguments.parse_eq_ok_iff.mpr
  apply Arguments.Describes.intro
  · apply Arguments.asks_words
    exact fun item member => GeneralOptions.knows_of_mem_items member .general
  · exact front.foldlM_take_items
  · apply Arguments.spells_words
    · exact fun item member => GeneralOptions.knows_of_mem_items member _
    · exact command.spells_words
  · exact Collected.foldlM_take_append behind.foldlM_take_items
      (Command.foldlM_take_words whole behind)
  · exact Command.command_collected whole behind

/-! ## Commands that are read -/

namespace PayloadOptions

open Arguments (payloadOptions sourcesAmong)

/-- The source of a payload is among the items that were taken, and no empty path is. -/
theorem isWhole_of_payloadOptions {items : List Item} {collected : Collected}
    {source : PayloadOptions} (taken : items.foldlM Collected.take {} = .ok collected)
    (described : payloadOptions collected = .ok source) : source.IsWhole := by
  have sources := Collected.sources_foldlM_take taken
  rcases Arguments.payloadOptions_eq_ok_iff.mp described with
    ⟨text, only, rfl⟩ | ⟨path, only, rfl⟩
  · exact .text text
  · apply IsWhole.file
    rintro rfl
    rw [only] at sources
    have member : .setting .file "" ∈ items := by
      have among : .setting .file "" ∈ sourcesAmong items :=
        sources.mem_iff.mp (List.mem_singleton_self _)
      exact (List.mem_filter.mp among).1
    obtain ⟨before, after, given⟩ := Collected.exists_take_of_mem taken member
    obtain ⟨_, -, refused⟩ := Arguments.bind_eq_ok_iff.mp given
    cases refused

end PayloadOptions

theorem isWhole_of_parse {arguments : List String} {invocation : Invocation}
    (accepted : Invocation.parse arguments = .ok invocation) :
    invocation.command.IsWhole := by
  cases Arguments.parse_eq_ok_iff.mp accepted with
  | @intro _ _ _ _ _ _ command _ _ _ taken described =>
      have source {options : PayloadOptions}
          (reads : command = .decode options ∨ command = .inspect options) : options.IsWhole :=
        PayloadOptions.isWhole_of_payloadOptions taken
          (Arguments.payloadOptions_of_command described reads)
      cases command with
      | encode _ | version _ => trivial
      | decode options => exact source (.inl rfl)
      | inspect options => exact source (.inr rfl)

/-- Every command that a command line can ask for is read back from the line that it is
written as, whatever its texts and its number are.  The general options may stand in front
of its name or directly behind it, and each of them may be left out.  No other command is
asked for by any command line. -/
theorem written_commands_are_read_back :
    (∀ {command : Command}, command.IsWhole → ∀ general : GeneralOptions,
      Invocation.parse (general.words ++ command.name.word :: command.words) =
          .ok (general.invocation command) ∧
        Invocation.parse (command.name.word :: (general.words ++ command.words)) =
          .ok (general.invocation command)) ∧
    ∀ {arguments : List String} {invocation : Invocation},
      Invocation.parse arguments = .ok invocation → invocation.command.IsWhole := by
  refine ⟨?_, isWhole_of_parse⟩
  intro command whole general
  constructor
  · rw [← general.assemble_front command]
    exact parse_words whole general {}
  · rw [← general.assemble_behind command]
    exact parse_words whole {} general

/-- Identifiers that look like options, like the name of a command and like the separator are
read as they are, and so is the largest number; a text that looks like another option is
the whole payload.  A path in a word of its own has been read as well. -/
theorem written_commands_are_read_back_dashes :
    let command := Command.encode
      ⟨["--strict", "-h", "encode", "", "--", "--hex=00"], 18446744073709551615, true⟩
    let own := ["--max-neighbors=18446744073709551615", "--strict", "--",
      "--strict", "-h", "encode", "", "--", "--hex=00"]
    let general := ["--format=raw", "--log-format=json", "--log-level=trace"]
    let text := Command.decode ⟨some "--file=-=", none⟩
    let file := Command.inspect ⟨none, some "a=b"⟩
    command.IsWhole ∧ text.IsWhole ∧
    Invocation.parse (general ++ "encode" :: own) = .ok ⟨command, some .raw, .json, .trace⟩ ∧
    Invocation.parse ("encode" :: (general ++ own)) = .ok ⟨command, some .raw, .json, .trace⟩ ∧
    Invocation.parse ["decode", "--hex=--file=-="] = .ok ⟨text, none, .text, .warn⟩ ∧
    Invocation.parse ["inspect", "--file", "a=b"] = .ok ⟨file, none, .text, .warn⟩ ∧
    file.IsWhole := by
  intro command own general text file
  obtain ⟨written, read⟩ := written_commands_are_read_back
  have commandWhole : command.IsWhole := trivial
  have textWhole : text.IsWhole := .text _
  have ownWords : command.words = own := by decide +kernel
  have textWords : text.words = ["--hex=--file=-="] := by decide +kernel
  have generalWords : (⟨some .raw, some .json, some .trace⟩ : GeneralOptions).words = general := by
    decide +kernel
  obtain ⟨front, behind⟩ := written commandWhole ⟨some .raw, some .json, some .trace⟩
  obtain ⟨alone, -⟩ := written textWhole {}
  rw [ownWords, generalWords] at front behind
  rw [textWords] at alone
  have accepted : Invocation.parse ["inspect", "--file", "a=b"] =
      .ok ⟨file, none, .text, .warn⟩ := by decide +kernel
  exact ⟨commandWhole, textWhole, front, behind, alone, accepted, read accepted⟩

end Announce
