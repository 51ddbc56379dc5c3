import Announce.Proofs.Ending
import Announce.Proofs.Items
import Announce.Proofs.JsonText

/-!
# What the choice of a log changes

A command line may choose a level and a style for the lines of the log.  The words of
such a choice can be left out of it, and what they change is which events are shown and
how.  The result of the run stays as it is, and a stricter level shows those lines of a
more verbose one that it admits.
-/

namespace Announce

open Log (Logged)

namespace Arguments

/-! ## Words without a choice -/

/-- Whether an option with this name chooses how the log is written. -/
def choosesLog (name : String) : Bool :=
  name == Setting.logFormat.word || name == Setting.logLevel.word

/-- Leave out the options that choose how the log is written, up to the separator.  An
option that is given without its value has it in the next word. -/
def dropLogChoice (awaitsValue : Bool) : List String → List String
  | [] => []
  | text :: texts =>
      if awaitsValue then dropLogChoice false texts
      else
        match Word.of text with
        | .separator => text :: texts
        | .long name value =>
            if choosesLog name then dropLogChoice value.isNone texts
            else text :: dropLogChoice false texts
        | .letters .. | .plain => text :: dropLogChoice false texts

/-- A command line without the options that choose how the log is written. -/
def withoutLogChoice (arguments : List String) : List String :=
  dropLogChoice false arguments

section

variable {text name : String} (texts : List String)

theorem dropLogChoice_plain (plain : Word.of text = .plain) :
    dropLogChoice false (text :: texts) = text :: dropLogChoice false texts := by
  rw [dropLogChoice, if_neg Bool.false_ne_true, plain]

theorem dropLogChoice_letters {first : Char} {rest : List Char}
    (letters : Word.of text = .letters first rest) :
    dropLogChoice false (text :: texts) = text :: dropLogChoice false texts := by
  rw [dropLogChoice, if_neg Bool.false_ne_true, letters]

theorem dropLogChoice_separator (separator : Word.of text = .separator) :
    dropLogChoice false (text :: texts) = text :: texts := by
  rw [dropLogChoice, if_neg Bool.false_ne_true, separator]

theorem dropLogChoice_long {value : Option String} (long : Word.of text = .long name value) :
    dropLogChoice false (text :: texts) =
      if choosesLog name then dropLogChoice value.isNone texts
      else text :: dropLogChoice false texts := by
  rw [dropLogChoice, if_neg Bool.false_ne_true, long]

end

/-! ## Items without a choice -/

/-- Whether an item chooses how the log is written. -/
def Item.choosesLog : Item → Bool
  | .setting option _ => Arguments.choosesLog option.word
  | .flag _ | .plain _ => false

/-- The items that do not choose how the log is written. -/
def besidesLog (items : List Item) : List Item :=
  items.filter fun item => !item.choosesLog

section

variable {scope : Scope} {item : Item} {items : List Item}

theorem besidesLog_cons_of_choosesLog (chooses : item.choosesLog = true) :
    besidesLog (item :: items) = besidesLog items :=
  List.filter_cons_of_neg (by simp [chooses])

theorem besidesLog_cons (other : item.choosesLog = false) :
    besidesLog (item :: items) = item :: besidesLog items :=
  List.filter_cons_of_pos (by simp [other])

theorem Scope.word_of_setting? {name : String} {setting : Setting}
    (known : scope.setting? name = some setting) : setting.word = name := by
  have accepted := List.find?_some known
  simpa using accepted

theorem Scope.not_choosesLog_of_flag? {name : String} {flag : Flag}
    (known : scope.flag? name = some flag) : choosesLog name = false := by
  have accepted := List.find?_some known
  have word : flag.word = name := by simpa using accepted
  rw [← word]
  cases flag <;> decide

/-- The words of an option are left out exactly if the option chooses how the log is
written. -/
theorem IsOption.dropLogChoice_append {words : List String} (option : IsOption scope words item)
    (texts : List String) :
    dropLogChoice false (words ++ texts) =
      (if item.choosesLog then [] else words) ++ dropLogChoice false texts := by
  cases option with
  | joined long known =>
      rw [List.singleton_append, dropLogChoice_long texts long, Item.choosesLog,
        Scope.word_of_setting? known]
      split <;> rfl
  | @parted text name value setting long known plain =>
      rw [List.cons_append, dropLogChoice_long _ long, Item.choosesLog,
        Scope.word_of_setting? known]
      split
      · rfl
      · rw [List.singleton_append, dropLogChoice_plain texts plain]
        rfl
  | flag long unset known =>
      rw [List.singleton_append, dropLogChoice_long texts long,
        Scope.not_choosesLog_of_flag? known]
      rfl
  | letter letters known =>
      rw [List.singleton_append, dropLogChoice_letters texts letters]
      rfl

theorem Spells.besidesLog {separated : Bool} {texts : List String}
    (spells : Spells scope separated texts items) :
    Spells scope separated (if separated then texts else dropLogChoice false texts)
      (besidesLog items) := by
  induction spells with
  | nil =>
      rw [dropLogChoice, ite_self]
      exact .nil
  | @option words texts item items option _ ih =>
      rw [if_neg Bool.false_ne_true, option.dropLogChoice_append]
      cases chooses : item.choosesLog with
      | true =>
          rw [besidesLog_cons_of_choosesLog chooses]
          exact ih
      | false =>
          rw [besidesLog_cons chooses]
          exact .option option ih
  | @plain separated text texts items encodes plain _ ih =>
      rw [besidesLog_cons rfl]
      cases separated with
      | true => exact .plain encodes plain ih
      | false =>
          have word := plain.resolve_left Bool.false_ne_true
          rw [if_neg Bool.false_ne_true, dropLogChoice_plain texts word]
          exact .plain encodes plain ih
  | separator word _ ih =>
      rw [if_neg Bool.false_ne_true, dropLogChoice_separator _ word]
      exact .separator word ih

theorem Asks.besidesLog {texts behind : List String} {name : CommandName}
    (asks : Asks texts items name behind) :
    Asks (dropLogChoice false texts) (besidesLog items) name (dropLogChoice false behind) := by
  induction asks with
  | named name behind =>
      rw [dropLogChoice_plain behind name.plain_word]
      exact .named name _
  | @option words texts item items name behind option _ ih =>
      rw [option.dropLogChoice_append]
      cases chooses : item.choosesLog with
      | true =>
          rw [besidesLog_cons_of_choosesLog chooses]
          exact ih
      | false =>
          rw [besidesLog_cons chooses]
          exact .option option ih

end

/-! ## What is collected without a choice -/

/-- What has been collected without a choice of how the log is written. -/
def Collected.besidesLog (collected : Collected) : Collected :=
  { collected with logStyle := none, logLevel := none }

namespace Collected

variable {collected next : Collected} {item : Item} {items : List Item}

theorem take_of_choosesLog (chooses : item.choosesLog = true)
    (taken : collected.take item = .ok next) : next.besidesLog = collected.besidesLog := by
  rcases item with ⟨setting, text⟩ | flag | text
  · cases setting with
    | logFormat =>
        rcases bind_eq_ok_iff.mp taken with ⟨_, -, rest⟩
        rcases bind_eq_ok_iff.mp rest with ⟨style, -, same⟩
        cases same
        rfl
    | logLevel =>
        rcases bind_eq_ok_iff.mp taken with ⟨_, -, rest⟩
        rcases bind_eq_ok_iff.mp rest with ⟨level, -, same⟩
        cases same
        rfl
    | format | maxNeighbors | hex | file => cases chooses
  · cases chooses
  · cases chooses

theorem take_besidesLog (other : item.choosesLog = false) :
    collected.besidesLog.take item = (collected.take item).map besidesLog := by
  rcases collected with ⟨format, style, level, limit, hex, file, strict, extended, texts⟩
  rcases item with ⟨setting, text⟩ | flag | text
  · cases setting with
    | logFormat | logLevel => cases other
    | format =>
        simp only [take, assign, besidesLog]
        cases format <;> cases Format.ofName? text <;> rfl
    | maxNeighbors =>
        simp only [take, assign, besidesLog]
        cases limit <;> cases readNumber? text <;> rfl
    | hex => cases hex <;> rfl
    | file =>
        simp only [take, assign, besidesLog]
        cases file <;> cases text.isEmpty <;> rfl
  · cases flag with
    | help | version => rfl
    | strict => cases strict <;> rfl
    | extended => cases extended <;> rfl
  · rfl

/-- The items that do not choose how the log is written say all the rest. -/
theorem foldlM_take_besidesLog (taken : items.foldlM take collected = .ok next) :
    (Arguments.besidesLog items).foldlM take collected.besidesLog = .ok next.besidesLog := by
  induction items generalizing collected with
  | nil =>
      cases taken
      rfl
  | cons item items ih =>
      rcases foldlM_take_cons_iff.mp taken with ⟨between, first, later⟩
      cases chooses : item.choosesLog with
      | true =>
          rw [besidesLog_cons_of_choosesLog chooses, ← take_of_choosesLog chooses first]
          exact ih later
      | false =>
          rw [besidesLog_cons chooses, foldlM_take_cons_iff]
          refine ⟨between.besidesLog, ?_, ih later⟩
          rw [take_besidesLog chooses, first]
          rfl

end Collected

theorem command_besidesLog (name : CommandName) (collected : Collected) :
    command name collected.besidesLog = command name collected := by
  cases name <;> rfl

/-- A command line that is read is read also without its choice of a log, and asks for
the same then, with the log as it is by default. -/
theorem parse_withoutLogChoice {arguments : List String} {invocation : Invocation}
    (accepted : Invocation.parse arguments = .ok invocation) :
    Invocation.parse (withoutLogChoice arguments) =
      .ok { invocation with logStyle := .text, logLevel := .warn } := by
  rcases parse_eq_ok_iff.mp accepted with ⟨asks, general, spells, special, described⟩
  rw [← command_besidesLog] at described
  exact parse_eq_ok_iff.mpr (.intro asks.besidesLog (Collected.foldlM_take_besidesLog general)
    spells.besidesLog (Collected.foldlM_take_besidesLog special) described)

end Arguments

/-! ## Levels of log lines -/

namespace Log

/-- How the lines of events at a level begin. -/
def Level.opening (style : Style) (level : Level) : String :=
  match style with
  | .text => level.label ++ " "
  | .json => "\x7b\"level\":\"" ++ level.label ++ "\""

/-- The level that a line of the log names at its front, if it is one. -/
def levelOf? (style : Style) (line : String) : Option Level :=
  Level.all.find? fun level => (level.opening style).toList.isPrefixOf line.toList

theorem levelOf?_eq_of_opening {style : Style} {line : String} {level : Level} {rest : List Char}
    (opens : line.toList = (level.opening style).toList ++ rest) :
    levelOf? style line = some level := by
  unfold levelOf?
  rw [opens]
  cases style <;> cases level <;> rfl

theorem Level.toList_opening_json (level : Level) :
    (level.opening .json).toList =
      '\x7b' :: (Json.fieldText ("level", .string level.label)).toList := by
  cases level <;> rfl

theorem Event.exists_opening (style : Style) (event : Event) :
    ∃ rest, (event.line style).toList = (event.level.opening style).toList ++ rest := by
  cases style with
  | text =>
      simp only [line, textLine, Level.opening, String.toList_append, List.append_assoc]
      exact ⟨_, rfl⟩
  | json =>
      rw [Level.toList_opening_json, line, jsonLine, ← List.append_nil (String.toList _),
        Json.toList_compact_map, List.append_assoc, List.cons_append, Json.intercalate_append]
      exact ⟨_, rfl⟩

/-- The level of an event can be read off its line. -/
theorem levelOf?_line (style : Style) (event : Event) :
    levelOf? style (event.line style) = some event.level := by
  rcases event.exists_opening style with ⟨rest, opens⟩
  exact levelOf?_eq_of_opening opens

/-- Of the lines at one level a stricter level shows those that it admits. -/
theorem lines_of_verbosity_le (style : Style) {threshold threshold' : Level}
    (stricter : threshold.verbosity ≤ threshold'.verbosity) (events : List Event) :
    lines style threshold events =
      (lines style threshold' events).filter fun line =>
        (levelOf? style line).any threshold.admits := by
  -- The filter goes by the level that a line names, which is the level of its event.
  unfold lines
  rw [List.filter_map, List.filter_filter]
  congr 1
  apply List.filter_congr
  intro event _
  simp only [Function.comp_apply, levelOf?_line, Option.any_some, Level.admits]
  rw [← Bool.decide_and, decide_eq_decide]
  omega

end Log

/-! ## What standard error consists of -/

namespace Outcome

/-- The mark at the front of the line about a failure. -/
def errorMark : String := "error: "

/-- The line about a failure, which comes last if there is one. -/
def errorLine? (outcome : Outcome) : Option String :=
  outcome.errorLines.getLast?.filter fun line => errorMark.toList.isPrefixOf line.toList

/-- The lines of the log, which name a level. -/
def logLines (style : Log.Style) (outcome : Outcome) : List String :=
  outcome.errorLines.filter fun line => (Log.levelOf? style line).isSome

/-- The line about the failure that a run ends with, if it ends with one. -/
def failureLine? : Except Failure Output → Option String
  | .ok _ => none
  | .error failure => some (errorMark ++ failure.message)

theorem exists_levelOf?_of_mem_lines {style : Log.Style} {threshold : Log.Level}
    {events : List Log.Event} {line : String} (member : line ∈ Log.lines style threshold events) :
    ∃ level, Log.levelOf? style line = some level := by
  rcases List.mem_map.mp member with ⟨event, -, rfl⟩
  exact ⟨event.level, Log.levelOf?_line style event⟩

theorem isPrefixOf_errorMark (message : String) :
    errorMark.toList.isPrefixOf (errorMark ++ message).toList = true := by
  rw [String.toList_append, List.isPrefixOf_iff_prefix]
  exact List.prefix_append _ _

/-- A line about a failure names no level. -/
theorem levelOf?_eq_none {line : String}
    (marked : errorMark.toList.isPrefixOf line.toList = true) (style : Log.Style) :
    Log.levelOf? style line = none := by
  rcases List.isPrefixOf_iff_prefix.mp marked with ⟨rest, same⟩
  rw [Log.levelOf?, ← same]
  cases style <;> rfl

theorem filter_levelOf?_lines (style : Log.Style) (threshold : Log.Level)
    (events : List Log.Event) :
    (Log.lines style threshold events).filter (fun line => (Log.levelOf? style line).isSome) =
      Log.lines style threshold events := by
  rw [List.filter_eq_self]
  intro line member
  rcases exists_levelOf?_of_mem_lines member with ⟨level, named⟩
  rw [named]
  rfl

theorem filter_levelOf?_failureLine? (style : Log.Style) (value : Except Failure Output) :
    (failureLine? value).toList.filter (fun line => (Log.levelOf? style line).isSome) = [] := by
  cases value with
  | ok output => rfl
  | error failure =>
      rw [failureLine?, Option.toList_some, List.filter_singleton,
        levelOf?_eq_none (isPrefixOf_errorMark _)]
      rfl

section

variable (invocation : Invocation) (result : Logged (Except Failure Output))

theorem errorLines_ofResult :
    (ofResult invocation result).errorLines =
      Log.lines invocation.logStyle invocation.logLevel result.events ++
        (failureLine? result.value).toList := by
  unfold ofResult
  cases result.value with
  | ok output => exact (List.append_nil _).symm
  | error failure => rfl

theorem errorLine?_ofResult :
    (ofResult invocation result).errorLine? = failureLine? result.value := by
  rw [errorLine?, errorLines_ofResult]
  cases result.value with
  | ok output =>
      rw [failureLine?, Option.toList_none, List.append_nil, Option.filter_eq_none_iff]
      intro line last marked
      rcases exists_levelOf?_of_mem_lines (List.mem_of_getLast? last) with ⟨level, named⟩
      rw [levelOf?_eq_none marked] at named
      cases named
  | error failure =>
      rw [failureLine?, Option.toList_some, List.getLast?_concat, Option.filter_some,
        if_pos (isPrefixOf_errorMark _)]

theorem logLines_ofResult :
    (ofResult invocation result).logLines invocation.logStyle =
      Log.lines invocation.logStyle invocation.logLevel result.events := by
  rw [logLines, errorLines_ofResult, List.filter_append, filter_levelOf?_lines,
    filter_levelOf?_failureLine?, List.append_nil]

end

end Outcome

/-! ## Command lines that differ in their choice of a log -/

/-- The choice of a log changes nothing but the log.  Two command lines that are the same
without it end with the same code, the same output and the same line about a failure, if
there is one.  Standard error consists of the lines of the log and of that line, and in one
style a stricter level shows exactly those lines of a more verbose one, in the same order,
that name a level which it admits. -/
theorem run_eq_of_withoutLogChoice (host : Host) {arguments arguments' : List String}
    {invocation invocation' : Invocation}
    (accepted : Invocation.parse arguments = .ok invocation)
    (accepted' : Invocation.parse arguments' = .ok invocation')
    (same : Arguments.withoutLogChoice arguments = Arguments.withoutLogChoice arguments') :
    let outcome := runProgram host arguments
    let outcome' := runProgram host arguments'
    outcome.exitCode = outcome'.exitCode ∧ outcome.output = outcome'.output ∧
    outcome.errorLine? = outcome'.errorLine? ∧
    outcome.errorLines = outcome.logLines invocation.logStyle ++ outcome.errorLine?.toList ∧
    (invocation.logStyle = invocation'.logStyle →
      invocation.logLevel.verbosity ≤ invocation'.logLevel.verbosity →
      outcome.logLines invocation.logStyle =
        (outcome'.logLines invocation'.logStyle).filter fun line =>
          (Log.levelOf? invocation.logStyle line).any invocation.logLevel.admits) := by
  intro outcome outcome'
  have default := Arguments.parse_withoutLogChoice accepted
  rw [same, Arguments.parse_withoutLogChoice accepted', Except.ok.injEq,
    Invocation.mk.injEq] at default
  rcases default with ⟨command, format, -, -⟩
  let result := invocation.command.run host (invocation.format.getD .default)
  have ran : outcome = .ofResult invocation result := by
    simp only [outcome, runProgram, accepted]
    rfl
  have ran' : outcome' = .ofResult invocation' result := by
    simp only [outcome', runProgram, accepted', result, ← command, ← format]
    rfl
  rw [ran, ran']
  refine ⟨?_, ?_, ?_, ?_, ?_⟩
  · unfold Outcome.ofResult
    cases result.value <;> rfl
  · unfold Outcome.ofResult
    cases result.value <;> rfl
  · rw [Outcome.errorLine?_ofResult, Outcome.errorLine?_ofResult]
  · rw [Outcome.logLines_ofResult, Outcome.errorLine?_ofResult]
    exact Outcome.errorLines_ofResult invocation result
  · intro style stricter
    rw [Outcome.logLines_ofResult, Outcome.logLines_ofResult, ← style]
    exact Log.lines_of_verbosity_le _ stricter _

/-- A cap that one record cannot hold is worth a warning, and an empty record is written
all the same.  That is one line by default, and the first of two at the level that also
tells of the record. -/
theorem run_eq_of_withoutLogChoice_cap :
    let arguments := ["encode", "--max-neighbors=32"]
    let arguments' := ["--log-level=warn", "encode", "--max-neighbors=32", "--log-level", "info"]
    let command := Command.encode ⟨[], 32, false⟩
    let outcome := runProgram ⟨"x86_64-linux", fun _ => .error .notFound⟩ arguments
    let outcome' := runProgram ⟨"x86_64-linux", fun _ => .error .notFound⟩ arguments'
    let warning := "WARN meshannounce::cmd::encode: neighbor cap exceeds a single record; " ++
      "long lists will be rejected max_neighbors=32"
    let written := "INFO meshannounce::cmd::encode: encoded direct-neighbor record " ++
      "requested=0 record_len=2"
    Invocation.parse arguments = .ok ⟨command, none, .text, .warn⟩ ∧
    Invocation.parse arguments' = .ok ⟨command, none, .text, .info⟩ ∧
    Arguments.withoutLogChoice arguments' = Arguments.withoutLogChoice arguments ∧
    outcome.exitCode = outcome'.exitCode ∧ outcome.output = outcome'.output ∧
    outcome.errorLine? = outcome'.errorLine? ∧
    outcome'.logLines .text = [warning, written] ∧ outcome.logLines .text = [warning] := by
  intro arguments arguments' command outcome outcome' warning written
  have accepted : Invocation.parse arguments = .ok ⟨command, none, .text, .warn⟩ := by
    decide +kernel
  have accepted' : Invocation.parse arguments' = .ok ⟨command, none, .text, .info⟩ := by
    decide +kernel
  have same : Arguments.withoutLogChoice arguments' = Arguments.withoutLogChoice arguments := by
    decide
  have verbose : outcome'.logLines .text = [warning, written] := by decide +kernel
  rcases run_eq_of_withoutLogChoice ⟨"x86_64-linux", fun _ => .error .notFound⟩ accepted accepted'
    same.symm with ⟨code, output, failure, -, log⟩
  refine ⟨accepted, accepted', same, code, output, failure, verbose, ?_⟩
  have stricter := log rfl (by decide)
  rw [verbose] at stricter
  rw [stricter]
  decide +kernel

end Announce
