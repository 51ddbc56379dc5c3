import Announce.Command.Arguments

/-!
# What the words of a command line say

A reader looks at the value of an option only when the next option begins or the words
end, because that decides which of several faults is reported.  For words without a
fault it makes no difference: they say a list of items, one after the other, and what
has been collected in the end is what these items say in this order.
-/

namespace Announce.Arguments

theorem bind_eq_ok_iff {ε α β : Type} {first : Except ε α} {next : α → Except ε β}
    {result : β} :
    (first >>= next) = .ok result ↔ ∃ value, first = .ok value ∧ next value = .ok result := by
  constructor
  · intro ran
    cases first with
    | error cause => cases ran
    | ok value => exact ⟨value, rfl, ran⟩
  · rintro ⟨value, rfl, ran⟩
    exact ran

/-! ## Items -/

/-- Something that words say: an option with its value, a flag, or a plain word. -/
inductive Item where
  | setting (setting : Setting) (text : String)
  | flag (flag : Flag)
  | plain (text : String)
deriving DecidableEq, Repr

/-- Collect what an item says. -/
def Collected.take (collected : Collected) : Item → Except UsageEnd Collected
  | .setting setting text => collected.assign text setting
  | .flag flag => collected.raise flag
  | .plain text => .ok { collected with peerIds := collected.peerIds ++ [text] }

theorem Collected.foldlM_take_cons_iff {told collected : Collected} {item : Item}
    {items : List Item} :
    (item :: items).foldlM take told = .ok collected ↔
      ∃ next, told.take item = .ok next ∧ items.foldlM take next = .ok collected := by
  rw [List.foldlM_cons, bind_eq_ok_iff]

/-- The words that one option consists of. -/
inductive IsOption (scope : Scope) : List String → Item → Prop where
  | joined {text name value : String} {setting : Setting} :
      Word.of text = .long name (some value) → scope.setting? name = some setting →
      IsOption scope [text] (.setting setting value)
  | parted {text name value : String} {setting : Setting} :
      Word.of text = .long name none → scope.setting? name = some setting →
      Word.of value = .plain → IsOption scope [text, value] (.setting setting value)
  | flag {text name : String} {flag : Flag} :
      Word.of text = .long name none → scope.setting? name = none →
      scope.flag? name = some flag → IsOption scope [text] (.flag flag)
  | letter {text : String} {first : Char} {rest : List Char} {flag : Flag} :
      Word.of text = .letters first rest → scope.letterFlag? first = some flag →
      IsOption scope [text] (.flag flag)

theorem IsOption.length_lt {scope : Scope} {text : String} {words texts behind : List String}
    {item : Item} (option : IsOption scope words item) (whole : text :: texts = words ++ behind) :
    behind.length < (text :: texts).length := by
  rw [whole, List.length_append]
  cases option <;> simp

/-- What words of a scope say, in front of the separator or behind it.  Only the encoder
takes plain words, and behind the separator all words are plain. -/
inductive Spells (scope : Scope) : Bool → List String → List Item → Prop where
  | nil {separated : Bool} : Spells scope separated [] []
  | option {words texts : List String} {item : Item} {items : List Item} :
      IsOption scope words item → Spells scope false texts items →
      Spells scope false (words ++ texts) (item :: items)
  | plain {separated : Bool} {text : String} {texts : List String} {items : List Item} :
      scope = .command .encode → (separated = true ∨ Word.of text = .plain) →
      Spells scope separated texts items →
      Spells scope separated (text :: texts) (.plain text :: items)
  | separator {text : String} {texts : List String} {items : List Item} :
      Word.of text = .separator → Spells scope true texts items →
      Spells scope false (text :: texts) items

namespace Reader

/-! ## Single words -/

/-- What a reader has been told, once everything has been looked at. -/
def told (reader : Reader) : Except UsageEnd Collected :=
  match reader.pending with
  | .nothing => .ok reader.collected
  | .setting _ none => .error .invalidValue
  | .setting setting (some text) => reader.collected.assign text setting
  | .peerIds texts =>
      .ok { reader.collected with peerIds := reader.collected.peerIds ++ texts }

/-- A reader with nothing left to look at. -/
def settled (told : Collected) (separated : Bool) : Reader :=
  { collected := told, separated }

variable {scope : Scope} {reader after : Reader} {text : String}

theorem settle_eq (reader : Reader) :
    reader.settle = reader.told.map (settled · reader.separated) := by
  rcases reader with ⟨collected, pending, separated⟩
  cases pending with
  | nothing => rfl
  | setting setting value =>
      cases value with
      | none => rfl
      | some text =>
          change (collected.assign text setting).bind _ = (collected.assign text setting).map _
          cases collected.assign text setting <;> rfl
  | peerIds texts => rfl

theorem settle_eq_ok_iff :
    reader.settle = .ok after ↔
      ∃ told, reader.told = .ok told ∧ settled told reader.separated = after := by
  rw [settle_eq]
  cases reader.told <;> simp [Except.map]

/-- An option that still waits for its value is a fault. -/
theorem not_told_of_awaiting {setting : Setting} (waits : reader.pending = .setting setting none)
    {collected : Collected} : reader.told ≠ .ok collected := by
  rw [told, waits]
  exact nofun

theorem readFlag_eq_ok_iff {flag : Flag} (unseparated : reader.separated = false) :
    reader.readFlag flag = .ok after ↔
      ∃ told collected, reader.told = .ok told ∧ told.raise flag = .ok collected ∧
        settled collected false = after := by
  unfold readFlag
  simp only [bind_eq_ok_iff, settle_eq_ok_iff, unseparated]
  constructor
  · rintro ⟨_, ⟨told, isTold, rfl⟩, collected, raised, same⟩
    exact ⟨told, collected, isTold, raised, Except.ok.inj same⟩
  · rintro ⟨told, collected, isTold, raised, rfl⟩
    exact ⟨_, ⟨told, isTold, rfl⟩, collected, raised, rfl⟩

/-- An option is either whole, and then it is taken over by what has been told before, or
it waits for its value. -/
theorem option_of_read (unseparated : reader.separated = false)
    (notPlain : Word.of text ≠ .plain) (notSeparator : Word.of text ≠ .separator)
    (read : reader.read scope text = .ok after) :
    ∃ told, reader.told = .ok told ∧
      ((∃ item collected, IsOption scope [text] item ∧ told.take item = .ok collected ∧
          settled collected false = after) ∨
        ∃ name setting, Word.of text = .long name none ∧ scope.setting? name = some setting ∧
          { settled told false with pending := .setting setting none } = after) := by
  rw [Reader.read, if_neg (by simp [unseparated])] at read
  cases word : Word.of text with
  | separator => exact absurd word notSeparator
  | plain => exact absurd word notPlain
  | long name value =>
      rw [word] at read
      dsimp only [readLong] at read
      cases known : scope.setting? name with
      | some setting =>
          rw [known] at read
          rcases bind_eq_ok_iff.mp read with ⟨_, settles, given⟩
          rcases settle_eq_ok_iff.mp settles with ⟨told, isTold, rfl⟩
          rw [unseparated] at given
          cases value with
          | none => exact ⟨told, isTold, .inr ⟨name, setting, rfl, known, Except.ok.inj given⟩⟩
          | some value =>
              rcases bind_eq_ok_iff.mp given with ⟨collected, assigned, same⟩
              exact ⟨told, isTold, .inl ⟨.setting setting value, collected,
                .joined word known, assigned, Except.ok.inj same⟩⟩
      | none =>
          cases flagged : scope.flag? name with
          | none =>
              rw [known, flagged] at read
              cases read
          | some flag =>
              rw [known, flagged] at read
              cases value with
              | some value => cases read
              | none =>
                  rcases (readFlag_eq_ok_iff unseparated).mp read with
                    ⟨told, collected, isTold, raised, same⟩
                  exact ⟨told, isTold, .inl ⟨.flag flag, collected,
                    .flag word known flagged, raised, same⟩⟩
  | letters first rest =>
      rw [word] at read
      dsimp only at read
      cases flagged : scope.letterFlag? first with
      | none =>
          rw [flagged] at read
          cases read
      | some flag =>
          rw [flagged] at read
          rcases (readFlag_eq_ok_iff unseparated).mp read with
            ⟨told, collected, isTold, raised, same⟩
          exact ⟨told, isTold, .inl ⟨.flag flag, collected, .letter word flagged, raised, same⟩⟩

theorem told_of_readPlain (read : reader.readPlain scope text = .ok after) :
    scope = .command .encode ∧ after.separated = reader.separated ∧
      ∃ told, reader.told = .ok told ∧ told.take (.plain text) = after.told := by
  unfold readPlain at read
  split at read
  · refine ⟨rfl, ?_⟩
    split at read
    · next texts pending =>
        cases read
        refine ⟨rfl, _, by rw [told, pending], ?_⟩
        simp [told, Collected.take]
    · rcases bind_eq_ok_iff.mp read with ⟨_, settles, given⟩
      rcases settle_eq_ok_iff.mp settles with ⟨told, isTold, rfl⟩
      cases given
      exact ⟨rfl, told, isTold, rfl⟩
  · cases read
  · cases read

theorem exists_readPlain {collected : Collected} (isTold : reader.told = .ok collected)
    (text : String) : ∃ after, reader.readPlain (.command .encode) text = .ok after := by
  unfold readPlain
  dsimp only
  split
  · exact ⟨_, rfl⟩
  · exact ⟨_, bind_eq_ok_iff.mpr ⟨_, settle_eq_ok_iff.mpr ⟨collected, isTold, rfl⟩, rfl⟩⟩

theorem read_eq_readPlain (ready : reader.awaitsValue = false)
    (plain : reader.separated = true ∨ Word.of text = .plain) :
    reader.read scope text = reader.readPlain scope text := by
  unfold Reader.read
  split
  · rfl
  · next unseparated =>
      rw [plain.resolve_left unseparated]
      dsimp only
      split
      · next setting pending => simp [awaitsValue, pending] at ready
      · rfl

theorem read_value {setting : Setting} (waits : reader.pending = .setting setting none)
    (unseparated : reader.separated = false) (plain : Word.of text = .plain) :
    reader.read scope text = .ok { reader with pending := .setting setting (some text) } := by
  rw [Reader.read, if_neg (by simp [unseparated]), plain]
  dsimp only
  rw [waits]
  rfl

theorem read_separator (unseparated : reader.separated = false)
    (separator : Word.of text = .separator) :
    reader.read scope text = .ok { reader with separated := true } := by
  rw [Reader.read, if_neg (by simp [unseparated]), separator]
  rfl

theorem awaitsValue_of_told {collected : Collected} (isTold : reader.told = .ok collected) :
    reader.awaitsValue = false := by
  unfold awaitsValue
  split
  · next waits => exact absurd isTold (not_told_of_awaiting waits)
  · rfl

/-- An option that waits takes a plain word as its value and stands no other option. -/
theorem value_of_read {setting : Setting} (waits : reader.pending = .setting setting none)
    (unseparated : reader.separated = false) (read : reader.read scope text = .ok after) :
    (Word.of text = .plain ∧ { reader with pending := .setting setting (some text) } = after) ∨
      (Word.of text = .separator ∧ { reader with separated := true } = after) := by
  by_cases plain : Word.of text = .plain
  · rw [read_value waits unseparated plain] at read
    exact .inl ⟨plain, Except.ok.inj read⟩
  · by_cases separator : Word.of text = .separator
    · rw [read_separator unseparated separator] at read
      exact .inr ⟨separator, Except.ok.inj read⟩
    · rcases option_of_read unseparated plain separator read with ⟨told, isTold, -⟩
      exact absurd isTold (not_told_of_awaiting waits)

/-! ## All words of a scope -/

variable {texts : List String} {collected : Collected}

theorem readAll_cons_eq_ok_iff :
    readAll scope reader (text :: texts) = .ok collected ↔
      ∃ after, reader.read scope text = .ok after ∧ readAll scope after texts = .ok collected :=
  bind_eq_ok_iff

theorem readAll_of_read (read : reader.read scope text = .ok after) :
    readAll scope reader (text :: texts) = readAll scope after texts := by
  rw [readAll, read]
  rfl

theorem readAll_nil_eq_ok_iff :
    readAll scope reader [] = .ok collected ↔ reader.told = .ok collected := by
  rw [readAll, bind_eq_ok_iff]
  constructor
  · rintro ⟨_, settles, same⟩
    rcases settle_eq_ok_iff.mp settles with ⟨told, isTold, rfl⟩
    cases same
    exact isTold
  · intro isTold
    exact ⟨_, settle_eq_ok_iff.mpr ⟨collected, isTold, rfl⟩, rfl⟩

/-- How words are read one after the other, apart from plain words that are not the value
of an option. -/
structure Continues {α : Type} (scope : Scope) (rest : Reader → List String → Except UsageEnd α) :
    Prop where
  not_ok_nil : ∀ {reader : Reader}, reader.awaitsValue = true →
    ∀ result, rest reader [] ≠ .ok result
  cons : ∀ {reader : Reader} {text : String}, reader.awaitsValue = true ∨ Word.of text ≠ .plain →
    ∀ texts, rest reader (text :: texts) =
      (reader.read scope text >>= fun after => rest after texts)

section

variable {α : Type} {rest : Reader → List String → Except UsageEnd α} {result : α}

/-- Behind the separator no word can be the value of an option. -/
theorem Continues.not_ok_of_separated (continues : Continues scope rest) {setting : Setting}
    (waits : reader.pending = .setting setting none) (separated : reader.separated = true) :
    rest reader texts ≠ .ok result := by
  have awaits : reader.awaitsValue = true := by rw [awaitsValue, waits]
  intro read
  cases texts with
  | nil => exact continues.not_ok_nil awaits result read
  | cons text texts =>
      rw [continues.cons (.inl awaits)] at read
      rcases bind_eq_ok_iff.mp read with ⟨after, behind, -⟩
      rw [Reader.read, if_pos separated] at behind
      rcases told_of_readPlain behind with ⟨-, -, told, isTold, -⟩
      exact not_told_of_awaiting waits isTold

/-- A word that is neither plain nor the separator begins an option, and reading goes on
behind the option. -/
theorem Continues.exists_option (continues : Continues scope rest)
    (unseparated : reader.separated = false) (notPlain : Word.of text ≠ .plain)
    (notSeparator : Word.of text ≠ .separator) (read : reader.read scope text = .ok after)
    (later : rest after texts = .ok result) :
    ∃ words item behind told next, text :: texts = words ++ behind ∧ IsOption scope words item ∧
      reader.told = .ok told ∧ next.awaitsValue = false ∧ next.separated = false ∧
      told.take item = next.told ∧ rest next behind = .ok result := by
  rcases option_of_read unseparated notPlain notSeparator read with
    ⟨told, isTold, ⟨item, collected, option, taken, rfl⟩ | ⟨name, setting, word, known, rfl⟩⟩
  · exact ⟨[text], item, texts, told, settled collected false, rfl, option, isTold, rfl, rfl,
      taken, later⟩
  · cases texts with
    | nil => exact absurd later (continues.not_ok_nil rfl result)
    | cons value behind =>
        rw [continues.cons (.inl rfl)] at later
        rcases bind_eq_ok_iff.mp later with ⟨given, second, later⟩
        rcases value_of_read rfl rfl second with ⟨plain, rfl⟩ | ⟨-, rfl⟩
        · exact ⟨[text, value], .setting setting value, behind, told, _, rfl,
            .parted word known plain, isTold, rfl, rfl, rfl, later⟩
        · exact absurd later (continues.not_ok_of_separated rfl rfl)

theorem Continues.of_read (continues : Continues scope rest)
    (reads : reader.awaitsValue = true ∨ Word.of text ≠ .plain)
    (read : reader.read scope text = .ok after) (texts : List String) :
    rest reader (text :: texts) = rest after texts := by
  rw [continues.cons reads, read]
  rfl

/-- Reading the words of an option leaves a reader that has been told it. -/
theorem Continues.exists_behind (continues : Continues scope rest) {words : List String}
    {item : Item} (option : IsOption scope words item) (unseparated : reader.separated = false)
    {told next : Collected} (isTold : reader.told = .ok told) (taken : told.take item = .ok next) :
    ∃ after, after.separated = false ∧ after.told = .ok next ∧
      ∀ texts, rest reader (words ++ texts) = rest after texts := by
  have settles : reader.settle = .ok (settled told false) :=
    settle_eq_ok_iff.mpr ⟨told, isTold, by rw [unseparated]⟩
  have separated : ¬reader.separated = true := by simp [unseparated]
  cases option with
  | @joined text name value setting word known =>
      have read : reader.read scope text = .ok (settled next false) := by
        rw [Reader.read, if_neg separated, word]
        dsimp only [readLong]
        rw [known]
        exact bind_eq_ok_iff.mpr ⟨_, settles, bind_eq_ok_iff.mpr ⟨next, taken, rfl⟩⟩
      exact ⟨settled next false, rfl, rfl, continues.of_read (.inr (by simp [word])) read⟩
  | @parted text name value setting word known plain =>
      let waiting : Reader := { settled told false with pending := .setting setting none }
      let given : Reader := { settled told false with pending := .setting setting (some value) }
      have first : reader.read scope text = .ok waiting := by
        rw [Reader.read, if_neg separated, word]
        dsimp only [readLong]
        rw [known]
        exact bind_eq_ok_iff.mpr ⟨_, settles, rfl⟩
      have second : waiting.read scope value = .ok given := read_value rfl rfl plain
      exact ⟨given, rfl, taken, fun texts =>
        (continues.of_read (.inr (by simp [word])) first _).trans
          (continues.of_read (.inl rfl) second texts)⟩
  | @flag text name flag word unset known =>
      have read : reader.read scope text = .ok (settled next false) := by
        rw [Reader.read, if_neg separated, word]
        dsimp only [readLong]
        rw [unset, known]
        exact (readFlag_eq_ok_iff unseparated).mpr ⟨told, next, isTold, taken, rfl⟩
      exact ⟨settled next false, rfl, rfl, continues.of_read (.inr (by simp [word])) read⟩
  | @letter text first rest flag word known =>
      have read : reader.read scope text = .ok (settled next false) := by
        rw [Reader.read, if_neg separated, word]
        dsimp only
        rw [known]
        exact (readFlag_eq_ok_iff unseparated).mpr ⟨told, next, isTold, taken, rfl⟩
      exact ⟨settled next false, rfl, rfl, continues.of_read (.inr (by simp [word])) read⟩

end

theorem continues_readAll (scope : Scope) : Continues scope (readAll scope) where
  not_ok_nil waits collected read := by
    have ready := awaitsValue_of_told (readAll_nil_eq_ok_iff.mp read)
    rw [waits] at ready
    cases ready
  cons _ _ := by rw [readAll]

/-- Words that are read without a fault say items, and what has been collected in the end
is what these say. -/
theorem exists_spells_of_readAll {scope : Scope} {reader : Reader} {collected : Collected}
    (texts : List String) (ready : reader.awaitsValue = false)
    (read : readAll scope reader texts = .ok collected) :
    ∃ told items, reader.told = .ok told ∧ Spells scope reader.separated texts items ∧
      items.foldlM Collected.take told = .ok collected := by
  cases texts with
  | nil => exact ⟨collected, [], readAll_nil_eq_ok_iff.mp read, .nil, rfl⟩
  | cons text texts =>
      rcases readAll_cons_eq_ok_iff.mp read with ⟨after, first, later⟩
      by_cases plain : reader.separated = true ∨ Word.of text = .plain
      · rw [read_eq_readPlain ready plain] at first
        rcases told_of_readPlain first with ⟨encodes, same, told, isTold, taken⟩
        rcases exists_spells_of_readAll texts (awaitsValue_of_told taken.symm) later with
          ⟨next, items, isNext, spells, all⟩
        refine ⟨told, .plain text :: items, isTold, .plain encodes plain (same ▸ spells), ?_⟩
        exact Collected.foldlM_take_cons_iff.mpr ⟨next, taken.trans isNext, all⟩
      · rcases not_or.mp plain with ⟨separated, notPlain⟩
        have unseparated : reader.separated = false := by simpa using separated
        rw [unseparated]
        by_cases separator : Word.of text = .separator
        · rw [read_separator unseparated separator] at first
          cases first
          have stillReady : ({ reader with separated := true } : Reader).awaitsValue = false :=
            ready
          rcases exists_spells_of_readAll texts stillReady later with
            ⟨told, items, isTold, spells, all⟩
          exact ⟨told, items, isTold, .separator separator spells, all⟩
        · rcases (continues_readAll scope).exists_option unseparated notPlain separator first later
            with ⟨words, item, behind, told, next, whole, option, isTold, nextReady,
              nextUnseparated, taken, rest⟩
          rw [whole]
          -- An option of two words is passed at once, so the induction is on the length.
          have shorter := option.length_lt whole
          rcases exists_spells_of_readAll behind nextReady rest with
            ⟨collected, items, isNext, spells, all⟩
          rw [nextUnseparated] at spells
          exact ⟨told, item :: items, isTold, .option option spells,
            Collected.foldlM_take_cons_iff.mpr ⟨collected, taken.trans isNext, all⟩⟩
termination_by texts.length
decreasing_by all_goals simp_all

/-- Words that say items are read without a fault if what the items say can be collected. -/
theorem readAll_of_spells {items : List Item} {separated : Bool}
    (spells : Spells scope separated texts items) (here : reader.separated = separated)
    {told : Collected} (isTold : reader.told = .ok told)
    (taken : items.foldlM Collected.take told = .ok collected) :
    readAll scope reader texts = .ok collected := by
  induction spells generalizing reader told with
  | nil =>
      cases taken
      exact readAll_nil_eq_ok_iff.mpr isTold
  | option option _ ih =>
      rcases Collected.foldlM_take_cons_iff.mp taken with ⟨next, first, later⟩
      rcases (continues_readAll scope).exists_behind option here isTold first with
        ⟨after, unseparated, isNext, same⟩
      rw [same]
      exact ih unseparated isNext later
  | @plain separated text texts items encodes plain _ ih =>
      rcases Collected.foldlM_take_cons_iff.mp taken with ⟨next, first, later⟩
      rcases exists_readPlain isTold text with ⟨after, read⟩
      rcases told_of_readPlain read with ⟨-, same, told', isTold', isNext⟩
      cases isTold.symm.trans isTold'
      have step : reader.read scope text = .ok after := by
        rw [read_eq_readPlain (awaitsValue_of_told isTold) (here ▸ plain), encodes, read]
      rw [readAll_of_read step]
      exact ih (same.trans here) (isNext.symm.trans first) later
  | separator word _ ih =>
      rw [readAll_of_read (read_separator here word)]
      exact ih rfl isTold taken

end Reader

/-! ## Whole command lines -/

/-- What a command line says in front of the name of its command, and the words behind
the name. -/
inductive Asks : List String → List Item → CommandName → List String → Prop where
  | named (name : CommandName) (behind : List String) : Asks (name.word :: behind) [] name behind
  | option {words texts : List String} {item : Item} {items : List Item} {name : CommandName}
      {behind : List String} :
      IsOption .general words item → Asks texts items name behind →
      Asks (words ++ texts) (item :: items) name behind

/-- A command line that is read as an invocation. -/
inductive Describes (texts : List String) : Invocation → Prop where
  | intro {items items' : List Item} {name : CommandName} {behind : List String}
      {general special : Collected} {described : Command} :
      Asks texts items name behind → items.foldlM Collected.take {} = .ok general →
      Spells (.command name) false behind items' →
      items'.foldlM Collected.take {} = .ok special → command name special = .ok described →
      Describes texts (assemble described general special)

section

variable {reader : Reader} {texts : List String} {invocation : Invocation}

theorem word_of_ofWord? {text : String} {name : CommandName}
    (named : CommandName.ofWord? text = some name) : name.word = text := by
  have accepted := List.find?_some named
  simpa using accepted

theorem readGeneral_of_separated (separated : reader.separated = true) :
    readGeneral reader texts ≠ .ok invocation := by
  intro read
  cases texts with
  | nil => cases read
  | cons text texts =>
      rw [readGeneral, if_pos (by simp [separated])] at read
      rcases bind_eq_ok_iff.mp read with ⟨after, first, -⟩
      rw [Reader.read, if_pos separated] at first
      cases (Reader.told_of_readPlain first).1

theorem CommandName.plain_word (name : CommandName) : Word.of name.word = .plain := by
  cases name <;> decide

/-- Words that stand for commands, and the one that asks for help, are plain. -/
theorem plain_of_isCommandWord {text : String} (means : isCommandWord text = true) :
    Word.of text = .plain := by
  simp only [isCommandWord, Bool.or_eq_true, beq_iff_eq, Option.isSome_iff_exists] at means
  rcases means with rfl | ⟨name, named⟩
  · decide
  · rw [← word_of_ofWord? named]
    exact name.plain_word

theorem readGeneral_cons {text : String} (ready : reader.awaitsValue = false)
    (unseparated : reader.separated = false) :
    readGeneral reader (text :: texts) =
      if text = helpWord then .error (readHelp texts)
      else
        match CommandName.ofWord? text with
        | some name => do
            let behind ← Reader.readAll (.command name) {} texts
            let command ← command name behind
            let settled ← reader.settle
            pure (assemble command settled.collected behind)
        | none => reader.read .general text >>= fun after => readGeneral after texts := by
  have ends : ¬(reader.separated || reader.awaitsValue) = true := by simp [ready, unseparated]
  rw [readGeneral]
  exact if_neg ends

theorem continues_readGeneral : Reader.Continues .general readGeneral where
  not_ok_nil _ _ read := by cases read
  cons {reader text} reads texts := by
    by_cases general : (reader.separated || reader.awaitsValue) = true
    · rw [readGeneral, if_pos general]
    · simp only [Bool.or_eq_true, not_or, Bool.not_eq_true] at general
      have meaningless : isCommandWord text = false := by
        rw [Bool.eq_false_iff]
        intro means
        rcases reads with waits | notPlain
        · simp [waits] at general
        · exact notPlain (plain_of_isCommandWord means)
      simp only [isCommandWord, Bool.or_eq_false_iff, beq_eq_false_iff_ne,
        Option.isSome_eq_false_iff, Option.isNone_iff_eq_none] at meaningless
      rw [readGeneral_cons general.2 general.1, if_neg meaningless.1, meaningless.2]

/-- The name of a command ends the general options. -/
theorem readGeneral_word (ready : reader.awaitsValue = false)
    (unseparated : reader.separated = false) (name : CommandName) :
    readGeneral reader (name.word :: texts) = .ok invocation ↔
      ∃ told special described, reader.told = .ok told ∧
        Reader.readAll (.command name) {} texts = .ok special ∧
        command name special = .ok described ∧ assemble described told special = invocation := by
  have notHelp : name.word ≠ helpWord := by cases name <;> decide
  have named : CommandName.ofWord? name.word = some name := by cases name <;> decide
  rw [readGeneral_cons ready unseparated, if_neg notHelp, named]
  simp only [bind_eq_ok_iff, Reader.settle_eq_ok_iff]
  constructor
  · rintro ⟨special, read, described, isDescribed, _, ⟨told, isTold, rfl⟩, same⟩
    exact ⟨told, special, described, isTold, read, isDescribed, Except.ok.inj same⟩
  · rintro ⟨told, special, described, isTold, read, isDescribed, rfl⟩
    exact ⟨special, read, described, isDescribed, _, ⟨told, isTold, rfl⟩, rfl⟩

/-- A command line that is read asks for a command behind general options. -/
theorem exists_asks_of_readGeneral {reader : Reader} {invocation : Invocation}
    (texts : List String) (ready : reader.awaitsValue = false)
    (unseparated : reader.separated = false)
    (read : readGeneral reader texts = .ok invocation) :
    ∃ told items name behind general special described,
      reader.told = .ok told ∧ Asks texts items name behind ∧
      items.foldlM Collected.take told = .ok general ∧
      Reader.readAll (.command name) {} behind = .ok special ∧
      command name special = .ok described ∧
      assemble described general special = invocation := by
  cases texts with
  | nil => cases read
  | cons text texts =>
      cases named : CommandName.ofWord? text with
      | some name =>
          rw [← word_of_ofWord? named] at read ⊢
          rcases (readGeneral_word ready unseparated name).mp read with
            ⟨told, special, described, isTold, rest⟩
          exact ⟨told, [], name, texts, told, special, described, isTold, .named name texts, rfl,
            rest⟩
      | none =>
          rw [readGeneral_cons ready unseparated, named] at read
          split at read
          · cases read
          · rcases bind_eq_ok_iff.mp read with ⟨after, first, later⟩
            by_cases plain : Word.of text = .plain
            · rw [Reader.read_eq_readPlain ready (.inr plain)] at first
              cases (Reader.told_of_readPlain first).1
            · by_cases separator : Word.of text = .separator
              · rw [Reader.read_separator unseparated separator] at first
                cases first
                exact absurd later (readGeneral_of_separated rfl)
              · rcases continues_readGeneral.exists_option unseparated plain separator first later
                  with ⟨words, item, behind, told, next, whole, option, isTold, nextReady,
                    nextUnseparated, taken, rest⟩
                have shorter := option.length_lt whole
                rcases exists_asks_of_readGeneral behind nextReady nextUnseparated rest with
                  ⟨collected, items, name, last, general, special, described, isNext, asks, all,
                    rest⟩
                rw [whole]
                exact ⟨told, item :: items, name, last, general, special, described, isTold,
                  .option option asks,
                  Collected.foldlM_take_cons_iff.mpr ⟨collected, taken.trans isNext, all⟩, rest⟩
termination_by texts.length
decreasing_by all_goals simp_all

theorem readGeneral_of_asks {items : List Item} {name : CommandName} {behind : List String}
    (asks : Asks texts items name behind) {told general special : Collected} {described : Command}
    (unseparated : reader.separated = false) (isTold : reader.told = .ok told)
    (all : items.foldlM Collected.take told = .ok general)
    (read : Reader.readAll (.command name) {} behind = .ok special)
    (isDescribed : command name special = .ok described) :
    readGeneral reader texts = .ok (assemble described general special) := by
  induction asks generalizing reader told with
  | named name behind =>
      cases all
      exact (readGeneral_word (Reader.awaitsValue_of_told isTold) unseparated name).mpr
        ⟨general, special, described, isTold, read, isDescribed, rfl⟩
  | option option _ ih =>
      rcases Collected.foldlM_take_cons_iff.mp all with ⟨next, first, later⟩
      rcases continues_readGeneral.exists_behind option unseparated isTold first with
        ⟨after, stillUnseparated, isNext, same⟩
      rw [same]
      exact ih stillUnseparated isNext later read isDescribed

end

/-- A command line is read as an invocation exactly if it describes it. -/
theorem parse_eq_ok_iff {texts : List String} {invocation : Invocation} :
    Invocation.parse texts = .ok invocation ↔ Describes texts invocation := by
  constructor
  · intro parsed
    rcases exists_asks_of_readGeneral texts rfl rfl parsed with
      ⟨_, items, name, behind, general, special, described, isTold, asks, all, read, isDescribed,
        rfl⟩
    cases isTold
    rcases Reader.exists_spells_of_readAll behind rfl read with ⟨_, items', isTold, spells, all'⟩
    cases isTold
    exact .intro asks all spells all' isDescribed
  · rintro ⟨asks, all, spells, all', isDescribed⟩
    exact readGeneral_of_asks asks rfl rfl all (Reader.readAll_of_spells spells rfl rfl all')
      isDescribed

/-! ## One reading -/

section

variable {scope : Scope} {words words' texts texts' : List String} {item item' : Item}

theorem IsOption.unique (option : IsOption scope words item) (option' : IsOption scope words' item')
    (same : words ++ texts = words' ++ texts') : item = item' ∧ texts = texts' := by
  cases option <;> cases option' <;> simp_all

theorem IsOption.append_ne_cons (option : IsOption scope words item) {text : String}
    (other : Word.of text = .plain ∨ Word.of text = .separator) :
    words ++ texts ≠ text :: texts' := by
  intro same
  cases option <;> simp_all

theorem not_separator_of_plain {text : String} (plain : false = true ∨ Word.of text = .plain) :
    Word.of text ≠ .separator := by
  rw [plain.resolve_left Bool.false_ne_true]
  exact nofun

/-- The words of a scope say the same however they are read. -/
theorem Spells.unique {separated : Bool} {items items' : List Item}
    (spells : Spells scope separated texts items) (spells' : Spells scope separated texts items') :
    items = items' := by
  induction spells generalizing items' with
  | nil =>
      generalize whole : [] = texts' at spells'
      cases spells' with
      | nil => rfl
      | option option' => cases option' <;> cases whole
      | plain | separator => cases whole
  | @option words texts item items option _ ih =>
      generalize whole : words ++ texts = texts' at spells'
      cases spells' with
      | nil => cases option <;> cases whole
      | option option' later =>
          rcases option.unique option' whole with ⟨rfl, rfl⟩
          rw [ih later]
      | plain _ plain =>
          exact absurd whole (option.append_ne_cons (.inl (plain.resolve_left Bool.false_ne_true)))
      | separator word => exact absurd whole (option.append_ne_cons (.inr word))
  | @plain separated text texts items encodes plain _ ih =>
      generalize whole : text :: texts = texts' at spells'
      cases spells' with
      | nil => cases whole
      | option option' =>
          exact absurd whole.symm
            (option'.append_ne_cons (.inl (plain.resolve_left Bool.false_ne_true)))
      | plain _ _ later =>
          cases whole
          rw [ih later]
      | separator word =>
          cases whole
          exact absurd word (not_separator_of_plain plain)
  | @separator text texts items word _ ih =>
      generalize whole : text :: texts = texts' at spells'
      cases spells' with
      | nil => cases whole
      | option option' => exact absurd whole.symm (option'.append_ne_cons (.inr word))
      | plain _ plain =>
          cases whole
          exact absurd word (not_separator_of_plain plain)
      | separator _ later =>
          cases whole
          exact ih later

/-- A command line asks for one command, behind the same general options, however it is
read. -/
theorem Asks.unique {items items' : List Item} {name name' : CommandName}
    {behind behind' : List String} (asks : Asks texts items name behind)
    (asks' : Asks texts items' name' behind') :
    items = items' ∧ name = name' ∧ behind = behind' := by
  induction asks generalizing items' with
  | named name behind =>
      generalize whole : name.word :: behind = texts' at asks'
      cases asks' with
      | named =>
          rcases List.cons.inj whole with ⟨word, rfl⟩
          have same : name = name' := by
            cases name <;> cases name' <;> first | rfl | exact absurd word (by decide)
          exact ⟨rfl, same, rfl⟩
      | option option' => exact absurd whole.symm (option'.append_ne_cons (.inl name.plain_word))
  | @option words texts item items name behind option _ ih =>
      generalize whole : words ++ texts = texts' at asks'
      cases asks' with
      | named => exact absurd whole (option.append_ne_cons (.inl name'.plain_word))
      | option option' later =>
          rcases option.unique option' whole with ⟨rfl, rfl⟩
          rcases ih later with ⟨rfl, rest⟩
          exact ⟨rfl, rest⟩

end

end Announce.Arguments
