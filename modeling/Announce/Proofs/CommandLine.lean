import Announce.Proofs.Items

/-!
# Command lines of one command

The words behind the name of a command are read by themselves, and what they say is
all there is if nothing stands in front of the name.
-/

namespace Announce

namespace Arguments

/-- A word that does not begin with a dash is plain. -/
theorem Word.of_eq_plain {text : String} (undashed : text.toList.head? ≠ some '-') :
    Word.of text = .plain := by
  unfold Word.of
  split
  · next dashed => simp [dashed] at undashed
  · next dashed => simp [dashed] at undashed
  · next dashed => simp [dashed] at undashed
  · rfl

/-- An option in two words is given the second one as its value. -/
theorem Reader.readAll_setting {scope : Scope} {setting : Setting} {option text : String}
    {collected : Collected} (dashed : Word.of option = .long setting.word none)
    (known : scope.setting? setting.word = some setting) (plain : Word.of text = .plain)
    (assigned : ({} : Collected).assign text setting = .ok collected) :
    Reader.readAll scope {} [option, text] = .ok collected := by
  have spells : Spells scope false [option, text] [.setting setting text] :=
    .option (.parted dashed known plain) .nil
  exact readAll_of_spells spells rfl rfl
    (Collected.foldlM_take_cons_iff.mpr ⟨collected, assigned, rfl⟩)

end Arguments

open Arguments in
theorem Invocation.parse_word {name : CommandName} {texts : List String} {collected : Collected}
    {command : Command} (read : Reader.readAll (.command name) {} texts = .ok collected)
    (described : Arguments.command name collected = .ok command) :
    Invocation.parse (name.word :: texts) = .ok (assemble command {} collected) :=
  (readGeneral_word rfl rfl name).mpr ⟨{}, collected, command, rfl, read, described, rfl⟩

end Announce
