/-!
# Words of a command line

Dashes at the front of a word tell whether it is an option or a plain word.
-/

namespace Announce.Arguments

/-- How a word is read in front of the separator. -/
inductive Word where
  /-- Two dashes: all words after it are plain. -/
  | separator
  /-- A name behind two dashes, and what follows the first equals sign. -/
  | long (name : String) (value : Option String)
  /-- Letters behind one dash. -/
  | letters (first : Char) (rest : List Char)
  /-- Any other word. -/
  | plain
deriving DecidableEq, Repr

/-- Split the characters of an option at the first equals sign. -/
def Word.ofOption (characters : List Char) : Word :=
  let name := String.ofList (characters.takeWhile (· != '='))
  match characters.dropWhile (· != '=') with
  | [] => .long name none
  | _ :: value => .long name (some (String.ofList value))

/-- Find out how a word is read. -/
def Word.of (text : String) : Word :=
  match text.toList with
  | ['-', '-'] => .separator
  | '-' :: '-' :: option => Word.ofOption option
  | '-' :: first :: rest => .letters first rest
  | _ => .plain

end Announce.Arguments
