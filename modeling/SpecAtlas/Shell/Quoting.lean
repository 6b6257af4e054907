import SpecAtlas.Text.Basic
import SpecAtlas.Text.Word

/-!
# Words of a shell

A word that holds nothing the shell takes as special is written as it is. Any other word, also the
empty one, stands between single quotes; a single quote inside ends them, stands between double
quotes, and begins them anew.
-/

namespace SpecAtlas.Shell

open Text

/-- Whether a character means nothing but itself to the shell. -/
def isPlain (c : Char) : Bool := isAsciiWord c || "@%+=:,./-".toList.contains c

/-- A word as the shell reads it. -/
def quoteWord (word : Text) : Text :=
  if !word.isEmpty && word.all isPlain then word
  else '\'' :: word.flatMap (fun c => if c = '\'' then "'\"'\"'".toList else [c]) ++ ['\'']

/-- Words with a blank between them. -/
def quoteWords (words : List Text) : Text := join [' '] (words.map quoteWord)

end SpecAtlas.Shell
