import LintRun.Text.Digit

/-!
# Shell — Quoting

Writing a text as one word of a shell script, whatever characters it holds.

* `quoteWord`: the text itself if it is made of safe characters, else the text between single quotes; a single
  quote inside is put between double quotes of its own.
-/

namespace LintRun.Shell

/-- A character that no shell gives a meaning to. -/
def isSafe (c : Char) : Bool :=
  Text.isAsciiDigit c || Text.isAsciiLetter c || "_@%+=:,./-".toList.contains c

/-- A character between single quotes. -/
def quotedChar (c : Char) : List Char :=
  if c = '\'' then ['\'', '"', '\'', '"', '\''] else [c]

def quoteChars (text : List Char) : List Char :=
  if !text.isEmpty && text.all isSafe then text
  else '\'' :: (text.flatMap quotedChar ++ ['\''])

/-- The text as one word. -/
def quoteWord (text : String) : String := String.ofList (quoteChars text.toList)

end LintRun.Shell
