import LintRun.Shell.Encoding
import LintRun.Shell.Layout

/-!
# Shell — Escapes

Texts as a shell writes them when it shows a value.

* `Escape.ansi`: between quotes after a dollar sign, marks without a shape of their own as escapes.
* `Escape.single`, `Escape.double`: between quotes.
* `Escape.bare`: without quotes, a backslash in front of every mark with a meaning.
* `Escape.reusable`, `Escape.traced`, `Escape.listed`, `Escape.declared`: the form that suits the text best.
-/

namespace LintRun.Shell
namespace Escape

/-- Whether a character has a shape of its own. -/
def isShown (set : Charset) (c : Char) : Bool :=
  (' ' ≤ c && c ≤ '~') || (set = .utf8 && 0xA0 ≤ c.toNat && (Encoding.byte? c).isNone)

/-- Whether a text can only be shown with escapes. -/
def needsAnsi (set : Charset) (text : String) : Bool := !text.toList.all (isShown set)

/-- A byte in three octal digits. -/
def octal (b : UInt8) : List Char :=
  let n := b.toNat
  ['\\', Char.ofNat (48 + n / 64), Char.ofNat (48 + n / 8 % 8), Char.ofNat (48 + n % 8)]

def ansiChar (set : Charset) (c : Char) : List Char :=
  match c with
  | '\x07' => "\\a".toList
  | '\x08' => "\\b".toList
  | '\x1b' => "\\E".toList
  | '\x0c' => "\\f".toList
  | '\n' => "\\n".toList
  | '\r' => "\\r".toList
  | '\t' => "\\t".toList
  | '\x0b' => "\\v".toList
  | '\\' => "\\\\".toList
  | '\'' => "\\'".toList
  | c => if isShown set c then [c] else (Encoding.encodeChar c).flatMap octal

def ansi (set : Charset) (text : String) : String :=
  String.ofList ("$'".toList ++ text.toList.flatMap (ansiChar set) ++ ['\''])

def single (text : String) : String := if text = "'" then "\\'" else Layout.singleQuoted text.toList

/-- Between double quotes, with a backslash in front of the marks that have a meaning there. -/
def double (text : String) : String :=
  let one (c : Char) : List Char := if "\"$\x60\\".toList.contains c then ['\\', c] else [c]
  String.ofList ('"' :: text.toList.flatMap one ++ ['"'])

/-- The marks that a shell gives a meaning to wherever they stand. -/
def isMark (c : Char) : Bool := " \t\n'\"\\|&;()<>!\x7b\x7d*[?]^$\x60".toList.contains c

/-- Whether a text holds a mark with a meaning. -/
def hasMark (text : String) : Bool :=
  let cs := text.toList
  cs.any isMark || cs.head? = some '#' || cs.head? = some '~' ||
    Text.occursIn "=~".toList cs || Text.occursIn ":~".toList cs

/-- A backslash in front of every mark with a meaning; `before` is the character in front. -/
def backslashed (before : Option Char) : List Char → List Char
  | [] => []
  | c :: rest =>
    let guarded := isMark c || c = ',' || (c = '#' && before.isNone) ||
      (c = '~' && (before.isNone || before = some ':' || before = some '='))
    (if guarded then ['\\', c] else [c]) ++ backslashed (some c) rest

/-- Without quotes, as one word. -/
def bare (set : Charset) (text : String) : String :=
  if text = "" then "''" else if needsAnsi set text then ansi set text
  else String.ofList (backslashed none text.toList)

/-- As a word that reads back as the text. -/
def reusable (set : Charset) (text : String) : String := if needsAnsi set text then ansi set text else single text

/-- As a trace shows a word. -/
def traced (set : Charset) (text : String) : String :=
  if text = "" then "''" else if hasMark text then single text
  else if needsAnsi set text then ansi set text else text

/-- As a list of variables shows a value. -/
def listed (set : Charset) (text : String) : String :=
  if needsAnsi set text then ansi set text else if hasMark text then single text else text

/-- As a declaration shows a value. -/
def declared (set : Charset) (text : String) : String := if needsAnsi set text then ansi set text else double text

/-- As a message shows a name. -/
def named (set : Charset) (text : String) : String := if needsAnsi set text then ansi set text else text

/-- Between single quotes, each single quote inside between double quotes. -/
def plain (text : String) : String :=
  let rec go (mark : Char) : List Char → List Char
    | [] => [mark]
    | c :: rest =>
      let own := if c = '\'' then '"' else '\''
      if own = mark then c :: go mark rest else mark :: own :: c :: go own rest
  String.ofList ('\'' :: go '\'' text.toList)

end Escape
end LintRun.Shell
