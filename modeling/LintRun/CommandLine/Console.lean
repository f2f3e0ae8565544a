import LintRun.CommandLine.Options
import LintRun.CommandLine.PictureNames
import LintRun.Failure.Problem
import LintRun.Log.Event
import LintRun.Text.Digit
import LintRun.Text.Lower

/-!
# CommandLine — Console

How messages and log events look on a terminal.

* `withPictures`: a text with its pictures in place of their names, which stand between colons; a name that no picture
  has stays.
* `Console.errorLine`, `Console.logLine`: the line of a problem and of an event.
* `Console.refusal`: the frame around what is wrong with a command line.

Texts are shown without the control characters that would move the cursor, with tabs as spaces, and without blanks
at the end of a line. In the line of a problem names of pictures stand for them, and square brackets may be markup, so
a backslash before a bracket that opens no markup is taken for an escape. The lines of an event are broken where they
do not fit the terminal.
-/

namespace LintRun.CommandLine

/-! ### Pictures -/

/-- The picture of a name in small letters. -/
def picture? (name : String) : Option (List Char) :=
  pictureLines.toList.findSome? fun line =>
    (Text.splitAt ' ' line.toList).findSome? fun entry =>
      match Text.cutAt? '=' entry with
      | some (n, codes) =>
        if String.ofList n = name then
          some ((Text.splitAt '-' codes).map fun code => Char.ofNat (Text.numberOf 16 code))
        else none
      | none => none

/-- The endings of a name that ask for the plain or the coloured form of a picture, and the marks for these. -/
def pictureForms : List (String × Char) := [("-emoji", '\ufe0f'), ("-text", '\ufe0e')]

/-- A name without the ending that asks for a form, and the mark for that form. -/
def splitForm (name : List Char) : List Char × List Char :=
  match pictureForms.find? fun (ending, _) => ending.toList.isSuffixOf name with
  | some (ending, mark) => (name.take (name.length - ending.length), [mark])
  | none => (name, [])

/-- What stands in the place of a name between colons. -/
def shownName (name : List Char) : List Char :=
  let (plain, form) := splitForm name
  match picture? (String.ofList (Text.lower plain)) with
  | some picture => picture ++ form
  | none => ':' :: name ++ [':']

/-- A text with its pictures; `name` holds what has been read since a colon, in reverse. -/
def withPicturesFrom (name : Option (List Char)) : List Char → List Char
  | [] =>
    match name with
    | some n => ':' :: n.reverse
    | none => []
  | c :: rest =>
    match name with
    | none => if c = ':' then withPicturesFrom (some []) rest else c :: withPicturesFrom none rest
    | some n =>
      if c = ':' then shownName n.reverse ++ withPicturesFrom none rest
      else if Text.isBlank c then ':' :: n.reverse ++ c :: withPicturesFrom none rest
      else withPicturesFrom (some (c :: n)) rest

/-- A text with its pictures. -/
def withPictures (text : List Char) : List Char := withPicturesFrom none text

/-! ### Lines -/

namespace Console

/-- A control character that a terminal line does not show. -/
def isControl (c : Char) : Bool := c = '\x07' || c = '\x08' || c = '\x0b' || c = '\x0c' || c = '\r'

/-- The distance of tab stops. -/
def tabWidth : Nat := 8

/-- A part of a line before a tab, with spaces up to the next tab stop, one at least; `column` is where the part
starts. -/
def padToStop (column : Nat) (part : List Char) : List Char × Nat :=
  let reached := column + Text.cells (part ++ [' '])
  let missing := (tabWidth - reached % tabWidth) % tabWidth
  (part ++ List.replicate (missing + 1) ' ', reached + missing)

/-- The parts of a line between tabs, with spaces in place of the tabs. -/
def alignParts (column : Nat) : List (List Char) → List Char
  | [] => []
  | [part] => part
  | part :: parts =>
    let (padded, column) := padToStop column part
    padded ++ alignParts column parts

/-- A line with spaces in place of its tabs. -/
def expandTabs (line : List Char) : List Char := alignParts 0 (Text.splitAt '\t' line)

/-- A line without the blanks at its end. -/
def trimEnd (line : List Char) : List Char := (line.reverse.dropWhile Text.isBlank).reverse

/-- The lines of a text as a terminal shows them, with the blanks at their ends. -/
def shownLines (text : String) : List (List Char) :=
  (Text.splitAt '\n' (text.toList.filter fun c => !isControl c)).map expandTabs

/-- Lines as text, without the blanks at their ends. -/
def joinLines (lines : List (List Char)) : String :=
  Text.joinWith "\n" (lines.map fun l => String.ofList (trimEnd l)) ++ "\n"

/-- A text on lines of its own. -/
def lines (text : String) : String := joinLines (shownLines text)

/-! ### Markup -/

/-- Whether a character may follow a bracket that opens markup. -/
def opensMarkup (c : Char) : Bool := ('a' ≤ c && c ≤ 'z') || c = '#' || c = '/' || c = '@'

/-- Whether a text behind an opening bracket is markup: it closes before another bracket opens. -/
def isMarkup : List Char → Bool
  | [] => false
  | c :: rest =>
    opensMarkup c &&
      (match (rest.dropWhile fun x => x ≠ '[' && x ≠ ']').head? with
        | some ']' => true
        | _ => false)

/-- The text without the backslash in front of each bracket that opens no markup. -/
def dropEscapes : List Char → List Char
  | [] => []
  | '\\' :: '[' :: rest =>
    if isMarkup rest then '\\' :: '[' :: dropEscapes rest else '[' :: dropEscapes rest
  | c :: rest => c :: dropEscapes rest

/-- A single backslash at the end of a text is doubled, so that it escapes nothing that follows. -/
def guardEnd (text : List Char) : List Char :=
  match text.reverse with
  | '\\' :: '\\' :: _ => text
  | '\\' :: _ => text ++ ['\\']
  | _ => text

/-- The pieces of a text that are markup, and those between them; `piece` is the one under way in reverse. -/
def markupPieces (piece : List Char) (inside : Bool) : List Char → List (List Char)
  | [] => [piece.reverse]
  | c :: rest =>
    if inside then
      if c = ']' then (c :: piece).reverse :: markupPieces [] false rest else markupPieces (c :: piece) true rest
    else if c = '[' && isMarkup rest then piece.reverse :: markupPieces [c] true rest
    else markupPieces (c :: piece) false rest

/-- A text inside a line with markup. -/
def inMarkup (text : String) : String :=
  String.ofList ((markupPieces [] false (guardEnd text.toList)).flatMap fun piece => withPictures (dropEscapes piece))

/-! ### Lines -/

/-- The line of a problem. -/
def errorLine (message : String) : String := lines ("Error: " ++ inMarkup message ++ "; exiting...")

/-- What a user is told about a problem that ends the run. -/
def problemText (p : Problem) : String :=
  match p.kind with
  | .usage => lines p.message
  | _ => errorLine p.message

/-- The words of a line, each with the blanks behind it and the first also with those before it; `word` is the one
under way in reverse. -/
def wordsFrom (word : List Char) : List Char → List (List Char)
  | [] => if word.isEmpty then [] else [word.reverse]
  | c :: rest =>
    if !Text.isBlank c && word.head?.any Text.isBlank && !word.all Text.isBlank then word.reverse :: wordsFrom [c] rest
    else wordsFrom (c :: word) rest

/-- A line that is being filled: the full lines before it, the last one first, and what it holds so far with the
cells that this takes. -/
structure Filling where
  full : List (List Char) := []
  line : List Char := []
  taken : Nat := 0

/-- A line is full, and the next one holds a text. -/
def Filling.next (f : Filling) (text : List Char) : Filling :=
  { full := if f.line.isEmpty then f.full else f.line :: f.full, line := text, taken := Text.cells text }

/-- One more word, on this line if it fits, else on the next one; a word that fits no line is cut. -/
def Filling.add (width : Nat) (f : Filling) (word : List Char) : Filling :=
  let needed := Text.cells (trimEnd word)
  if f.taken + needed ≤ width then { f with line := f.line ++ word, taken := f.taken + Text.cells word }
  else if width < needed then (Text.chop width word).foldl Filling.next f
  else f.next word

/-- A line in lines of at most so many cells, apart from the blanks at their ends. -/
def wrap (width : Nat) (line : List Char) : List (List Char) :=
  let f := (wordsFrom [] line).foldl (Filling.add width) {}
  (f.line :: f.full).reverse

/-- The width of the column that names the level of an event. -/
def levelWidth : Nat := 8

/-- The width of a terminal line. -/
def lineWidth : Nat := 4000

/-- The lines of an event: the level, a space and the message; further lines of a message are indented. -/
def logLine (e : Event) : String :=
  match (shownLines e.message).flatMap (wrap (lineWidth - (levelWidth + 1))) with
  | [] => ""
  | first :: more =>
    let indent := (Text.padRight (levelWidth + 1) "").toList
    joinLines (((Text.padRight levelWidth e.level.text ++ " ").toList ++ first) :: more.map (indent ++ ·))

/-- Whether events of a level are shown. -/
def isShown (verbose : Bool) : Level → Bool
  | .debug => verbose
  | _ => true

/-- The events that are shown. -/
def logText (verbose : Bool) (events : List Event) : String :=
  String.join ((events.filter fun e => isShown verbose e.level).map logLine)

/-! ### Refused command lines -/

def OptionFault.message : OptionFault → String
  | .unknown name => "No such option: " ++ name
  | .valueMissing name => "Option " ++ Text.quote name ++ " requires an argument."
  | .valueUnwanted name => "Option " ++ Text.quote name ++ " does not take a value."
  | .badValue _ value => "Invalid value: " ++ Text.quote value

/-- The width of the frame. -/
def frameWidth : Nat := 80

def bar (count : Nat) : String := String.ofList (List.replicate count '─')

/-- A line of text between the sides of the frame. -/
def framed (text : String) : String := "│ " ++ Text.padRight (frameWidth - 4) text ++ " │"

/-- What a user is told whose command line is refused. -/
def refusal (f : OptionFault) : String :=
  let title := "╭─ Error "
  let top := title ++ bar (frameWidth - title.length - 1) ++ "╮"
  let bottom := "╰" ++ bar (frameWidth - 2) ++ "╯"
  Text.joinWith "\n" [top, framed (OptionFault.message f), bottom] ++ "\n"

end Console
end LintRun.CommandLine
