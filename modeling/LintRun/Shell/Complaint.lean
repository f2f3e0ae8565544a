import LintRun.Shell.Escape
import LintRun.Shell.System

/-!
# Shell — Complaints

What a shell says when something is wrong with a script or with a command that it is to start.

* `faultLines`: the lines about a script that is malformed.
* `unstarted`: the line about a command that cannot be started, and the status for it.
-/

namespace LintRun.Shell

/-- The word that a reader stands behind that has `left` more characters of a line. -/
def wordNear (line : List Char) (left : Nat) : String :=
  let isBlank (c : Char) : Bool := c = ' ' || c = '\t' || c = '\n'
  let before := (line.take (line.length - left + 1)).reverse.dropWhile isBlank
  let word := (before.takeWhile fun c => !" \n\t;|&".toList.contains c).reverse
  String.ofList (if word.isEmpty then before.take 1 else word)

/-- What a shell that names the text says of one that is malformed. The text starts on the line `start`. -/
def faultLinesLong (s : State) (input : String) (start : Nat) (text : List Char) (f : SyntaxFault) : List String :=
  let last := start + text.count '\n'
  let final := if text.getLast? = some '\n' then last else last + 1
  let head (n : Nat) : String :=
    speaker s ++ ": " ++ (if input = "" then "" else input ++ ": ") ++ "line " ++ toString n ++ ": "
  let line := ((Text.splitAt '\n' text)[f.line - start]?).getD []
  let shown := head f.line ++ "\x60" ++ String.ofList line ++ "'"
  match f.trouble with
  | .unexpected t => [head f.line ++ "syntax error near unexpected token \x60" ++ t ++ "'", shown]
  | .listing t => [head f.line ++ "syntax error near unexpected token \x60" ++ t ++ "'", shown]
  | .unclosed mark =>
    [head (if mark = ')' then final else f.line) ++ "unexpected EOF while looking for matching \x60" ++
      String.singleton mark ++ "'"]
  | .openSum | .openListing => [head f.line ++ "unexpected EOF while looking for matching \x60)'"]
  | .ended | .endedWithin _ => [head final ++ "syntax error: unexpected end of file"]
  | .condition remark left =>
    (remark.map fun (n, t) => head n ++ t).toList ++
      [head f.line ++ "syntax error near \x60" ++ wordNear line left ++ "'", shown]
  | .counting remark source =>
    [head f.line ++ "syntax error: " ++ remark, head f.line ++ "syntax error: \x60" ++ source ++ "'"]
  | .functionName | .loopVariable => []

/-- What the other shell says of a text that is malformed. -/
def faultLinesShort (s : State) (start : Nat) (text : List Char) (f : SyntaxFault) : List String :=
  let last := start + text.count '\n'
  let head (n : Nat) : String := messageHead { s with line := n } ++ "Syntax error: "
  let expecting := match f.expected with
    | some "word" => " (expecting word)"
    | some t => " (expecting \"" ++ t ++ "\")"
    | none => ""
  match f.trouble with
  | .unexpected "newline" => [head (f.line + 1) ++ "newline unexpected" ++ expecting]
  | .unexpected t | .listing t =>
    let isMark := (operators .posix).contains t || (reserved .posix).contains t
    let isRedirection := isMark && (t.startsWith "<" || t.startsWith ">")
    [head f.line ++ (if isRedirection then "redirection" else if isMark then "\"" ++ t ++ "\"" else "word") ++
      " unexpected" ++ expecting]
  | .unclosed '\x7d' => [head f.line ++ "Missing '\x7d'"]
  | .unclosed '\x60' => [head last ++ "EOF in backquote substitution"]
  | .unclosed ')' => [head last ++ "end of file unexpected (expecting \")\")"]
  | .openSum => [head last ++ "Missing '))'"]
  | .unclosed _ => [head last ++ "Unterminated quoted string"]
  | .ended | .openListing | .condition _ _ | .counting _ _ => [head last ++ "end of file unexpected" ++ expecting]
  | .endedWithin n => [head n ++ "end of file unexpected" ++ expecting]
  | .functionName => [head f.line ++ "Bad function name"]
  | .loopVariable => [head f.line ++ "Bad for loop variable"]

/-- What a shell says of a text that is malformed. -/
def faultLines (s : State) (input : String) (start : Nat) (text : List Char) (f : SyntaxFault) : List String :=
  match s.dialect with
  | .bash => faultLinesLong s input start text f
  | .posix => faultLinesShort s start text f

/-- What a shell says of a text in place that the end of everything has cut off. -/
def cutOffLine (s : State) (input : String) (cut : Nat × Nat × String) : String :=
  speaker s ++ ": " ++ (if input = "" || input = "-c" then "" else input ++ ": ") ++ "line " ++ toString cut.1 ++
    ": warning: here-document at line " ++ toString cut.2.1 ++ " delimited by end-of-file (wanted \x60" ++ cut.2.2 ++
    "')"

/-- The search path of a shell; without one it looks in the working directory alone. -/
def searchPath (s : State) : String := (value? s "PATH").getD ""

/-- What a shell says of a command that it cannot start, and the status for it. -/
def unstarted (s : State) (name : String) (r : Refusal) : String × Nat :=
  let shown := if s.isBash then Escape.named s.charset name else name
  let isPath := name.toList.contains '/' || searchPath s = ""
  let isFolder := name.toList.contains '/' && fileKind? s.tree name = some .folder
  match r with
  | .noEntry =>
    match s.dialect with
    | .bash => if isPath then (name ++ ": No such file or directory", 127) else (shown ++ ": command not found", 127)
    | .posix => (name ++ ": not found", 127)
  | .notDirectory =>
    match s.dialect with
    | .bash => if isPath then (name ++ ": Not a directory", 126) else (shown ++ ": command not found", 127)
    | .posix => (name ++ ": not found", 127)
  | r => (name ++ ": " ++ if s.isBash && isFolder then Refusal.isDirectory.text else r.text, 126)

end LintRun.Shell
