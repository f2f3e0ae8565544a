import LintRun.Shell.Records.Search
import LintRun.Shell.Records.Value

/-!
# Shell — The record processor: tokens

The tokens of a script, each with its line.

* `Token`: what a token is, and how a message shows it.
* `Lexeme.scan`: the tokens of a text.
-/

namespace LintRun.Shell
namespace Records

inductive Token
  /-- An operator or a bracket. -/
  | mark (text : String)
  | newline
  | semicolon
  /-- The end of a statement in front of a closing brace. -/
  | closing
  | finish
  | word (w : String)
  | name (n : String)
  /-- A name with an opening bracket right behind it. -/
  | called (n : String)
  | builtin (f : Builtin) (n : String)
  | number (x : Float) (source : String)
  | text (t : String) (source : String)
  | regex (source : String)
  /-- Where a statement prints to. -/
  | redirect (sign : String)
  /-- Something that is wrong, but does not end the reading. -/
  | remark (text : String)
  /-- Something wrong that ends the reading; a message about it may lack the word for its line. -/
  | fault (bare : Bool) (text : String)
  deriving Repr

/-- A token as a message shows it. -/
def Token.shown : Token → String
  | .mark t => t
  | .newline => "end of line"
  | .semicolon => ";"
  | .closing => "\x7d"
  | .finish => "end of file"
  | .word w | .name w | .called w | .builtin _ w => w
  | .number _ source | .text _ source => source
  | .regex source => "/" ++ source ++ "/"
  | .redirect sign => sign
  | .remark t | .fault _ t => t

/-- A token, its line, and how many brackets and braces are open in front of it. -/
structure Lexeme where
  token : Token
  line : Nat
  brackets : Nat
  braces : Nat
  deriving Repr

def keywords : List String :=
  ["BEGIN", "END", "function", "if", "else", "while", "for", "do", "break", "continue", "next", "nextfile", "exit",
    "return", "delete", "in", "getline", "print", "printf"]

def builtins : List (String × Builtin) :=
  [("length", .length), ("index", .index), ("substr", .substring), ("split", .split), ("match", .locate),
    ("sub", .substitute false), ("gsub", .substitute true), ("sprintf", .formatted), ("toupper", .upper),
    ("tolower", .lower), ("sin", .sine), ("cos", .cosine), ("atan2", .arctangent), ("exp", .exponential),
    ("log", .logarithm), ("sqrt", .root), ("int", .whole), ("rand", .random), ("srand", .seed), ("system", .system),
    ("close", .close), ("fflush", .flush), ("systime", .time), ("strftime", .timeText), ("mktime", .makeTime)]

def marks : List String :=
  ["+=", "-=", "*=", "/=", "%=", "^=", "==", "<=", ">=", "!=", "!~", "++", "--", "&&", "||", "+", "-", "*", "/", "%",
    "^", "=", "<", ">", "!", "~", "?", ":", "$", "(", ")", "[", "]", "\x7b", "\x7d", ",", "|"]

/-- The characters of a string with its escapes replaced; an unknown one keeps its backslash. -/
def unescaped : Nat → List Char → List Char
  | 0, cs => cs
  | _ + 1, [] => []
  | fuel + 1, '\\' :: rest =>
    match rest with
    | '\n' :: rest => unescaped fuel rest
    | '"' :: rest => '"' :: unescaped fuel rest
    | '\\' :: rest => '\\' :: unescaped fuel rest
    | c :: _ =>
      if "ntfbravx01234567".toList.contains c then
        let (d, more) := Search.readEscape rest
        if d = 'x' then '\\' :: 'x' :: unescaped fuel more else d :: unescaped fuel more
      else '\\' :: c :: unescaped fuel (rest.drop 1)
    | [] => ['\\']
  | fuel + 1, c :: rest => c :: unescaped fuel rest

/-- A text that is given with escapes. -/
def unescapedText (cs : List Char) : String := String.ofList (unescaped (cs.length + 1) cs)

namespace Lexeme

/-- What has been seen of the text around a place. -/
structure Context where
  line : Nat := 1
  last : Option Token := none
  brackets : Nat := 0
  braces : Nat := 0
  /-- A statement that prints has begun. -/
  printing : Bool := false
  functions : List String := []

/-- The characters of a string up to its closing quote, the rest, and the number of lines it takes; nothing if it is
not closed on its line. -/
def stringAt? : List Char → Option (List Char × List Char × Nat)
  | [] | '\n' :: _ => none
  | '"' :: rest => some ([], rest, 0)
  | '\\' :: c :: rest =>
    (stringAt? rest).map fun (body, after, n) => ('\\' :: c :: body, after, if c = '\n' then n + 1 else n)
  | c :: rest => (stringAt? rest).map fun (body, after, n) => (c :: body, after, n)

/-- The characters of a regular expression up to the slash that closes it, and the rest. -/
def regexAt? (inside : Bool) : List Char → Option (List Char × List Char)
  | [] | '\n' :: _ => none
  | '\\' :: '/' :: rest => (regexAt? inside rest).map fun (body, after) => ('/' :: body, after)
  | '\\' :: c :: rest => (regexAt? inside rest).map fun (body, after) => ('\\' :: c :: body, after)
  | '/' :: rest => if inside then (regexAt? inside rest).map fun (body, after) => ('/' :: body, after)
      else some ([], rest)
  | '[' :: ']' :: rest =>
    if inside then (regexAt? false rest).map fun (body, after) => ('[' :: ']' :: body, after)
    else (regexAt? true rest).map fun (body, after) => ('[' :: ']' :: body, after)
  | '[' :: '^' :: ']' :: rest =>
    (regexAt? (!inside) rest).map fun (body, after) => ('[' :: '^' :: ']' :: body, after)
  | c :: rest =>
    let inside := if c = '[' then true else if c = ']' then false else inside
    (regexAt? inside rest).map fun (body, after) => (c :: body, after)

/-- The characters of a number at the front. -/
def numberAt (cs : List Char) : List Char :=
  let whole := cs.takeWhile Text.isAsciiDigit
  let part := match cs.drop whole.length with
    | '.' :: rest => '.' :: rest.takeWhile Text.isAsciiDigit
    | _ => []
  let exponent := match cs.drop (whole.length + part.length) with
    | e :: rest =>
      if e = 'e' || e = 'E' then
        let sign := match rest with
          | s :: _ => if s = '+' || s = '-' then [s] else []
          | [] => []
        let digits := (rest.drop sign.length).takeWhile Text.isAsciiDigit
        if digits.isEmpty then [] else e :: sign ++ digits
      else []
    | [] => []
  whole ++ part ++ exponent

/-- Blanks, comments and continued lines are passed over, and newlines, too, where they do not matter; the answer is
the rest and the number of lines. -/
def passBlanks (newlines : Bool) : List Char → List Char × Nat
  | [] => ([], 0)
  | '\\' :: '\n' :: rest =>
    let (rest, n) := passBlanks newlines rest
    (rest, n + 1)
  | '#' :: rest => passComment newlines rest
  | c :: rest =>
    if c = ' ' || c = '\t' || c = '\r' || c = '\x0c' || c = '\x0b' then passBlanks newlines rest
    else if c = '\n' && newlines then
      let (rest, n) := passBlanks newlines rest
      (rest, n + 1)
    else (c :: rest, 0)
where
  passComment (newlines : Bool) : List Char → List Char × Nat
    | [] => ([], 0)
    | '\n' :: rest =>
      if newlines then
        let (rest, n) := passBlanks newlines rest
        (rest, n + 1)
      else ('\n' :: rest, 0)
    | _ :: rest => passComment newlines rest

/-- Whether a slash divides after a token. -/
def canDivide : Option Token → Bool
  | some (.number _ _) | some (.text _ _) | some (.name _) | some (.regex _) => true
  | some (.word w) => w = "getline"
  | some (.mark m) => m = ")" || m = "]" || m = "++" || m = "--"
  | _ => false

/-- Whether newlines do not matter after a token. -/
def joinsLines : Token → Bool
  | .newline | .semicolon => true
  | .mark m => ["\x7b", "\x7d", "&&", "||", ","].contains m
  | .word w => w = "else" || w = "do"
  | _ => false

/-- The first characters of a text that is not closed. -/
def cutShort (cs : List Char) : String := String.ofList ((cs.takeWhile (· ≠ '\n')).take 11) ++ " ..."

/-- The next token, the rest, and the number of further lines that it takes. -/
def next (k : Context) (cs : List Char) : Token × List Char × Nat :=
  match cs with
  | [] => (.finish, [], 0)
  | c :: rest =>
    if c = '\n' then (.newline, rest, 1)
    else if c = ';' then (.semicolon, rest, 0)
    else if c = '"' then
      match stringAt? rest with
      | some (body, after, n) => (.text (unescapedText body) (String.ofList body), after, n)
      | none => (.fault false ("runaway string constant " ++ cutShort cs), [], 0)
    else if c = '/' && !canDivide k.last then
      match regexAt? false rest with
      | some (body, after) => (.regex (String.ofList body), after, 0)
      | none => (.fault false ("runaway regular expression " ++ cutShort cs), [], 0)
    else if Text.isAsciiDigit c || (c = '.' && rest.head?.any Text.isAsciiDigit) then
      let own := numberAt cs
      (.number (Number.ofText own) (String.ofList own), cs.drop own.length, 0)
    else if Text.isAsciiLetter c || c = '_' then
      let own := cs.takeWhile Text.isNameChar
      let after := cs.drop own.length
      let name := String.ofList own
      let token := match builtins.lookup name with
        | some f => .builtin f name
        | none =>
          if keywords.contains name then .word name
          else if after.head? = some '(' || k.functions.contains name then .called name
          else .name name
      (token, after, 0)
    else
      match marks.find? fun m => m.toList.isPrefixOf cs with
      | none => (.fault true ("unexpected character '" ++ String.singleton c ++ "'"), [], 0)
      | some m =>
        let after := cs.drop m.length
        let outside := k.printing && k.brackets = 0
        if m = ">" && outside then
          match after with
          | '>' :: after => (.redirect ">>", after, 0)
          | _ => (.redirect ">", after, 0)
        else if m = "|" && outside then (.redirect "|", after, 0)
        else if m = ")" && k.brackets = 0 then (.remark "extra ')'", after, 0)
        else if m = "\x7d" then
          let ended : Bool := match k.last with
            | some .newline | some .semicolon | some .closing => true
            | some (.mark b) => b = "\x7d"
            | _ => false
          if k.braces = 0 then (.remark "extra '\x7d'", after, 0)
          else if ended then (.mark m, after, 0)
          else (.closing, cs, 0)
        else (.mark m, after, 0)

/-- The context after a token. -/
def Context.after (k : Context) (t : Token) (lines : Nat) : Context :=
  let isFunction : Bool := match k.last with
    | some (.word w) => w = "function"
    | _ => false
  let k := match t with
    | .remark _ => { k with line := k.line + lines }
    | _ => { k with line := k.line + lines, last := some t }
  match t with
  | .newline | .semicolon | .closing | .redirect _ => { k with printing := false }
  | .word w => if w = "print" || w = "printf" then { k with printing := true } else k
  | .called n => { k with functions := n :: k.functions }
  | .name n => if isFunction then { k with functions := n :: k.functions } else k
  | .mark "(" => { k with brackets := k.brackets + 1 }
  | .mark ")" => { k with brackets := k.brackets - 1 }
  | .mark "\x7b" => { k with braces := k.braces + 1 }
  | .mark "\x7d" => { k with braces := k.braces - 1 }
  | _ => k

/-- The tokens of a text; `fuel` bounds their number. -/
def scanFrom : Nat → Context → List Char → List Lexeme
  | 0, k, _ => [⟨.finish, k.line, k.brackets, k.braces⟩]
  | fuel + 1, k, cs =>
    let (cs, n) := passBlanks false cs
    let k := { k with line := k.line + n }
    let (token, rest, lines) := next k cs
    let here : Lexeme := ⟨token, k.line, k.brackets, k.braces⟩
    match token with
    | .finish | .fault _ _ => [here]
    | _ =>
      let after := k.after token lines
      let closed : Bool := match token with
        | .mark "\x7d" => after.braces = 0
        | .remark _ => after.braces = 0
        | _ => false
      let rest := if closed then
          match passBlanks false rest with
          | (';' :: rest, _) => rest
          | _ => rest
        else rest
      let (rest, more) := if joinsLines token then passBlanks true rest else (rest, 0)
      here :: scanFrom fuel { after with line := after.line + more } rest

/-- The tokens of a text. -/
def scan (cs : List Char) : List Lexeme :=
  let (rest, n) := passBlanks true (cs ++ ['\n'])
  scanFrom (2 * cs.length + 8) { line := n + 1 } rest

end Lexeme
end Records
end LintRun.Shell
