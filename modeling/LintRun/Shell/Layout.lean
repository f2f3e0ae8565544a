import LintRun.Shell.Command
import LintRun.Text.Digit

/-!
# Shell — Layout

Commands written as text, as a shell shows a function.

* `Layout.shown`: a function over several lines, as it is shown to people.
* `Layout.exported`: a function as other shells get it.
* `Layout.inline`: commands on one line, as they stand within a word.
-/

namespace LintRun.Shell
namespace Layout

/-- What has been written, and how the next line is to be written. -/
structure Sheet where
  text : String := ""
  indentation : Nat := 0
  /-- How much deeper the lines within a command are. -/
  amount : Nat := 4
  /-- How many of the next commands go on where the line is. -/
  joined : Nat := 0
  /-- How many functions are around the command, and how many commands it stands next to another one in. -/
  functions : Nat := 0
  connections : Nat := 0
  /-- Texts in place whose lines have yet to be written, each with the line that ends it. -/
  waiting : List (String × String) := []
  /-- A text in place has just been written. -/
  hasText : Bool := false

abbrev Print := StateM Sheet Unit

def put (text : String) : Print := modify fun s => { s with text := s.text ++ text }

def indent : Print := modify fun s => { s with text := s.text.pushn ' ' s.indentation }

def newline (text : String) : Print := do
  put "\n"
  indent
  put text

def semicolon : Print := do
  let s ← get
  let last := s.text.toList.getLast?
  if s.text ≠ "" && (last = some '&' || last = some '\n') then pure () else put ";"

def deeper (act : Print) : Print := do
  modify fun s => { s with indentation := s.indentation + s.amount }
  act
  modify fun s => { s with indentation := s.indentation - s.amount }

def join : Print := modify fun s => { s with joined := s.joined + 1 }

/-- Writes the lines of texts in place. -/
def putTexts (texts : List (String × String)) : Print := do
  put "\n"
  texts.forM fun (body, ending) => put (body ++ ending ++ "\n")
  modify fun s => { s with hasText := true }

/-- Writes the lines that are waiting, after a connector. -/
def flush (connector : String) : Print := do
  if connector ≠ ";" then put connector
  let waiting := (← get).waiting
  if !waiting.isEmpty then
    putTexts waiting
    if connector ≠ "" && connector ≠ ";" then put " "
    modify fun s => { s with waiting := [] }

def sourceOf (w : Word) : String := String.ofList w.source

def words (separator : String) (ws : List Word) : String := Text.joinWith separator (ws.map sourceOf)

/-- What stands in front of a redirection operator, unless it is the usual descriptor. -/
def handleText (usual : Option Nat) : Option Handle → String
  | some (.number n) => if usual = some n then "" else toString n
  | some (.variable name) => "\x7b" ++ name ++ "\x7d"
  | none => ""

def singleQuoted (cs : List Char) : String :=
  String.ofList ('\'' :: (cs.flatMap fun c => if c = '\'' then "'\\''".toList else [c]) ++ ['\''])

/-- The word that ends a text in place, without its quotes. -/
def endingOf (delimiter : String) : String :=
  let rec bare : List Char → List Char
    | [] => []
    | '\\' :: c :: rest => c :: bare rest
    | c :: rest => if c = '\'' || c = '"' then bare rest else c :: bare rest
  String.ofList (bare delimiter.toList)

/-- A redirection on its line. -/
def redirectText : Redirect → String
  | .mk handle direction target =>
    let target := sourceOf target
    let copy (usual : Nat) (mark : String) : String :=
      let isNumber := target.toList.all fun c => Text.isAsciiDigit c || c = '-'
      (match handle with
        | some h => handleText (if isNumber then none else some usual) (some h)
        | none => if isNumber then toString usual else "") ++ mark ++ target
    match direction with
    | .read => handleText (some 0) handle ++ "< " ++ target
    | .write force => handleText (some 1) handle ++ (if force then ">| " else "> ") ++ target
    | .append => handleText (some 1) handle ++ ">> " ++ target
    | .update => handleText (some 1) handle ++ "<> " ++ target
    | .copyIn => if target = "-" then copy 0 ">&" else copy 0 "<&"
    | .copyOut => copy 1 ">&"
    | .both append => (if append then "&>> " else "&> ") ++ target
    | .line => handleText (some 0) handle ++ "<<< " ++ target
    | .text delimiter dedent quoted =>
      let ending := endingOf delimiter
      handleText (some 0) handle ++ "<<" ++ (if dedent then "-" else "") ++
        if quoted then singleQuoted ending.toList else ending

/-- The lines that belong to a redirection. -/
def placedText? : Redirect → Option (String × String)
  | .mk _ (.text delimiter _ _) body => some (sourceOf body, endingOf delimiter)
  | _ => none

def redirections (rs : List Redirect) : Print := do
  modify fun s => { s with hasText := false }
  put (Text.joinWith " " (rs.map redirectText))
  let texts := rs.filterMap placedText?
  if !texts.isEmpty then
    if 0 < (← get).connections then modify fun s => { s with waiting := texts } else putTexts texts

def judgementText : Judgement → String
  | .word w => "-n " ++ sourceOf w
  | .unary op w => op ++ " " ++ sourceOf w
  | .binary op a b => sourceOf a ++ " " ++ op ++ " " ++ sourceOf b
  | .negated j => "! " ++ judgementText j
  | .grouped j => "( " ++ judgementText j ++ " )"
  | .both a b => judgementText a ++ " && " ++ judgementText b
  | .either a b => judgementText a ++ " || " ++ judgementText b

/-- An element in a list of values. -/
def itemText : Item → List Char
  | .mk none _ w => w.source
  | .mk (some i) append w => '[' :: i.source ++ (if append then "]+=".toList else "]=".toList) ++ w.source

def assignmentText : Assignment → String
  | .mk _ _ _ _ source => String.ofList source

def argumentText : Argument → String
  | .word w => sourceOf w
  | .assignment a => assignmentText a

/-- The commands of a function, and the redirections that hold for all of them. -/
def functionParts : Command → List Command × List Redirect
  | .group body => (body, [])
  | .redirected _ (.group body) redirects => (body, redirects)
  | c => ([c], [])

/-- The end of a function. -/
def closeFunction (redirects : List Redirect) : Print :=
  if redirects.isEmpty then newline "\x7d"
  else do
    newline "\x7d "
    redirections redirects

mutual

/-- A command; those deeper than the bound are passed over. -/
def command : Nat → Command → Print
  | 0, _ => pure ()
  | fuel + 1, c => do
    if 0 < (← get).joined then modify fun s => { s with joined := s.joined - 1 } else indent
    content fuel c

/-- What a command is made of, from where the line is. -/
def content : Nat → Command → Print
  | 0, _ => pure ()
  | fuel + 1, c => do
    match c with
    | .simple _ assignments arguments redirects => do
      let parts := assignments.map assignmentText ++ arguments.map argumentText
      put (Text.joinWith " " parts)
      if !redirects.isEmpty then
        if !parts.isEmpty then put " "
        redirections redirects
    | .redirected _ body redirects => do
      content fuel body
      put " "
      redirections redirects
    | .group body => do
      put "\x7b "
      if (← get).functions = 0 then
        join
        list fuel body
        flush ""
        semicolon
        put " "
      else
        put "\n"
        deeper do
          list fuel body
          flush ""
        put "\n"
        indent
      put "\x7d"
    | .subshell body => do
      put "( "
      join
      list fuel body
      flush ""
      put " )"
    | .branch clauses otherwise => branch fuel clauses otherwise
    | .loop onSuccess condition body => do
      put (if onSuccess then "while " else "until ")
      join
      list fuel condition
      flush ""
      semicolon
      put " do\n"
      deeper do
        list fuel body
        flush ""
      semicolon
      newline "done"
    | .each _ name ws body => loopOver fuel "for" name ws body
    | .menu _ name ws body => loopOver fuel "select" name ws body
    | .count _ start test step body => do
      let part (w : Word) : String :=
        let text := String.ofList (w.source.dropWhile Text.isBlank)
        if text = "" then "1" else text
      put ("for ((" ++ part start ++ "; " ++ part test ++ "; " ++ part step ++ "))")
      newline "do\n"
      deeper (list fuel body)
      flush ""
      semicolon
      newline "done"
    | .select _ w clauses => do
      put ("case " ++ sourceOf w ++ " in ")
      deeper (clausesText fuel clauses)
      newline "esac"
    | .calculate _ w => put ("((" ++ sourceOf w ++ "))")
    | .judge _ j => put ("[[ " ++ judgementText j ++ " ]]")
    | .define _ name body => do
      put ("function " ++ name ++ " () \n")
      indent
      function fuel body
    | .pipeline negated stages => do
      if negated then put "! "
      pipe fuel stages
    | .timed plain body => do
      put (if plain then "time -p " else "time ")
      join
      command fuel body
    | .both a b => connect fuel a " && " b
    | .either a b => connect fuel a " || " b
    | .background body => do
      join
      connected (command fuel body)
      flush " &"

/-- Two commands with a connector between them. -/
def connect : Nat → Command → String → Command → Print
  | 0, _, _, _ => pure ()
  | fuel + 1, a, connector, b => do
    join
    modify fun s => { s with connections := s.connections + 1 }
    command fuel a
    flush connector
    join
    command fuel b
    flush ""
    modify fun s => { s with connections := s.connections - 1 }

/-- A step within a connection. -/
def connected (act : Print) : Print := do
  modify fun s => { s with connections := s.connections + 1 }
  act
  modify fun s => { s with connections := s.connections - 1 }

/-- Commands with bars between them. -/
def pipe : Nat → List Command → Print
  | 0, _ => pure ()
  | _ + 1, [] => pure ()
  | fuel + 1, [c] => do
    join
    command fuel c
  | fuel + 1, c :: rest => do
    join
    connected do
      command fuel c
      flush " |"
      put " "
      pipe fuel rest
      flush ""

/-- Commands one after another. -/
def list : Nat → List Command → Print
  | 0, _ => pure ()
  | _ + 1, [] => pure ()
  | fuel + 1, [c] => command fuel c
  | fuel + 1, c :: rest => do
    modify fun s => { s with connections := s.connections + 1 }
    command fuel c
    let s ← get
    let together := match c with
      | .background _ => true
      | _ => false
    if together then
      put " "
      join
    else
      if s.waiting.isEmpty then
        if s.hasText then modify fun s => { s with hasText := false } else put ";"
      else
        flush (if 0 < s.functions then "" else ";")
        modify fun s => { s with hasText := false }
      if 0 < s.functions then put "\n"
      else
        put " "
        join
    list fuel rest
    flush ""
    modify fun s => { s with connections := s.connections - 1 }

def branch : Nat → List (List Command × List Command) → List Command → Print
  | 0, _, _ => pure ()
  | _ + 1, [], _ => pure ()
  | fuel + 1, (condition, body) :: rest, otherwise => do
    put "if "
    join
    list fuel condition
    semicolon
    put " then\n"
    deeper do
      list fuel body
      flush ""
    if !(rest.isEmpty && otherwise.isEmpty) then
      semicolon
      newline "else\n"
      deeper do
        if rest.isEmpty then list fuel otherwise
        else
          indent
          branch fuel rest otherwise
        flush ""
    semicolon
    newline "fi"

def loopOver : Nat → String → String → Option (List Word) → List Command → Print
  | 0, _, _, _, _ => pure ()
  | fuel + 1, keyword, name, ws, body => do
    put (keyword ++ " " ++ name ++ " in " ++ (ws.map (words " ")).getD "\"$@\"" ++ ";")
    newline "do\n"
    deeper do
      list fuel body
      flush ""
    semicolon
    newline "done"

def clausesText : Nat → List (List Word × List Command × ClauseEnd) → Print
  | 0, _ => pure ()
  | _ + 1, [] => pure ()
  | fuel + 1, (patterns, body, ending) :: rest => do
    newline ""
    put (words " | " patterns ++ ")\n")
    deeper (list fuel body)
    flush ""
    newline (match ending with
      | .stop => ";;"
      | .fallThrough => ";&"
      | .tryNext => ";;&")
    clausesText fuel rest

/-- The body of a function between its braces. -/
def function : Nat → Command → Print
  | 0, _ => pure ()
  | fuel + 1, body => do
    let (commands, redirects) := functionParts body
    put "\x7b \n"
    modify fun s => { s with functions := s.functions + 1 }
    deeper do
      list fuel commands
      flush ""
    modify fun s => { s with functions := s.functions - 1 }
    closeFunction redirects

end

/-- A bound on how deep commands are written. -/
def depth : Nat := 1000

def written (start : Sheet) (act : Print) : String := (act.run start).2.text

/-- A function as people see it. -/
def shown (name : String) (body : Command) : String :=
  written {} do
    put (name ++ " () \n")
    function depth body

/-- A function as other shells get it: its lines are hardly indented, and it starts on the line of the brace. -/
def exported (body : Command) : String :=
  let (commands, redirects) := functionParts body
  written { amount := 0, functions := 1, indentation := 1 } do
    put "() \x7b "
    list depth commands
    flush ""
    modify fun s => { s with functions := 0, indentation := 0 }
    closeFunction redirects

/-- Commands on one line. -/
def inline (body : List Command) : String :=
  written { joined := 1 } (list depth body)

end Layout
end LintRun.Shell
