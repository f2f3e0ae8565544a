import LintRun.Shell.Records.Token

/-!
# Shell — The record processor: reading scripts

The grammar of scripts.

* `readScript`: the script of a text, or the messages about what is wrong with it.
-/

namespace LintRun.Shell
namespace Records

/-- What a name stands for. -/
inductive Kind
  | scalar
  | array
  deriving DecidableEq, Repr

/-- A call of a function: how many arguments it has, and its line. -/
structure Call where
  name : String
  count : Nat
  line : Nat

/-- What is left of the tokens, and what has been learned from the others. -/
structure Reading where
  rest : List Lexeme
  /-- What messages name before the line. -/
  label : String := ""
  remarks : List String := []
  kinds : List (String × Kind) := [("ENVIRON", .array), ("ARGV", .array)]
  /-- The parameters of the function that is being read. -/
  locals : Option (List (String × Option Kind)) := none
  functions : List (String × Function) := []
  calls : List Call := []
  loops : Nat := 0
  /-- There are records here, so that one can go on to the next one. -/
  amongRecords : Bool := false

/-- A step of a reader; a fault is a message. -/
abbrev Read := StateT Reading (Except (List String))

namespace Read

def headOf (label : String) (line : Nat) : String := label ++ "line " ++ toString line ++ ": "

/-- Says something that does not end the reading. -/
def remarkAt (line : Nat) (text : String) : Read Unit :=
  modify fun r => { r with remarks := (headOf r.label line ++ text) :: r.remarks }

/-- Ends the reading with messages. -/
def stop (texts : List String) : Read α := fun r => .error (r.remarks.reverse ++ texts)

def failAt (line : Nat) (text : String) : Read α := do stop [headOf (← get).label line ++ text]

/-- Notes the remarks in front of the next token. -/
def settle : Nat → Read Unit
  | 0 => pure ()
  | fuel + 1 => do
    match (← get).rest with
    | ⟨.remark text, line, _, _⟩ :: rest => do
      remarkAt line text
      modify fun r => { r with rest }
      settle fuel
    | _ => pure ()

/-- The next token, which stays. -/
def peekLexeme : Read Lexeme := do
  settle ((← get).rest.length)
  match (← get).rest with
  | ⟨.fault bare text, line, _, _⟩ :: _ =>
    if bare then stop [(← get).label ++ toString line ++ ": " ++ text] else failAt line text
  | l :: _ => pure l
  | [] => pure ⟨.finish, 1, 0, 0⟩

def peek : Read Token := do pure (← peekLexeme).token

def advance : Read Unit := modify fun r => { r with rest := r.rest.drop 1 }

/-- The token does not fit. -/
def misfit : Read α := do
  let l ← peekLexeme
  let ends : Bool := match l.token with
    | .newline | .semicolon | .closing | .finish => true
    | .mark m => m = "\x7d"
    | _ => false
  if ends && 0 < l.brackets then failAt l.line ("missing ) near " ++ l.token.shown)
  else match l.token with
    | .finish =>
      if 0 < l.braces then failAt l.line "missing \x7d near end of file"
      else failAt l.line "syntax error at or near end of file"
    | t => failAt l.line ("syntax error at or near " ++ t.shown)

def isMark (m : String) : Read Bool := do
  match ← peek with
  | .mark n => pure (n = m)
  | _ => pure false

def isWord (w : String) : Read Bool := do
  match ← peek with
  | .word v => pure (v = w)
  | _ => pure false

def expect (m : String) : Read Unit := do if ← isMark m then advance else misfit

def takeMark (m : String) : Read Bool := do
  if ← isMark m then do
    advance
    pure true
  else pure false

/-- Newlines are passed over. -/
def passNewlines : Nat → Read Unit
  | 0 => pure ()
  | fuel + 1 => do
    match ← peek with
    | .newline => do
      advance
      passNewlines fuel
    | _ => pure ()

/-- The end of a statement. -/
def separator : Read Unit := do
  match ← peek with
  | .newline | .semicolon | .closing => advance
  | _ => misfit

/-! ### Names -/

/-- A name is used as what it has to be. -/
def useAs (kind : Kind) (name : String) : Read Unit := do
  let line := (← peekLexeme).line
  let r ← get
  let refuse (own : Kind) : Read Unit := do
    let what := if own = .array then "array " else "variable "
    failAt line ("illegal reference to " ++ what ++ name)
  match r.locals.bind fun ls => ls.lookup name with
  | some own =>
    match own with
    | some k => if k ≠ kind then refuse k
    | none =>
      let settled (ls : List (String × Option Kind)) : List (String × Option Kind) :=
        ls.map fun (n, k) => if n = name then (n, some kind) else (n, k)
      set { r with locals := r.locals.map settled }
  | none =>
    match r.kinds.lookup name with
    | some k => if k ≠ kind then refuse k
    | none => set { r with kinds := (name, kind) :: r.kinds }

def searched (text : String) : Read Regex := do
  let line := (← peekLexeme).line
  match Search.read text.toList with
  | .ok r => pure r
  | .error f => failAt line ("regular expression compile failed (" ++ f.message ++ ")\n" ++ text)

/-- What is searched for; a text that is there already is read now. -/
def asPattern : Expr → Read Expr
  | .text t => .regex <$> searched t
  | e => pure e

/-! ### Expressions -/

/-- An operator between two operands: how tightly it binds, and what it makes. -/
inductive Between
  | conditional
  | either
  | both
  | contains
  | search (negated : Bool)
  | compare (r : Relation)
  | calculate (o : Operation)
  | pipe

def between? (t : Token) : Option (Nat × Between) :=
  match t with
  | .word "in" => some (4, .contains)
  | .mark m =>
    [("?", (1, Between.conditional)), ("||", (2, .either)), ("&&", (3, .both)), ("~", (5, .search false)),
      ("!~", (5, .search true)), ("<", (6, .compare .less)), ("<=", (6, .compare .lessEqual)),
      ("==", (6, .compare .equal)), ("!=", (6, .compare .different)), (">", (6, .compare .greater)),
      (">=", (6, .compare .greaterEqual)), ("+", (8, .calculate .add)), ("-", (8, .calculate .subtract)),
      ("*", (9, .calculate .multiply)), ("/", (9, .calculate .divide)), ("%", (9, .calculate .remainder)),
      ("|", (11, .pipe)), ("^", (12, .calculate .power))].lookup m
  | _ => none

def assignment? (t : Token) : Option (Option Operation) :=
  match t with
  | .mark m =>
    [("=", none), ("+=", some Operation.add), ("-=", some .subtract), ("*=", some .multiply), ("/=", some .divide),
      ("%=", some .remainder), ("^=", some .power)].lookup m
  | _ => none

/-- Whether an operand starts here that is put right behind another one. -/
def startsOperand (t : Token) : Bool :=
  match t with
  | .number _ _ | .text _ _ | .regex _ | .name _ | .called _ | .builtin _ _ => true
  | .word w => w = "getline"
  | .mark m => ["$", "!", "(", "++", "--"].contains m
  | _ => false

/-- How many arguments a function takes. -/
def arity : Builtin → Nat × Nat
  | .index | .arctangent => (2, 2)
  | .substring => (2, 3)
  | .formatted => (1, 255)
  | .random | .time => (0, 0)
  | .seed | .flush => (0, 1)
  | .timeText => (0, 3)
  | _ => (1, 1)

mutual

/-- An expression whose operators bind as tightly as is asked for. -/
def expression (least : Nat) : Nat → Read Expr
  | 0 => misfit
  | fuel + 1 => do
    let left ← operand least fuel
    operators least left fuel
  termination_by structural fuel => fuel

def operators (least : Nat) (left : Expr) : Nat → Read Expr
  | 0 => misfit
  | fuel + 1 => do
    let t ← peek
    match between? t with
    | some (level, b) =>
      if level < least then pure left
      else do
        advance
        let simple (make : Expr → Expr) : Read Expr := do
          let right ← expression (level + 1) fuel
          operators least (make right) fuel
        match b with
        | .conditional => do
          let yes ← expression 0 fuel
          expect ":"
          let no ← expression 1 fuel
          operators least (.conditional left yes no) fuel
        | .either => simple (.either left)
        | .both => simple (.both left)
        | .contains => do
          match ← peek with
          | .name array => do
            advance
            useAs .array array
            operators least (.contains [left] array) fuel
          | _ => misfit
        | .search negated => do
          let right ← asPattern (← expression (level + 1) fuel)
          operators least (.search negated left right) fuel
        | .compare r => simple (.compare r left)
        | .calculate .power => do
          let right ← expression level fuel
          operators least (.calculate .power left right) fuel
        | .calculate o => simple (.calculate o left)
        | .pipe => do
          if ← isWord "getline" then do
            advance
            let target ← place? fuel
            operators least (.take .command (some left) target) fuel
          else misfit
    | none =>
      if least ≤ 7 && startsOperand t then do
        let right ← expression 8 fuel
        operators least (.chained left right) fuel
      else pure left
  termination_by structural fuel => fuel

/-- An operand with the signs in front of it and behind it. -/
def operand (least : Nat) : Nat → Read Expr
  | 0 => misfit
  | fuel + 1 => do
    let signed (make : Expr → Expr) : Read Expr := do
      advance
      make <$> expression 10 fuel
    let stepped (up : Bool) : Read Expr := do
      advance
      let starts : Bool := match ← peek with
        | .name _ | .mark "$" | .mark "(" => true
        | _ => false
      let p ← if starts then primary fuel else misfit
      if p.isPlace then pure (.step up true p) else misfit
    match ← peek with
    | .mark "-" => signed .minus
    | .mark "+" => signed .plus
    | .mark "!" => signed .negated
    | .mark "++" => stepped true
    | .mark "--" => stepped false
    | _ => do
      let e ← primary fuel
      if !e.isPlace then pure e
      else if ← takeMark "++" then pure (.step true false e)
      else if ← takeMark "--" then pure (.step false false e)
      else match assignment? (← peek), decide (least ≤ 7) with
        | some operation, true => do
          advance
          let value ← expression 0 fuel
          pure (.assign operation e value)
        | _, _ => pure e
  termination_by structural fuel => fuel

/-- Something that can be given a value, if it stands here. -/
def place? : Nat → Read (Option Expr)
  | 0 => misfit
  | fuel + 1 => do
    let starts : Bool := match ← peek with
      | .name _ => true
      | .mark m => m = "$"
      | _ => false
    if starts then some <$> primary fuel else pure none
  termination_by structural fuel => fuel

def primary : Nat → Read Expr
  | 0 => misfit
  | fuel + 1 => do
    let l ← peekLexeme
    match l.token with
    | .number x source => do
      if x == 1.0 / 0.0 then remarkAt l.line (source ++ " : decimal overflow")
      if x == 0 && (source.toList.takeWhile fun c => c ≠ 'e' && c ≠ 'E').any fun c => '1' ≤ c && c ≤ '9' then
        remarkAt l.line (source ++ " : decimal underflow")
      advance
      pure (.number x)
    | .text t _ => do
      advance
      pure (.text t)
    | .regex source => do
      let r ← searched source
      advance
      pure (.regex r)
    | .mark "(" => do
      advance
      let first ← expression 0 fuel
      if ← isMark "," then do
        advance
        let more ← list fuel
        expect ")"
        if ← isWord "in" then do
          advance
          match ← peek with
          | .name array => do
            advance
            useAs .array array
            pure (.contains (first :: more) array)
          | _ => misfit
        else misfit
      else do
        expect ")"
        pure first
    | .mark "$" => do
      advance
      match ← peek with
      | .name "NF" => do
        advance
        if ← takeMark "++" then pure (.field (.step true false (.named "NF")))
        else if ← takeMark "--" then pure (.field (.step false false (.named "NF")))
        else pure (.field (.named "NF"))
      | .mark m =>
        if ["++", "--", "-", "+", "!"].contains m then .field <$> operand 12 fuel else .field <$> primary fuel
      | _ => .field <$> primary fuel
    | .name n => do
      advance
      if ← takeMark "[" then do
        useAs .array n
        let keys ← list fuel
        expect "]"
        pure (.element n keys)
      else do
        useAs .scalar n
        pure (.named n)
    | .called n => do
      advance
      expect "("
      let arguments ← if ← isMark ")" then pure [] else callArguments fuel
      expect ")"
      modify fun r => { r with calls := ⟨n, arguments.length, l.line⟩ :: r.calls }
      pure (.call n arguments)
    | .builtin f n => do
      advance
      builtinCall f n fuel
    | .word "getline" => do
      advance
      let target ← place? fuel
      if ← takeMark "<" then do
        let name ← expression 12 fuel
        pure (.take .file (some name) target)
      else pure (.take .input none target)
    | _ => misfit
  termination_by structural fuel => fuel

/-- Expressions with commas between them. -/
def list : Nat → Read (List Expr)
  | 0 => misfit
  | fuel + 1 => do
    let first ← expression 0 fuel
    if ← takeMark "," then do
      let rest ← list fuel
      pure (first :: rest)
    else pure [first]
  termination_by structural fuel => fuel

/-- The arguments of a function; a name alone may stand for an array. -/
def callArguments : Nat → Read (List Expr)
  | 0 => misfit
  | fuel + 1 => do
    let alone? : Option String := match (← get).rest with
      | ⟨.name n, _, _, _⟩ :: ⟨.mark m, _, _, _⟩ :: _ => if m = "," || m = ")" then some n else none
      | _ => none
    let first ← match alone? with
      | some n => do
        advance
        pure (Expr.named n)
      | none => expression 0 fuel
    if ← takeMark "," then do
      let rest ← callArguments fuel
      pure (first :: rest)
    else pure [first]
  termination_by structural fuel => fuel

def builtinCall (f : Builtin) (n : String) : Nat → Read Expr
  | 0 => misfit
  | fuel + 1 => do
    match f with
    | .length => do
      if ← takeMark "(" then do
        if ← takeMark ")" then pure (.builtin f [])
        else do
          let alone? : Option String := match (← get).rest with
            | ⟨.name n, _, _, _⟩ :: ⟨.mark ")", _, _, _⟩ :: _ => some n
            | _ => none
          let e ← match alone? with
            | some n => do
              advance
              pure (Expr.named n)
            | none => expression 0 fuel
          expect ")"
          pure (.builtin f [e])
      else pure (.builtin f [])
    | .split => do
      expect "("
      let text ← expression 0 fuel
      expect ","
      match ← peek with
      | .name array => do
        advance
        useAs .array array
        if ← takeMark "," then do
          let mark ← expression 0 fuel
          expect ")"
          pure (.builtin f [text, .named array, mark])
        else do
          expect ")"
          pure (.builtin f [text, .named array])
      | _ => misfit
    | .locate => do
      expect "("
      let text ← expression 0 fuel
      expect ","
      let pattern ← asPattern (← expression 0 fuel)
      expect ")"
      pure (.builtin f [text, pattern])
    | .substitute _ => do
      expect "("
      let pattern ← asPattern (← expression 0 fuel)
      expect ","
      let new ← expression 0 fuel
      if ← takeMark "," then do
        let target ← match ← place? fuel with
          | some e => pure e
          | none => do
            if ← takeMark "(" then do
              let e ← primary fuel
              expect ")"
              pure e
            else misfit
        expect ")"
        pure (.builtin f [pattern, new, target])
      else do
        expect ")"
        pure (.builtin f [pattern, new, .field (.number 0)])
    | _ => do
      let line := (← peekLexeme).line
      expect "("
      let arguments ← if ← isMark ")" then pure [] else list fuel
      expect ")"
      let (low, high) := arity f
      if arguments.length < low || high < arguments.length then
        remarkAt line ("wrong number of arguments in call to " ++ n)
      pure (.builtin f arguments)
  termination_by structural fuel => fuel

end

/-! ### Statements -/

/-- The arguments of a statement that prints, and where it prints to. -/
def printed (fuel : Nat) : Read (List Expr × Option Target) := do
  let ends : Bool := match ← peek with
    | .newline | .semicolon | .closing | .redirect _ => true
    | _ => false
  let arguments ← if ends then pure []
    else do
      -- brackets around all of the arguments
      let before ← get
      let grouped : Read (Option (List Expr)) := do
        if ← takeMark "(" then do
          let all ← list fuel
          expect ")"
          match ← peek with
          | .newline | .semicolon | .closing | .redirect _ => pure (if all.length = 1 then none else some all)
          | _ => pure none
        else pure none
      match grouped.run before with
      | .ok (some all, after) => do
        set after
        pure all
      | _ => list fuel
  match ← peek with
  | .redirect sign => do
    advance
    let name ← expression 0 fuel
    pure (arguments, some (if sign = "|" then .command name else .file (sign = ">>") name))
  | _ => pure (arguments, none)

/-- A step within a loop. -/
def inLoop (act : Read α) : Read α := do
  modify fun r => { r with loops := r.loops + 1 }
  let a ← act
  modify fun r => { r with loops := r.loops - 1 }
  pure a

mutual

def statement : Nat → Read Statement
  | 0 => misfit
  | fuel + 1 => do
    let l ← peekLexeme
    let tested : Read Expr := do
      advance
      expect "("
      let e ← expression 0 fuel
      expect ")"
      pure e
    let ended (s : Statement) : Read Statement := do
      separator
      pure s
    let value? : Read (Option Expr) := do
      match ← peek with
      | .newline | .semicolon | .closing => pure none
      | _ => some <$> expression 0 fuel
    match l.token with
    | .mark "\x7b" => block fuel
    | .newline | .semicolon | .closing => do
      advance
      pure (.block [])
    | .word "if" => do
      let test ← tested
      passNewlines fuel
      let yes ← statement fuel
      if ← isWord "else" then do
        advance
        let no ← statement fuel
        pure (.conditional test yes no)
      else pure (.conditional test yes (.block []))
    | .word "while" => do
      let test ← tested
      passNewlines fuel
      let body ← inLoop (statement fuel)
      pure (.loop test body)
    | .word "do" => do
      advance
      let body ← inLoop (statement fuel)
      if ← isWord "while" then do
        let test ← tested
        ended (.loopAfter body test)
      else misfit
    | .word "for" => do
      advance
      expect "("
      match (← get).rest with
      | ⟨.name n, _, _, _⟩ :: ⟨.word "in", _, _, _⟩ :: ⟨.name array, _, _, _⟩ :: ⟨.mark ")", _, _, _⟩ :: rest => do
        modify fun r => { r with rest }
        useAs .scalar n
        useAs .array array
        passNewlines fuel
        let body ← inLoop (statement fuel)
        pure (.each n array body)
      | _ => do
        let part (closed : Read Bool) : Read (Option Expr) := do
          if ← closed then pure none else some <$> expression 0 fuel
        let isSemicolon : Read Bool := do
          match ← peek with
          | .semicolon => pure true
          | _ => pure false
        let start ← part isSemicolon
        if ← isSemicolon then advance else misfit
        let test ← part isSemicolon
        if ← isSemicolon then advance else misfit
        let next ← part (isMark ")")
        expect ")"
        passNewlines fuel
        let body ← inLoop (statement fuel)
        pure (.count start test next body)
    | .word "break" => do
      advance
      if (← get).loops = 0 then remarkAt l.line "break statement outside of loop"
      ended .leaveLoop
    | .word "continue" => do
      advance
      if (← get).loops = 0 then remarkAt l.line "continue statement outside of loop"
      ended .nextRound
    | .word "next" => do
      advance
      if !(← get).amongRecords then remarkAt l.line "improper use of next"
      ended .nextRecord
    | .word "nextfile" => do
      advance
      if !(← get).amongRecords then remarkAt l.line "improper use of nextfile"
      ended .nextFile
    | .word "exit" => do
      advance
      let status ← value?
      ended (.finish status)
    | .word "return" => do
      advance
      if (← get).locals.isNone then remarkAt l.line "return outside function body"
      let value ← value?
      ended (.giveBack value)
    | .word "delete" => do
      advance
      match ← peek with
      | .name array => do
        advance
        useAs .array array
        if ← takeMark "[" then do
          let keys ← list fuel
          expect "]"
          ended (.erase array keys)
        else ended (.eraseAll array)
      | _ => misfit
    | .word "print" => do
      advance
      let (arguments, target) ← printed fuel
      ended (.print arguments target)
    | .word "printf" => do
      advance
      let (arguments, target) ← printed fuel
      if arguments.isEmpty then remarkAt l.line "no arguments in call to printf"
      ended (.printFormatted arguments target)
    | _ => do
      let e ← expression 0 fuel
      ended (.expression e)
  termination_by structural fuel => fuel

/-- Statements between braces. -/
def block : Nat → Read Statement
  | 0 => misfit
  | fuel + 1 => do
    expect "\x7b"
    let first ← statement fuel
    let rest ← statements fuel
    expect "\x7d"
    pure (.block (first :: rest))
  termination_by structural fuel => fuel

/-- Statements up to a closing brace. -/
def statements : Nat → Read (List Statement)
  | 0 => misfit
  | fuel + 1 => do
    if ← isMark "\x7d" then pure []
    else do
      let first ← statement fuel
      let rest ← statements fuel
      pure (first :: rest)
  termination_by structural fuel => fuel

end

/-! ### Rules -/

/-- The parameters of a function. -/
def parameters (function : String) : Nat → List String → Read (List String)
  | 0, _ => misfit
  | fuel + 1, names => do
    let l ← peekLexeme
    match l.token with
    | .name n => do
      if names.contains n then remarkAt l.line (n ++ " is duplicated in argument list")
      advance
      if ← takeMark "," then parameters function fuel (n :: names) else pure (n :: names).reverse
    | .called n => do
      if n = function then remarkAt l.line "function parameter cannot be the function"
      misfit
    | _ => misfit

/-- The definition of a function, after the word for it. -/
def definition (fuel : Nat) : Read Unit := do
  let l ← peekLexeme
  let named (name : String) : Read Unit := do
    advance
    if ((← get).functions.lookup name).isSome then failAt l.line ("redefinition of " ++ name)
    expect "("
    let names ← if ← isMark ")" then pure [] else parameters name fuel []
    expect ")"
    passNewlines fuel
    let locals := names.map fun n => (n, none)
    modify fun r => { r with locals := some locals, functions := (name, ⟨names, .block []⟩) :: r.functions }
    let body ← block fuel
    modify fun r =>
      { r with
        locals := none
        functions := r.functions.map fun (n, f) => if n = name then (n, { f with body }) else (n, f) }
  match l.token with
  | .name n | .called n => named n
  | _ => misfit

/-- The rules up to the end, so many of them at most. -/
def rules : Nat → Read (List Rule)
  | 0 => pure []
  | fuel + 1 => do
    let among (records : Bool) : Read Unit := modify fun r => { r with amongRecords := records }
    let rule (moment : When) (action : Statement) : Read (List Rule) := do
      let rest ← rules fuel
      pure (⟨moment, action⟩ :: rest)
    let whole (moment : When) (records : Bool) : Read (List Rule) := do
      among records
      let action ← block fuel
      rule moment action
    match ← peek with
    | .finish => do
      if 0 < (← peekLexeme).braces then misfit
      pure []
    | .word "BEGIN" => do
      advance
      whole .before false
    | .word "END" => do
      advance
      whole .after false
    | .word "function" => do
      advance
      among false
      definition fuel
      rules fuel
    | .mark "\x7b" => whole .always true
    | _ => do
      among true
      let first ← expression 0 fuel
      let moment ← if ← takeMark "," then do
          let last ← expression 0 fuel
          pure (When.between first last)
        else pure (.on first)
      if ← isMark "\x7b" then do
        let action ← block fuel
        rule moment action
      else do
        separator
        rule moment (.print [] none)

/-- Calls of functions have to fit. -/
def checkCalls : Read Unit := do
  let r ← get
  let line := (← peekLexeme).line
  for c in r.calls do
    match r.functions.lookup c.name with
    | none => remarkAt line ("function " ++ c.name ++ " never defined")
    | some f => if f.parameters.length < c.count then remarkAt c.line ("too many arguments in call to " ++ c.name)

def script (fuel : Nat) : Read Script := do
  let rs ← rules fuel
  if (← get).remarks.isEmpty then checkCalls
  let r ← get
  if !r.remarks.isEmpty then stop []
  pure { rules := rs, functions := r.functions }

end Read

/-- The script of a text, or the messages about what is wrong with it. -/
def readScript (label : String) (cs : List Char) : Except (List String) Script :=
  let tokens := Lexeme.scan cs
  ((Read.script (20 * tokens.length + 100)).run { rest := tokens, label }).map Prod.fst

end Records
end LintRun.Shell
