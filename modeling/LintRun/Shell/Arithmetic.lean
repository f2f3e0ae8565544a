import LintRun.Shell.Parameter

/-!
# Shell — Arithmetic

Integer expressions over the variables of a shell, in words of sixty-four bits. Every operator is applied as soon as
its operands have been read, so that of two faults the first one shows.

* `Arithmetic.evaluate`: the value of an expression, or what is wrong with it.
* `Arithmetic.numeral`: the number that a numeral stands for.
-/

namespace LintRun.Shell.Arithmetic

/-- What is wrong with an expression. -/
inductive Fault
  | operand
  | operator
  | leftover
  | notVariable
  | zeroDivision
  | negativePower
  | expression
  | colon
  | bracket
  | lvalue (mark : String)
  | identifier
  | subscript
  | base
  | digit
  | constant
  | number
  | depth
  | fixed (name : String)
  | unset (name : String)
  | notNumber (text : String)
  deriving DecidableEq, Repr

def Fault.text : Fault → String
  | .operand => "syntax error: operand expected"
  | .operator => "syntax error: invalid arithmetic operator"
  | .leftover => "syntax error in expression"
  | .notVariable => "attempted assignment to non-variable"
  | .zeroDivision => "division by 0"
  | .negativePower => "exponent less than 0"
  | .expression => "expression expected"
  | .colon => "\x60:' expected for conditional expression"
  | .bracket => "missing \x60)'"
  | .lvalue mark => mark ++ ": assignment requires lvalue"
  | .identifier => "identifier expected after pre-increment or pre-decrement"
  | .subscript => "bad array subscript"
  | .base => "invalid arithmetic base"
  | .digit => "value too great for base"
  | .constant => "invalid integer constant"
  | .number => "invalid number"
  | .depth => "expression recursion level exceeded"
  | .fixed name => name ++ ": readonly variable"
  | .unset name => name ++ ": unbound variable"
  | .notNumber text => "Illegal number: " ++ text

/-- The same in the words of a plain shell. -/
def Fault.plainText : Fault → String
  | .zeroDivision => "division by zero"
  | .bracket => "expecting ')'"
  | .colon => "expecting ':'"
  | .leftover | .operator | .notVariable => "expecting EOF"
  | _ => "expecting primary"

/-- A fault, the expression that it is in, and what of it is left from the last token on. -/
structure Trouble where
  fault : Fault
  expression : List Char
  token : List Char
  deriving DecidableEq, Repr

inductive Token
  | finish
  | number
  | name
  | mark (m : String)
  | assign (op : String)
  /-- Adds to the variable after or before it. -/
  | before (amount : Int)
  | after (amount : Int)
  deriving DecidableEq, Repr

/-- A variable or an element of one. -/
structure Target where
  name : String
  subscript : Option String := none
  deriving DecidableEq, Repr

/-- An expression that is being read. -/
structure Gauge where
  text : List Char
  rest : List Char
  /-- What is left from the last token on. -/
  last : List Char := []
  token : Token := .finish
  previous : Token := .finish
  value : Int := 0
  target : Target := ⟨"", none⟩
  /-- Values do not matter here. -/
  skipping : Bool := false

abbrev Calc (α : Type) := StateT Gauge (ExceptT Trouble (ExceptT Flow (StateM State))) α

def act (a : Act α) : Calc α := fun g => ExceptT.lift (a >>= fun x => pure (x, g))

def fail (fault : Fault) : Calc α := do
  let g ← get
  throw ⟨fault, g.text, g.last⟩

/-- The number as a word of sixty-four bits with a sign. -/
def word (n : Int) : Int := n.bmod (Nat.pow 2 64)

def truth (b : Bool) : Int := if b then 1 else 0

/-- The bits of a word as a natural number. -/
def bits (n : Int) : Nat := (n % Int.pow 2 64).toNat

/-- A binary operator on two values, the second of which is no zero where that matters. -/
def apply (op : String) (a b : Int) : Int :=
  match op with
  | "+" => word (a + b)
  | "-" => word (a - b)
  | "*" => word (a * b)
  | "/" => word (Int.tdiv a b)
  | "%" => word (Int.tmod a b)
  | "<" => truth (a < b)
  | ">" => truth (b < a)
  | "<=" => truth (a ≤ b)
  | ">=" => truth (b ≤ a)
  | "==" => truth (a = b)
  | "!=" => truth (a ≠ b)
  | "&" => word (Int.ofNat (bits a &&& bits b))
  | "|" => word (Int.ofNat (bits a ||| bits b))
  | "^" => word (Int.ofNat (bits a ^^^ bits b))
  | "<<" => word (a * Int.pow 2 (b % 64).toNat)
  | ">>" => Int.fdiv a (Int.pow 2 (b % 64).toNat)
  | _ => b

/-- The binary operators, those that bind weakest first. -/
def levels : List (List String) :=
  [["||"], ["&&"], ["|"], ["^"], ["&"], ["==", "!="], ["<=", ">=", "<", ">"], ["<<", ">>"], ["+", "-"],
    ["*", "/", "%"]]

/-- The value of a digit, letters of both cases being different ones in large bases. -/
def digitOf (base : Nat) (c : Char) : Nat :=
  if Text.isAsciiDigit c then c.toNat - 48
  else if 'a' ≤ c && c ≤ 'z' then c.toNat - 87
  else if 'A' ≤ c && c ≤ 'Z' then c.toNat - (if base ≤ 36 then 55 else 29)
  else if c = '@' then 62
  else 63

/-- The number of some digits. -/
def digitsValue (base : Nat) (cs : List Char) : Except Fault Int :=
  cs.foldlM (fun n c => if base ≤ digitOf base c then .error .digit else .ok (n * base + digitOf base c)) (0 : Int)

/-- The number that a numeral stands for: hexadecimal after `0x`, octal after `0`, or in a base that is named. -/
def numeral (cs : List Char) : Except Fault Int :=
  match cs with
  | '0' :: x :: rest =>
    if x = 'x' || x = 'X' then if rest.contains '#' then .error .number else digitsValue 16 rest
    else if cs.contains '#' then .error .number
    else digitsValue 8 (x :: rest)
  | _ =>
    match Text.cutAt? '#' cs with
    | some (base, digits) =>
      match digitsValue 10 base with
      | .ok b =>
        if b < 2 || 64 < b then .error .base
        else if digits.isEmpty then .error .constant
        else if digits.contains '#' then .error .number
        else digitsValue b.toNat digits
      | .error f => .error f
    | none => digitsValue 10 cs

/-- The numeral at the front of a text in a plain shell: its base, its digits, and what comes behind. It ends before
what its base has no digit for. -/
def plainNumeral (cs : List Char) : Nat × List Char × List Char :=
  let inBase (base : Nat) (cs : List Char) : Nat × List Char × List Char :=
    let digits := cs.takeWhile fun c => (Text.digitIn? base c).isSome
    (base, digits, cs.drop digits.length)
  match cs with
  | '0' :: x :: rest =>
    let (base, digits, behind) := inBase 16 rest
    if (x = 'x' || x = 'X') && !digits.isEmpty then (base, digits, behind) else inBase 8 cs
  | _ => inBase 10 cs

/-- The largest number. -/
def largest : Int := Int.pow 2 63 - 1

/-- The number of a value in a plain shell; none if it is out of range. -/
def plainNumber? (text : List Char) : Option Int :=
  let text := text.dropWhile Text.isPlainBlank
  let (negative, body) := Text.takeSign text
  let (base, digits, behind) := plainNumeral body
  let n : Int := if negative then -Text.numberOf base digits else Text.numberOf base digits
  let behind := if digits.isEmpty then text else behind
  if behind.all Text.isPlainBlank && -largest - 1 ≤ n && n ≤ largest then some n else none

/-- The operators of one character that may follow an operand, and those of several that tokens stand for. -/
def isOperator (c : Char) : Bool := "+-*/%<>=!&|^~?:(),".toList.contains c

/-- The operators of two and three characters, longer ones first. -/
def longMarks : List String :=
  ["<<=", ">>=", "==", "!=", ">=", "<=", "<<", ">>", "&&", "||", "**", "*=", "/=", "%=", "+=", "-=", "&=", "^=", "|="]

mutual

/-- The value of an expression with so many more within it. -/
def evaluateWithin : Nat → List Char → ExceptT Trouble (ExceptT Flow (StateM State)) Int
  | 0, text => throw ⟨.depth, text, text⟩
  | fuel + 1, text => do
    if (← getThe State).isBash && text.all Text.isPlainBlank then pure 0
    else
      let (n, _) ← (do
        readToken fuel
        let n ← sequence fuel
        if (← get).token ≠ .finish then fail .leftover else pure n : Calc Int).run { text, rest := text }
      pure n

/-- Moves on to the next token. -/
def readToken : Nat → Calc Unit
  | 0 => fail .depth
  | fuel + 1 => do
    let g ← get
    let cs := g.rest.dropWhile Text.isPlainBlank
    let bash := (← act get).isBash
    let step (token : Token) (size : Nat) : Calc Unit :=
      set { g with rest := cs.drop size, last := cs, previous := g.token, token }
    match cs with
    | [] => set { g with rest := [], previous := g.token, token := .finish }
    | c :: next =>
      if Text.isNameStart c then
        let name := c :: next.takeWhile Text.isNameChar
        let rest := cs.drop name.length
        let target : Target := ⟨String.ofList name, none⟩
        let here : Gauge := { g with last := cs, rest }
        let (target, rest) ← match bash, rest with
          | true, '[' :: inner =>
            match closingLength '[' ']' 0 inner with
            | some n => pure ({ target with subscript := some (String.ofList (inner.take n)) }, inner.drop (n + 1))
            | none => do
              set here
              fail .subscript
          | _, _ => pure (target, rest)
        set { here with rest, target, previous := g.token, token := .name }
        let behind := rest.dropWhile Text.isPlainBlank
        let isAssigned := behind.head? = some '=' && (behind.drop 1).head? ≠ some '='
        let isStepped := match g.token with
          | .before _ => true
          | _ => false
        let n ← if isAssigned && !isStepped then pure 0 else look fuel target
        modify fun g => { g with value := n }
      else if Text.isAsciiDigit c then
        if bash then
          let own := cs.takeWhile fun c => Text.isNameChar c || c = '#' || c = '@'
          step .number own.length
          match numeral own with
          | .ok n => modify fun g => { g with value := word n }
          | .error f => fail f
        else
          let (base, digits, behind) := plainNumeral cs
          step .number (cs.length - behind.length)
          modify fun g => { g with value := min largest (Text.numberOf base digits) }
      else if bash && (c = '+' || c = '-') && next.head? = some c then
        let amount : Int := if c = '+' then 1 else -1
        let behind := (next.drop 1).dropWhile Text.isPlainBlank
        if g.token = .name then step (.after amount) 2
        else if g.token = .number && (g.previous = .before 1 || g.previous = .before (-1)) then
          set { g with last := cs }
          fail (.lvalue (String.ofList [c, c]))
        else if behind.head?.any Text.isNameStart then step (.before amount) 2
        else step (.mark (String.singleton c)) 1
      else
        let marks := if bash then longMarks else longMarks.filter (· ≠ "**")
        match marks.find? fun m => m.toList.isPrefixOf cs with
        | some m =>
          if m.endsWith "=" && ! ["==", "!=", ">=", "<="].contains m then step (.assign (m.dropEnd 1).toString) m.length
          else step (.mark m) m.length
        | none =>
          if c = '=' then step (.assign "") 1
          else if isOperator c then step (.mark (String.singleton c)) 1
          else do
            set { g with last := cs, rest := next }
            let afterOperand := match g.token with
              | .number | .name | .after _ => true
              | .mark m => m = ")"
              | _ => false
            fail (if afterOperand then .operator else .operand)

/-- The value of a variable, which may be an expression again. -/
def look : Nat → Target → Calc Int
  | 0, _ => fail .depth
  | fuel + 1, target => do
    if (← get).skipping then pure 0
    else
      let s ← act get
      let value ← match target.subscript with
        | none => pure (parameter s target.name)
        | some subscript => do
          let key ← keyOf fuel target.name subscript
          pure ((binding? s target.name).bind fun v => v.content.get? key)
      match value with
      | none => if s.has "nounset" then fail (.unset target.name) else pure 0
      | some text =>
        match s.dialect with
        | .bash => fun g => do
          let n ← evaluateWithin fuel text.toList
          pure (n, g)
        | .posix =>
          match plainNumber? text.toList with
          | some n => pure (word n)
          | none => fail (.notNumber text)

/-- The key that a subscript stands for. -/
def keyOf : Nat → String → String → Calc Key
  | 0, _, _ => fail .depth
  | fuel + 1, name, subscript => do
    let s ← act get
    match (binding? s name).map Variable.content with
    | some (.table _) => pure (.name subscript)
    | content => fun g => do
      let n ← evaluateWithin fuel subscript.toList
      let n := if n < 0 then n + ((content.map Content.nextNumber).getD 0 : Nat) else n
      if n < 0 then throw ⟨.subscript, g.text, g.last⟩ else pure (.number n.toNat, g)

/-- Gives a variable a number. -/
def bind : Nat → Target → Int → Calc Unit
  | 0, _, _ => fail .depth
  | fuel + 1, target, n => do
    if (← get).skipping then pure ()
    else
      let key ← match target.subscript with
        | none => pure none
        | some subscript => some <$> keyOf fuel target.name subscript
      let s ← act get
      if (lookVariable s (resolve s target.name)).any Variable.fixed then fail (.fixed target.name)
      else
        let _ ← act (store target.name key (toString n))

/-- Expressions with commas between them. -/
def sequence : Nat → Calc Int
  | 0 => fail .depth
  | fuel + 1 => do
    let n ← assignment fuel
    if (← get).token = .mark "," && (← act get).isBash then
      readToken fuel
      sequence fuel
    else pure n

/-- A whole expression: an assignment or a choice. -/
def assignment : Nat → Calc Int
  | 0 => fail .depth
  | fuel + 1 => do
    let n ← choice fuel
    let g ← get
    match g.token with
    | .assign op =>
      if g.previous ≠ .name then fail .notVariable
      else
        let target := g.target
        readToken fuel
        let m ← assignment fuel
        let r ←
          if op = "" then pure m
          else if (op = "/" || op = "%") && m = 0 then
            if (← get).skipping then pure 0 else fail .zeroDivision
          else pure (apply op n m)
        bind fuel target r
        pure r
    | _ => pure n

/-- Values that do not matter. -/
def skipped : Nat → Bool → Calc Int → Calc Int
  | 0, _, _ => fail .depth
  | _ + 1, skip, c => do
    let before := (← get).skipping
    if skip then modify fun g => { g with skipping := true }
    let n ← c
    modify fun g => { g with skipping := before }
    pure n

def choice : Nat → Calc Int
  | 0 => fail .depth
  | fuel + 1 => do
    let test ← level fuel levels
    if (← get).token = .mark "?" then
      let yes ← skipped fuel (test = 0) do
        readToken fuel
        if (← get).token = .finish || (← get).token = .mark ":" then fail .expression
        sequence fuel
      if (← get).token ≠ .mark ":" then fail .colon
      let no ← skipped fuel (test ≠ 0) do
        readToken fuel
        if (← get).token = .finish then fail .expression
        choice fuel
      modify fun g => { g with previous := .mark "?" }
      pure (if test = 0 then no else yes)
    else pure test

/-- Operands of the next level with the operators of the first level between them. -/
def level : Nat → List (List String) → Calc Int
  | 0, _ => fail .depth
  | fuel + 1, [] => power fuel
  | fuel + 1, ops :: tighter => do
    let n ← level fuel tighter
    operands fuel ops tighter n

/-- The operators of a level after their first operand. -/
def operands : Nat → List String → List (List String) → Int → Calc Int
  | 0, _, _, _ => fail .depth
  | fuel + 1, ops, tighter, n => do
    let g ← get
    match g.token with
    | .mark op =>
      if !ops.contains op then pure n
      else if op = "&&" || op = "||" then
        let m ← skipped fuel (if op = "&&" then n = 0 else n ≠ 0) do
          readToken fuel
          level fuel tighter
        modify fun g => { g with previous := .mark op }
        operands fuel ops tighter (truth (if op = "&&" then n ≠ 0 && m ≠ 0 else n ≠ 0 || m ≠ 0))
      else
        let divisor := g.rest.dropWhile Text.isPlainBlank
        readToken fuel
        let m ← level fuel tighter
        if (op = "/" || op = "%") && m = 0 && !(← get).skipping then
          modify fun g => { g with last := divisor }
          fail .zeroDivision
        modify fun g => { g with previous := .number }
        operands fuel ops tighter (apply op n (if m = 0 && (op = "/" || op = "%") then 1 else m))
    | _ => pure n

/-- Powers, which bind from the right. -/
def power : Nat → Calc Int
  | 0 => fail .depth
  | fuel + 1 => do
    let n ← unary fuel
    if (← get).token = .mark "**" then
      readToken fuel
      let m ← power fuel
      modify fun g => { g with previous := .number }
      if m < 0 then fail .negativePower else pure (word (Int.pow n m.toNat))
    else pure n

def unary : Nat → Calc Int
  | 0 => fail .depth
  | fuel + 1 => do
    match (← get).token with
    | .mark op =>
      if ["!", "~", "-", "+"].contains op then
        readToken fuel
        let n ← unary fuel
        modify fun g => { g with previous := .number }
        pure (match op with
          | "!" => truth (n = 0)
          | "~" => -n - 1
          | "-" => word (-n)
          | _ => n)
      else primary fuel
    | _ => primary fuel

def primary : Nat → Calc Int
  | 0 => fail .depth
  | fuel + 1 => do
    let g ← get
    match g.token with
    | .before amount => do
      readToken fuel
      let g ← get
      if g.token ≠ .name then fail .identifier
      let n := word (g.value + amount)
      bind fuel g.target n
      modify fun g => { g with token := .number }
      readToken fuel
      pure n
    | .mark "(" => do
      readToken fuel
      let n ← sequence fuel
      if (← get).token ≠ .mark ")" then fail .bracket
      readToken fuel
      pure n
    | .number => do
      readToken fuel
      pure g.value
    | .name => do
      let isStep := match (g.rest.dropWhile Text.isPlainBlank) with
        | c :: d :: _ => (c = '+' || c = '-') && c = d
        | _ => false
      if isStep && (← act get).isBash then
        readToken fuel
        let amount : Int := match (← get).token with
          | .after a => a
          | _ => 0
        bind fuel g.target (word (g.value + amount))
        modify fun g => { g with token := .number }
        readToken fuel
        pure g.value
      else
        readToken fuel
        pure g.value
    | _ => fail .operand

end

/-- A bound on how deep expressions are within one another. -/
def bound (text : List Char) : Nat := 32 * text.length + 1024

/-- The value of an expression; of a faulty one, what is wrong with it. -/
def evaluate (text : List Char) : Act (Except Trouble Int) := (evaluateWithin (bound text) text).run

end LintRun.Shell.Arithmetic

namespace LintRun.Shell

/-- The message about a faulty expression. `command` is what the expression is an argument of. -/
def arithmeticMessage (s : State) (command : String) (text : List Char) (t : Arithmetic.Trouble) : String :=
  match s.dialect, t.fault with
  | _, .fixed _ | _, .unset _ => t.fault.text
  | .bash, _ =>
    let shown := t.expression.dropWhile fun c => c = ' ' || c = '\t'
    let head := if command = "" then "" else command ++ ": "
    head ++ String.ofList shown ++ ": " ++ t.fault.text ++ " (error token is \"" ++ String.ofList t.token ++ "\")"
  | .posix, .notNumber _ => t.fault.text
  | .posix, _ => "arithmetic expression: " ++ t.fault.plainText ++ ": \"" ++ String.ofList text ++ "\""

/-- The value of an expression, if it has one; if not, that is said. -/
def calculate? (command : String) (text : List Char) : Act (Option Int) := do
  match ← Arithmetic.evaluate text with
  | .ok n => pure (some n)
  | .error t => do
    complain (arithmeticMessage (← get) command text t)
    match (← get).dialect, t.fault with
    | .posix, _ => exit 2
    | .bash, .unset _ => exit 1
    | .bash, _ => pure none

/-- The value of an expression in a word. -/
def sum (text : List Char) : Act Int := do
  match ← calculate? (← get).speaker text with
  | some n => pure n
  | none => do
    setStatus 1
    throw .spoiled

/-- The key that a subscript stands for; a list of no such element has none. -/
def keyOf (name : String) (subscript : List Char) : Act Key := do
  let s ← get
  match (binding? s name).map Variable.content with
  | some (.table _) => pure (.name (String.ofList subscript))
  | content => do
    let n ← sum subscript
    let n := if n < 0 then n + ((content.map Content.nextNumber).getD 0 : Nat) else n
    if n < 0 then
      complain (name ++ "[" ++ String.ofList subscript ++ "]: bad array subscript")
      setStatus 1
      throw .spoiled
    else pure (.number n.toNat)

end LintRun.Shell
