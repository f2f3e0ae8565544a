import LintRun.Shell.Reader.Word

/-!
# Shell — Reading parts of commands

Assignments, redirections and conditions. How commands are read is up to the caller.

* `readAssignment?`: the assignment that stands here, if there is one.
* `readRedirect?`: the redirection that stands here, if there is one.
* `readJudgement`: the condition after two opening brackets, with the brackets that close it.
-/

namespace LintRun.Shell

/-! ### Assignments -/

/-- The elements of a list of values up to its closing bracket. -/
def readItems (inner : Read (List Command)) : Nat → Read (List Item)
  | 0 => unexpected
  | fuel + 1 => do
    lines
    let p ← get
    if p.rest.isEmpty then fail (.unclosed ')')
    else if p.starts ")" then
      set (p.skip 1)
      pure []
    else
      let subscript ← if p.starts "[" then do
          set (p.skip 1)
          let w ← readSubscript inner
          let q ← get
          if q.starts "=" then
            set (q.skip 1)
            pure (some (w, false))
          else if q.starts "+=" then
            set (q.skip 2)
            pure (some (w, true))
          else do
            set p
            pure none
        else pure none
      let value ← readWord inner
      match subscript with
      | none =>
        if value.source.isEmpty then
          match tokenAt (← get) with
          | some t => fail (.listing t)
          | none => fail (.unclosed ')')
        let more ← readItems inner fuel
        pure (.mk none false value :: more)
      | some (w, append) => do
        let more ← readItems inner fuel
        pure (.mk (some w) append value :: more)

/-- A fault within a list of values that was opened on a line. -/
def SyntaxFault.ofListing (line : Nat) (f : SyntaxFault) : SyntaxFault :=
  if f.trouble = .unclosed ')' then { f with line, trouble := .openListing } else f

/-- The assignment that stands here, if there is one; a list of values may be one only if `lists` says so. -/
def readAssignment? (inner : Read (List Command)) (lists : Bool) : Read (Option Assignment) := do
  let p ← get
  let name := p.rest.takeWhile Text.isNameChar
  let after := p.skip name.length
  let finish (subscript : Option Word) (append : Bool) : Read (Option Assignment) := do
    let q ← get
    let (source, value) ← withSource do
      if lists && q.isBash && q.starts "(" then
        set (q.skip 1)
        let items ← Read.mapFault (SyntaxFault.ofListing q.line) (readItems inner (q.rest.length + 1))
        writeAs q ('(' :: ((items.map Layout.itemText).intersperse [' ']).flatten ++ [')'])
        pure (Assigned.list items)
      else Assigned.word <$> readWord inner
    let head := sourceBetween p q
    pure (some (.mk (String.ofList name) subscript append value (head ++ source)))
  if !isName name then pure none
  else if after.starts "=" then
    set (after.skip 1)
    finish none false
  else if !p.isBash then pure none
  else if after.starts "+=" then
    set (after.skip 2)
    finish none true
  else if after.starts "[" then
    set (after.skip 1)
    let w ← readSubscript inner
    let q ← get
    if q.starts "=" then
      set (q.skip 1)
      finish (some w) false
    else if q.starts "+=" then
      set (q.skip 2)
      finish (some w) true
    else
      set p
      pure none
  else pure none

/-! ### Redirections -/

/-- The redirection that stands here, if there is one. -/
def readRedirect? (inner : Read (List Command)) : Read (Option Redirect) := do
  let p ← get
  let (handle, q) := match p.handle? with
    | some (h, q) => (some h, q)
    | none => (none, p)
  match q.redirection? with
  | none => pure none
  | some (op, direction) => do
    set (q.skip op.length).blanks
    let target ← readWord inner
    if target.source.isEmpty then unexpected
    else match direction with
      | .text _ dedent _ => do
        let quoted := target.source.any fun c => c = '\'' || c = '"' || c = '\\'
        let delimiter := unquote target.source
        let text ← takeInPlace dedent quoted delimiter
        let body ← if quoted then pure (.mk text [.text text true]) else readText inner .document text
        pure (some (.mk handle (.text (String.ofList target.source) dedent quoted) body))
      | _ => pure (some (.mk handle direction target))

/-- The redirections that stand here. -/
def readRedirects (inner : Read (List Command)) : Nat → Read (List Redirect)
  | 0 => pure []
  | fuel + 1 => do
    let p ← get
    set p.blanks
    match ← readRedirect? inner with
    | some r => do
      let more ← readRedirects inner fuel
      pure (r :: more)
    | none => do
      set p
      pure []

/-! ### Conditions -/

/-- The operators on one operand. -/
def unaryOperators : List String := ("abcdefghknoprstuvwxzGLNORS".toList.map fun c => String.ofList ['-', c])

/-- The operators between two operands that are words of their own. -/
def binaryOperators : List String :=
  ["=", "==", "!=", "-eq", "-ne", "-lt", "-le", "-gt", "-ge", "-nt", "-ot", "-ef"]

/-- A condition is malformed after what has been taken. -/
def refuseCondition (remark : Option String) : Read α := do
  let p ← get
  throw ⟨p.line, .condition (remark.map (p.line, ·)) p.left, none, false⟩

/-- Takes an operator or a line end, and tells its text. -/
def takeToken : Read String := do
  let p ← get
  let token := (tokenAt p).getD ""
  set (if token = "newline" then p else p.skip token.length)
  pure token

/-- The word that has to be an operand of an operator of this kind. -/
def readOperand (read : Read Word) (kind : String) : Read Word := do
  blanks
  let p ← get
  let refuse (token : String) : Read Word :=
    refuseCondition (some ("unexpected argument `" ++ token ++ "' to conditional " ++ kind ++ " operator"))
  if p.sees "]]" then
    skip 2
    refuse "]]"
  else
    let w ← read
    if w.source.isEmpty then refuse (← takeToken) else pure w

/-- A word in which alternatives in brackets are patterns. -/
def readPattern (inner : Read (List Command)) : Read Word := do
  let before := (← get).manner
  modify fun p => { p with manner := { p.manner with extended := true } }
  let w ← readWord inner
  modify fun p => { p with manner := before }
  pure w

mutual

/-- One condition. -/
def readTerm (inner : Read (List Command)) : Nat → Read Judgement
  | 0 => unexpected
  | fuel + 1 => do
    lines
    let p ← get
    if p.sees "]]" then
      skip 2
      refuseCondition none
    else if p.sees "!" then
      skip 1
      let j ← readTerm inner fuel
      pure (.negated j)
    else if p.starts "(" then
      skip 1
      let j ← readAlternatives inner fuel
      lines
      if ← accept ")" then
        lines
        pure (.grouped j)
      else
        let isEnd := (← get).sees "]]"
        let token ← if isEnd then do
            skip 2
            pure "]]"
          else takeToken
        refuseCondition (some ("unexpected token `" ++ token ++ "', expected `)'"))
    else
      let left ← readWord inner
      let text := String.ofList left.source
      if text = "" then
        let token ← takeToken
        refuseCondition (some ("unexpected token `" ++ token ++ "' in conditional command"))
      else if unaryOperators.contains text then
        let operand ← readOperand (readWord inner) "unary"
        lines
        pure (.unary text operand)
      else
        blanks
        let p ← get
        if p.sees "]]" || p.starts "&&" || p.starts "||" || p.starts ")" then pure (.word left)
        else if (p.starts "<" || p.starts ">") && !(p.starts "<(" || p.starts ">(") then
          skip 1
          let right ← readOperand (readWord inner) "binary"
          lines
          pure (.binary (String.ofList (p.rest.take 1)) left right)
        else
          let op := String.ofList (← readWord inner).source
          if op = "=~" then
            let right ← readOperand (readRegex inner) "binary"
            lines
            pure (.binary op left right)
          else if binaryOperators.contains op then
            let isPattern := op = "=" || op = "==" || op = "!="
            let right ← readOperand (if isPattern then readPattern inner else readWord inner) "binary"
            lines
            pure (.binary op left right)
          else if op = "" then
            let token ← takeToken
            refuseCondition (some ("unexpected token `" ++ token ++ "', conditional binary operator expected"))
          else refuseCondition (some "conditional binary operator expected")

/-- Conditions that have to hold together. -/
def readConjunction (inner : Read (List Command)) : Nat → Read Judgement
  | 0 => unexpected
  | fuel + 1 => do
    let first ← readTerm inner fuel
    if ← accept "&&" then
      let second ← readConjunction inner fuel
      pure (.both first second)
    else pure first

/-- Conditions of which one has to hold. -/
def readAlternatives (inner : Read (List Command)) : Nat → Read Judgement
  | 0 => unexpected
  | fuel + 1 => do
    let first ← readConjunction inner fuel
    if ← accept "||" then
      let second ← readAlternatives inner fuel
      pure (.either first second)
    else pure first

end

/-- The condition after two opening brackets, with the brackets that close it. -/
def readJudgement (inner : Read (List Command)) : Read Judgement := do
  let start ← get
  let j ← readAlternatives inner (readBound start)
  lines
  let p ← get
  if p.sees "]]" then
    skip 2
    pure j
  else
    let remark (text : String) : Read Judgement := do
      let p ← get
      throw ⟨p.line, .condition (some (start.line, text)) p.left, none, false⟩
    if p.rest.isEmpty then remark "unexpected EOF while looking for `]]'"
    else
      let w ← readWord inner
      if w.source.isEmpty then
        let token ← takeToken
        remark ("syntax error in conditional expression: unexpected token `" ++ token ++ "'")
      else remark "syntax error in conditional expression"

end LintRun.Shell
