import LintRun.Shell.Complaint
import LintRun.Shell.Expansion
import LintRun.Shell.Reader.Script

/-!
# Shell — Assignments

Giving values to variables and to their elements.

* `Given`: what a variable gets, with all words expanded.
* `give`: gives a variable or an element of it a value, unless the variable is fixed.
* `makeAssignments`: the assignments in front of a command.
-/

namespace LintRun.Shell

/-- An element of a list: its subscript if it has one, whether it is put behind the old text, and its text. -/
structure Element where
  subscript : Option String := none
  append : Bool := false
  text : String
  deriving DecidableEq, Repr

/-- What a variable gets. -/
inductive Given
  | text (t : String)
  | list (elements : List Element)
  deriving DecidableEq, Repr

/-- The elements of a list with all words expanded. -/
def expandItems (e : Engine) : List Item → Act (List Element)
  | [] => pure []
  | .mk none _ w :: rest => do
    let own ← wordFields e w
    let more ← expandItems e rest
    pure ((own.map fun text => { text }) ++ more)
  | .mk (some k) append w :: rest => do
    let subscript ← wordText e k
    let text ← assignedText e w
    let more ← expandItems e rest
    pure ({ subscript := some subscript, append, text } :: more)

/-- The text that a variable takes in, after an old one if there is one. -/
def taken (v : Variable) (old : Option String) (text : String) : Act String := do
  if v.integer then
    let n ← sum text.toList
    match old with
    | none => pure (toString n)
    | some t => do
      let m ← if t = "" then pure 0 else sum t.toList
      pure (toString (Arithmetic.word (m + n)))
  else pure (v.shaped ((old.getD "") ++ text))

/-- A content with elements put into it, the first one without a subscript under the number `next`. -/
def putElements (name : String) (v : Variable) (next : Nat) : List Element → Content → Act Content
  | [], c => pure c
  | x :: rest, c => do
    let key ← match x.subscript with
      | none => pure (Key.number next)
      | some t => do
        let n ← sum t.toList
        let n := if n < 0 then n + (c.nextNumber : Nat) else n
        if n < 0 then
          complain ("[" ++ t ++ "]=" ++ x.text ++ ": bad array subscript")
          setStatus 1
          throw .spoiled
        pure (Key.number n.toNat)
    let text ← taken v (if x.append then some ((c.get? key).getD "") else none) x.text
    let next := match key with
      | .number n => n + 1
      | .name _ => next
    putElements name v next rest (c.put key text)

/-- A table with elements put into it under their names. -/
def putNamed (name : String) (v : Variable) : List Element → Content → Act Content
  | [], c => pure c
  | ⟨some k, append, text⟩ :: rest, c => do
    let text ← taken v (if append then some ((c.get? (.name k)).getD "") else none) text
    putNamed name v rest (c.put (.name k) text)
  | ⟨none, _, text⟩ :: rest, c => do
    complain (name ++ ": " ++ text ++ ": must use subscript when assigning associative array")
    putNamed name v rest c

/-- A table with names and texts that take turns. -/
def putPairs (v : Variable) : List Element → Content → Act Content
  | a :: b :: rest, c => do
    let text ← taken v none b.text
    putPairs v rest (c.put (.name a.text) text)
  | [a], c => pure (c.put (.name a.text) "")
  | [], c => pure c

/-- The content that a variable has after it was given a list. -/
def listContent (name : String) (v : Variable) (append : Bool) (elements : List Element) : Act Content := do
  match v.content with
  | .table _ =>
    let start : Content := if append then v.content else .table (some [])
    match elements with
    | ⟨none, _, _⟩ :: _ => putPairs v elements (match start with
      | .table none => .table (some [])
      | c => c)
    | _ => putNamed name v elements (match start with
      | .table none => .table (some [])
      | c => c)
  | old =>
    let start : Content := match append, old with
      | true, .list es => .list (some (es.getD []))
      | true, .text t => .list (some ((t.map (0, ·)).toList))
      | _, _ => .list (some [])
    putElements name v start.nextNumber elements start

/-- Gives a variable or an element of it a value. The answer tells whether it could be changed. -/
def give (name : String) (subscript : Option String) (append : Bool) (value : Given) : Act Bool := do
  let s ← get
  let target := resolve s name
  let v := (lookVariable s target).getD {}
  if v.fixed then
    complain (fixedText s target)
    pure false
  else
    let content ← match value, subscript with
      | .list elements, _ => listContent target v append elements
      | .text t, none => do
        let text ← taken v (if append then some (v.content.first?.getD "") else none) t
        pure (v.content.putFirst text)
      | .text t, some k => do
        if k = "" then
          complain (name ++ "[]: bad array subscript")
          setStatus 1
          throw .spoiled
        let key ← keyOf target k.toList
        let text ← taken v (if append then some ((v.content.get? key).getD "") else none) t
        pure (v.content.put key text)
    change target fun v => { v with content }

/-- The words of an assigned value expanded. -/
def expandAssigned (e : Engine) : Assigned → Act Given
  | .word w => .text <$> assignedText e w
  | .list items => .list <$> expandItems e items

/-- The subscript of an assignment expanded. -/
def expandSubscript (e : Engine) : Option Word → Act (Option String)
  | none => pure none
  | some w => some <$> wordText e w

/-! ### Traces -/

/-- What stands in front of a trace. -/
def traceMark (s : State) : String :=
  let mark := s.mark.getD ((value? s "PS4").getD "+ ")
  match s.dialect with
  | .posix => mark
  | .bash =>
    match mark.toList with
    | c :: rest => String.ofList (List.replicate (s.nesting + 1) c ++ rest)
    | [] => ""

/-- Works out what stands in front of traces, which may name variables. -/
def refreshMark (e : Engine) : Act Unit := do
  let s ← get
  let text := (value? s "PS4").getD "+ "
  let isOpen := text.toList.any fun c => c = '$' || c = '\x60'
  let place : Place := { rest := text.toList, manner := s.manner }
  match isOpen, (readText (readList true (readBound place)) .double text.toList).run place with
  | true, .ok (word, _) => do
    modify fun s => { s with options := s.options.filter (· ≠ "xtrace") }
    let mark ← wordText e word
    modify fun t => { t with options := s.options, mark := some mark, status := s.status }
  | _, _ => if s.mark.isSome then set { s with mark := none }

/-- Shows something that is about to be done, if that is asked for. -/
def traceOn (text : String) : Act Unit := do
  let s ← get
  if s.has "xtrace" then say 2 (traceMark s ++ text)

/-- Shows what is about to be done, if that is asked for. -/
def trace (e : Engine) (text : String) : Act Unit := do
  if (← get).has "xtrace" then refreshMark e
  traceOn text

/-- A word as a trace shows it. -/
def tracedWord (s : State) (w : String) : String := if s.isBash then Escape.traced s.charset w else w

/-- The head of an assignment as it is written. -/
def assignmentHead (name : String) (subscript : Option String) (append : Bool) : String :=
  name ++ (match subscript with
    | some k => "[" ++ k ++ "]"
    | none => "") ++ (if append then "+=" else "=")

/-- Makes an assignment. The answer tells whether it could be made, and how it is shown. -/
def makeAssignment (e : Engine) : Assignment → Act (Bool × String)
  | .mk name subscript append value source => do
    let key ← expandSubscript e subscript
    let given ← expandAssigned e value
    let s ← get
    let shown := match given with
      | .text t => assignmentHead name key append ++ if t = "" then "" else tracedWord s t
      | .list _ => String.ofList source
    if s.isBash then trace e shown
    let made ← give name key append given
    pure (made, shown)

/-- Makes assignments that stay; the answer is how they are shown. -/
def makeAssignments (e : Engine) : List Assignment → Act (List String)
  | [] => pure []
  | a :: rest => do
    let (made, shown) ← makeAssignment e a
    if !made then
      match (← get).dialect with
      | .bash =>
        setStatus 1
        throw .spoiled
      | .posix => exit 2
    let more ← makeAssignments e rest
    pure (shown :: more)

/-- Makes assignments for one command, which gets to see them. -/
def makeLentAssignments (e : Engine) : List Assignment → Act (List String)
  | [] => pure []
  | .mk name subscript append value source :: rest => do
    let (made, shown) ← makeAssignment e (.mk name subscript append value source)
    if made then
      let _ ← change name fun v => { v with exported := true }
    else if (← get).dialect = .posix then exit 2
    let more ← makeLentAssignments e rest
    pure (shown :: more)

/-- A step with variables that hold for it alone. -/
def withVariables (names : List String) (act : Act Unit) : Act Unit := do
  let before ← get
  let old := names.map fun n => (n, lookVariable before n)
  set { before with lent := names ++ before.lent }
  thenAlways act (modify fun s => { s with bindings := old.foldl restoreVariable s.bindings, lent := before.lent })

end LintRun.Shell
