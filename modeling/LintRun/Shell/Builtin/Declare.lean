import LintRun.Shell.Builtin.Basic

/-!
# Shell — Built-in commands: declarations

The commands that declare variables and functions, change their attributes, show them and take them away.

* `Operand`: an argument of such a command, which may be a list of values.
* `declare`, `exportNames`, `readonly`, `localNames`, `unset`: the commands.
-/

namespace LintRun.Shell

/-- An argument of a command that declares variables. -/
inductive Operand
  | text (t : String)
  | list (name : String) (append : Bool) (elements : List Element) (source : String)
  deriving DecidableEq, Repr

/-- An argument as a plain text. -/
def Operand.plain : Operand → String
  | .text t => t
  | .list _ _ _ source => source

/-- What an argument declares. -/
structure Declared where
  name : String
  subscript : Option String := none
  append : Bool := false
  value : Option Given := none

/-- What an argument declares, if its name makes sense. -/
def Operand.declared? : Operand → Option Declared
  | .list name append elements _ => some { name, append, value := some (.list elements) }
  | .text t =>
    let cs := t.toList
    let name := cs.takeWhile Text.isNameChar
    let rest := cs.drop name.length
    let (subscript, rest) := match rest with
      | '[' :: inner =>
        match closingLength '[' ']' 0 inner with
        | some n => (some (String.ofList (inner.take n)), inner.drop (n + 1))
        | none => (none, rest)
      | _ => (none, rest)
    if !isName name then none
    else match rest with
      | [] => some { name := String.ofList name, subscript }
      | '=' :: value => some { name := String.ofList name, subscript, value := some (.text (String.ofList value)) }
      | '+' :: '=' :: value =>
        some { name := String.ofList name, subscript, append := true, value := some (.text (String.ofList value)) }
      | _ => none

/-! ### Showing -/

/-- All variables that are known, sorted by their names. -/
def knownVariables (s : State) : List (String × Variable) :=
  s.bindings.mergeSort fun a b => Text.compareCodes a.1.toList b.1.toList != .gt

def knownFunctions (s : State) : List (String × Function) :=
  s.functions.mergeSort fun a b => Text.compareCodes a.1.toList b.1.toList != .gt

/-- A variable as it is listed without its attributes. -/
def listedVariable (s : State) (name : String) (v : Variable) : Option String :=
  match v.content with
  | .text (some t) => some (name ++ "=" ++ if s.isBash then Escape.listed s.charset t else Escape.plain t)
  | .list (some _) | .table (some _) => some (name ++ "=" ++ listText s.charset v.content)
  | _ => none

/-- A variable as a plain shell declares it. -/
def plainDeclaration (command name : String) (v : Variable) : String :=
  command ++ " " ++ name ++ match v.value? with
    | some t => "=" ++ Escape.plain t
    | none => ""

/-- Whether a variable has the attributes of some options. -/
def matchesFlags (flags : List Flag) (v : Variable) : Bool :=
  flags.all fun f =>
    match f.letter, v.content with
    | 'a', .list _ => true
    | 'A', .table _ => true
    | 'a', _ | 'A', _ => false
    | 'i', _ => v.integer
    | 'n', _ => v.reference
    | 'r', _ => v.fixed
    | 't', _ => v.traced
    | 'x', _ => v.exported
    | 'l', _ => v.recasing = some .lower
    | 'u', _ => v.recasing = some .upper
    | _, _ => true

/-- Shows the variables with some attributes. -/
def showVariables (flags : List Flag) : Act Nat := do
  let s ← get
  (knownVariables s).forM fun (name, v) => do
    if matchesFlags flags v then say 1 (declarationText s.charset name v)
  pure 0

def functionText (name : String) (f : Function) : String := Layout.shown name f.body

/-- The attributes of a function as letters. -/
def functionLetters (f : Function) : String := if f.exported then "-fx" else "-f"

/-! ### Changing -/

/-- Whether a function is being run. -/
def inFunction (s : State) : Bool := !s.hidden.isEmpty

/-- Remembers the state of a variable until the end of the function. The answer tells whether it is new there. -/
def hide (name : String) : Act Bool := do
  let s ← get
  match s.hidden with
  | own :: outer =>
    if own.any fun (n, _) => n = name then pure false
    else
      set { s with hidden := ((name, lookVariable s name) :: own) :: outer }
      pure true
  | [] => pure false

/-- The innermost states first: a change of the outermost state of a variable. -/
def changeOutermost (name : String) (f : Option Variable → Option Variable) :
    List (List (String × Option Variable)) → Option (List (List (String × Option Variable)))
  | [] => none
  | own :: outer =>
    match changeOutermost name f outer with
    | some outer => some (own :: outer)
    | none =>
      if own.any fun (n, _) => n = name then
        some ((own.map fun (n, v) => if n = name then (n, f v) else (n, v)) :: outer)
      else none

/-- The variable with the attributes of some options. -/
def withFlags (flags : List Flag) (v : Variable) : Variable :=
  let cases := flags.filter fun f => "luc".toList.contains f.letter && !f.plus
  let v := flags.foldl (fun (v : Variable) f =>
    let on := !f.plus
    match f.letter with
    | 'x' => { v with exported := on }
    | 'i' => { v with integer := on }
    | 't' => { v with traced := on }
    | 'n' => { v with reference := on }
    | 'l' => { v with recasing := if on then some .lower else if v.recasing = some .lower then none else v.recasing }
    | 'u' => { v with recasing := if on then some .upper else if v.recasing = some .upper then none else v.recasing }
    | 'c' => { v with recasing := if on then some .capital else if v.recasing = some .capital then none
        else v.recasing }
    | _ => v) v
  if 1 < cases.length then { v with recasing := none } else v

/-- Why a variable cannot become a list or a table. -/
def kindTrouble? (flags : List Flag) (v : Variable) : Option String :=
  let asks (letter : Char) (plus : Bool) : Bool := flags.any fun f => f.letter = letter && f.plus = plus
  match v.content with
  | .list _ =>
    if asks 'A' false then some "cannot convert indexed to associative array"
    else if asks 'a' true then some "cannot destroy array variables in this way"
    else none
  | .table _ =>
    if asks 'a' false then some "cannot convert associative to indexed array"
    else if asks 'A' true then some "cannot destroy array variables in this way"
    else none
  | .text _ => none

/-- The content of the kind that some options ask for. -/
def ofKind (flags : List Flag) (isList : Bool) (c : Content) : Content :=
  match c with
  | .text t =>
    if hasFlag flags 'A' then .table (t.map fun t => [("0", t)])
    else if hasFlag flags 'a' || isList then .list (t.map fun t => [(0, t)])
    else c
  | c => c

/-- Shows a list of values that is declared as a trace does. -/
def traceOperand : Operand → Act Unit
  | .text _ => pure ()
  | .list name append elements _ => do
    let quote (t : String) : String := Escape.single t
    let one (x : Element) : String :=
      match x.subscript with
      | some k => "[" ++ quote k ++ "]" ++ (if x.append then "+=" else "=") ++ quote x.text
      | none => quote x.text
    traceOn (name ++ (if append then "+=(" else "=(") ++ Text.joinWith " " (elements.map one) ++ ")")

/-- Declares one variable. -/
def declareOne (command : String) (flags : List Flag) (isLocal isGlobal : Bool) (operand : Operand) : Act Nat := do
  match operand.declared? with
  | none =>
    let name := match Text.cutAt? '=' operand.plain.toList with
      | some (name, _) => String.ofList name
      | none => operand.plain
    fault command ("\x60" ++ operand.plain ++ "': not a valid identifier") (name ++ ": bad variable name") 1
  | some d => do
    let s ← get
    let isNew ← do
      if isLocal then
        if (lookVariable s d.name).any fun v => v.fixed &&
            !(s.hidden.any fun own => own.any fun (n, _) => n = d.name) then
          return ← refuse command (d.name ++ ": readonly variable") 1
        hide d.name
      else pure false
    if isNew then
      let old := lookVariable s d.name
      setVariable d.name { exported := old.any Variable.exported }
    let target := if isLocal || hasFlag flags 'n' || flags.any (fun f => f.letter = 'n') then d.name
      else resolve s d.name
    let outer? := if isGlobal then changeOutermost d.name (fun v => v) s.hidden else none
    if isGlobal && outer?.isSome then
      -- the variable of the outermost state is changed in the place of the current one
      let current := lookVariable s d.name
      let outermost := (s.hidden.reverse.findSome? fun own => own.lookup d.name).join
      modify fun s => { s with bindings := restoreVariable s.bindings (d.name, outermost) }
      let status ← finish d d.name
      let changed := lookVariable (← get) d.name
      modify fun s =>
        { s with
          hidden := (changeOutermost d.name (fun _ => changed) s.hidden).getD s.hidden
          bindings := restoreVariable s.bindings (d.name, current) }
      pure status
    else finish d target
where
  /-- Two of the commands show an assignment once more. -/
  traceValue (d : Declared) (value : Given) : Act Unit := do
    let s ← get
    match value with
    | .text t =>
      if s.isBash && (command = "export" || command = "readonly") then
        traceOn (assignmentHead d.name d.subscript d.append ++ if t = "" then "" else tracedWord s t)
    | .list _ => pure ()
  finish (d : Declared) (target : String) : Act Nat := do
    let v := (lookVariable (← get) target).getD {}
    let isList := match d.value with
      | some (.list _) => true
      | _ => d.subscript.isSome
    let takesBack := flags.any fun f => f.letter = 'r' && f.plus
    if v.fixed && (takesBack || d.value.isSome || flags.any fun f => "aAilnuct".toList.contains f.letter) then
      refuse command (target ++ ": readonly variable") 1
    else match kindTrouble? flags v with
      | some text => refuse command (target ++ ": " ++ text) 1
      | none => do
        let kinds := flags.filter fun f => f.letter ≠ 'n'
        setVariable target { withFlags kinds v with content := ofKind flags isList v.content }
        let status ← match d.value with
          | none => pure 0
          | some value => do
            traceValue d value
            if ← give target d.subscript d.append value then pure 0 else pure 1
        modify fun s =>
          let v := (lookVariable s target).getD {}
          let v := { v with
            fixed := v.fixed || hasFlag flags 'r'
            reference := (withFlags (flags.filter fun f => f.letter = 'n') v).reference
            exported := v.exported || s.has "allexport" }
          { s with bindings := putVariable target v s.bindings }
        if (← get).isBash && ["LC_ALL", "LC_CTYPE", "LANG"].contains target then
          modify fun s => { s with charset := charsetOf (value? s) }
        pure status

/-- Declares what several arguments say; the status of the last one that failed counts. -/
def declareAll (command : String) (flags : List Flag) (isLocal isGlobal : Bool) (operands : List Operand) : Act Nat :=
  operands.foldlM (fun status a => do
    let r ← declareOne command flags isLocal isGlobal a
    pure (if r = 0 then status else r)) 0

/-- The options at the front of operands, and the operands after them. -/
def operandOptions (name spec : String) (operands : List Operand) : Act (Option (List Flag × List Operand)) := do
  let front := operands.takeWhile fun
    | .text _ => true
    | .list _ _ _ _ => false
  match ← optionsWith (name ≠ "export" && name ≠ "readonly") name spec (front.map Operand.plain) with
  | none => pure none
  | some (flags, words) => pure (some (flags, operands.drop (front.length - words.length)))

/-- Shows what some names stand for. -/
def showNamed (command : String) (operands : List Operand) : Act Nat :=
  forEach (operands.map Operand.plain) fun name => do
    let s ← get
    match (lookVariable s name).orElse fun _ => dynamic? s name with
    | some v => do
      say 1 (declarationText s.charset name v)
      pure 0
    | none => refuse command (name ++ ": not found") 1

/-- Shows functions, or marks them. -/
def declareFunctions (flags : List Flag) (operands : List Operand) : Act Nat := do
  let s ← get
  let namesOnly := hasFlag flags 'F'
  if operands.isEmpty then
    (knownFunctions s).forM fun (name, f) => do
      if !hasFlag flags 'x' || f.exported then
        if namesOnly then say 1 ("declare " ++ functionLetters f ++ " " ++ name)
        else do
          put 1 (functionText name f ++ "\n")
          if f.exported then say 1 ("declare -fx " ++ name)
    pure 0
  else
    forEach (operands.map Operand.plain) fun name => do
      match s.functions.lookup name with
      | none => pure 1
      | some f => do
        if flags.any fun g => g.letter = 'x' then
          modify fun s =>
            { s with
              functions := s.functions.map fun (n, g) =>
                if n = name then (n, { g with exported := hasFlag flags 'x' }) else (n, g) }
        else if namesOnly then say 1 name
        else put 1 (functionText name f ++ "\n")
        pure 0

def declare (command : String) (operands : List Operand) : Act Nat := do
  match ← operandOptions command "aAcfFgiIlnprtux" operands with
  | none => pure 2
  | some (flags, rest) => do
    let s ← get
    if hasFlag flags 'f' || hasFlag flags 'F' then declareFunctions flags rest
    else if hasFlag flags 'p' then
      if rest.isEmpty then showVariables (flags.filter fun f => f.letter ≠ 'p') else showNamed command rest
    else if rest.isEmpty then
      if flags.isEmpty then
        (knownVariables s).forM fun (name, v) => do
          if let some t := listedVariable s name v then say 1 t
        (knownFunctions s).forM fun (name, f) => put 1 (functionText name f ++ "\n")
        pure 0
      else showVariables flags
    else
      let isGlobal := hasFlag flags 'g'
      declareAll command flags (inFunction s && !isGlobal) isGlobal rest

def localNames (operands : List Operand) : Act Nat := do
  let s ← get
  if !inFunction s then
    match s.dialect with
    | .bash => refuse "local" "can only be used in a function" 1
    | .posix => abort "local: not in a function"
  else match s.dialect with
    | .bash =>
      match ← operandOptions "local" "aAcfFgiIlnprtux" operands with
      | none => pure 2
      | some (flags, rest) =>
        if rest.isEmpty then
          let own := (s.hidden.headD []).map Prod.fst
          (knownVariables s).forM fun (name, v) => do
            if own.contains name then say 1 (declarationText s.charset name v)
          pure 0
        else if hasFlag flags 'p' then showNamed "local" rest
        else declareAll "local" flags true false rest
    | .posix =>
      forEach (operands.map Operand.plain) fun a => do
        let (name, value) := match Text.cutAt? '=' a.toList with
          | some (name, value) => (String.ofList name, some (String.ofList value))
          | none => (a, none)
        if name = "-" then pure 0
        else if !isName name.toList then abort ("local: " ++ name ++ ": bad variable name")
        else do
          let _ ← hide name
          if let some v := value then assign name v
          pure 0

/-- Marks functions as exported, or takes that back. -/
def exportFunctions (command : String) (on : Bool) (names : List String) : Act Nat :=
  forEach names fun name => do
    let s ← get
    if (s.functions.lookup name).isSome then
      set { s with
        functions := s.functions.map fun ((n, f) : String × Function) =>
          if n = name then (n, { f with exported := on }) else (n, f) }
      pure 0
    else refuse command (name ++ ": not a function") 1

/-- The variables with an attribute in the words of a plain shell. -/
def showPlainly (command : String) (test : Variable → Bool) : Act Nat := do
  (knownVariables (← get)).forM fun (name, v) => do if test v then say 1 (plainDeclaration command name v)
  pure 0

def exportNames (operands : List Operand) : Act Nat := do
  match ← operandOptions "export" (if (← get).isBash then "fnp" else "p") operands with
  | none => pure 2
  | some (flags, rest) =>
    match (← get).dialect with
    | .posix =>
      if hasFlag flags 'p' || rest.isEmpty then showPlainly "export" Variable.exported
      else declareAll "export" [{ letter := 'x' }] false false rest
    | .bash =>
      if hasFlag flags 'f' then
        if rest.isEmpty then declareFunctions [{ letter := 'x' }] []
        else exportFunctions "export" (!hasFlag flags 'n') (rest.map Operand.plain)
      else if rest.isEmpty then showVariables [{ letter := 'x' }]
      else
        eachOf rest fun a =>
          match a.declared? with
          | some d =>
            if d.subscript.isSome then
              refuse "export" ("\x60" ++ String.ofList (a.plain.toList.takeWhile (· ≠ '=')) ++
                "': not a valid identifier") 1
            else declareOne "export" [{ letter := 'x', plus := hasFlag flags 'n' }] false false a
          | none => declareOne "export" [] false false a
where
  eachOf (rest : List Operand) (act : Operand → Act Nat) : Act Nat :=
    rest.foldlM (fun status a => do
      let r ← act a
      pure (if r = 0 then status else r)) 0

def readonly (operands : List Operand) : Act Nat := do
  match ← operandOptions "readonly" (if (← get).isBash then "aAfp" else "p") operands with
  | none => pure 2
  | some (flags, rest) =>
    match (← get).dialect with
    | .posix =>
      if hasFlag flags 'p' || rest.isEmpty then showPlainly "readonly" Variable.fixed
      else declareAll "readonly" [{ letter := 'r' }] false false rest
    | .bash =>
      if rest.isEmpty then showVariables [{ letter := 'r' }]
      else declareAll "readonly" ({ letter := 'r' } :: flags.filter fun f => f.letter ≠ 'p') false false rest

/-! ### Taking away -/

/-- Takes a variable away. One that belongs to an outer function gets the state back that it had around it. -/
def removeVariable (name : String) : Act Unit := do
  let s ← get
  let isOwn := (s.hidden.headD []).any fun (n, _) => n = name
  let outer := (s.hidden.drop 1).zipIdx.find? fun (own, _) => own.any fun (n, _) => n = name
  match isOwn || !s.isBash, outer with
  | false, some (own, i) =>
    let old := (own.lookup name).join
    set
      { s with
        bindings := restoreVariable s.bindings (name, old)
        hidden := s.hidden.zipIdx.map fun (h, j) => if j = i + 1 then List.filter (fun (n, _) => n ≠ name) h else h }
  | _, _ => set { s with bindings := s.bindings.filter fun (n, _) => n ≠ name }

def unsetOne (flags : List Flag) (text : String) : Act Nat := do
  let s ← get
  let operand := (Operand.text text).declared?
  let name := match operand with
    | some d => if hasFlag flags 'n' then d.name else resolve s d.name
    | none => text
  let v? := lookVariable s name
  let asFunction := hasFlag flags 'f' || (s.isBash && v?.isNone && !hasFlag flags 'v')
  if asFunction then
    set { s with functions := s.functions.filter fun (n, _) => n ≠ text }
    pure 0
  else if operand.isNone then
    fault "unset" ("\x60" ++ text ++ "': not a valid identifier") (text ++ ": bad variable name") 1
  else match v? with
    | none => pure 0
    | some v =>
      if v.fixed then
        fault "unset" (name ++ ": cannot unset: readonly variable") (name ++ ": is read only") 1
      else match operand.bind Declared.subscript with
        | none => do
          removeVariable name
          if s.isBash && ["LC_ALL", "LC_CTYPE", "LANG"].contains name then
            modify fun s => { s with charset := charsetOf (value? s) }
          pure 0
        | some k =>
          match v.content, k with
          | .list es, "@" | .list es, "*" => do
            setVariable name { v with content := .list (es.map fun _ => []) }
            pure 0
          | .table es, "@" | .table es, "*" => do
            setVariable name { v with content := .table (es.map fun _ => []) }
            pure 0
          | .text _, k => do
            if k = "0" then
              removeVariable name
              pure 0
            else refuse "unset" (name ++ ": not an array variable") 1
          | c, k => do
            let key ← match c with
              | .table _ => pure (some (Key.name k))
              | _ => do
                let n ← sum k.toList
                let n := if n < 0 then n + (c.nextNumber : Nat) else n
                pure (if n < 0 then none else some (Key.number n.toNat))
            match key with
            | some key => do
              setVariable name { v with content := c.erase key }
              pure 0
            | none => refuse "unset" ("[" ++ k ++ "]: bad array subscript") 1

def unset (arguments : List String) : Act Nat := do
  withOptions "unset" (if (← get).isBash then "fnv" else "fv") arguments fun flags words =>
    forEach words (unsetOne flags)

end LintRun.Shell
