import LintRun.Shell.Builtin.Output
import LintRun.Shell.Clock

/-!
# Shell — Built-in commands: input

* `read`: a line cut into fields.
* `mapfile`: lines as a list.
* `getopts`: the options of a script, one after another.
-/

namespace LintRun.Shell

/-! ### Lines -/

/-- What is taken from the input: the bytes up to a mark that ends them, or so many characters. -/
structure Taking where
  mark : UInt8 := 10
  size : Option Nat := none
  /-- The mark has no meaning. -/
  exact : Bool := false
  raw : Bool := false

/-- Characters with a note whether a backslash guards them, what is left of the input, and whether the end was found. -/
def takeChars (t : Taking) (set : Charset) : Nat → Nat → List UInt8 → List (Char × Bool) × List UInt8 × Bool
  | 0, _, bytes => ([], bytes, true)
  | _ + 1, _, [] => ([], [], false)
  | fuel + 1, n, b :: rest =>
    if t.size = some n then ([], b :: rest, true)
    else if b = t.mark && !t.exact then ([], rest, true)
    else
      let (c, after) := firstChar set (b :: rest)
      if c = '\\' && !t.raw then
        match rest with
        | [] => ([], [], false)
        | 10 :: rest => takeChars t set fuel n rest
        | _ =>
          let (d, after) := firstChar set rest
          let (more, left, whole) := takeChars t set fuel (n + 1) after
          ((d, true) :: more, left, whole)
      else
        let (more, left, whole) := takeChars t set fuel (n + 1) after
        ((c, false) :: more, left, whole)
where
  /-- The first character of some bytes, and the bytes after it. -/
  firstChar (set : Charset) (bytes : List UInt8) : Char × List UInt8 :=
    match Encoding.decode set (bytes.take 4) with
    | c :: _ => (c, bytes.drop (Encoding.encodeChar c).length)
    | [] => (' ', bytes.drop 1)

/-- The text without blanks that separate fields at its end. -/
def dropFinalBlanks (isBlank : Char × Bool → Bool) (cs : List (Char × Bool)) : List (Char × Bool) :=
  (cs.reverse.dropWhile isBlank).reverse

/-- The first field of a text, and what is left after its separator. -/
def takeField (isBlank isSeparator : Char × Bool → Bool) (cs : List (Char × Bool)) :
    List (Char × Bool) × List (Char × Bool) :=
  let field := cs.takeWhile fun c => !isSeparator c
  let rest := (cs.drop field.length).dropWhile isBlank
  match rest with
  | c :: more => if isSeparator c && (cs.drop field.length).head?.isSome then
      (field, if isBlank c then rest else more.dropWhile isBlank) else (field, rest)
  | [] => (field, [])

/-- The parts of a line for so many variables. -/
def lineParts (isBlank isSeparator : Char × Bool → Bool) : Nat → List (Char × Bool) → List (List (Char × Bool))
  | 0, _ => []
  | 1, cs =>
    let (field, rest) := takeField isBlank isSeparator cs
    if rest.isEmpty then [field] else [dropFinalBlanks isBlank cs]
  | n + 2, cs =>
    let (field, rest) := takeField isBlank isSeparator cs
    field :: lineParts isBlank isSeparator (n + 1) rest

/-- All fields of a line. -/
def lineFields (isBlank isSeparator : Char × Bool → Bool) : Nat → List (Char × Bool) → List (List (Char × Bool))
  | 0, _ => []
  | _, [] => []
  | fuel + 1, cs =>
    let (field, rest) := takeField isBlank isSeparator cs
    field :: lineFields isBlank isSeparator fuel rest

def charsText (cs : List (Char × Bool)) : String := String.ofList (cs.map Prod.fst)

/-- The descriptor that an option names. -/
def inputDescriptor (command : String) (flags : List Flag) : Act (Except Nat Nat) := do
  match flagValue? flags 'u' with
  | none => pure (.ok 0)
  | some text =>
    match Text.natural? text with
    | none => .error <$> refuse command (text ++ ": invalid file descriptor specification") 1
    | some n =>
      if (streamOf (← get) n).isSome then pure (.ok n)
      else .error <$> refuse command (text ++ ": invalid file descriptor: Bad file descriptor") 1

/-- The first name that a command cannot use. -/
def badName? (names : List String) : Option String :=
  names.find? fun n => match (Operand.text n).declared? with
    | some { value := none, .. } => false
    | _ => true

def read (arguments : List String) : Act Nat := do
  let isBash := (← get).isBash
  withOptions "read" (if isBash then "ra:d:n:N:p:st:u:ei:" else "p:r") arguments fun flags names => do
    if !isBash && names.isEmpty then return ← refuse "read" "arg count" 2
    let size? (letter : Char) : Option (Option Nat) := (flagValue? flags letter).map Text.natural?
    if let some text := ["n", "N"].findSome? fun l => (flagValue? flags (l.toList.headD 'n')).filter fun t =>
        (Text.natural? t).isNone then
      return ← refuse "read" (text ++ ": invalid number") 1
    if let some text := (flagValue? flags 't').filter fun t => (duration? t).isNone then
      return ← refuse "read" (text ++ ": invalid timeout specification") 1
    match ← inputDescriptor "read" flags with
    | .error status => pure status
    | .ok descriptor =>
      if let some bad := badName? names then
        return ← fault "read" ("\x60" ++ bad ++ "': not a valid identifier") (bad ++ ": bad variable name") 1
      let s ← get
      let exact := (flagValue? flags 'N').isSome
      let size := ((size? 'N').orElse fun _ => size? 'n').join
      let mark := match flagValue? flags 'd' with
        | some t => ((bytesOf t.toList).head?).getD 0
        | none => 10
      if isBash && (streamOf s descriptor).isNone then
        return ← refuse "read" ("read error: " ++ toString descriptor ++ ": Bad file descriptor") 1
      let input := inputOf s descriptor
      if (flagValue? flags 't').bind duration? = some 0 then
        pure (if input.isEmpty then 1 else 0)
      else
        let (cs, rest, whole) :=
          takeChars { mark, size, exact, raw := hasFlag flags 'r' } s.charset (input.length + 1) 0 input
        let whole := whole || size = some cs.length
        leaveInput descriptor rest
        let cs := cs.filter fun (c, _) => c ≠ '\x00'
        let marks := separators s
        let isSeparator : Char × Bool → Bool := fun (c, guarded) => !guarded && marks.contains c
        let isBlank : Char × Bool → Bool := fun (c, guarded) =>
          !guarded && marks.contains c && (c = ' ' || c = '\t' || c = '\n')
        let status ← match flagValue? flags 'a' with
          | some name => do
            let fields := lineFields isBlank isSeparator (cs.length + 1) (cs.dropWhile isBlank)
            let made ← give name none false (.list (fields.map fun f => { text := charsText f }))
            pure (if made then 0 else 1)
          | none => do
            let parts := if names.isEmpty then [cs] else if exact then [cs]
              else lineParts isBlank isSeparator names.length (cs.dropWhile isBlank)
            let names := if names.isEmpty then ["REPLY"] else names
            let pairs := names.zip (parts ++ List.replicate names.length [])
            pairs.foldlM (fun status (name, part) => do
              let r ← if isBash then giveTo "read" name (charsText part) else do
                assign name (charsText part)
                pure 0
              pure (if r = 0 then status else r)) 0
        pure (if status ≠ 0 then status else if whole then 0 else 1)

/-! ### Lists of lines -/

/-- The lines of some bytes, each with the mark that ends it, and whether it has one. -/
def markedLines (mark : UInt8) (current : List UInt8) : List UInt8 → List (List UInt8 × Bool)
  | [] => if current.isEmpty then [] else [(current.reverse, false)]
  | b :: rest =>
    if b = mark then (current.reverse, true) :: markedLines mark [] rest else markedLines mark (b :: current) rest

def mapfile (e : Engine) (command : String) (arguments : List String) : Act Nat :=
  withOptions command "d:n:O:s:tu:C:c:" arguments fun flags names => do
    let name := names.headD "MAPFILE"
    let number (letter : Char) (usual : Nat) : Nat := ((flagValue? flags letter).bind Text.natural?).getD usual
    if !isName name.toList then return ← refuse command ("\x60" ++ name ++ "': not a valid identifier") 1
    match ← inputDescriptor command flags with
    | .error status => pure status
    | .ok descriptor => do
      let s ← get
      let mark := match flagValue? flags 'd' with
        | some t => ((bytesOf t.toList).head?).getD 0
        | none => 10
      let all := markedLines mark [] (inputOf s descriptor)
      let skipped := number 's' 0
      let count := number 'n' 0
      let own := if count = 0 then all.drop skipped else (all.drop skipped).take count
      let left := all.drop (skipped + own.length)
      leaveInput descriptor (left.flatMap fun (l, whole) => if whole then l ++ [mark] else l)
      let origin := number 'O' 0
      let texts := own.map fun (l, whole) =>
        let l := if whole && !hasFlag flags 't' then l ++ [mark] else l
        String.ofList (Encoding.decode s.charset (l.filter (· ≠ 0)))
      let old := ((binding? s name).map Variable.content).getD (.text none)
      if ((lookVariable s name).any Variable.fixed) then
        complain (fixedText s name)
        return 1
      let start : Content := if (flagValue? flags 'O').isSome then (match old with
        | .list es => .list (some (es.getD []))
        | _ => .list (some [])) else .list (some [])
      let _ ← change name fun v => { v with content := start }
      let callback := flagValue? flags 'C'
      let quantum := max 1 (number 'c' 5000)
      texts.zipIdx.forM fun (t, i) => do
        if let some command := callback then
          if (i + 1) % quantum = 0 then
            e.text "" s.line (command ++ " " ++ toString (origin + i) ++ " " ++ Escape.single t).toList
        let _ ← change name fun v => { v with content := v.content.put (.number (origin + i)) t }
      pure 0

/-! ### Options of scripts -/

/-- What one step through the options finds: the new place, the letter, its value, and a complaint. -/
structure OptionStep where
  index : Nat
  letters : Nat
  answer : Option String
  value : Option String := none
  complaint : Option String := none

/-- The next option of some words, from a place on. -/
def optionStep (isBash silent : Bool) (spec : List Char) (words : List String) (index letters : Nat) : OptionStep :=
  let finish (index : Nat) : OptionStep := { index, letters := 0, answer := none }
  match words[index - 1]? with
  | none => finish index
  | some word =>
    let cs := word.toList
    if letters = 0 && (!word.startsWith "-" || word = "-") then finish index
    else if letters = 0 && word = "--" then finish (index + 1)
    else
      let place := if letters = 0 then 1 else letters
      let c := (cs[place]?).getD ' '
      let isLast := cs.length ≤ place + 1
      let next : Nat × Nat := if isLast then (index + 1, 0) else (index, place + 1)
      let after := (spec.dropWhile (· ≠ c)).drop 1
      if c = ':' || !spec.contains c then
        { index := next.1, letters := next.2, answer := some "?"
          value := if silent then some (String.singleton c) else none
          complaint := if silent then none
            else some (if isBash then "illegal option -- " ++ String.singleton c
              else "Illegal option -" ++ String.singleton c) }
      else if after.head? ≠ some ':' then
        { index := next.1, letters := next.2, answer := some (String.singleton c) }
      else if !isLast then
        { index := index + 1, letters := 0, answer := some (String.singleton c)
          value := some (String.ofList (cs.drop (place + 1))) }
      else match words[index]? with
        | some value =>
          { index := index + 2, letters := 0, answer := some (String.singleton c), value := some value }
        | none =>
          { index := index + 1, letters := 0, answer := some (if silent then ":" else "?")
            value := if silent then some (String.singleton c) else none
            complaint := if silent then none
              else some (if isBash then "option requires an argument -- " ++ String.singleton c
                else "No arg for -" ++ String.singleton c ++ " option") }

def getopts (arguments : List String) : Act Nat := do
  let s ← get
  let arguments := match arguments with
    | "--" :: rest => rest
    | words => words
  match arguments with
  | spec :: name :: rest => do
    let words := if rest.isEmpty then s.arguments else rest
    let silent := spec.startsWith ":"
    let letters := (if silent then spec.drop 1 else spec).toString.toList
    let index := max 1 (((value? s "OPTIND").bind Text.natural?).getD 1)
    let place := if some index = s.optionPlace.map Prod.fst then (s.optionPlace.map Prod.snd).getD 0 else 0
    let step := optionStep s.isBash silent letters words index place
    modify fun s => { s with optionPlace := some (step.index, step.letters) }
    let _ ← store "OPTIND" none (toString step.index)
    if let some text := step.complaint then
      match s.dialect with
      | .bash => if value? s "OPTERR" ≠ some "0" then say 2 (s.name ++ ": " ++ text)
      | .posix => say 2 text
    match step.value with
    | some v => do let _ ← store "OPTARG" none v
    | none => modify fun s => { s with bindings := s.bindings.filter fun (n, _) => n ≠ "OPTARG" }
    let answer := step.answer.getD "?"
    let status ← if isName name.toList then do
        let made ← store name none answer
        pure (if made then (if step.answer.isSome then 0 else 1) else 1)
      else refuse "getopts" ("\x60" ++ name ++ "': not a valid identifier") 1
    pure status
  | _ =>
    match s.dialect with
    | .bash => usage "getopts"
    | .posix => refuse "getopts" "Usage: getopts optstring var [arg...]" 2

end LintRun.Shell
