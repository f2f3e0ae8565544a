import LintRun.Shell.Expansion

/-!
# Shell — Redirections

Where the output of a command goes and where its input comes from.

* `makeRedirects`: makes redirections in order, up to the first one that fails.
* `withDescriptors`: a step after which everything goes where it went before.
* `feed`: runs the commands that take in what was written for them.
-/

namespace LintRun.Shell

/-- Opens a file for reading. -/
def openInput (target : String) : Act (Except Refusal Stream) := do
  let s ← get
  match descriptorPath? target with
  | some n =>
    match streamOf s n with
    | some stream => pure (.ok stream)
    | none => pure (.error .noEntry)
  | none =>
    match ← readFile target with
    | .ok bytes => do
      let stream ← newSource bytes
      if let .source n := stream then modify fun s => { s with regular := (n, bytes.length) :: s.regular }
      pure (.ok stream)
    | .error .isDirectory => .ok <$> newSource []
    | .error r => pure (.error r)

/-- Opens a file for writing; one that is there may be refused. -/
def openOutput (append guarded : Bool) (target : String) : Act (Except Refusal Stream) := do
  let s ← get
  let path := absolutePath s.tree (pathOf target)
  let fresh (content : List UInt8) (executable : Bool) : Act (Except Refusal Stream) := do
    set { s with tree := ((s.tree.write path content executable).toOption).getD s.tree }
    pure (.ok (.file path))
  match target, descriptorPath? target with
  | "", _ => pure (.error .noEntry)
  | "/dev/null", _ => pure (.ok .nowhere)
  | "/dev/full", _ => pure (.ok .full)
  | _, some n =>
    match streamOf s n with
    | some stream => pure (.ok stream)
    | none => pure (.error .noEntry)
  | _, none =>
    match s.tree.locate .file path with
    | .error r => pure (.error (if System.kind? path = some .folder then .isDirectory else r))
    | .ok (.present ((_, .file content executable) :: _)) =>
      if guarded then pure (.error .alreadyExists) else fresh (if append then content else []) executable
    | .ok (.present _) => pure (.error .isDirectory)
    | .ok (.absent _ _) => if System.kind? path = some .folder then pure (.error .isDirectory) else fresh [] false

/-- Says why a redirection could not be made. -/
def refuseRedirect (verb target : String) (r : Refusal) : Act Bool := do
  match (← get).dialect with
  | .bash => complain (target ++ ": " ++ if r = .alreadyExists then "cannot overwrite existing file" else r.text)
  | .posix =>
    let text := if r = .noEntry then (if verb = "create" then "Directory nonexistent" else "No such file") else r.text
    complain ("cannot " ++ verb ++ " " ++ target ++ ": " ++ text)
  setStatus (if (← get).isBash then 1 else 2)
  pure false

/-- Says that a descriptor is not what it should be. -/
def refuseHandle (what text : String) : Act Bool := do
  complain (what ++ ": " ++ text)
  setStatus (if (← get).isBash then 1 else 2)
  pure false

/-- The descriptor of a redirection; a variable takes a free one. -/
def descriptorFor (usual : Nat) : Option Handle → Act Nat
  | none => pure usual
  | some (.number n) => pure n
  | some (.variable name) => do
    let s ← get
    let n := ((List.range 200).map (· + 10)).find? (fun n => (streamOf s n).isNone) |>.getD 10
    assign name (toString n)
    pure n

/-- Has a descriptor lead where another one does; `-` closes it, and an ending `-` closes the other one. -/
def copyDescriptor (handle : Option Handle) (isOutput : Bool) (source text : String) : Act Bool := do
  let s ← get
  let usual := if isOutput then 1 else 0
  let moved := text.length > 1 && text.endsWith "-"
  let digits := if moved then (text.dropEnd 1).toString else text
  let isNumber := !digits.isEmpty && digits.toList.all Text.isAsciiDigit
  if text = "-" then
    match handle with
    | some (.variable name) =>
      match (parameter s name).bind fun t => (Text.numberOf 10 t.toList : Option Nat) with
      | some n => closeDescriptor n
      | none => pure ()
    | some (.number n) => closeDescriptor n
    | none => closeDescriptor usual
    pure true
  else if s.dialect = .posix && !(isNumber && digits.length = 1 && !moved) then
    say 2 (messageHead { s with line := s.line + 1 } ++ "Syntax error: Bad fd number")
    exit 2
  else if isNumber then
    let n := Text.numberOf 10 digits.toList
    match streamOf s n with
    | none => refuseHandle source "Bad file descriptor"
    | some stream => do
      let own ← descriptorFor usual handle
      redirect own stream
      if moved then closeDescriptor n
      pure true
  else if text = "" then refuseHandle source "Bad file descriptor"
  else if isOutput && (handle = none || handle = some (.number 1)) then
    match ← openOutput false (s.has "noclobber") text with
    | .ok stream => do
      redirect 1 stream
      redirect 2 stream
      pure true
    | .error r => refuseRedirect "create" text r
  else refuseHandle source "ambiguous redirect"

/-- Makes one redirection; the answer tells whether it could be made. -/
def makeRedirect (e : Engine) : Redirect → Act Bool
  | .mk handle direction target => do
    let lead (usual : Nat) (text : String) (verb : String) (opened : Except Refusal Stream) : Act Bool :=
      match opened with
      | .ok stream => do
        let n ← descriptorFor usual handle
        redirect n stream
        pure true
      | .error r => refuseRedirect verb text r
    let source := String.ofList target.source
    let named (act : String → Act Bool) : Act Bool := do
      match ← targetText e target with
      | some text => act text
      | none => refuseHandle source "ambiguous redirect"
    let guarded := (← get).has "noclobber"
    match direction with
    | .text _ _ _ => do
      let bits ← expandPieces e target.pieces
      let stream ← newSource (bytesOf ((glyphsOf bits).map Glyph.char))
      lead 0 "" "open" (.ok stream)
    | .line => do
      let text ← wordText e target
      let stream ← newSource (bytesOf (text.toList ++ ['\n']))
      lead 0 "" "open" (.ok stream)
    | .read => named fun text => do lead 0 text "open" (← openInput text)
    | .write force => named fun text => do lead 1 text "create" (← openOutput false (guarded && !force) text)
    | .append => named fun text => do lead 1 text "create" (← openOutput true false text)
    | .update => named fun text => do lead 0 text "create" (← openOutput true false text)
    | .both append => named fun text => do
      match ← openOutput append (guarded && !append) text with
      | .ok stream => do
        redirect 1 stream
        redirect 2 stream
        pure true
      | .error r => refuseRedirect "create" text r
    | .copyIn => named (copyDescriptor handle false source)
    | .copyOut => named (copyDescriptor handle true source)

/-- Makes redirections in order, up to the first one that fails. -/
def makeRedirects (e : Engine) : List Redirect → Act Bool
  | [] => pure true
  | r :: rest => do if ← makeRedirect e r then makeRedirects e rest else pure false

/-- The descriptors that a variable has taken stay open. -/
def keptDescriptors (before after : List (Nat × Stream)) (redirects : List Redirect) : List (Nat × Stream) :=
  let lasting := redirects.any fun
    | .mk (some (.variable _)) _ _ => true
    | _ => false
  if lasting then before ++ after.filter fun (n, _) => 10 ≤ n && (before.lookup n).isNone else before

/-- A step after which everything goes where it went before. -/
def withDescriptors (redirects : List Redirect) (act : Act Unit) : Act Unit := do
  let before := (← get).descriptors
  thenAlways act (modify fun s => { s with descriptors := keptDescriptors before s.descriptors redirects })

/-- Runs the commands that take in what has been written for them. -/
def feed (e : Engine) : List (Nat × List Command) → Act Unit
  | [] => pure ()
  | (n, body) :: rest => do
    let s ← get
    let own := Stream.pipe (1000 + n)
    let bytes := collected (· = own) s.written
    set { s with written := s.written.filter fun r => r.stream ≠ own }
    withInput bytes (inSubshell e (runBody e body))
    modify fun t => { t with status := s.status }
    feed e rest

/-- A step with the commands after it that take in what it has written. -/
def feeding (e : Engine) (act : Act Unit) : Act Unit := do
  let before := (← get).feeds
  let descriptors := (← get).descriptors
  modify fun s => { s with feeds := [] }
  thenAlways act do
    let own := (← get).feeds
    modify fun s =>
      { s with
        feeds := before
        descriptors := s.descriptors.filter fun (n, _) => n < 40 || 63 < n || (descriptors.lookup n).isSome }
    feed e own.reverse

end LintRun.Shell
