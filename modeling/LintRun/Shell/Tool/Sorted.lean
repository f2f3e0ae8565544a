import LintRun.Shell.Redirection
import LintRun.Shell.Tool.Basic
import LintRun.Shell.Tool.Order

/-!
# Shell — Programs of the system: sorted lines

Programs that take lines which are in order.

* `unique`: of lines that are alike, one after another, only one.
* `common`: the lines of two files, in three columns.
* `join`: pairs of lines with the same field.
* `topological`: names in an order in which each comes before those that need it.
-/

namespace LintRun.Shell
namespace Tool

/-! ### Repeated lines -/

/-- A line without some fields in front, blanks included. -/
def withoutFields : Nat → List UInt8 → List UInt8
  | 0, line => line
  | n + 1, line => withoutFields n ((line.dropWhile Order.isGap).dropWhile fun b => !Order.isGap b)

/-- Lines in groups of those that are alike, which stand next to one another. -/
def grouped (alike : List UInt8 → List UInt8 → Bool) (ls : List (List UInt8)) : List (List (List UInt8)) :=
  ls.foldr (fun line groups => match groups with
    | (first :: more) :: rest => if alike line first then (line :: first :: more) :: rest else [line] :: groups
    | groups => [line] :: groups) []

/-- The old ways to pass over fields and characters. -/
def withOldSkips : List String → List String
  | a :: rest =>
    let digits := a.toList.drop 1
    let isNumber := !digits.isEmpty && digits.all Text.isAsciiDigit
    if a = "--" then a :: rest
    else if isNumber && a.startsWith "-" then ("-f" ++ String.ofList digits) :: withOldSkips rest
    else if isNumber && a.startsWith "+" then ("-s" ++ String.ofList digits) :: withOldSkips rest
    else a :: withOldSkips rest
  | [] => []

def unique : Plain := fun arguments =>
  withChoices ["c/count", "d/repeated", "D", "/all-repeated=?", "f/skip-fields=", "/group=?", "i/ignore-case",
    "s/skip-chars=", "u/unique", "z/zero-terminated", "w/check-chars="] (fun chosen words => do
    let s ← get
    let number (key : String) (usual : Nat) : Option Nat :=
      match value? chosen key with
      | none => some usual
      | some text => Text.natural? text
    let all := has chosen "D" || has chosen "all-repeated"
    let counts := has chosen "c"
    match number "f" 0, number "s" 0, value? chosen "w", (value? chosen "w").bind Text.natural? with
    | none, _, _, _ => fail ((value? chosen "f").getD "" ++ ": invalid number of fields to skip")
    | _, none, _, _ => fail ((value? chosen "s").getD "" ++ ": invalid number of bytes to skip")
    | _, _, some text, none => fail (text ++ ": invalid number of bytes to compare")
    | some fields, some chars, _, width =>
      if 2 < words.length then misuse ("extra operand " ++ quotedFor s (words.getD 2 ""))
      else if all && counts then misuse "printing all duplicated lines and repeat counts is meaningless"
      else if has chosen "group" && (all || counts || has chosen "d" || has chosen "u") then
        misuse "--group is mutually exclusive with -c/-d/-D/-u"
      else
        let key (line : List UInt8) : List UInt8 :=
          let rest := (withoutFields fields line).drop chars
          let rest := match width with
            | some n => rest.take n
            | none => rest
          if has chosen "i" then rest.map Order.upper else rest
        let path := words.headD "-"
        match ← readSource path with
        | .error r => fail (shownName s path ++ ": " ++ r.text)
        | .ok bytes =>
          let mark : UInt8 := if has chosen "z" then 0 else 10
          let groups := grouped (fun a b => key a == key b) (lines mark bytes).1
          let kept := groups.filter fun g =>
            (!(has chosen "d" || all) || 1 < g.length) && (!has chosen "u" || g.length = 1)
          let shown (g : List (List UInt8)) : List UInt8 :=
            if all || has chosen "group" then unlines mark g
            else (if counts then ascii (Text.padLeft 7 (toString g.length) ++ " ") else []) ++ unlines mark (g.take 1)
          let gap : String := if has chosen "group" then (value? chosen "group").getD "" else
            if all then (value? chosen "all-repeated").getD "none" else "none"
          let pieces := kept.map shown
          let out := match gap with
            | "none" => pieces.flatten
            | "prepend" => pieces.flatMap ([mark] ++ ·)
            | "append" => pieces.flatMap (· ++ [mark])
            | "both" => [mark] ++ pieces.flatMap (· ++ [mark])
            | _ => (pieces.intersperse [mark]).flatten
          match words with
          | [_, target] =>
            if target = "-" then do
              write 1 out
              pure 0
            else match ← openOutput false false target with
              | .ok stream => do
                writeTo stream out
                pure 0
              | .error r => fail (shownName s target ++ ": " ++ r.text)
          | _ => do
            write 1 out
            pure 0) 1 true (withOldSkips arguments)

/-! ### Lines of two files -/

/-- Two files, of which one may be the input. -/
def withTwoFiles (words : List String) (act : List UInt8 → List UInt8 → Act Nat) : Act Nat := do
  let s ← get
  match words with
  | [] => misuse "missing operand"
  | [a] => misuse ("missing operand after " ++ quotedFor s a)
  | [a, b] => do
    match ← readSource a with
    | .error r => fail (shownName s a ++ ": " ++ r.text)
    | .ok x =>
      match ← readSource b with
      | .error r => fail (shownName s b ++ ": " ++ r.text)
      | .ok y => act x y
  | _ :: _ :: c :: _ => misuse ("extra operand " ++ quotedFor s c)

/-- Which of two files a line stands in. -/
inductive Side
  | first
  | second
  | both
  deriving DecidableEq, Repr

/-- The lines of two files in order, with the side that each is on. -/
def sides : Nat → List (List UInt8) → List (List UInt8) → List (Side × List UInt8)
  | 0, _, _ => []
  | _ + 1, [], [] => []
  | fuel + 1, a :: as, [] => (.first, a) :: sides fuel as []
  | fuel + 1, [], b :: bs => (.second, b) :: sides fuel [] bs
  | fuel + 1, a :: as, b :: bs =>
    match compareBytes a b with
    | .eq => (.both, a) :: sides fuel as bs
    | .lt => (.first, a) :: sides fuel as (b :: bs)
    | .gt => (.second, b) :: sides fuel (a :: as) bs

/-- Whether lines are in order. -/
def inOrder : List (List UInt8) → Bool
  | a :: b :: rest => compareBytes a b ≠ .gt && inOrder (b :: rest)
  | _ => true

def common : Plain :=
  withChoices ["1", "2", "3", "/check-order", "/nocheck-order", "/output-delimiter=", "/total", "z/zero-terminated"]
    fun chosen words =>
    withTwoFiles words fun x y => do
      let mark : UInt8 := if has chosen "z" then 0 else 10
      let as := (lines mark x).1
      let bs := (lines mark y).1
      let rows := sides (as.length + bs.length + 1) as bs
      let gap := match value? chosen "output-delimiter" with
        | some t => if t = "" then [0] else ascii t
        | none => [9]
      let front (columns : List String) : List UInt8 := columns.flatMap fun c => if has chosen c then [] else gap
      write 1 (rows.flatMap fun (side, line) =>
        match side with
        | .first => if has chosen "1" then [] else line ++ [mark]
        | .second => if has chosen "2" then [] else front ["1"] ++ line ++ [mark]
        | .both => if has chosen "3" then [] else front ["1", "2"] ++ line ++ [mark])
      if has chosen "total" then
        let n (side : Side) : List UInt8 := ascii (toString (rows.filter fun r => r.1 = side).length)
        write 1 (n .first ++ gap ++ n .second ++ gap ++ n .both ++ gap ++ ascii "total" ++ [mark])
      let strict := has chosen "check-order"
      let paired := rows.all fun r => r.1 = .both
      if has chosen "nocheck-order" || (paired && !strict) then pure 0
      else
        let wrong := [(as, "1"), (bs, "2")].filter fun (ls, _) => !inOrder ls
        wrong.forM fun (_, n) => remark ("file " ++ n ++ " is not in sorted order")
        if wrong.isEmpty then pure 0 else fail "input is not in sorted order"

/-! ### Pairs of lines -/

/-- A line in fields. -/
def joinFields (tab : Option UInt8) (line : List UInt8) : List (List UInt8) :=
  match tab with
  | some t => Text.splitAt t line
  | none => (Text.splitAt (32 : UInt8) (line.map fun b => if Order.isGap b then 32 else b)).filter (!·.isEmpty)

/-- A field of the output: the common one, or a field of one of the two lines. -/
inductive JoinField
  | common
  | own (second : Bool) (number : Nat)

/-- The fields that a description lists. -/
def joinFieldsOf (text : String) : Option (List JoinField) :=
  let parts := (Text.splitAt ',' (text.toList.map fun c => if c = ' ' then ',' else c)).map String.ofList
  parts.mapM fun p =>
    match p.toList with
    | ['0'] => some .common
    | '1' :: '.' :: n => (Text.natural? (String.ofList n)).map (.own false)
    | '2' :: '.' :: n => (Text.natural? (String.ofList n)).map (.own true)
    | _ => none

/-- A row of one line or of two. -/
abbrev JoinRow := Option (List (List UInt8)) × Option (List (List UInt8))

/-- The rows that the lines of two files make, by their keys. -/
def joinRows (key₁ key₂ : List (List UInt8) → List UInt8) : Nat → List (List (List UInt8)) → List (List (List UInt8)) →
    List JoinRow
  | 0, _, _ => []
  | _ + 1, [], bs => bs.map fun b => (none, some b)
  | _ + 1, as, [] => as.map fun a => (some a, none)
  | fuel + 1, a :: as, b :: bs =>
    match compareBytes (key₁ a) (key₂ b) with
    | .lt => (some a, none) :: joinRows key₁ key₂ fuel as (b :: bs)
    | .gt => (none, some b) :: joinRows key₁ key₂ fuel (a :: as) bs
    | .eq =>
      let k := key₁ a
      let ownA := a :: as.takeWhile fun r => key₁ r == k
      let ownB := b :: bs.takeWhile fun r => key₂ r == k
      (ownA.flatMap fun r => ownB.map fun q => (some r, some q)) ++
        joinRows key₁ key₂ fuel (as.drop (ownA.length - 1)) (bs.drop (ownB.length - 1))

def join : Plain :=
  withChoices ["a=", "e=", "i/ignore-case", "j=", "o=", "t=", "v=", "1=", "2=", "/check-order", "/nocheck-order",
    "/header", "z/zero-terminated"] fun chosen words =>
    withTwoFiles words fun x y => do
      let mark : UInt8 := if has chosen "z" then 0 else 10
      let tab := (value? chosen "t").bind fun t => if t = "\\0" then some 0 else (ascii t).head?
      let place (key : String) : Nat := ((((value? chosen key).orElse fun _ =>
        value? chosen "j").bind Text.natural?).getD 1) - 1
      let filler := ascii ((value? chosen "e").getD "")
      let keyAt (n : Nat) (row : List (List UInt8)) : List UInt8 :=
        let k := row.getD n []
        if has chosen "i" then k.map Order.upper else k
      let single (n : String) : Bool := chosen.any fun c => (c.key = "a" || c.key = "v") && c.value = n
      let as := (lines mark x).1.map (joinFields tab)
      let bs := (lines mark y).1.map (joinFields tab)
      let rows := joinRows (keyAt (place "1")) (keyAt (place "2")) (as.length + bs.length + 1) as bs
      let kept := rows.filter fun row => match row with
        | (some _, some _) => !has chosen "v"
        | (some _, none) => single "1"
        | _ => single "2"
      let gap : List UInt8 := [tab.getD 32]
      let field (row : Option (List (List UInt8))) (n : Nat) : List UInt8 :=
        let f := (row.getD []).getD n []
        if f.isEmpty then filler else f
      let commonOf (row : JoinRow) : List UInt8 := match row with
        | (some a, _) => field (some a) (place "1")
        | (none, b) => field b (place "2")
      let shown (row : JoinRow) : List UInt8 :=
        let parts := match (value? chosen "o").bind joinFieldsOf with
          | some fields => fields.map fun (f : JoinField) => match f with
            | .common => commonOf row
            | .own second n => field (if second then row.2 else row.1) (n - 1)
          | none =>
            let others : List (List UInt8) := (row.1.getD []).eraseIdx (place "1") ++
              (row.2.getD []).eraseIdx (place "2")
            commonOf row :: others.map fun (f : List UInt8) => if f.isEmpty then filler else f
        (parts.intersperse gap).flatten ++ [mark]
      write 1 (kept.flatMap shown)
      pure 0

/-! ### Names that need one another -/

/-- Takes away names that nothing in front needs, in the order in which they become free. -/
def release : Nat → List String → List (String × String) → List String → List String
  | 0, _, _, found => found
  | _ + 1, [], _, found => found
  | fuel + 1, n :: waiting, pairs, found =>
    let own := pairs.filter fun p => p.1 = n
    let rest := pairs.filter fun p => p.1 ≠ n
    let free := (own.map Prod.snd).reverse.eraseDups.filter fun m => !rest.any fun p => p.2 = m
    release fuel (waiting ++ free) rest (found ++ [n])

def topological : Plain :=
  withChoices [] fun _ words => do
    let s ← get
    match words with
    | _ :: extra :: _ => misuse ("extra operand " ++ quotedFor s extra)
    | _ =>
      let path := words.headD "-"
      match ← readSource path with
      | .error r => fail (shownName s path ++ ": " ++ r.text)
      | .ok bytes =>
        let tokens := (joinFields none bytes).map fun w => String.ofList (Encoding.decode s.charset w)
        if tokens.length % 2 = 1 then fail (path ++ ": input contains an odd number of tokens")
        else
          let rec pairsOf : List String → List (String × String)
            | a :: b :: rest => (a, b) :: pairsOf rest
            | _ => []
          let pairs := (pairsOf tokens).filter fun p => p.1 ≠ p.2
          let names := (tokens.eraseDups).mergeSort fun a b => compareBytes (ascii a) (ascii b) ≠ .gt
          let free := names.filter fun n => !pairs.any fun p => p.2 = n
          let found := release (names.length + 1) free pairs []
          found.forM (say 1)
          let left := names.filter fun n => !found.contains n
          if left.isEmpty then pure 0
          else do
            remark (path ++ ": input contains a loop:")
            left.forM remark
            left.forM (say 1)
            pure 1

end Tool
end LintRun.Shell
