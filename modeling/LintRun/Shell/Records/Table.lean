import LintRun.Shell.Records.Value
import Std.Data.HashMap

/-!
# Shell — The record processor: arrays

Arrays, which know their values by names. The order in which a loop goes through the names follows from how they are
put away: each name has a place among a number of boxes that grows with the array, once by its text and, if it is a
whole number, once by that number; what was used last stands at the front of its box.

* `Table.find`, `Table.insert`, `Table.erase`: the value of a name.
* `Table.names`: the names in the order of a loop.
-/

namespace LintRun.Shell
namespace Records

/-- A name: a whole number or a text. -/
inductive Key
  | number (n : Int)
  | text (t : String)
  deriving DecidableEq, Repr

def Key.toText : Key → String
  | .number n => toString n
  | .text t => t

structure Table where
  values : Std.HashMap String Value := {}
  /-- How many boxes there are. -/
  boxes : Nat := 64
  /-- The boxes of all names by their texts, once a name was looked for by its text. -/
  texts : Option (Array (List String)) := none
  /-- The boxes of names by their numbers. -/
  numbers : Array (List Int) := #[]
  /-- The names are the numbers from one to this one, and are in no box yet. -/
  run : Option Nat := none

namespace Table

/-- A number that a text is put away by. -/
def digest (t : String) : Nat :=
  (bytesOf t.toList).foldl (fun h b => (h ^^^ b.toNat) * 16777619 % Nat.pow 2 32) 2166136261

def textBox (boxes : Nat) (t : String) : Nat := digest t % boxes

def numberBox (boxes : Nat) (n : Int) : Nat := (n % (boxes : Int)).toNat

def emptyBoxes (α : Type) (n : Nat) : Array (List α) := Array.replicate n []

/-- Puts something at the front of a box. -/
def putFront [BEq α] (boxes : Array (List α)) (i : Nat) (a : α) : Array (List α) :=
  boxes.modify i fun l => a :: l.erase a

def takeOut [BEq α] (boxes : Array (List α)) (i : Nat) (a : α) : Array (List α) :=
  boxes.modify i fun l => l.erase a

/-- The numbers of a run are put into boxes. -/
def unrolled (t : Table) : Table :=
  match t.run with
  | none => t
  | some n =>
    let rec grow : Nat → Nat → Nat
      | 0, boxes => boxes
      | fuel + 1, boxes => if boxes * 12 < n then grow fuel (2 * boxes) else boxes
    let boxes := grow 40 64
    let numbers := (List.range n).foldl
      (fun (bs : Array (List Int)) (i : Nat) => bs.modify (numberBox boxes ((i : Int) + 1)) fun l =>
        ((i : Int) + 1) :: l)
      (emptyBoxes Int boxes)
    { t with boxes, numbers, run := none }

/-- All names are put into boxes by their texts. -/
def withTexts (t : Table) : Table × Array (List String) :=
  let t := t.unrolled
  match t.texts with
  | some boxes => (t, boxes)
  | none =>
    let boxes := t.numbers.foldl
      (fun bs l => l.foldl (fun bs n => putFront bs (textBox t.boxes (toString n)) (toString n)) bs)
      (emptyBoxes String t.boxes)
    ({ t with texts := some boxes }, boxes)

/-- Doubles the number of boxes. -/
def doubled (t : Table) : Table :=
  let n := 2 * t.boxes
  let spread {α : Type} (place : α → Nat) (boxes : Array (List α)) : Array (List α) :=
    (boxes.mapIdx fun i l => l.filter fun a => place a = i) ++
      boxes.mapIdx fun i l => l.filter fun a => place a ≠ i
  { t with
    boxes := n, texts := t.texts.map (spread (textBox n))
    numbers := if t.numbers.isEmpty then #[] else spread (numberBox n) t.numbers }

/-- The table with one more name. -/
def added (t : Table) (name : String) : Table :=
  let t := { t with values := t.values.insert name .blank }
  if t.boxes * 12 < t.values.size then t.doubled else t

/-- A name is used by its text. -/
def useText (t : Table) (create : Bool) (name : String) : Table :=
  let (t, boxes) := t.withTexts
  if t.values.contains name then { t with texts := some (putFront boxes (textBox t.boxes name) name) }
  else if create then
    let t := t.added name
    { t with texts := t.texts.map fun bs => putFront bs (textBox t.boxes name) name }
  else t

/-- A name is used by its number. -/
def useNumber (t : Table) (create : Bool) (n : Int) : Table :=
  if t.run.any fun m => decide (1 ≤ n) && decide (n ≤ m) then t
  else
    let t := t.unrolled
    let t := if t.numbers.isEmpty then { t with numbers := emptyBoxes Int t.boxes } else t
    let front (t : Table) : Table := { t with numbers := putFront t.numbers (numberBox t.boxes n) n }
    if ((t.numbers[numberBox t.boxes n]?).getD []).contains n then front t
    else if t.texts.isSome then
      let t := t.useText create (toString n)
      if t.values.contains (toString n) then front t else t
    else if create then front (t.added (toString n))
    else t

/-- A name is used. -/
def use (t : Table) (create : Bool) (k : Key) : Table :=
  if t.values.isEmpty && !create then t
  else match k with
    | .number n => t.useNumber create n
    | .text name => t.useText create name

def contains (t : Table) (k : Key) : Bool := t.values.contains k.toText

/-- The value of a name, which gets one if it has none. -/
def find (t : Table) (k : Key) : Value × Table :=
  let t := t.use true k
  ((t.values.get? k.toText).getD .blank, t)

def insert (t : Table) (k : Key) (v : Value) : Table :=
  let t := t.use true k
  { t with values := t.values.insert k.toText v }

def erase (t : Table) (k : Key) : Table :=
  let t := (t.use false k).unrolled
  let name := k.toText
  if !t.values.contains name then t
  else
    let values := t.values.erase name
    if values.isEmpty then {}
    else
      let numbers := match k, name.toInt? with
        | .number n, _ | .text _, some n => if t.numbers.isEmpty then #[] else takeOut t.numbers (numberBox t.boxes n) n
        | _, _ => t.numbers
      { t with values, numbers, texts := t.texts.map fun bs => takeOut bs (textBox t.boxes name) name }

/-- The names in the order of a loop. -/
def names (t : Table) : List String × Table :=
  if t.values.isEmpty then ([], t)
  else
    let (t, boxes) := t.withTexts
    (boxes.toList.flatten, t)

/-- The values that are numbered from one. -/
def ofList (vs : List Value) : Table :=
  { values := vs.zipIdx.foldl (fun m (v, i) => m.insert (toString (i + 1)) v) {}
    run := if vs.isEmpty then none else some vs.length }

end Table
end Records
end LintRun.Shell
