import LintRun.Failure.Fault

/-!
# Value — Order of keys

Keys of one kind have an order: texts by code points, numbers by their value, days and moments by time, bytes
byte by byte. Keys of two kinds have none.

* `Value.precedes`: whether a key comes before another one.
* `Value.sortKeys`: keys in order, or the fault of the first that cannot be compared with those before it.
-/

namespace LintRun

namespace Value

/-- Whether a float is one of the two infinities, and which. -/
def infinite? : Value → Option Bool
  | .float x =>
    match x.view with
    | .infinite negative => some negative
    | _ => none
  | _ => none

def isNumber : Value → Bool
  | .bool _ | .int _ | .float _ => true
  | _ => false

/-- Whether a number is less than another one. -/
def lessNumber (a b : Value) : Bool :=
  match a.infinite?, b.infinite? with
  | some true, some true => false
  | some true, _ => !(b.scaledNumber?.isNone && b.infinite?.isNone)
  | _, some false => a.infinite?.isNone && a.scaledNumber?.isSome
  | _, _ =>
    match a.scaledNumber?, b.scaledNumber? with
    | some m, some n => m < n
    | _, _ => false

/-- Whether a key comes before another one, if the two can be compared. -/
def precedes (a b : Value) : Except KindFault Bool :=
  match a, b with
  | .bytes s, .bytes t => .ok (compare (s.map UInt8.toNat) (t.map UInt8.toNat) == .lt)
  | .date d, .date e => .ok (d.ordinal < e.ordinal)
  | .moment t, .moment u =>
    if t.offset.isSome = u.offset.isSome then .ok (t.instant < u.instant) else .error .mixedOffsets
  | .date _, .moment _ | .moment _, .date _ => .error .dayAgainstMoment
  | a, b =>
    match a.codes?, b.codes? with
    | some s, some t => .ok (compare s t == .lt)
    | _, _ => if a.isNumber && b.isNumber then .ok (lessNumber a b) else .error (.notOrdered a.kindName b.kindName)

/-- Puts a key in its place among keys in order. -/
def insertKey (key : Value) : List Value → Except KindFault (List Value)
  | [] => .ok [key]
  | k :: rest => do
    if ← precedes key k then .ok (key :: k :: rest)
    else (insertKey key rest).map (k :: ·)

/-- The keys in order. -/
def sortKeys (keys : List Value) : Except KindFault (List Value) :=
  keys.foldlM (fun sorted key => insertKey key sorted) []

end Value
end LintRun
