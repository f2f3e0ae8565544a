import LintRun.Text.Quoted

/-!
# Text — UTF-8

Bytes as text. `pieces` cuts a byte sequence into characters and faults; a fault covers the longest start of
a character that the bytes there could still have been, and at least one byte.

* `decode`: the text, or the first fault with its place.
* `decodeLossy`: the text with one replacement character for each fault.
-/

namespace LintRun.Utf8

/-- Why some bytes are no character. -/
inductive Reason
  | start
  | continuation
  | truncated
  deriving DecidableEq, Repr

inductive Piece
  | char (c : Char) (size : Nat)
  | fault (reason : Reason) (bytes : List UInt8)

def isContinuation (b : UInt8) : Bool := 0x80 ≤ b && b < 0xC0

/-- Whether `b` may follow the first byte `lead` of a three-byte character: no overlong form, no surrogate. -/
def secondOfThree (lead b : UInt8) : Bool :=
  isContinuation b && !(lead == 0xE0 && b < 0xA0) && !(lead == 0xED && 0xA0 ≤ b)

/-- Whether `b` may follow the first byte `lead` of a four-byte character: no overlong form, nothing past the
last code point. -/
def secondOfFour (lead b : UInt8) : Bool :=
  isContinuation b && !(lead == 0xF0 && b < 0x90) && !(lead == 0xF4 && 0x90 ≤ b)

/-- The low six bits. -/
def payload (b : UInt8) : Nat := b.toNat % 64

/-- The characters and faults of a byte sequence, in order. -/
def pieces : List UInt8 → List Piece
  | [] => []
  | a :: r =>
    if a < 0x80 then .char (Char.ofNat a.toNat) 1 :: pieces r
    else if 0xC2 ≤ a && a < 0xE0 then
      match r with
      | [] => [.fault .truncated [a]]
      | b :: r₁ =>
        if isContinuation b then .char (Char.ofNat (a.toNat % 32 * 64 + payload b)) 2 :: pieces r₁
        else .fault .continuation [a] :: pieces (b :: r₁)
    else if 0xE0 ≤ a && a < 0xF0 then
      match r with
      | [] => [.fault .truncated [a]]
      | b :: r₁ =>
        if !secondOfThree a b then .fault .continuation [a] :: pieces (b :: r₁)
        else match r₁ with
          | [] => [.fault .truncated [a, b]]
          | c :: r₂ =>
            if isContinuation c then
              .char (Char.ofNat ((a.toNat % 16 * 64 + payload b) * 64 + payload c)) 3 :: pieces r₂
            else .fault .continuation [a, b] :: pieces (c :: r₂)
    else if 0xF0 ≤ a && a < 0xF5 then
      match r with
      | [] => [.fault .truncated [a]]
      | b :: r₁ =>
        if !secondOfFour a b then .fault .continuation [a] :: pieces (b :: r₁)
        else match r₁ with
          | [] => [.fault .truncated [a, b]]
          | c :: r₂ =>
            if !isContinuation c then .fault .continuation [a, b] :: pieces (c :: r₂)
            else match r₂ with
              | [] => [.fault .truncated [a, b, c]]
              | d :: r₃ =>
                if isContinuation d then
                  .char (Char.ofNat (((a.toNat % 8 * 64 + payload b) * 64 + payload c) * 64 + payload d)) 4
                    :: pieces r₃
                else .fault .continuation [a, b, c] :: pieces (d :: r₃)
    else .fault .start [a] :: pieces r
  termination_by bytes => bytes.length

/-- The first fault of a byte sequence: its bytes and where they start. -/
structure Fault where
  reason : Reason
  bytes : List UInt8
  position : Nat
  deriving DecidableEq, Repr

/-- The text of the pieces from `position` on. -/
def collect (position : Nat) : List Piece → Except Fault (List Char)
  | [] => .ok []
  | .char c size :: rest => (collect (position + size) rest).map (c :: ·)
  | .fault reason bytes :: _ => .error ⟨reason, bytes, position⟩

/-- The text that the bytes encode, or the first fault. -/
def decode (bytes : List UInt8) : Except Fault (List Char) :=
  collect 0 (pieces bytes)

/-- The text that the bytes encode, a replacement character for each fault. -/
def decodeLossy (bytes : List UInt8) : List Char :=
  (pieces bytes).map fun
    | .char c _ => c
    | .fault _ _ => '\uFFFD'

def Reason.text : Reason → String
  | .start => "invalid start byte"
  | .continuation => "invalid continuation byte"
  | .truncated => "unexpected end of data"

/-- The fault in words: a single byte is shown, several only placed. -/
def Fault.message (f : Fault) : String :=
  let place := match f.bytes with
    | [b] => "byte 0x" ++ String.ofList (Text.hexText 2 b.toNat) ++ " in position " ++ toString f.position
    | bytes => "bytes in position " ++ toString f.position ++ "-" ++ toString (f.position + bytes.length - 1)
  "'utf-8' codec can't decode " ++ place ++ ": " ++ f.reason.text

end LintRun.Utf8
