import LintRun.Text.Utf8

/-!
# Shell — Encoding

Texts of shells and of the programs that they start. Such a text is made of bytes; the character set says which
bytes are one character.

* `Encoding.encode`: the bytes of a text.
* `Encoding.decode`: the text that some bytes are. Every byte that belongs to no character of the set stands for
  itself, as one of the last private code points, so that nothing is lost.
-/

namespace LintRun.Shell

/-- The two families of shells, which differ in how they treat backslashes, in a few commands and in wording. -/
inductive Dialect
  | posix
  | bash
  deriving DecidableEq, Repr

/-- Which bytes are one character: only those of ASCII, or the sequences of UTF-8, too. -/
inductive Charset
  | ascii
  | utf8
  deriving DecidableEq, Repr

namespace Encoding

/-- The code point that stands for a byte is this one and the byte. -/
def byteBase : Nat := 0x10FF00

def ofByte (b : UInt8) : Char := Char.ofNat (byteBase + b.toNat)

/-- The byte that a character stands for. -/
def byte? (c : Char) : Option UInt8 :=
  if byteBase + 128 ≤ c.toNat then some (UInt8.ofNat (c.toNat - byteBase)) else none

/-- The bytes of a character. -/
def encodeChar (c : Char) : List UInt8 :=
  match byte? c with
  | some b => [b]
  | none => if c.toNat < 128 then [UInt8.ofNat c.toNat] else (String.singleton c).toUTF8.toList

def encode (cs : List Char) : List UInt8 := cs.flatMap encodeChar

/-- A byte on its own. -/
def single (b : UInt8) : Char := if b < 0x80 then Char.ofNat b.toNat else ofByte b

/-- The characters of some bytes. -/
def decode : Charset → List UInt8 → List Char
  | .ascii, bytes => bytes.map single
  | .utf8, bytes => (Utf8.pieces bytes).flatMap fun
    | .char c _ => [c]
    | .fault _ bytes => bytes.map single

/-- A text as another character set sees it. -/
def recode (set : Charset) (text : String) : String :=
  if text.toList.all (·.toNat < 128) then text else String.ofList (decode set (encode text.toList))

/-- A text as people see it. -/
def visible (text : String) : String :=
  if text.toList.all (·.toNat < 128) then text else String.ofList (Utf8.decodeLossy (encode text.toList))

end Encoding

/-- The bytes of a text. -/
def bytesOf (cs : List Char) : List UInt8 := Encoding.encode cs

end LintRun.Shell
