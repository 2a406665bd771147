import LeadScreen.Text.Basic

set_option autoImplicit false

/-!
# Decoding UTF-8

Bytes are decoded one by one. Where they are not UTF-8, each longest beginning of a character that
cannot go on, and each byte that begins no character, becomes one replacement character. A byte
order mark at the start is left out.
-/

namespace LeadScreen.Table

/-- The character that stands for bytes that are not UTF-8. -/
def replacement : Char := '\uFFFD'

/-- A character that is decoded in part. -/
structure Partial8 where
  /-- The bits read so far. -/
  bits : Nat
  /-- How many bytes are still to come. -/
  left : Nat
  /-- The least and the greatest byte that may come next. -/
  low : Nat
  high : Nat
deriving DecidableEq, Repr

/-- What a byte at the start of a character begins. -/
inductive Lead8 where
  | whole (c : Char)
  | opens (p : Partial8)
  | invalid
deriving DecidableEq, Repr

/-- What a byte at the start of a character begins. The second byte is restricted after four of
the leading bytes, so that no character has two encodings and no surrogate any. -/
def lead8 (b : Nat) : Lead8 :=
  if b < 0x80 then .whole (Char.ofNat b)
  else if b < 0xC2 then .invalid
  else if b < 0xE0 then .opens ⟨b - 0xC0, 1, 0x80, 0xBF⟩
  else if b < 0xF0 then
    .opens ⟨b - 0xE0, 2, if b = 0xE0 then 0xA0 else 0x80, if b = 0xED then 0x9F else 0xBF⟩
  else if b < 0xF5 then
    .opens ⟨b - 0xF0, 3, if b = 0xF0 then 0x90 else 0x80, if b = 0xF4 then 0x8F else 0xBF⟩
  else .invalid

structure Decoder where
  /-- The characters decoded so far, the last one first. -/
  done : Text := []
  /-- The character that is begun. -/
  begun : Option Partial8 := none
deriving DecidableEq, Repr

namespace Decoder

def start (done : Text) (b : Nat) : Decoder :=
  match lead8 b with
  | .whole c => ⟨c :: done, none⟩
  | .opens p => ⟨done, some p⟩
  | .invalid => ⟨replacement :: done, none⟩

def step (d : Decoder) (byte : UInt8) : Decoder :=
  let b := byte.toNat
  match d.begun with
  | none => start d.done b
  | some p =>
    if p.low ≤ b && b ≤ p.high then
      let bits := p.bits * 64 + (b - 0x80)
      if p.left = 1 then ⟨Char.ofNat bits :: d.done, none⟩
      else ⟨d.done, some ⟨bits, p.left - 1, 0x80, 0xBF⟩⟩
    else start (replacement :: d.done) b

def finish (d : Decoder) : Text :=
  (match d.begun with
    | none => d.done
    | some _ => replacement :: d.done).reverse

end Decoder

def decodeBytes (bytes : List UInt8) : Text :=
  (bytes.foldl Decoder.step {}).finish

def byteOrderMark : List UInt8 :=
  [0xEF, 0xBB, 0xBF]

/-- The text of a file: its bytes without a byte order mark, decoded. A file that ends within a
byte order mark has no text. -/
def fileText (bytes : List UInt8) : Text :=
  if bytes.isPrefixOf byteOrderMark then []
  else if byteOrderMark.isPrefixOf bytes then decodeBytes (bytes.drop byteOrderMark.length)
  else decodeBytes bytes

example : decodeBytes [0x41, 0xED, 0xA0, 0x80, 0xC3, 0xA9, 0xF0, 0x9F, 0x98]
    = ['A', replacement, replacement, replacement, 'é', replacement] := by decide +kernel

end LeadScreen.Table
