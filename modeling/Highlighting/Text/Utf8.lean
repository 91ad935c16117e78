import Highlighting.Text.Basic

/-!
# Decoding UTF-8 without failing

`Utf8.decodeLossy` turns any bytes into a text.  Well-formed sequences give their characters, and
each *maximal ill-formed subpart* — a sequence that starts like a character but breaks off, or a
byte that can start nothing — gives one replacement character `U+FFFD`.

The decoder is a machine that takes one byte at a time, so decoding a concatenation is decoding its
parts in turn.  Between bytes it remembers only an unfinished sequence (`Pending`): the bits so far,
how many bytes are missing, and the range the next byte has to lie in.  That range is narrower than
`80..BF` after `E0`, `ED`, `F0` and `F4`, which is what keeps overlong forms, surrogates and numbers
above `10FFFF` out.

A byte outside the expected range ends the unfinished sequence *and is looked at afresh*, so no byte
below `80` is ever swallowed; line terminators survive whatever stands before them.
-/

namespace Highlighting.Utf8

/-- The mark for an ill-formed sequence. -/
def replacement : Char := '\uFFFD'

/-- An unfinished sequence: the bits read, the number of bytes that have to follow, and the range of
the next one. -/
structure Pending where
  bits : Nat
  missing : Nat
  low : UInt8
  high : UInt8
  deriving Repr, DecidableEq

/-- The characters decoded so far and the unfinished sequence, if any. -/
structure Decoder where
  decoded : Array Char
  pending : Option Pending

namespace Decoder

/-- Nothing read yet. -/
def start : Decoder := ⟨#[], none⟩

/-- Takes a byte that begins a sequence. -/
def beginSequence (decoded : Array Char) (b : UInt8) : Decoder :=
  let bits := b.toNat
  if b < 0x80 then ⟨decoded.push (Char.ofNat bits), none⟩
  -- `80..BF` can only continue; `C0` and `C1` could begin overlong forms only.
  else if b < 0xC2 then ⟨decoded.push replacement, none⟩
  else if b < 0xE0 then ⟨decoded, some ⟨bits % 32, 1, 0x80, 0xBF⟩⟩
  else if b < 0xF0 then
    -- Below `A0` the form would be overlong, above `9F` a surrogate.
    let low := if b = 0xE0 then 0xA0 else 0x80
    let high := if b = 0xED then 0x9F else 0xBF
    ⟨decoded, some ⟨bits % 16, 2, low, high⟩⟩
  else if b < 0xF5 then
    -- Below `90` the form would be overlong, above `8F` beyond the last code point.
    let low := if b = 0xF0 then 0x90 else 0x80
    let high := if b = 0xF4 then 0x8F else 0xBF
    ⟨decoded, some ⟨bits % 8, 3, low, high⟩⟩
  else ⟨decoded.push replacement, none⟩

/-- Takes one byte: it continues the unfinished sequence if it may, and otherwise begins a new
one. -/
def step (d : Decoder) (b : UInt8) : Decoder :=
  match d.pending with
  | none => beginSequence d.decoded b
  | some p =>
    if p.low ≤ b ∧ b ≤ p.high then
      let bits := p.bits * 64 + b.toNat % 64
      match p.missing with
      | 0 | 1 => ⟨d.decoded.push (Char.ofNat bits), none⟩
      | missing + 2 => ⟨d.decoded, some ⟨bits, missing + 1, 0x80, 0xBF⟩⟩
    else beginSequence (d.decoded.push replacement) b

/-- The text, once all bytes are in: a sequence still unfinished is ill-formed. -/
def finish (d : Decoder) : Text :=
  match d.pending with
  | none => d.decoded.toList
  | some _ => (d.decoded.push replacement).toList

end Decoder

/-- Decodes any bytes, with one `U+FFFD` per maximal ill-formed subpart. -/
def decodeLossy (bytes : Bytes) : Text :=
  (bytes.foldl Decoder.step Decoder.start).finish

/-- Decodes well-formed bytes only.  A lossy decoding whose UTF-8 form is the input again has
replaced nothing. -/
def decode? (bytes : Bytes) : Option Text :=
  let text := decodeLossy bytes
  if text.utf8 = bytes then some text else none

end Highlighting.Utf8
