import Highlighting.Regex.Property

/-!
# Escapes

What a backslash and the characters after it stand for, both inside classes and outside: a single
character, or a set of characters.
-/

namespace Highlighting.Regex

/-- Reads decimal digits, and says whether there were any. -/
def readDecimal (t : Text) : Option Nat × Text :=
  let digits := t.takeWhile Char.isDigit
  (if digits.isEmpty then none
    else some (digits.foldl (fun n c => 10 * n + (c.toNat - 48)) 0),
   t.dropWhile Char.isDigit)

/-- The value of a hexadecimal digit. -/
def hexValue (c : Char) : Option Nat :=
  if c.isDigit then some (c.toNat - 48)
  else if 'a' ≤ c ∧ c ≤ 'f' then some (c.toNat - 87)
  else if 'A' ≤ c ∧ c ≤ 'F' then some (c.toNat - 55)
  else none

/-- The number that hexadecimal digits spell. -/
def hexNumber (digits : Text) : Option Nat :=
  digits.foldlM (fun n c => (hexValue c).map (16 * n + ·)) 0

/-- Reads a code point: `count` hexadecimal digits, or any number of them in braces. -/
def readHex (count : Nat) : Text → Option (Char × Text)
  | '\x7b' :: t => do
    let n ← hexNumber (t.takeWhile (· != '\x7d'))
    pure (Char.ofNat n, (t.dropWhile (· != '\x7d')).drop 1)
  | t => do
    let n ← hexNumber (t.take count)
    pure (Char.ofNat n, t.drop count)

/-- The control character that a letter stands for after a backslash. -/
def controlEscape : Char → Option Char
  | 'n' => some '\n'
  | 'r' => some '\r'
  | 't' => some '\t'
  | 'f' => some '\x0c'
  | 'v' => some '\x0b'
  | 'a' => some '\x07'
  | 'e' => some '\x1b'
  | _ => none

/-- The set that a letter stands for after a backslash. -/
def classEscape : Char → Option CharSet
  | 'd' => some (.having .digit)
  | 'D' => some (.complement (.having .digit))
  | 's' => some (.having .space)
  | 'S' => some (.complement (.having .space))
  | 'w' => some (.having .word)
  | 'W' => some (.complement (.having .word))
  | 'h' => some .hexDigit
  | 'H' => some (.complement .hexDigit)
  | _ => none

/-- What an escape stands for. -/
inductive Escape
  | char (c : Char)
  | set (s : CharSet)

/-- The letters that stand for themselves after a backslash in a class, because they mean something
outside of classes only. -/
def outsideEscapes : Text := "kAzBKG".toList

/-- Reads what follows a backslash, unless it means something else outside of classes.  Other
letters than these mean nothing. -/
def readEscape : Text → Option (Escape × Text)
  | [] => none
  | 'x' :: t => (readHex 2 t).map fun (c, t) => (.char c, t)
  | 'u' :: t => (readHex 4 t).map fun (c, t) => (.char c, t)
  | 'U' :: t => (readHex 8 t).map fun (c, t) => (.char c, t)
  | 'p' :: t => (readProperty t).map fun (s, t) => (.set s, t)
  | 'P' :: t => (readProperty t).map fun (s, t) => (.set (.complement s), t)
  | 'b' :: t => some (.char '\x08', t)
  | c :: t =>
    match classEscape c, controlEscape c with
    | some s, _ => some (.set s, t)
    | none, some control => some (.char control, t)
    | none, none =>
      if c.isAlpha && !outsideEscapes.contains c then none else some (.char c, t)

end Highlighting.Regex
