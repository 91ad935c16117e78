/-!
# Texts and bytes

A **text** is the list of its characters, and what travels to and from the outside is a list of
bytes.  Offsets into a text are always *byte* offsets of its UTF-8 form, so the two views meet in
three functions only:

* `Text.byteSize` — how long the UTF-8 form is;
* `Text.utf8` — the UTF-8 form itself;
* `Text.slice` — the part of a text between two byte offsets.

Lists are chosen over packed strings because every stage of the program is a recursion over
characters or over bytes, and because cutting and joining lists is what its laws are about.
-/

namespace Highlighting

/-- A text: the list of its characters. -/
abbrev Text := List Char

/-- Raw data, as read from a file or handed to a writer. -/
abbrev Bytes := List UInt8

namespace Text

/-- The number of bytes of the UTF-8 form. -/
def byteSize : Text → Nat
  | [] => 0
  | c :: t => c.utf8Size + byteSize t

/-- The UTF-8 form. -/
def utf8 (t : Text) : Bytes := t.flatMap String.utf8EncodeChar

@[simp] theorem byteSize_nil : byteSize [] = 0 := rfl

@[simp] theorem byteSize_cons (c : Char) (t : Text) :
    byteSize (c :: t) = c.utf8Size + byteSize t := rfl

@[simp] theorem byteSize_append (s t : Text) : byteSize (s ++ t) = byteSize s + byteSize t := by
  induction s with
  | nil => simp
  | cons c s ih => rw [List.cons_append, byteSize_cons, byteSize_cons, ih, Nat.add_assoc]

@[simp] theorem utf8_nil : utf8 [] = [] := rfl

@[simp] theorem utf8_cons (c : Char) (t : Text) :
    utf8 (c :: t) = String.utf8EncodeChar c ++ utf8 t := rfl

@[simp] theorem utf8_append (s t : Text) : utf8 (s ++ t) = utf8 s ++ utf8 t := by
  simp [utf8]

@[simp] theorem length_utf8 (t : Text) : (utf8 t).length = byteSize t := by
  induction t with
  | nil => rfl
  | cons c t ih => simp [ih]

/-! ### Cutting at byte offsets -/

/-- How many characters start before byte `n`. -/
def charsBefore (n : Nat) (t : Text) : Nat := go n t 0
where
  /-- `count` characters have been passed and `n` bytes are left to cover. -/
  go : Nat → Text → Nat → Nat
    | _, [], count => count
    | n, c :: t, count => if n = 0 then count else go (n - c.utf8Size) t (count + 1)

/-- The characters that start before byte `n`. -/
def takeBytes (n : Nat) (t : Text) : Text := t.take (charsBefore n t)

/-- The characters that start at byte `n` or later. -/
def dropBytes (n : Nat) (t : Text) : Text := t.drop (charsBefore n t)

/-- The characters that start at byte `first` or later, but before byte `last`. -/
def slice (t : Text) (first last : Nat) : Text :=
  takeBytes (last - first) (dropBytes first t)

/-! ### Cutting at characters -/

/-- The text without the characters at either end that satisfy `p`. -/
def trimBoth (p : Char → Bool) (t : Text) : Text :=
  ((t.dropWhile p).reverse.dropWhile p).reverse

/-- The text without the characters at its end that satisfy `p`. -/
def trimEnd (p : Char → Bool) (t : Text) : Text :=
  (t.reverse.dropWhile p).reverse

/-- The text with the capital letters `A` to `Z` made small. -/
def asciiLower (t : Text) : Text := t.map Char.toLower

/-- Equality up to the case of the letters `A` to `Z`. -/
def eqIgnoringAsciiCase (s t : Text) : Bool := asciiLower s == asciiLower t

end Text

end Highlighting
