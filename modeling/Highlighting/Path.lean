import Highlighting.Text.Utf8

/-!
# Paths

A path is a list of bytes with slashes between its components.  What matters here is its last
component, the **file name**, and the language that can be guessed from it.

Repeated slashes, slashes at the end and single dots as components mean nothing; a path that ends in
`..` has no file name.  The **extension** is what follows the last dot of the file name, unless that
dot comes first, as in `.bashrc`.
-/

namespace Highlighting.Path

/-- The byte between two components. -/
def separator : UInt8 := 0x2F

/-- The byte before an extension. -/
def dot : UInt8 := 0x2E

/-- The components of a path that mean something. -/
def components (path : Bytes) : List Bytes :=
  (path.splitOnP (· == separator)).filter fun component =>
    component ≠ [] ∧ component ≠ [dot]

/-- The last component, unless it leads back up. -/
def fileName (path : Bytes) : Option Bytes :=
  match (components path).getLast? with
  | none => none
  | some name => if name = [dot, dot] then none else some name

/-- What follows the last dot of a file name, unless nothing comes before that dot. -/
def extensionOfName (name : Bytes) : Option Bytes :=
  let after := (name.reverse.takeWhile (· != dot)).reverse
  match name.reverse.dropWhile (· != dot) with
  | [] | [_] => none
  | _ => some after

/-- The language of a path: the extension of its file name, or the whole file name if it has no
extension.  Languages are texts, so bytes that are not UTF-8 give none. -/
def language (path : Bytes) : Option Text := do
  let name ← fileName path
  Utf8.decode? ((extensionOfName name).getD name)

end Highlighting.Path
