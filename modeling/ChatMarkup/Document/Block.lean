/-!
The blocks of bytes in which a page is read. A character that lies across two blocks is put together
first, and comes in a piece of its own; the rest of each block is a piece as well. It matters for
byte order marks only: one at the beginning of a piece is no part of the page.
-/

namespace ChatMarkup.Document

/-- Where in its blocks a page is being read. -/
structure Cursor where
  /-- How many bytes of the block are left. -/
  left : Nat
  /-- How many more bytes fit into a piece that lies across two blocks, in such a piece. -/
  joint : Option Nat
deriving DecidableEq, Repr

namespace Cursor

def blockSize : Nat := 4096

/-- The bytes of a piece that lies across two blocks, which are enough for any character. Characters
after the first come with it if they fit. -/
def jointSize : Nat := 4

def start : Cursor := ⟨0, none⟩

structure Move where
  cursor : Cursor
  /-- A piece begins with the character. -/
  begins : Bool
deriving DecidableEq, Repr

def move (char : Char) (cursor : Cursor) : Move :=
  let size := char.utf8Size
  match cursor.joint with
  | some room =>
    if size ≤ room then ⟨⟨cursor.left - size, some (room - size)⟩, false⟩
    else ⟨⟨cursor.left - size, none⟩, true⟩
  | none =>
    if size ≤ cursor.left then ⟨⟨cursor.left - size, none⟩, false⟩
    else if cursor.left = 0 then ⟨⟨blockSize - size, none⟩, true⟩
    else ⟨⟨blockSize + cursor.left - size, some (jointSize - size)⟩, true⟩

example : start.move 'a' = ⟨⟨4095, none⟩, true⟩ := by decide +kernel

/-- The second of two bytes begins the next block. -/
example : move 'é' ⟨1, none⟩ = ⟨⟨4095, some 2⟩, true⟩ := by decide +kernel

end Cursor

end ChatMarkup.Document
