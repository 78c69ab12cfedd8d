/-! The line of a source that holds a byte offset. -/

set_option autoImplicit false

namespace Lexicon

/-- `number` counts from one, `text` includes the newline, `column` counts the bytes of the
line before the offset. -/
structure SourceLine where
  number : Nat
  text : List Char
  column : Nat
  deriving DecidableEq, Repr

namespace SourceLine

/-- Look for the offset from a place in the source on: `start` is the offset of the current line,
`place` that of the rest of it, and `line` holds what lies between them, latest character
first. -/
def find? (offset number start place : Nat) (line : List Char) : List Char → Option SourceLine
  | [] => if offset < place then some ⟨number, line.reverse, offset - start⟩ else none
  | c :: rest =>
      let line := c :: line
      let place := place + c.utf8Size
      if c ≠ '\n' then find? offset number start place line rest
      else if offset < place then some ⟨number, line.reverse, offset - start⟩
      else find? offset (number + 1) place place [] rest

def at? (source : List Char) (offset : Nat) : Option SourceLine := find? offset 1 0 0 [] source

end SourceLine

end Lexicon
