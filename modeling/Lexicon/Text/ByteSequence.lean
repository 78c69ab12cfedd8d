import Lexicon.Text.CodeRanges

/-! Code points as bytes.

A range of code points is cut so that each part is a product: its characters have the same
number of bytes, and each byte runs through a range of its own whatever the others are.
-/

set_option autoImplicit false

namespace Lexicon.Text

/-- One closed range for each byte of some characters, first byte first. -/
abbrev ByteSequence := List (Nat × Nat)

namespace ByteSequence

/-- Bytes behind the first one carry six bits each, `count` of them so many codes. -/
def blockSize : Nat → Nat
  | 0 => 1
  | count + 1 => 64 * blockSize count

def trailing (count : Nat) : ByteSequence := List.replicate count (0x80, 0xBF)

/-- Cut a range of codes with `count` bytes behind the first; `mark` is added to that one. -/
def cut (mark : Nat) : Nat → Nat → Nat → List ByteSequence
  | 0, first, last => [[(mark + first, mark + last)]]
  | count + 1, first, last =>
      let size := blockSize (count + 1)
      let low := first / size
      let high := last / size
      let within (block first last : Nat) : List ByteSequence :=
        (cut 0x80 count first last).map ((mark + block, mark + block) :: ·)
      if low = high then within low (first % size) (last % size)
      else
        let start := if first % size = 0 then [] else within low (first % size) (size - 1)
        let stop := if last % size = size - 1 then [] else within high 0 (last % size)
        let fullLow := if first % size = 0 then low else low + 1
        let fullHigh := if last % size = size - 1 then high else high - 1
        let full :=
          if fullLow ≤ fullHigh then
            [(mark + fullLow, mark + fullHigh) :: trailing (count + 1)]
          else []
        start ++ full ++ stop

/-- The codes with each number of bytes, surrogates left out: the first and the last of them,
the number of bytes behind the first, and the mark of the first. -/
def widths : List (Nat × Nat × Nat × Nat) :=
  [(0x0, 0x7F, 0, 0x0), (0x80, 0x7FF, 1, 0xC0), (0x800, 0xD7FF, 2, 0xE0),
    (0xE000, 0xFFFF, 2, 0xE0), (0x10000, 0x10FFFF, 3, 0xF0)]

def ofRange (first last : Nat) : List ByteSequence :=
  widths.flatMap fun (low, high, count, mark) =>
    if max first low ≤ min last high then cut mark count (max first low) (min last high) else []

def ofRanges (ranges : CodeRanges) : List ByteSequence :=
  ranges.flatMap fun range => ofRange range.1 range.2

end ByteSequence

end Lexicon.Text
