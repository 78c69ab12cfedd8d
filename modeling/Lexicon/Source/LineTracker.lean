import Lexicon.Crash
import Lexicon.Text.Width

/-! Line numbers of byte offsets, for offsets that are asked for in order.

A tracker walks over its source once, however many offsets are asked for.
-/

set_option autoImplicit false

namespace Lexicon

/-- `reached` is the offset last asked for and `line` its line; `ahead` is the part of the
source that has not been walked over, from the offset `aheadAt` on. That offset is past
`reached` if `reached` is inside a character. -/
structure LineTracker where
  size : Nat
  reached : Nat
  line : Nat
  aheadAt : Nat
  ahead : List Char
  deriving DecidableEq, Repr

namespace LineTracker

def ofText (source : List Char) : LineTracker := ⟨Text.width source, 0, 1, 0, source⟩

def walk (target line start : Nat) : List Char → Nat × Nat × List Char
  | [] => (line, start, [])
  | c :: rest =>
      if start < target then
        walk target (if c = '\n' then line + 1 else line) (start + c.utf8Size) rest
      else (line, start, c :: rest)

/-- The line of an offset. Offsets past the end of the source stand for its end. -/
def advance (tracker : LineTracker) (offset : Nat) : Except Crash (Nat × LineTracker) :=
  let target := min offset tracker.size
  if target < tracker.reached then .error (.backwardsQuery target tracker.reached)
  else
    let (line, start, rest) := walk target tracker.line tracker.aheadAt tracker.ahead
    .ok (line, ⟨tracker.size, target, line, start, rest⟩)

end LineTracker

end Lexicon
