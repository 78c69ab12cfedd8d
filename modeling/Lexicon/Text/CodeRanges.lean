/-! Sets of code points listed as ranges. -/

set_option autoImplicit false

namespace Lexicon.Text

/-- Closed ranges of code points, in increasing order and with gaps between them. -/
abbrev CodeRanges := List (Nat × Nat)

namespace CodeRanges

def lastCode : Nat := 0x10FFFF

/-- Add a range; it swallows the ranges that it touches. -/
def add (first last : Nat) : CodeRanges → CodeRanges
  | [] => [(first, last)]
  | (low, high) :: rest =>
      if last + 1 < low then (first, last) :: (low, high) :: rest
      else if high + 1 < first then (low, high) :: add first last rest
      else add (min first low) (max last high) rest

def union (left right : CodeRanges) : CodeRanges :=
  left.foldr (fun range ranges => add range.1 range.2 ranges) right

def gapsFrom (start : Nat) : CodeRanges → CodeRanges
  | [] => if start ≤ lastCode then [(start, lastCode)] else []
  | (low, high) :: rest =>
      if start < low then (start, low - 1) :: gapsFrom (high + 1) rest
      else gapsFrom (high + 1) rest

def compl (ranges : CodeRanges) : CodeRanges := gapsFrom 0 ranges

def inter (left right : CodeRanges) : CodeRanges := compl (union (compl left) (compl right))

def everyNth (first last step : Nat) : CodeRanges :=
  if step ≤ 1 then [(first, last)]
  else (List.range ((last - first) / step + 1)).map fun n =>
    (first + n * step, first + n * step)

end CodeRanges

end Lexicon.Text
