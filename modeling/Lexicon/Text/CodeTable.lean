/-! Sets of characters given by a table of code point ranges. -/

set_option autoImplicit false

namespace Lexicon.Text

abbrev CodeTable := Array (Nat × Nat)

/-- Look for the range that holds `code` between two places of the table, by halving. -/
def CodeTable.search (table : CodeTable) (code low high : Nat) : Bool :=
  if low < high then
    let middle := (low + high) / 2
    match table[middle]? with
    | none => false
    | some (first, last) =>
        if code < first then table.search code low middle
        else if last < code then table.search code (middle + 1) high
        else true
  else false
termination_by high - low

def CodeTable.contains (table : CodeTable) (code : Nat) : Bool :=
  table.search code 0 table.size

end Lexicon.Text
