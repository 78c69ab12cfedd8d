import Lexicon.Proofs.Lexeme.Longest
import Mathlib.Data.List.Nodup

/-! The rows of the standard table in other orders.

Two rows can have a match at one place only if one outranks the other (`Row.rivals`): a longer
operator outranks the operator that it begins with, and a token outranks anything else. A table
that keeps to this has the first matches of the standard table (`firstRow?_reordered`). The order of
two such rows shows at the sample of the first one.
-/

set_option autoImplicit false

namespace Lexicon

theorem Kind.mem_all (kind : Kind) : kind ∈ all := by cases kind <;> decide

namespace Shape

/-- A text of the shape, as short as can be; white space and anything else have none here. -/
def sample : Shape → List Char
  | word first rest => first :: rest
  | run _ _ => ['a']
  | block _ => []
  | decimal => ['0']
  | quoted => ['"', '"']

theorem mem_starts_of_extent {shape : Shape} {text : List Char} {size : Nat}
    (extent : shape.extent text = some size) : ∃ c rest, text = c :: rest ∧ c ∈ shape.starts := by
  obtain ⟨own, rest, split, _, described⟩ := extent_described extent
  cases own with
  | nil => exact absurd rfl (ne_nil_of_describes (described none none))
  | cons c own => exact ⟨c, own ++ rest, split, mem_starts (described none none)⟩

end Shape

namespace Vocabulary

/-- The longer operators, each with the operator that it begins with. -/
def extensions : List (Kind × Kind) := [
  (.beDefinedAs, .colon), (.thinArrow, .numericNegation), (.notEquals, .logicalNegation),
  (.exponentiation, .multipliedBy), (.greaterThanEquals, .greaterThan), (.lessThanEquals, .lessThan)]

def outranks : Role → Role → Bool
  | .token longer, .token shorter => extensions.contains (longer, shorter)
  | .token _, .anythingElse => true
  | _, _ => false

theorem rivals_standard : ∀ row ∈ standardRows, ∀ other ∈ standardRows,
    row.shape.starts.apart other.shape.starts = true ∨
    outranks row.role other.role = true ∨ outranks other.role row.role = true ∨ row = other ∨
    row.shape.starts = .compl other.shape.starts ∨
    other.shape.starts = .compl row.shape.starts := by
  decide +kernel

theorem outranks_standard : ∀ row ∈ standardRows, ∀ other ∈ standardRows,
    outranks row.role other.role = true →
      (standardRows.map Row.role).idxOf row.role < (standardRows.map Row.role).idxOf other.role := by
  decide +kernel

theorem distinct_standard : (standardRows.map Row.role).Nodup := by decide +kernel

section Rows

variable {rows : List Row} {row other : Row} {text : List Char} {size otherSize : Nat}

theorem Row.rivals (listed : row ∈ standardRows) (otherListed : other ∈ standardRows)
    (extent : row.shape.extent text = some size)
    (otherExtent : other.shape.extent text = some otherSize) :
    row = other ∨ outranks row.role other.role = true ∨ outranks other.role row.role = true := by
  obtain ⟨c, rest, rfl, first⟩ := Shape.mem_starts_of_extent extent
  obtain ⟨d, others, same, second⟩ := Shape.mem_starts_of_extent otherExtent
  cases same
  rcases rivals_standard row listed other otherListed with
    separate | higher | lower | same | outside | outside
  · exact absurd second (CharSet.not_mem_of_apart separate first)
  · exact .inr (.inl higher)
  · exact .inr (.inr lower)
  · exact .inl same
  · rw [outside] at first
    exact absurd second (CharSet.mem_compl.mp first)
  · rw [outside] at second
    exact absurd first (CharSet.mem_compl.mp second)

theorem firstRow?_least (distinct : (rows.map Row.role).Nodup)
    (found : firstRow? rows text = some (row, size)) (listed : other ∈ rows)
    (extent : other.shape.extent text = some otherSize) :
    (rows.map Row.role).idxOf row.role ≤ (rows.map Row.role).idxOf other.role := by
  obtain ⟨earlier, later, rfl, own, failed⟩ := firstRow?_split found
  have absent (one : Row) (member : one ∈ earlier ++ row :: later)
      (extent : one.shape.extent text ≠ none) : one.role ∉ earlier.map Row.role := by
    intro again
    obtain ⟨twin, before, same⟩ := List.mem_map.mp again
    have equal := List.inj_on_of_nodup_map distinct (List.mem_append_left _ before) member same
    exact extent (equal ▸ failed twin before)
  have first := absent row (by simp) (by simp [own])
  have second := absent other listed (by simp [extent])
  rw [List.map_append, List.map_cons, List.idxOf_append_of_notMem first,
    List.idxOf_append_of_notMem second, List.idxOf_cons_self]
  exact Nat.le_add_right _ _

theorem exists_firstRow? (listed : row ∈ rows) (extent : row.shape.extent text = some size) :
    ∃ first own, firstRow? rows text = some (first, own) := by
  cases found : firstRow? rows text with
  | some first => exact ⟨first.1, first.2, rfl⟩
  | none =>
    have absent := List.findSome?_eq_none_iff.mp found row listed
    rw [extent] at absent
    cases absent

theorem mem_of_firstRow? (found : firstRow? rows text = some (row, size)) :
    row ∈ rows ∧ row.shape.extent text = some size := by
  obtain ⟨earlier, later, rfl, extent, _⟩ := firstRow?_split found
  exact ⟨by simp, extent⟩

theorem firstRow?_reordered (perm : rows.Perm standardRows)
    (ordered : ∀ row ∈ standardRows, ∀ other ∈ standardRows, outranks row.role other.role = true →
      (rows.map Row.role).idxOf row.role < (rows.map Row.role).idxOf other.role)
    (text : List Char) : firstRow? rows text = firstRow? standardRows text := by
  have distinct : (rows.map Row.role).Nodup :=
    (perm.map Row.role).nodup_iff.mpr distinct_standard
  cases found : firstRow? rows text with
  | none =>
    rw [firstRow?, List.findSome?_eq_none_iff] at found
    exact (List.findSome?_eq_none_iff.mpr fun row member => found row (perm.mem_iff.mpr member)).symm
  | some first =>
    obtain ⟨row, size⟩ := first
    obtain ⟨listed, extent⟩ := mem_of_firstRow? found
    have standard := perm.mem_iff.mp listed
    obtain ⟨other, own, again⟩ := exists_firstRow? standard extent
    obtain ⟨otherListed, otherExtent⟩ := mem_of_firstRow? again
    -- Each of the two rows is the first one in its order, so none can outrank the other.
    have least := firstRow?_least distinct found (perm.mem_iff.mpr otherListed) otherExtent
    have leastStandard := firstRow?_least distinct_standard again standard extent
    rcases Row.rivals standard otherListed extent otherExtent with rfl | higher | lower
    · rw [extent] at otherExtent
      cases otherExtent
      exact again.symm
    · have before := outranks_standard row standard other otherListed higher
      omega
    · have before := ordered other otherListed row standard lower
      omega

end Rows

/-! ### Samples -/

theorem scan_sample : ∀ row ∈ standardRows, ∀ kind ∈ Kind.all, row.role = .token kind →
    ofStandardRows.scan (String.ofList row.shape.sample) =
      .ok ⟨[⟨kind, String.ofList row.shape.sample, 1⟩], none⟩ := by
  decide +kernel

theorem extent_sample : ∀ row ∈ standardRows, ∀ other ∈ standardRows,
    outranks row.role other.role = true →
      (other.shape.extent row.shape.sample).isSome = true := by
  decide +kernel

theorem rivals_sample : ∀ row ∈ standardRows, ∀ other ∈ standardRows,
    row.role ≠ .anythingElse → row.role ≠ .whitespace →
    (other.shape.extent row.shape.sample).isSome = true →
      other = row ∨ other.role ≠ .whitespace ∧ other.role ≠ .token .identifier := by
  decide +kernel

end Vocabulary

end Lexicon
