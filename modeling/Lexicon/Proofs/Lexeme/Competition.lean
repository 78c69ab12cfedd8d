import Lexicon.Proofs.Lexeme.Table

/-! Which patterns of a table can match at one place.

Main statement: if a table is ordered so that a word stands before the words that begin it, a
lexeme of another row is shorter than the match of the first row that has one
(`firstRow?_rivals`).
-/

set_option autoImplicit false

namespace Lexicon

open Pattern

/-! ### Sets without a common member -/

namespace CharSet

/-- Ranges of code points that hold all members of a set, and perhaps others. -/
def cover : CharSet → Text.CodeRanges
  | .range first last => [(first.toNat, last.toNat)]
  | .union left right => left.cover ++ right.cover
  | _ => [(0, 0x10FFFF)]

theorem cover_holds {members : CharSet} {c : Char} (member : c ∈ members) :
    ∃ range ∈ members.cover, range.1 ≤ c.toNat ∧ c.toNat ≤ range.2 := by
  have everything : ∃ range ∈ [(0, 0x10FFFF)], range.1 ≤ c.toNat ∧ c.toNat ≤ range.2 := by
    refine ⟨_, List.mem_singleton_self _, Nat.zero_le _, ?_⟩
    have valid : c.toNat < 0xD800 ∨ 0xDFFF < c.toNat ∧ c.toNat < 0x110000 := c.valid
    omega
  induction members with
  | range first last => exact ⟨_, List.mem_singleton_self _, mem_range.mp member⟩
  | union left right ihLeft ihRight =>
    rcases mem_union.mp member with member | member
    · obtain ⟨range, listed, bounds⟩ := ihLeft member
      exact ⟨range, List.mem_append_left _ listed, bounds⟩
    · obtain ⟨range, listed, bounds⟩ := ihRight member
      exact ⟨range, List.mem_append_right _ listed, bounds⟩
  | _ => exact everything

def apart (left right : CharSet) : Bool :=
  left.cover.all fun range => right.cover.all fun other =>
    range.2 < other.1 || other.2 < range.1

theorem not_mem_of_apart {left right : CharSet} {c : Char}
    (separate : left.apart right = true) (member : c ∈ left) : ¬ c ∈ right := by
  intro common
  obtain ⟨range, listed, low, high⟩ := cover_holds member
  obtain ⟨other, found, start, stop⟩ := cover_holds common
  have split := List.all_eq_true.mp (List.all_eq_true.mp separate range listed) other found
  simp only [Bool.or_eq_true, decide_eq_true_eq] at split
  omega

end CharSet

namespace Shape

def starts : Shape → CharSet
  | word first _ => .single first
  | run head _ => head
  | block members => members
  | decimal => digits
  | quoted => .single '"'

theorem mem_starts {shape : Shape} {before after : Option Char} {c : Char} {text : List Char}
    (described : shape.pattern.Describes before (c :: text) after) : c ∈ shape.starts := by
  cases shape with
  | word first rest =>
    cases describes_word.mp described
    exact CharSet.mem_single.mpr rfl
  | run head tail =>
    obtain ⟨d, others, same, first, _⟩ := describes_run.mp described
    cases same
    exact first
  | block members => exact (describes_block.mp described).2 c List.mem_cons_self
  | decimal =>
    obtain ⟨d, whole, part, same, first, _⟩ := describes_decimal.mp described
    cases same
    exact first
  | quoted =>
    obtain ⟨body, same, _⟩ := describes_quoted.mp described
    cases same
    exact CharSet.mem_single.mpr rfl

def outlasts : Shape → Shape → Bool
  | word _ more, word _ fewer => fewer.length < more.length
  | _, _ => false

end Shape

namespace Vocabulary

open Shape

/-- Whether a row may stand before another one: no text of the other one is ever kept from being
matched. Only what is no lexeme may be. -/
def Row.mayPrecede (row other : Row) : Bool :=
  row.role != .anythingElse &&
    (other.role == .anythingElse || row.shape.starts.apart other.shape.starts ||
      row.shape.outlasts other.shape)

theorem standardRows_ordered :
    standardRows.Pairwise fun row other => row.mayPrecede other = true := by
  decide +kernel

section Rows

variable {rows : List Row} {row other : Row} {text lexeme : List Char} {size : Nat}

theorem firstRow?_split (found : firstRow? rows text = some (row, size)) :
    ∃ earlier later, rows = earlier ++ row :: later ∧ row.shape.extent text = some size ∧
      ∀ other ∈ earlier, other.shape.extent text = none := by
  obtain ⟨earlier, actual, later, rfl, extent, failed⟩ := List.findSome?_eq_some_iff.mp found
  obtain ⟨_, outcome, same⟩ := Option.map_eq_some_iff.mp extent
  cases same
  exact ⟨earlier, later, rfl, outcome, fun other member =>
    Option.map_eq_none_iff.mp (failed other member)⟩

theorem Row.extent_of_prefix (described : row.shape.pattern.Describes none lexeme none)
    (begins : lexeme <+: text) :
    ∃ size, row.shape.extent text = some size ∧ lexeme.length ≤ size := by
  obtain ⟨rest, rfl⟩ := begins
  exact extent_of_describes described rest

theorem Row.not_apart (extent : row.shape.extent text = some size)
    (described : other.shape.pattern.Describes none lexeme none) (begins : lexeme <+: text) :
    ¬ row.shape.starts.apart other.shape.starts = true := by
  intro separate
  obtain ⟨own, rest, split, _, ownDescribed⟩ := extent_described extent
  obtain ⟨tail, same⟩ := begins
  -- Both texts begin the same text, and neither of them is empty.
  cases own with
  | nil => exact ne_nil_of_describes (ownDescribed none none) rfl
  | cons c own =>
    cases lexeme with
    | nil => exact ne_nil_of_describes described rfl
    | cons d lexeme =>
      have head : d = c := (List.cons.inj (same.trans split)).1
      subst head
      exact CharSet.not_mem_of_apart separate (mem_starts (ownDescribed none none))
        (mem_starts described)

theorem Row.length_lt_of_outlasts (longer : row.shape.outlasts other.shape = true)
    (extent : row.shape.extent text = some size)
    (described : other.shape.pattern.Describes none lexeme none) : lexeme.length < size := by
  obtain ⟨own, rest, _, same, ownDescribed⟩ := extent_described extent
  cases shape : row.shape <;> cases otherShape : other.shape <;>
    simp only [shape, otherShape, outlasts, Bool.false_eq_true] at longer
  rw [shape] at ownDescribed
  rw [otherShape] at described
  rw [← same, describes_word.mp (ownDescribed none none), describes_word.mp described]
  simpa using longer

theorem firstRow?_rivals (ordered : rows.Pairwise fun row other => row.mayPrecede other = true)
    (found : firstRow? rows text = some (row, size)) (listed : other ∈ rows)
    (lexical : other.role ≠ .anythingElse)
    (described : other.shape.pattern.Describes none lexeme none) (begins : lexeme <+: text) :
    row.role ≠ .anythingElse ∧
      (other = row ∧ lexeme.length ≤ size ∨ lexeme.length < size) := by
  obtain ⟨earlier, later, rfl, extent, failed⟩ := firstRow?_split found
  obtain ⟨own, outcome, bound⟩ := Row.extent_of_prefix described begins
  -- A row before the first match fails here, and one behind it yields by the order of the table.
  rcases List.mem_append.mp listed with before | behind
  · rw [failed other before] at outcome
    cases outcome
  rcases List.mem_cons.mp behind with rfl | behind
  · rw [extent] at outcome
    cases outcome
    exact ⟨lexical, .inl ⟨rfl, bound⟩⟩
  · have order := (List.pairwise_cons.mp (List.pairwise_append.mp ordered).2.1).1 other behind
    simp only [Row.mayPrecede, Bool.and_eq_true, Bool.or_eq_true, bne_iff_ne, beq_iff_eq,
      or_assoc] at order
    obtain ⟨keeps, absent | separate | longer⟩ := order
    · exact absurd absent lexical
    · exact absurd separate (Row.not_apart extent described begins)
    · exact ⟨keeps, .inr (Row.length_lt_of_outlasts longer extent described)⟩

end Rows

end Vocabulary

end Lexicon
