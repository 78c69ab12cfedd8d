import Lexicon.Proofs.Lexeme.Competition

/-! The longest lexeme with which a text begins.

A lexeme is a text of one of the standard patterns other than that for anything else. The patterns
count as sets of texts here. Main statements: the first row with a match has the longest lexeme,
and no other row has it (`longest_of_firstRow?`, `role_of_firstRow?`); if that row is the one for
anything else, the text begins with no lexeme (`not_isLexeme_of_firstRow?`).
-/

set_option autoImplicit false

namespace Lexicon

open Pattern

def Entry.Describes (entry : Entry) (text : List Char) : Prop :=
  ∃ pattern, Pattern.ofString entry.pattern = .ok pattern ∧ pattern.Describes none text none

namespace Vocabulary

/-- Whether a text is one of those of a role; the order of the table does not count. -/
def Spells (role : Role) (text : List Char) : Prop :=
  ∃ entry ∈ standardEntries, entry.role = role ∧ entry.Describes text

def IsLexeme (text : List Char) : Prop := ∃ role, role ≠ .anythingElse ∧ Spells role text

def IsSpace (c : Char) : Prop := Spells .whitespace [c]

structure Longest (text lexeme : List Char) : Prop where
  filled : lexeme ≠ []
  begins : lexeme <+: text
  spelled : IsLexeme lexeme
  longest : ∀ other, other ≠ [] → other <+: text → IsLexeme other → other.length ≤ lexeme.length

section Rows

variable {role : Role} {row : Row} {text lexeme other : List Char} {size : Nat}

theorem spells_iff : Spells role text ↔
    ∃ row ∈ standardRows, row.role = role ∧ row.shape.pattern.Describes none text none := by
  constructor
  · rintro ⟨entry, member, rfl, pattern, read, described⟩
    obtain ⟨row, listed, same, known⟩ := row_of_entry member
    rw [known] at read
    cases read
    exact ⟨row, listed, same, described⟩
  · rintro ⟨row, listed, rfl, described⟩
    obtain ⟨entry, member, same, read⟩ := entry_of_row listed
    exact ⟨entry, member, same, _, read, described⟩

theorem Longest.unique (one : Longest text lexeme) (two : Longest text other) :
    lexeme = other := by
  have size : lexeme.length = other.length := Nat.le_antisymm
    (two.longest lexeme one.filled one.begins one.spelled)
    (one.longest other two.filled two.begins two.spelled)
  exact (List.prefix_of_prefix_length_le one.begins two.begins
    (Nat.le_of_eq size)).eq_of_length size

theorem Longest.of_prefix {short : List Char} (longest : Longest text lexeme)
    (within : lexeme <+: short) (cut : short <+: text) : Longest short lexeme where
  filled := longest.filled
  begins := within
  spelled := longest.spelled
  longest := fun other filled begins spelled =>
    longest.longest other filled (begins.trans cut) spelled

theorem listed_of_firstRow? (found : firstRow? standardRows text = some (row, size)) :
    row ∈ standardRows := by
  obtain ⟨earlier, later, rows, _⟩ := firstRow?_split found
  rw [rows]
  exact List.mem_append_right earlier List.mem_cons_self

theorem described_of_firstRow? {rows : List Row} (found : firstRow? rows text = some (row, size)) :
    size ≤ text.length ∧ text.take size ≠ [] ∧
      row.shape.pattern.Describes none (text.take size) none := by
  obtain ⟨_, _, _, extent, _⟩ := firstRow?_split found
  obtain ⟨own, rest, rfl, rfl, described⟩ := Shape.extent_described extent
  rw [List.take_left]
  exact ⟨by simp, Shape.ne_nil_of_describes (described none none), described none none⟩

theorem spells_of_firstRow? (found : firstRow? standardRows text = some (row, size)) :
    Spells row.role (text.take size) :=
  spells_iff.mpr ⟨row, listed_of_firstRow? found, rfl, (described_of_firstRow? found).2.2⟩

theorem bound_of_firstRow? (found : firstRow? standardRows text = some (row, size))
    (lexical : role ≠ .anythingElse) (spelled : Spells role lexeme) (begins : lexeme <+: text) :
    row.role ≠ .anythingElse ∧ (role = row.role ∧ lexeme.length ≤ size ∨ lexeme.length < size) := by
  obtain ⟨other, listed, rfl, described⟩ := spells_iff.mp spelled
  obtain ⟨keeps, same | shorter⟩ :=
    firstRow?_rivals standardRows_ordered found listed lexical described begins
  · exact ⟨keeps, .inl ⟨by rw [same.1], same.2⟩⟩
  · exact ⟨keeps, .inr shorter⟩

theorem longest_of_firstRow? (found : firstRow? standardRows text = some (row, size))
    (lexical : row.role ≠ .anythingElse) : Longest text (text.take size) := by
  obtain ⟨bound, filled, _⟩ := described_of_firstRow? found
  refine ⟨filled, List.take_prefix size text, ⟨row.role, lexical, spells_of_firstRow? found⟩, ?_⟩
  rintro other _ begins ⟨role, kept, spelled⟩
  rw [List.length_take_of_le bound]
  rcases (bound_of_firstRow? found kept spelled begins).2 with same | shorter
  · exact same.2
  · exact Nat.le_of_lt shorter

theorem role_of_firstRow? (found : firstRow? standardRows text = some (row, size))
    (lexical : role ≠ .anythingElse) (spelled : Spells role (text.take size)) :
    role = row.role := by
  have bound := (described_of_firstRow? found).1
  rcases (bound_of_firstRow? found lexical spelled (List.take_prefix size text)).2 with same | shorter
  · exact same.1
  · rw [List.length_take_of_le bound] at shorter
    exact absurd shorter (Nat.lt_irrefl size)

theorem not_isLexeme_of_firstRow? (found : firstRow? standardRows text = some (row, size))
    (otherwise : row.role = .anythingElse) (begins : lexeme <+: text) : ¬ IsLexeme lexeme := by
  rintro ⟨role, lexical, spelled⟩
  exact (bound_of_firstRow? found lexical spelled begins).1 otherwise

theorem Longest.firstRow? (longest : Longest text lexeme) :
    ∃ row, Vocabulary.firstRow? standardRows text = some (row, lexeme.length) ∧
      row.role ≠ .anythingElse ∧ Spells row.role lexeme := by
  obtain ⟨role, lexical, spelled⟩ := longest.spelled
  obtain ⟨other, listed, rfl, described⟩ := spells_iff.mp spelled
  obtain ⟨own, extent, _⟩ := Row.extent_of_prefix described longest.begins
  -- The first row with a match need not be the row of the lexeme, but it has the same lexeme.
  cases found : Vocabulary.firstRow? standardRows text with
  | none =>
    have absent := List.findSome?_eq_none_iff.mp found other listed
    rw [extent] at absent
    cases absent
  | some first =>
    obtain ⟨row, size⟩ := first
    have keeps := (bound_of_firstRow? found lexical spelled longest.begins).1
    have same := longest.unique (longest_of_firstRow? found keeps)
    refine ⟨row, ?_, keeps, same ▸ spells_of_firstRow? found⟩
    rw [same, List.length_take_of_le (described_of_firstRow? found).1]

theorem Longest.role_unique (longest : Longest text lexeme) {other : Role}
    (lexical : role ≠ .anythingElse) (spelled : Spells role lexeme)
    (otherLexical : other ≠ .anythingElse) (otherSpelled : Spells other lexeme) : role = other := by
  obtain ⟨row, found, keeps, _⟩ := longest.firstRow?
  have size : text.take lexeme.length = lexeme := (List.prefix_iff_eq_take.mp longest.begins).symm
  rw [role_of_firstRow? found lexical (size.symm ▸ spelled),
    role_of_firstRow? found otherLexical (size.symm ▸ otherSpelled)]

/-! ### White space -/

theorem shape_of_whitespace : ∀ row ∈ standardRows, row.role = .whitespace →
    row = ⟨.whitespace, .block spacing⟩ := by
  decide

theorem shape_of_anythingElse : ∀ row ∈ standardRows, row.role = .anythingElse →
    row = ⟨.anythingElse, .block (.compl spacing)⟩ := by
  decide

theorem apart_of_lexical : ∀ row ∈ standardRows, row.role ≠ .whitespace →
    row.role ≠ .anythingElse → row.shape.starts.apart spacing = true := by
  decide +kernel

theorem blank_iff : Spells .whitespace text ↔ text ≠ [] ∧ ∀ c ∈ text, c ∈ spacing := by
  rw [spells_iff]
  constructor
  · rintro ⟨row, listed, role, described⟩
    cases shape_of_whitespace row listed role
    exact Shape.describes_block.mp described
  · intro inside
    exact ⟨⟨.whitespace, .block spacing⟩, by decide, rfl, Shape.describes_block.mpr inside⟩

theorem isSpace_iff {c : Char} : IsSpace c ↔ c ∈ spacing := by
  simp [IsSpace, blank_iff]

theorem spells_whitespace_iff :
    Spells .whitespace text ↔ text ≠ [] ∧ ∀ c ∈ text, IsSpace c := by
  simp only [blank_iff, isSpace_iff]

theorem Spells.start {kind : Kind} {c : Char} (spelled : Spells (.token kind) (c :: text)) :
    ¬ IsSpace c := by
  obtain ⟨row, listed, role, described⟩ := spells_iff.mp spelled
  have separate := apart_of_lexical row listed (by simp [role]) (by simp [role])
  rw [isSpace_iff]
  exact CharSet.not_mem_of_apart separate (Shape.mem_starts described)

theorem firstRow?_total (filled : text ≠ []) :
    ∃ row size, firstRow? standardRows text = some (row, size) := by
  obtain ⟨c, rest, rfl⟩ := List.exists_cons_of_ne_nil filled
  -- The last two rows have complementary sets of characters.
  have covered : ∃ row ∈ standardRows, row.shape.pattern.Describes none [c] none := by
    by_cases space : c ∈ spacing
    · exact ⟨⟨.whitespace, .block spacing⟩, by decide, Shape.describes_block.mpr (by simpa)⟩
    · refine ⟨⟨.anythingElse, .block (.compl spacing)⟩, by decide, Shape.describes_block.mpr ?_⟩
      simpa using CharSet.mem_compl.mpr space
  obtain ⟨row, listed, described⟩ := covered
  obtain ⟨own, extent, _⟩ := Row.extent_of_prefix described (List.prefix_append [c] rest)
  cases found : firstRow? standardRows (c :: rest) with
  | some first => exact ⟨first.1, first.2, rfl⟩
  | none =>
    have absent := List.findSome?_eq_none_iff.mp found row listed
    rw [List.singleton_append] at extent
    rw [extent] at absent
    cases absent

theorem run_of_firstRow? (found : firstRow? standardRows text = some (row, size))
    (otherwise : row.role = .anythingElse) :
    (∀ c ∈ text.take size, ¬ IsSpace c) ∧ ∀ c, (text.drop size).head? = some c → IsSpace c := by
  cases shape_of_anythingElse row (listed_of_firstRow? found) otherwise
  obtain ⟨_, _, _, extent, _⟩ := firstRow?_split found
  obtain ⟨run, rest⟩ := Shape.block_extent extent
  constructor
  · intro c member space
    rw [run] at member
    exact CharSet.mem_compl.mp (Shape.mem_of_mem_takeWhile member) (isSpace_iff.mp space)
  · intro c head
    have stop := List.head?_dropWhile_not (CharSet.compl spacing).contains text
    rw [← rest, head] at stop
    refine isSpace_iff.mpr (Classical.byContradiction fun other => ?_)
    have inside : (CharSet.compl spacing).contains c = true :=
      CharSet.mem_iff.mp (CharSet.mem_compl.mpr other)
    exact Bool.false_ne_true (stop.symm.trans inside)

end Rows

end Vocabulary

end Lexicon
