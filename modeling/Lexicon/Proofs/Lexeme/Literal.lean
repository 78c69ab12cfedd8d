import Lexicon.Proofs.Lexeme.Neighbours
import Lexicon.Proofs.Lexeme.Segment

/-! Where a quoted text ends.

A quoted text goes up to the first mark that no backslash stands before, and if there is none, up to
the last mark of the text. Main statements: this is the match that the pattern of strings prefers
(`Literal.iff_matchHere?`), it is the segment at its place (`segments_of_literal`), and where no
mark follows an opening one, there is no lexeme (`not_isLexeme_of_unclosed`).
-/

set_option autoImplicit false

namespace Lexicon

open Pattern Shape Vocabulary

def inMarks (body : List Char) : List Char := '"' :: (body ++ ['"'])

theorem length_inMarks (body : List Char) : (inMarks body).length = body.length + 2 := by
  simp [inMarks]

theorem inMarks_append (body tail : List Char) :
    inMarks body ++ tail = '"' :: (body ++ '"' :: tail) := by
  simp [inMarks]

/-- Behind an opening mark, `body` and a closing mark stand before `tail`. All marks in the body are
escaped, and the closing one is escaped only if no mark follows. -/
structure Literal (body tail : List Char) : Prop where
  escaped : ('"' :: body).IsChain Escaping
  closing : body.getLast? = some '\\' → '"' ∉ tail

/-! ### Marks in a text -/

section Marks

variable {body tail other more text : List Char}

theorem getLast?_mark (body : List Char) :
    ('"' :: body).getLast? = some '\\' ↔ body.getLast? = some '\\' := by
  cases body with
  | nil => decide
  | cons c rest => rw [List.getLast?_cons_cons]

theorem isChain_mark : ('"' :: (body ++ '"' :: more)).IsChain Escaping ↔
    ('"' :: body).IsChain Escaping ∧ body.getLast? = some '\\' ∧ ('"' :: more).IsChain Escaping := by
  rw [← List.cons_append, List.isChain_append, ← getLast?_mark]
  constructor
  · rintro ⟨front, back, joint⟩
    have found := List.getLast?_eq_some_getLast (List.cons_ne_nil '"' body)
    exact ⟨front, by rw [found, joint _ found '"' rfl rfl], back⟩
  · rintro ⟨front, last, back⟩
    refine ⟨front, back, ?_⟩
    rintro c found d head mark
    rw [last] at found
    exact (Option.some.inj found).symm

theorem exists_closing (previous : Char) (mark : '"' ∈ text) :
    ∃ body tail, text = body ++ '"' :: tail ∧ (previous :: body).IsChain Escaping ∧
      ((previous :: body).getLast? = some '\\' → '"' ∉ tail) := by
  -- The text ends here if it starts with a mark that is not escaped, or with the last mark.
  induction text generalizing previous with
  | nil => cases mark
  | cons c rest ih =>
    by_cases ends : c = '"' ∧ (previous = '\\' → '"' ∉ rest)
    · obtain ⟨rfl, closing⟩ := ends
      exact ⟨[], rest, rfl, .singleton previous, fun last => closing (Option.some.inj last)⟩
    · have later : '"' ∈ rest := by
        rcases List.mem_cons.mp mark with rfl | later
        · exact Classical.byContradiction fun none => ends ⟨rfl, fun _ => none⟩
        · exact later
      have joint : Escaping previous c := by
        intro same
        exact Classical.byContradiction fun plain => ends ⟨same, fun escape => absurd escape plain⟩
      obtain ⟨body, tail, rfl, chain, closing⟩ := ih c later
      refine ⟨c :: body, tail, rfl, .cons_cons joint chain, ?_⟩
      rwa [List.getLast?_cons_cons]

theorem exists_literal (mark : '"' ∈ text) :
    ∃ body tail, text = body ++ '"' :: tail ∧ Literal body tail := by
  obtain ⟨body, tail, split, chain, closing⟩ := exists_closing '"' mark
  exact ⟨body, tail, split, chain, fun last => closing ((getLast?_mark body).mpr last)⟩

namespace Literal

theorem length_le (literal : Literal body tail)
    (same : body ++ '"' :: tail = other ++ '"' :: more) (chain : ('"' :: other).IsChain Escaping) :
    other.length ≤ body.length := by
  rcases List.append_eq_append_iff.mp same with ⟨part, rfl, rest⟩ | ⟨part, rfl, _⟩
  · cases part with
    | nil => simp
    | cons c part =>
      obtain ⟨rfl, rfl⟩ := List.cons.inj rest
      exact absurd (by simp) (literal.closing (isChain_mark.mp chain).2.1)
  · simp

theorem unique (literal : Literal body tail) (again : Literal other more)
    (same : body ++ '"' :: tail = other ++ '"' :: more) : body = other ∧ tail = more := by
  have size := Nat.le_antisymm (again.length_le same.symm literal.escaped)
    (literal.length_le same again.escaped)
  obtain ⟨rfl, rest⟩ := List.append_inj same size
  exact ⟨rfl, (List.cons.inj rest).2⟩

theorem getLast?_of_shorter (literal : Literal body tail)
    (same : body ++ '"' :: tail = other ++ '"' :: more) (shorter : other.length < body.length) :
    other.getLast? = some '\\' := by
  rcases List.append_eq_append_iff.mp same with ⟨part, rfl, _⟩ | ⟨part, rfl, rest⟩
  · rw [List.length_append] at shorter
    omega
  · cases part with
    | nil => simp at shorter
    | cons c part =>
      obtain ⟨rfl, _⟩ := List.cons.inj rest
      exact (isChain_mark.mp literal.escaped).2.1

end Literal

end Marks

/-! ### The match of the pattern -/

section Pattern

variable {body tail : List Char}

theorem Literal.extent (literal : Literal body tail) :
    quoted.extent (inMarks body ++ tail) = some (inMarks body).length := by
  have described : quoted.pattern.Describes none (inMarks body) none :=
    describes_quoted_iff.mpr ⟨body, rfl, literal.escaped⟩
  obtain ⟨size, found, reached⟩ := extent_of_describes described tail
  obtain ⟨own, rest, split, length, inside⟩ := extent_described found
  obtain ⟨other, rfl, chain⟩ := describes_quoted_iff.mp (inside none none)
  have same : body ++ '"' :: tail = other ++ '"' :: rest := by
    simpa [inMarks] using split
  have bound := literal.length_le same chain
  simp only [List.length_cons, List.length_append, List.length_nil] at length
  rw [length_inMarks] at reached ⊢
  rw [found]
  congr 1
  omega

theorem Literal.iff_matchHere? (before : Option Char) : Literal body tail ↔
    quoted.pattern.matchHere? before (inMarks body ++ tail) =
      some ⟨(inMarks body).length, []⟩ := by
  rw [Shape.matchHere?_eq]
  constructor
  · intro literal
    rw [literal.extent]
    rfl
  · intro matched
    obtain ⟨size, found, hit⟩ := Option.map_eq_some_iff.mp matched
    cases hit
    have mark : '"' ∈ body ++ '"' :: tail := by simp
    obtain ⟨other, more, split, literal⟩ := exists_literal mark
    have extent := literal.extent
    rw [inMarks_append, ← split, ← inMarks_append, found, length_inMarks, length_inMarks] at extent
    obtain ⟨rfl, rest⟩ := List.append_inj split (by simpa using extent)
    rwa [(List.cons.inj rest).2]

end Pattern

/-! ### The segment at an opening mark -/

section Segments

variable {body tail rest lexeme text : List Char}

theorem Vocabulary.IsLexeme.quoted (known : IsLexeme ('"' :: text)) :
    ∃ body, text = body ++ ['"'] ∧ ('"' :: body).IsChain Escaping := by
  obtain ⟨role, lexical, spelled⟩ := known
  cases role with
  | anythingElse => exact absurd rfl lexical
  | whitespace =>
    exact absurd ((spells_whitespace_iff.mp spelled).2 '"' List.mem_cons_self) mark_not_space
  | token kind =>
    rw [spelled.string_of_mark] at spelled
    obtain ⟨body, same, chain⟩ := spells_string_iff.mp spelled
    exact ⟨body, (List.cons.inj same).2, chain⟩

theorem Literal.spells (literal : Literal body tail) : Spells (.token .string) (inMarks body) :=
  spells_string_iff.mpr ⟨body, rfl, literal.escaped⟩

theorem Literal.longest (literal : Literal body tail) :
    Longest (inMarks body ++ tail) (inMarks body) where
  filled := List.cons_ne_nil _ _
  begins := List.prefix_append _ _
  spelled := ⟨.token .string, by simp, literal.spells⟩
  longest := by
    intro other filled begins spelled
    obtain ⟨c, text, rfl⟩ := List.exists_cons_of_ne_nil filled
    obtain ⟨more, whole⟩ := begins
    rw [inMarks_append, List.cons_append] at whole
    obtain ⟨rfl, same⟩ := List.cons.inj whole
    obtain ⟨part, rfl, chain⟩ := spelled.quoted
    rw [List.append_assoc, List.singleton_append] at same
    have bound := literal.length_le same.symm chain
    simpa [inMarks] using bound

theorem segments_of_literal (literal : Literal body tail) :
    segments ('"' :: (body ++ '"' :: tail)) =
      ⟨.token .string, inMarks body⟩ :: segments tail := by
  rw [← inMarks_append]
  exact segments_of_longest literal.longest (by simp) literal.spells

theorem literal_of_longest (longest : Longest (lexeme ++ rest) lexeme)
    (spelled : Spells (.token .string) lexeme) :
    ∃ body, lexeme = inMarks body ∧ Literal body rest := by
  obtain ⟨part, rfl, _⟩ := spells_string_iff.mp spelled
  have mark : '"' ∈ part ++ '"' :: rest := by simp
  obtain ⟨body, tail, split, literal⟩ := exists_literal mark
  have whole : inMarks part ++ rest = inMarks body ++ tail := by
    rw [inMarks_append, inMarks_append, split]
  have same : inMarks part = inMarks body := (whole ▸ longest).unique literal.longest
  refine ⟨body, same, ?_⟩
  rw [same] at whole
  rwa [List.append_cancel_left whole]

theorem not_isLexeme_of_unclosed (unclosed : '"' ∉ rest) (filled : lexeme ≠ [])
    (begins : lexeme <+: '"' :: rest) : ¬ IsLexeme lexeme := by
  intro known
  obtain ⟨c, text, rfl⟩ := List.exists_cons_of_ne_nil filled
  obtain ⟨rfl, inside⟩ := List.cons_prefix_cons.mp begins
  obtain ⟨body, rfl, _⟩ := known.quoted
  have mark : '"' ∈ body ++ ['"'] := by simp
  exact unclosed (inside.subset mark)

end Segments

end Lexicon
