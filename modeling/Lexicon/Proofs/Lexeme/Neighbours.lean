import Lexicon.Proofs.Lexeme.Longest
import Mathlib.Data.List.Chain

/-! What stands behind a lexeme.

A lexeme that is no quoted text holds no white space, so what follows the next space does not count
for it. A quoted text ends at a quotation mark that is not escaped, wherever that is; one that ends
at an escaped mark does so only because no mark follows. Main statement: these are the only two
ways in which the text behind a lexeme counts (`Longest.of_behind`).
-/

set_option autoImplicit false

namespace Lexicon

open Pattern

namespace Shape

/-! ### Quotation marks inside a quoted text -/

/-- A quotation mark stands behind a backslash. -/
def Escaping (before c : Char) : Prop := c = '"' → before = '\\'

theorem escaping_of_ne {before c : Char} (other : c ≠ '"') : Escaping before c :=
  fun mark => absurd mark other

theorem isChain_of_rounds {before after : Option Char} {body : List Char}
    (described : (star true quotedPart).Describes before body after) (previous : Char) :
    (previous :: body).IsChain Escaping := by
  -- No round starts with a mark, so it does not count what stands before it.
  revert previous
  apply described.star_rounds
  · exact fun previous => .singleton previous
  · intro before after round rest inner others previous
    rcases describes_alt.mp inner with escaped | single
    · obtain ⟨_, _, rfl, first, second⟩ := describes_cat.mp escaped
      obtain ⟨c, escape, rfl⟩ := describes_set.mp first
      obtain ⟨d, mark, rfl⟩ := describes_set.mp second
      rw [CharSet.mem_single.mp escape, CharSet.mem_single.mp mark]
      exact .cons_cons (escaping_of_ne (by decide)) (.cons_cons (fun _ => rfl) (others '"'))
    · obtain ⟨c, member, rfl⟩ := describes_set.mp single
      have other : c ≠ '"' := fun same =>
        CharSet.mem_compl.mp member (CharSet.mem_single.mpr same)
      exact .cons_cons (escaping_of_ne other) (others c)

theorem not_mark_of_isChain {previous c : Char} {rest : List Char} (plain : previous ≠ '\\')
    (chain : (previous :: c :: rest).IsChain Escaping) : c ∈ CharSet.compl (.single '"') := by
  have first := (List.isChain_cons_cons.mp chain).1
  exact CharSet.mem_compl.mpr fun same => plain (first (CharSet.mem_single.mp same))

theorem isChain_of_unmarked {previous : Char} {body : List Char} (unmarked : '"' ∉ body) :
    (previous :: body).IsChain Escaping := by
  induction body generalizing previous with
  | nil => exact .singleton previous
  | cons c rest ih =>
    rw [List.mem_cons, not_or] at unmarked
    exact .cons_cons (escaping_of_ne (Ne.symm unmarked.1)) (ih unmarked.2)

theorem rounds_of_isChain {before after : Option Char} {body : List Char} {previous : Char}
    (plain : previous ≠ '\\') (chain : (previous :: body).IsChain Escaping) :
    (star true quotedPart).Describes before body after := by
  -- An escaped mark takes two characters, so the induction is in steps of one and of two.
  induction body using List.twoStepInduction generalizing before previous with
  | nil => exact .never
  | singleton c =>
    have single := not_mark_of_isChain plain chain
    exact .star_cons (.other (.set single)) .never
  | cons_cons c d rest ihPair ihSingle =>
    have single := not_mark_of_isChain plain chain
    obtain ⟨_, others⟩ := List.isChain_cons_cons.mp chain
    obtain ⟨_, later⟩ := List.isChain_cons_cons.mp others
    by_cases pair : c = '\\' ∧ d = '"'
    · obtain ⟨rfl, rfl⟩ := pair
      have round : quotedPart.Describes before ['\\', '"'] (rest.head?.or after) :=
        .preferred (@Describes.cat _ _ before _ ['\\'] ['"'] (.set (by decide)) (.set (by decide)))
      exact @Describes.more true quotedPart before after ['\\', '"'] rest round
        (ihPair (by decide) later)
    · refine .star_cons (.other (.set single)) ?_
      by_cases escape : c = '\\'
      -- A backslash that escapes nothing is a character like any other.
      · have behind : ('"' :: d :: rest).IsChain Escaping :=
          .cons_cons (escaping_of_ne fun mark => pair ⟨escape, mark⟩) later
        exact ihSingle d (by decide) behind
      · exact ihSingle d escape others

theorem describes_quoted_iff {before after : Option Char} {text : List Char} :
    quoted.pattern.Describes before text after ↔
      ∃ body, text = '"' :: (body ++ ['"']) ∧ ('"' :: body).IsChain Escaping := by
  rw [describes_quoted]
  constructor
  · rintro ⟨body, rfl, described⟩
    exact ⟨body, rfl, isChain_of_rounds described '"'⟩
  · rintro ⟨body, rfl, chain⟩
    exact ⟨body, rfl, rounds_of_isChain (by decide) chain⟩

/-! ### The characters of the other shapes -/

def members : Shape → CharSet
  | word first rest => rest.foldl (fun members c => .union members (.single c)) (.single first)
  | run head tail => .union head tail
  | block members => members
  | decimal => .union digits (.single '.')
  | quoted => .all

theorem mem_foldl_union {c : Char} {set : CharSet} {rest : List Char} :
    c ∈ rest.foldl (fun members c => .union members (.single c)) set ↔ c ∈ set ∨ c ∈ rest := by
  induction rest generalizing set with
  | nil => simp
  | cons d rest ih =>
    rw [List.foldl_cons, ih, CharSet.mem_union, CharSet.mem_single, List.mem_cons, or_assoc]

theorem mem_members {shape : Shape} {before after : Option Char} {text : List Char}
    (described : shape.pattern.Describes before text after) : ∀ c ∈ text, c ∈ shape.members := by
  intro c member
  cases shape with
  | word first rest =>
    rw [describes_word.mp described, List.mem_cons] at member
    exact mem_foldl_union.mpr (member.imp_left CharSet.mem_single.mpr)
  | run head tail =>
    obtain ⟨d, others, rfl, first, inside⟩ := describes_run.mp described
    rcases List.mem_cons.mp member with rfl | member
    · exact CharSet.mem_union.mpr (.inl first)
    · exact CharSet.mem_union.mpr (.inr (inside c member))
  | block set => exact (describes_block.mp described).2 c member
  | decimal =>
    obtain ⟨d, whole, part, rfl, first, inside, fraction⟩ := describes_decimal.mp described
    have digit {e : Char} (known : e ∈ digits) : e ∈ decimal.members :=
      CharSet.mem_union.mpr (.inl known)
    rcases List.mem_append.mp member with front | back
    · rcases List.mem_cons.mp front with rfl | front
      · exact digit first
      · exact digit (inside c front)
    · rcases fraction with rfl | ⟨e, others, rfl, start, tail⟩
      · cases back
      · rcases List.mem_cons.mp back with rfl | back
        · exact CharSet.mem_union.mpr (.inr (CharSet.mem_single.mpr rfl))
        · rcases List.mem_cons.mp back with rfl | back
          · exact digit start
          · exact digit (tail c back)
  | quoted => simp [members, CharSet.all, CharSet.mem_compl]

end Shape

namespace Vocabulary

open Shape

section Kinds

variable {kind : Kind} {text : List Char}

theorem string_iff_quoted : ∀ row ∈ standardRows,
    row.role = .token .string ↔ row.shape = .quoted := by
  decide

theorem apart_of_not_quoted : ∀ row ∈ standardRows, row.role ≠ .anythingElse →
    row.shape ≠ .quoted → row.shape.starts.apart (.single '"') = true := by
  decide +kernel

theorem members_apart : ∀ row ∈ standardRows, row.role ≠ .whitespace →
    row.role ≠ .anythingElse → row.shape ≠ .quoted →
      row.shape.members.apart spacing = true := by
  decide +kernel

theorem spells_string_iff : Spells (.token .string) text ↔
    ∃ body, text = '"' :: (body ++ ['"']) ∧ ('"' :: body).IsChain Escaping := by
  rw [spells_iff]
  constructor
  · rintro ⟨row, listed, role, described⟩
    rw [(string_iff_quoted row listed).mp role] at described
    exact describes_quoted_iff.mp described
  · intro quoted
    exact ⟨⟨.token .string, .quoted⟩, by decide, rfl, describes_quoted_iff.mpr quoted⟩

theorem Spells.string_of_mark (spelled : Spells (.token kind) ('"' :: text)) : kind = .string := by
  obtain ⟨row, listed, role, described⟩ := spells_iff.mp spelled
  have quoted : row.shape = .quoted := Classical.byContradiction fun other =>
    CharSet.not_mem_of_apart (apart_of_not_quoted row listed (by simp [role]) other)
      (mem_starts described) (CharSet.mem_single.mpr rfl)
  have same := (string_iff_quoted row listed).mpr quoted
  rw [role] at same
  exact Role.token.inj same

theorem Spells.unquoted (spelled : Spells (.token kind) text) (other : kind ≠ .string) :
    ∃ row ∈ standardRows, row.role = .token kind ∧ row.shape ≠ .quoted ∧
      row.shape.pattern.Describes none text none := by
  obtain ⟨row, listed, role, described⟩ := spells_iff.mp spelled
  refine ⟨row, listed, role, fun quoted => other ?_, described⟩
  have same := (string_iff_quoted row listed).mpr quoted
  rw [role] at same
  exact Role.token.inj same

theorem Spells.solid (spelled : Spells (.token kind) text) (other : kind ≠ .string) :
    ∀ c ∈ text, ¬ IsSpace c := by
  obtain ⟨row, listed, role, shape, described⟩ := spelled.unquoted other
  have separate := members_apart row listed (by simp [role]) (by simp [role]) shape
  intro c member
  rw [isSpace_iff]
  exact CharSet.not_mem_of_apart separate (mem_members described c member)

end Kinds

theorem mark_not_space : ¬ IsSpace '"' := by
  rw [isSpace_iff]
  decide

/-- The text ends in a quotation mark with a backslash before it. -/
def EndsEscaped (text : List Char) : Prop := ['\\', '"'] <:+ text

theorem IsLexeme.of_start {kind : Kind} {lexeme part : List Char} (filled : lexeme ≠ [])
    (spelled : Spells (.token kind) lexeme) (long : IsLexeme (lexeme ++ part)) :
    ∃ other, Spells (.token other) (lexeme ++ part) := by
  obtain ⟨role, lexical, longSpelled⟩ := long
  obtain ⟨c, rest, rfl⟩ := List.exists_cons_of_ne_nil filled
  cases role with
  | token other => exact ⟨other, longSpelled⟩
  | anythingElse => exact absurd rfl lexical
  | whitespace =>
    exact absurd ((spells_whitespace_iff.mp longSpelled).2 c List.mem_cons_self) spelled.start

section Behind

variable {lexeme rest other part : List Char} {kind : Kind}

theorem endsEscaped_of_longer (spelled : Spells (.token .string) lexeme) (more : part ≠ [])
    (long : Spells (.token .string) (lexeme ++ part)) : EndsEscaped lexeme ∧ '"' ∈ part := by
  obtain ⟨body, rfl, _⟩ := spells_string_iff.mp spelled
  obtain ⟨whole, same, chain⟩ := spells_string_iff.mp long
  obtain ⟨inner, last, rfl⟩ := (List.eq_nil_or_concat part).resolve_left more
  have split : (body ++ '"' :: inner) ++ [last] = whole ++ ['"'] := by
    simpa using same
  obtain ⟨rfl, mark⟩ := List.append_inj' split rfl
  cases mark
  refine ⟨?_, by simp⟩
  -- The last mark of the shorter text is inside the longer one, so it is escaped.
  obtain ⟨start, previous, before⟩ :=
    (List.eq_nil_or_concat ('"' :: body)).resolve_left (by simp)
  rw [← List.cons_append, before, List.concat_append] at chain
  have escaped := (List.isChain_split.mp chain).2
  have backslash : previous = '\\' := (List.isChain_cons_cons.mp escaped).1 rfl
  rw [EndsEscaped, ← List.cons_append, before, backslash]
  exact ⟨start, by simp⟩

theorem longer_of_endsEscaped (spelled : Spells (.token .string) lexeme)
    (escaped : EndsEscaped lexeme) (mark : '"' ∈ rest) :
    ∃ part, part ≠ [] ∧ part <+: rest ∧ Spells (.token .string) (lexeme ++ part) := by
  obtain ⟨body, rfl, chain⟩ := spells_string_iff.mp spelled
  -- The next mark behind the text ends the longer one.
  obtain ⟨between, tail, rfl, unmarked⟩ := List.eq_append_cons_of_mem mark
  refine ⟨between ++ ['"'], by simp, ⟨tail, by simp⟩, ?_⟩
  refine spells_string_iff.mpr ⟨body ++ '"' :: between, by simp, ?_⟩
  rw [← List.cons_append]
  refine List.isChain_split.mpr ⟨?_, isChain_of_unmarked unmarked⟩
  obtain ⟨start, same⟩ := escaped
  have split : (start ++ ['\\']) ++ ['"'] = ('"' :: body) ++ ['"'] := by
    simpa using same
  have before := List.append_cancel_right split
  rw [← before] at chain ⊢
  rw [List.append_assoc]
  exact List.isChain_split.mpr ⟨chain, .cons_cons (fun _ => rfl) (.singleton '"')⟩

/-- The text behind the longest lexeme may be changed. For a lexeme without spaces it does not count
behind the first space, and for a quoted text only the marks in it count. -/
theorem Longest.of_behind (longest : Longest (lexeme ++ rest) lexeme)
    (spelled : Spells (.token kind) lexeme)
    (solid : ∀ part, part <+: other → (∀ c ∈ part, ¬ IsSpace c) → part <+: rest)
    (marks : kind = .string → EndsEscaped lexeme → '"' ∈ other → '"' ∈ rest) :
    Longest (lexeme ++ other) lexeme := by
  refine ⟨longest.filled, List.prefix_append _ _, longest.spelled, ?_⟩
  intro long filled begins longSpelled
  refine Classical.byContradiction fun longer => ?_
  -- A longer lexeme goes on behind this one. The same or another one is there before the change.
  obtain ⟨part, rfl⟩ := List.prefix_of_prefix_length_le (List.prefix_append lexeme other) begins
    (Nat.le_of_not_le longer)
  have more : part ≠ [] := by
    rintro rfl
    simp at longer
  have goesOn : part <+: other := (List.prefix_append_right_inj lexeme).mp begins
  have never (part : List Char) (more : part ≠ []) (goesOn : part <+: rest)
      (spelled : IsLexeme (lexeme ++ part)) : False := by
    have bound := longest.longest (lexeme ++ part) (by simp [more])
      ((List.prefix_append_right_inj lexeme).mpr goesOn) spelled
    rw [List.length_append] at bound
    have positive := List.length_pos_of_ne_nil more
    omega
  obtain ⟨longKind, longSpells⟩ := IsLexeme.of_start longest.filled spelled longSpelled
  by_cases quoted : kind = .string
  · subst quoted
    obtain ⟨body, same, _⟩ := spells_string_iff.mp spelled
    have string : longKind = .string := by
      rw [same, List.cons_append] at longSpells
      exact longSpells.string_of_mark
    rw [string] at longSpells
    obtain ⟨escaped, mark⟩ := endsEscaped_of_longer spelled more longSpells
    obtain ⟨between, further, inside, found⟩ :=
      longer_of_endsEscaped spelled escaped (marks rfl escaped (goesOn.subset mark))
    exact never between further inside ⟨.token .string, by simp, found⟩
  · have plain : longKind ≠ .string := by
      rintro rfl
      obtain ⟨body, same, _⟩ := spells_string_iff.mp longSpells
      obtain ⟨c, text, rfl⟩ := List.exists_cons_of_ne_nil longest.filled
      have first : c = '"' := (List.cons.inj same).1
      rw [first] at spelled
      exact quoted spelled.string_of_mark
    have inside := longSpells.solid plain
    exact never part more
      (solid part goesOn fun c member => inside c (List.mem_append_right lexeme member)) longSpelled

end Behind

end Vocabulary

end Lexicon
