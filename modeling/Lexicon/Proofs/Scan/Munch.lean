import Lexicon.Proofs.Scan.Segments

/-! Scans as longest matches.

`Munches` is a lexer over the texts of the standard patterns: it knows neither an order of the
patterns nor a preference among the matches of one of them, and takes the longest lexeme at each
place. Its outcome is that of the segments, and there is no other one (`munches_iff`).
-/

set_option autoImplicit false

namespace Lexicon

open Text Vocabulary

/-- The kind of a token from the kind of its pattern: identifiers that are listed as keywords have
the kind that the list says. -/
inductive Resolves : Kind → String → Kind → Prop where
  | keyword {kind : Kind} {lexeme : String} :
      ⟨kind, lexeme⟩ ∈ standardKeywords → Resolves .identifier lexeme kind
  | identifier {lexeme : String} :
      (∀ keyword ∈ standardKeywords, keyword.lexeme ≠ lexeme) →
      Resolves .identifier lexeme .identifier
  | other {kind : Kind} {lexeme : String} : kind ≠ .identifier → Resolves kind lexeme kind

/-- The outcome of taking the longest lexeme at each place, from a place on. -/
inductive Munches : Position → List Char → Except Failure (List Token) → Prop where
  | finished {place : Position} : Munches place [] (.ok [])
  | blank {place : Position} {lexeme rest : List Char} {outcome : Except Failure (List Token)} :
      Longest (lexeme ++ rest) lexeme → Spells .whitespace lexeme →
      Munches (place.behind lexeme) rest outcome →
      Munches place (lexeme ++ rest) outcome
  | token {place : Position} {declared kind : Kind} {lexeme rest : List Char}
      {outcome : Except Failure (List Token)} :
      Longest (lexeme ++ rest) lexeme → Spells (.token declared) lexeme →
      Resolves declared (String.ofList lexeme) kind →
      Munches (place.behind lexeme) rest outcome →
      Munches place (lexeme ++ rest)
        (outcome.map (⟨kind, String.ofList lexeme, place.line⟩ :: ·))
  | stuck {place : Position} {run rest : List Char} :
      run ++ rest ≠ [] →
      (∀ lexeme, lexeme ≠ [] → lexeme <+: run ++ rest → ¬ IsLexeme lexeme) →
      (∀ c ∈ run, ¬ IsSpace c) → (∀ c, rest.head? = some c → IsSpace c) →
      Munches place (run ++ rest) (.error ⟨.unexpectedSymbol (String.ofList run), place⟩)

namespace Vocabulary

theorem keyword_unique : ∀ one ∈ standardKeywords, ∀ other ∈ standardKeywords,
    one.lexeme = other.lexeme → one = other := by
  decide +kernel

theorem resolve_of_keyword {keyword : Keyword} (listed : keyword ∈ standardKeywords) :
    ofStandardRows.resolve keyword.lexeme = keyword.kind := by
  have keywords : ofStandardRows.keywords = standardKeywords := rfl
  unfold resolve
  rw [keywords]
  cases found : standardKeywords.reverse.find? fun other => other.lexeme == keyword.lexeme with
  | none =>
    have absent := List.find?_eq_none.mp found keyword (List.mem_reverse.mpr listed)
    exact absurd (beq_self_eq_true keyword.lexeme) absent
  | some other =>
    have same := List.find?_some found
    have member := List.mem_reverse.mp (List.mem_of_find?_eq_some found)
    dsimp only
    rw [keyword_unique other member keyword listed (beq_iff_eq.mp same)]

end Vocabulary

theorem resolves_iff {declared kind : Kind} {lexeme : String} :
    Resolves declared lexeme kind ↔
      kind = if declared = .identifier then ofStandardRows.resolve lexeme else declared := by
  constructor
  · rintro (listed | absent | other)
    · exact (resolve_of_keyword listed).symm
    · exact (@resolve_of_absent ofStandardRows _ absent).symm
    · rw [if_neg other]
  · rintro rfl
    by_cases identifier : declared = .identifier
    · rw [if_pos identifier, identifier]
      by_cases listed : ∃ keyword ∈ standardKeywords, keyword.lexeme = lexeme
      · obtain ⟨keyword, member, rfl⟩ := listed
        rw [resolve_of_keyword member]
        exact .keyword member
      · have absent : ∀ keyword ∈ standardKeywords, keyword.lexeme ≠ lexeme :=
          fun keyword member same => listed ⟨keyword, member, same⟩
        rw [@resolve_of_absent ofStandardRows _ absent]
        exact .identifier absent
    · rw [if_neg identifier]
      exact .other identifier

theorem Scan.result_cons (token : Token) (scan : Scan) :
    Scan.result ⟨token :: scan.tokens, scan.failure⟩ = scan.result.map (token :: ·) := by
  unfold Scan.result
  cases scan.failure <;> rfl

theorem munches_segments (place : Position) (text : List Char) :
    Munches place text (Scan.ofSegments place (segments text)).result := by
  fun_induction segments text generalizing place with
  | case1 text none =>
    rw [eq_nil_of_firstRow? none]
    exact .finished
  | case2 text row size found ih =>
    obtain ⟨lexeme, rest, rfl, rfl⟩ : ∃ lexeme rest, text = lexeme ++ rest ∧
        size = lexeme.length :=
      ⟨_, _, (List.take_append_drop size text).symm,
        (List.length_take_of_le (described_of_firstRow? found).1).symm⟩
    have spelled := spells_of_firstRow? found
    have longest := longest_of_firstRow? found
    rw [List.take_left] at spelled longest
    rw [List.take_left, List.drop_left]
    rw [List.drop_left] at ih
    cases role : row.role with
    | whitespace =>
      rw [role] at spelled
      exact .blank (longest (by simp [role])) spelled (ih (place.behind lexeme))
    | token declared =>
      rw [role] at spelled
      simp only [Scan.ofSegments]
      rw [Scan.result_cons]
      exact .token (longest (by simp [role])) spelled (resolves_iff.mpr rfl)
        (ih (place.behind lexeme))
    | anythingElse =>
      have run := run_of_firstRow? found role
      rw [List.take_left, List.drop_left] at run
      refine .stuck (fun empty => ?_) (fun lexeme _ begins => ?_) run.1 run.2
      · rw [empty, firstRow?_nil] at found
        cases found
      · exact not_isLexeme_of_firstRow? found role begins

theorem Munches.unique {place : Position} {text : List Char}
    {outcome : Except Failure (List Token)} (munches : Munches place text outcome) :
    outcome = (Scan.ofSegments place (segments text)).result := by
  -- Each step of the derivation gives the first segment, and the rest is that of the step's rest.
  induction munches with
  | finished =>
    rw [segments_nil]
    rfl
  | blank longest spelled rest ih =>
    rw [segments_of_longest longest (by simp) spelled, ih]
    rfl
  | token longest spelled resolves rest ih =>
    rw [segments_of_longest longest (by simp) spelled, ih, resolves_iff.mp resolves]
    exact (Scan.result_cons _ _).symm
  | stuck filled stuck inside stop =>
    rw [segments_of_stuck filled stuck inside stop]
    rfl

theorem munches_iff {place : Position} {text : List Char} {outcome : Except Failure (List Token)} :
    Munches place text outcome ↔ outcome = (Scan.ofSegments place (segments text)).result := by
  constructor
  · exact Munches.unique
  · rintro rfl
    exact munches_segments place text

/-- The tokens of a source are its longest lexemes, and each of these has one role. -/
theorem tokenize_munches (source : String) :
    (∃ result, tokenize source = .ok result ∧
      ∀ outcome, Munches .first source.toList outcome ↔ outcome = result) ∧
    ∀ text lexeme, Longest text lexeme →
      ∃! role, role ≠ .anythingElse ∧ Spells role lexeme := by
  constructor
  · exact ⟨_, tokenize_eq source, fun outcome => munches_iff⟩
  · intro text lexeme longest
    obtain ⟨role, lexical, spelled⟩ := longest.spelled
    refine ⟨role, ⟨lexical, spelled⟩, ?_⟩
    rintro other ⟨otherLexical, otherSpelled⟩
    exact longest.role_unique otherLexical otherSpelled lexical spelled

theorem tokenize_munches_arrow :
    Longest ['-', '>', '1'] ['-', '>'] ∧
      ∃! role, role ≠ .anythingElse ∧ Spells role ['-', '>'] := by
  have found : firstRow? standardRows ['-', '>', '1'] =
      some (⟨.token .thinArrow, .word '-' ['>']⟩, 2) := by
    decide +kernel
  have longest : Longest ['-', '>', '1'] ['-', '>'] := longest_of_firstRow? found (by simp)
  exact ⟨longest, (tokenize_munches "->1").2 _ _ longest⟩

end Lexicon
