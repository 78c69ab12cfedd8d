import Lexicon.Proofs.Scan.Cut
import Lexicon.Proofs.Scan.Words

/-! Sources that are put together.

If a source is accepted and white space stands behind it, the scan goes on behind that as if it
started there. The exception is a quoted text that ends at an escaped mark: a mark in what follows
would make it longer.
-/

set_option autoImplicit false

namespace Lexicon

open Text Vocabulary

theorem Legible.in_front {gaps : List (List Char)} {words : List Word} {space : List Char}
    (legible : Legible [] gaps words)
    (unescaped : ∀ word ∈ words, word.kind = .string → ¬ EndsEscaped word.lexeme)
    (filled : space ≠ []) (blank : ∀ c ∈ space, IsSpace c) (right : List Char) :
    Legible (space ++ right) gaps words := by
  induction legible with
  | last => exact .last
  | @word gap gaps word words longest spelled later ih =>
    have others := fun other member => unescaped other (List.mem_cons_of_mem word member)
    rw [List.append_nil] at longest
    refine .word (longest.of_behind spelled ?_ ?_) spelled (ih others)
    · intro part begins solid
      rcases List.prefix_or_prefix_of_prefix begins (List.prefix_append _ _) with within | beyond
      · exact within
      · obtain ⟨more, rfl⟩ := beyond
        have goesOn := (List.prefix_append_right_inj _).mp begins
        obtain ⟨c, rest, rfl⟩ := List.exists_cons_of_ne_nil filled
        -- What goes on behind the words starts with a space.
        cases more with
        | nil => simp
        | cons d more =>
          rw [List.cons_append, List.cons_prefix_cons] at goesOn
          have space := blank c List.mem_cons_self
          exact absurd (goesOn.1 ▸ space) (solid d (by simp))
    · exact fun string escaped => absurd escaped (unescaped word List.mem_cons_self string)

theorem Position.mem_tokens {gaps : List (List Char)} {words : List Word} (place : Position)
    (count : words.length ≤ gaps.length) {word : Word} (member : word ∈ words) :
    ∃ start : Position, start.token word.kind word.lexeme ∈ place.tokens gaps words := by
  induction words generalizing place gaps with
  | nil => cases member
  | cons first words ih =>
    cases gaps with
    | nil => cases count
    | cons gap gaps =>
      rcases List.mem_cons.mp member with rfl | member
      · exact ⟨_, List.mem_cons_self⟩
      · obtain ⟨start, found⟩ := ih ((place.behind gap).behind first.lexeme)
          (Nat.le_of_succ_le_succ count) member
        exact ⟨start, List.mem_cons_of_mem _ found⟩

theorem words_unescaped {place : Position} {gaps : List (List Char)} {words : List Word}
    (count : words.length ≤ gaps.length)
    (unescaped : ∀ token ∈ place.tokens gaps words, token.kind = .string →
      ¬ EndsEscaped token.lexeme.toList) :
    ∀ word ∈ words, word.kind = .string → ¬ EndsEscaped word.lexeme := by
  intro word member string
  obtain ⟨start, found⟩ := place.mem_tokens count member
  have own := unescaped _ found
  simp only [Position.token, String.toList_ofList, string] at own
  exact own rfl

def Scan.below (scan : Scan) (bytes lines : Nat) : Scan :=
  ⟨scan.tokens.map (·.below lines), scan.failure.map (·.below bytes lines)⟩

theorem Scan.ofText_behind (front text : List Char) :
    ofText (Position.first.behind front) text =
      (ofText .first text).below (width front) (front.count '\n') := by
  rw [Position.first_below]
  exact ofSegments_below .first _ _ _

theorem lexical_cause {cause : Cause} (lexical : cause.isLexical = true) :
    ∃ text, cause = .unexpectedSymbol text := by
  cases cause with
  | unexpectedSymbol text => exact ⟨text, rfl⟩
  | _ => cases lexical

/-- Behind an accepted source and white space, a second source has the outcome that it has alone,
but that it is moved by what stands before it. -/
theorem tokenize_append {left space : String} {tokens : List Token}
    (own : tokenize left = .ok (.ok tokens))
    (unescaped : ∀ token ∈ tokens, token.kind = .string → ¬ EndsEscaped token.lexeme.toList)
    (filled : space ≠ "") (blank : ∀ c ∈ space.toList, IsSpace c) (right : String) :
    ∃ result, tokenize right = .ok result ∧
      let before := left ++ space
      match result with
      | .ok later => tokenize (before ++ right) =
          .ok (.ok (tokens ++ later.map (·.below (before.toList.count '\n'))))
      | .error failure => (∃ text, failure.cause = .unexpectedSymbol text) ∧
          tokenize (before ++ right) =
            .ok (.error (failure.below before.utf8ByteSize (before.toList.count '\n'))) := by
  obtain ⟨gaps, split, _⟩ := (woven_of_accepted own).gaps
  obtain ⟨words, known, legible, same⟩ := words_of_accepted own split
  have text : weave gaps (words.map Word.lexeme) = left.toList := by
    rw [known, split.woven]
  have count : words.length ≤ gaps.length := by
    rw [legible.count]
    exact Nat.le_succ _
  rw [same] at unescaped
  have joined := legible.in_front (words_unescaped count unescaped)
    (fun empty => filled (String.toList_eq_nil_iff.mp empty)) blank right.toList
  have whole := Scan.ofText_weave joined split.blank .first
  -- The white space moves what is behind it.
  rw [text, Scan.ofText_blank blank, ← Position.behind_append, Scan.ofText_behind, ← same] at whole
  have size : width (left.toList ++ space.toList) = (left ++ space).utf8ByteSize := by
    rw [← String.toList_append, width_toList]
  have joint : tokenize (left ++ space ++ right) = .ok (Scan.ofText .first
      (left.toList ++ (space.toList ++ right.toList))).result := by
    rw [tokenize_eq, Scan.ofText, String.toList_append, String.toList_append, List.append_assoc]
  refine ⟨_, tokenize_eq right, ?_⟩
  dsimp only
  rw [← Scan.ofText, String.toList_append, ← size, joint, whole]
  cases failure : (Scan.ofText .first right.toList).failure with
  | none => simp [Scan.result, Scan.below, failure]
  | some failed =>
    have alone : (Scan.ofText .first right.toList).result = .error failed := by
      rw [Scan.result, failure]
    rw [alone]
    refine ⟨lexical_cause (Scan.lexical_of_ofSegments failure), ?_⟩
    simp [Scan.result, Scan.below, failure]

/-- The quoted text keeps its end, and the second source fails at a character of three bytes behind
a line of its own. -/
theorem tokenize_append_quoted :
    tokenize "\"a\\b\"" = .ok (.ok [⟨.string, "\"a\\b\"", 1⟩]) ∧
      tokenize "x\n\u20AC" = .ok (.error ⟨.unexpectedSymbol "\u20AC", ⟨2, 2⟩⟩) ∧
      tokenize "\"a\\b\"\n\u2028x\n\u20AC" =
        .ok (.error ⟨.unexpectedSymbol "\u20AC", ⟨11, 3⟩⟩) := by
  have scanned : ofStandardRows.scan "\"a\\b\"" = .ok ⟨[⟨.string, "\"a\\b\"", 1⟩], none⟩ := by
    decide +kernel
  have own : tokenize "\"a\\b\"" = .ok (.ok [⟨.string, "\"a\\b\"", 1⟩]) := by
    rw [tokenize, scan_of_standard standard_eq, scanned]
    rfl
  have failing : ofStandardRows.scan "x\n\u20AC" =
      .ok ⟨[⟨.identifier, "x", 1⟩], some ⟨.unexpectedSymbol "\u20AC", ⟨2, 2⟩⟩⟩ := by
    decide +kernel
  have failed : tokenize "x\n\u20AC" = .ok (.error ⟨.unexpectedSymbol "\u20AC", ⟨2, 2⟩⟩) := by
    rw [tokenize, scan_of_standard standard_eq, failing]
    rfl
  have unescaped : ¬ EndsEscaped "\"a\\b\"".toList := by
    unfold EndsEscaped
    decide
  have line : IsSpace '\n' := isSpace_iff.mpr (by decide)
  have separator : IsSpace '\u2028' := isSpace_iff.mpr (by decide)
  obtain ⟨result, outcome, moved⟩ := @tokenize_append "\"a\\b\"" "\n\u2028" _ own
    (by simpa using unescaped) (by decide) (by simp [line, separator]) "x\n\u20AC"
  rw [failed] at outcome
  cases outcome
  exact ⟨own, failed, moved.2⟩

end Lexicon
