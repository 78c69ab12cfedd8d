import Lexicon.Proofs.Lexeme.Neighbours
import Lexicon.Proofs.Scan.Lossless

/-! Words and the gaps between them.

A source that is accepted is made of words, each of which is the longest lexeme where it stands, and
of white space between them (`legible_of_clean`). Any text that is made in this way is scanned word
by word, whatever stands behind it (`Scan.ofText_weave`).
-/

set_option autoImplicit false

namespace Lexicon

open Text Vocabulary

/-! ### Scans of a text from a place on -/

theorem longest_of_blank {space rest : List Char} (filled : space ≠ [])
    (blank : ∀ c ∈ space, IsSpace c) (stop : ∀ c, rest.head? = some c → ¬ IsSpace c) :
    Longest (space ++ rest) space := by
  have own : Spells .whitespace space := spells_whitespace_iff.mpr ⟨filled, blank⟩
  refine ⟨filled, List.prefix_append _ _, ⟨.whitespace, by simp, own⟩, ?_⟩
  rintro long _ begins ⟨role, lexical, spelled⟩
  refine Classical.byContradiction fun longer => ?_
  obtain ⟨part, rfl⟩ := List.prefix_of_prefix_length_le (List.prefix_append space rest) begins
    (Nat.le_of_not_le longer)
  obtain ⟨tail, rfl⟩ := (List.prefix_append_right_inj space).mp begins
  cases role with
  | anythingElse => exact lexical rfl
  | token kind =>
    obtain ⟨c, others, rfl⟩ := List.exists_cons_of_ne_nil filled
    exact spelled.start (blank c List.mem_cons_self)
  | whitespace =>
    cases part with
    | nil => simp at longer
    | cons c part =>
      exact stop c rfl ((spells_whitespace_iff.mp spelled).2 c (by simp))

namespace Scan

def ofText (place : Position) (text : List Char) : Scan := ofSegments place (segments text)

variable {place : Position} {text : List Char}

theorem ofText_lexeme {kind : Kind} {lexeme rest : List Char}
    (longest : Longest (lexeme ++ rest) lexeme) (spelled : Spells (.token kind) lexeme) :
    ofText place (lexeme ++ rest) =
      ⟨place.token kind lexeme :: (ofText (place.behind lexeme) rest).tokens,
        (ofText (place.behind lexeme) rest).failure⟩ := by
  rw [ofText, segments_of_longest longest (by simp) spelled]
  rfl

theorem ofText_leading {space rest : List Char} (blank : ∀ c ∈ space, IsSpace c)
    (stop : ∀ c, rest.head? = some c → ¬ IsSpace c) :
    ofText place (space ++ rest) = ofText (place.behind space) rest := by
  by_cases empty : space = []
  · rw [empty, List.nil_append, Position.behind_nil]
  · have own : Spells .whitespace space := spells_whitespace_iff.mpr ⟨empty, blank⟩
    rw [ofText, segments_of_longest (longest_of_blank empty blank stop) (by simp) own]
    rfl

theorem ofText_blank {space : List Char} (blank : ∀ c ∈ space, IsSpace c) (place : Position)
    (text : List Char) : ofText place (space ++ text) = ofText (place.behind space) text := by
  have lead : ∀ c ∈ text.takeWhile spacing.contains, IsSpace c :=
    fun c member => isSpace_iff.mpr (Shape.mem_of_mem_takeWhile member)
  have stop : ∀ c, (text.dropWhile spacing.contains).head? = some c → ¬ IsSpace c := by
    intro c head space
    have outside := List.head?_dropWhile_not spacing.contains text
    rw [head] at outside
    rw [isSpace_iff, CharSet.mem_iff] at space
    exact Bool.false_ne_true (outside.symm.trans space)
  have both : ∀ c ∈ space ++ text.takeWhile spacing.contains, IsSpace c := by
    intro c member
    rcases List.mem_append.mp member with front | back
    · exact blank c front
    · exact lead c back
  have whole := @ofText_leading place _ _ both stop
  have later := @ofText_leading (place.behind space) _ _ lead stop
  rw [List.append_assoc, List.takeWhile_append_dropWhile, Position.behind_append] at whole
  rw [List.takeWhile_append_dropWhile] at later
  rw [whole, later]

theorem lexeme_of_clean {c : Char} (start : ¬ IsSpace c)
    (clean : (ofText place (c :: text)).failure = none) :
    ∃ kind lexeme rest, c :: text = lexeme ++ rest ∧ Longest (lexeme ++ rest) lexeme ∧
      Spells (.token kind) lexeme := by
  cases parts : segments (c :: text) with
  | nil =>
    have whole := flatMap_segments (c :: text)
    rw [parts] at whole
    cases whole
  | cons segment later =>
    obtain ⟨rest, split, _, first⟩ := segments_eq_cons parts
    rw [ofText, parts] at clean
    obtain ⟨role, lexeme⟩ := segment
    cases role with
    | anythingElse => cases clean
    | whitespace =>
      obtain ⟨longest, spelled⟩ := first rfl
      obtain ⟨d, others, rfl⟩ := List.exists_cons_of_ne_nil longest.filled
      have same : c = d := (List.cons.inj split).1
      exact absurd ((spells_whitespace_iff.mp spelled).2 d List.mem_cons_self) (same ▸ start)
    | token kind =>
      obtain ⟨longest, spelled⟩ := first rfl
      exact ⟨kind, lexeme, rest, split, split ▸ longest, spelled⟩

end Scan

theorem Vocabulary.tokenize_eq_ofText (text : List Char) :
    tokenize (String.ofList text) = .ok (Scan.ofText .first text).result := by
  rw [tokenize_eq, String.toList_ofList, Scan.ofText]

theorem Scan.ofText_of_accepted {source : String} {tokens : List Token}
    (accepted : tokenize source = .ok (.ok tokens)) :
    ofText .first source.toList = ⟨tokens, none⟩ := by
  have result := (tokenize_eq source).symm.trans accepted
  rw [Except.ok.injEq, ← ofText, Scan.result] at result
  cases failure : (ofText .first source.toList).failure with
  | some failed =>
    rw [failure] at result
    cases result
  | none =>
    rw [failure, Except.ok.injEq] at result
    rw [← result, ← failure]

/-! ### Words between gaps -/

structure Word where
  kind : Kind
  lexeme : List Char
  deriving DecidableEq, Repr

/-- Each word is the longest lexeme where it stands, if gaps and words make up a text that `rest`
stands behind. -/
inductive Legible (rest : List Char) : List (List Char) → List Word → Prop where
  | last {gap : List Char} : Legible rest [gap] []
  | word {gap : List Char} {gaps : List (List Char)} {word : Word} {words : List Word} :
      Longest (word.lexeme ++ (weave gaps (words.map Word.lexeme) ++ rest)) word.lexeme →
      Spells (.token word.kind) word.lexeme → Legible rest gaps words →
      Legible rest (gap :: gaps) (word :: words)

/-- The tokens of words between gaps, from a place on. -/
def Position.tokens (place : Position) : List (List Char) → List Word → List Token
  | gap :: gaps, word :: words =>
      let start := place.behind gap
      start.token word.kind word.lexeme :: (start.behind word.lexeme).tokens gaps words
  | _, _ => []

def Token.spelling (token : Token) : Kind × String := (token.kind, token.lexeme)

theorem Legible.count {rest : List Char} {gaps : List (List Char)} {words : List Word}
    (legible : Legible rest gaps words) : gaps.length = words.length + 1 := by
  induction legible with
  | last => rfl
  | word longest spelled later ih => rw [List.length_cons, ih, List.length_cons]

namespace Position

variable {gaps others : List (List Char)} {words : List Word}

theorem tokens_line {place : Position} {index : Nat} {token : Token}
    (found : (place.tokens gaps words)[index]? = some token) :
    token.line = place.line +
      (weave (gaps.take (index + 1)) ((words.map Word.lexeme).take index)).count '\n' := by
  induction words generalizing place gaps index with
  | nil => cases gaps <;> cases found
  | cons word words ih =>
    cases gaps with
    | nil => cases found
    | cons gap gaps =>
      cases index with
      | zero =>
        cases found
        simp [token, behind, weave]
      | succ index =>
        rw [tokens, List.getElem?_cons_succ] at found
        rw [ih found]
        simp [behind, weave, Nat.add_assoc]

theorem tokens_spelling (place moved : Position) (count : words.length ≤ gaps.length)
    (again : words.length ≤ others.length) :
    (place.tokens gaps words).map Token.spelling =
      (moved.tokens others words).map Token.spelling := by
  induction words generalizing place moved gaps others with
  | nil => cases gaps <;> cases others <;> rfl
  | cons word words ih =>
    cases gaps with
    | nil => cases count
    | cons gap gaps =>
      cases others with
      | nil => cases again
      | cons other others =>
        simp only [tokens, List.map_cons]
        rw [ih _ _ (Nat.le_of_succ_le_succ count) (Nat.le_of_succ_le_succ again)]
        rfl

end Position

theorem Scan.ofText_weave {rest : List Char} {gaps : List (List Char)} {words : List Word}
    (legible : Legible rest gaps words) (blank : ∀ gap ∈ gaps, ∀ c ∈ gap, IsSpace c)
    (place : Position) :
    ofText place (weave gaps (words.map Word.lexeme) ++ rest) =
      let later := ofText (place.behind (weave gaps (words.map Word.lexeme))) rest
      ⟨place.tokens gaps words ++ later.tokens, later.failure⟩ := by
  induction legible generalizing place with
  | @last gap =>
    have text : weave [gap] (([] : List Word).map Word.lexeme) = gap := by simp [weave]
    rw [text, ofText_blank (blank gap List.mem_cons_self)]
    rfl
  | @word gap gaps word words longest spelled later ih =>
    have step := ih (fun other member => blank other (List.mem_cons_of_mem gap member))
      ((place.behind gap).behind word.lexeme)
    rw [List.map_cons, weave, List.append_assoc, List.append_assoc,
      ofText_blank (blank gap List.mem_cons_self), ofText_lexeme longest spelled, step]
    simp only [Position.behind_append, Position.tokens, List.cons_append]

theorem legible_of_clean {place : Position} {text : List Char} {tokens : List Token}
    {lexemes gaps : List (List Char)} (split : Gaps text lexemes gaps)
    (starts : ∀ lexeme ∈ lexemes, ∃ c rest, lexeme = c :: rest ∧ ¬ IsSpace c)
    (clean : Scan.ofText place text = ⟨tokens, none⟩)
    (same : tokens.map (fun token => token.lexeme.toList) = lexemes) :
    ∃ words, words.map Word.lexeme = lexemes ∧ Legible [] gaps words := by
  induction lexemes generalizing place text tokens gaps with
  | nil =>
    obtain ⟨gap, rfl⟩ := List.length_eq_one_iff.mp split.count
    exact ⟨[], rfl, .last⟩
  | cons lexeme lexemes ih =>
    cases gaps with
    | nil => cases split.count
    | cons gap gaps =>
      obtain ⟨c, others, head, start⟩ := starts lexeme List.mem_cons_self
      have front := Scan.ofText_blank (split.blank gap List.mem_cons_self) place
        (lexeme ++ weave gaps lexemes)
      rw [← weave, split.woven, clean] at front
      -- The first lexeme of the scan is the first one of the list, as the tokens say.
      obtain ⟨kind, first, rest, text, longest, spelled⟩ : ∃ kind first rest,
          lexeme ++ weave gaps lexemes = first ++ rest ∧ Longest (first ++ rest) first ∧
          Spells (.token kind) first := by
        rw [head, List.cons_append] at front ⊢
        exact Scan.lexeme_of_clean start (congrArg Scan.failure front.symm)
      rw [text, Scan.ofText_lexeme longest spelled, Scan.mk.injEq] at front
      obtain ⟨rfl, unbroken⟩ := front
      obtain ⟨own, later⟩ := List.cons.inj same
      simp only [Position.token, String.toList_ofList] at own
      subst own
      have tail := List.append_cancel_left text
      subst tail
      obtain ⟨words, known, legible⟩ := ih (split.tail rfl)
        (fun one member => starts one (List.mem_cons_of_mem _ member))
        (by rw [unbroken]) later
      refine ⟨⟨kind, first⟩ :: words, by rw [List.map_cons, known], ?_⟩
      exact .word (by rwa [known, List.append_nil]) spelled legible

theorem Scan.ofText_nil (place : Position) : ofText place [] = ⟨[], none⟩ := by
  rw [ofText, segments_nil]
  rfl

theorem tokenize_weave {gaps : List (List Char)} {words : List Word}
    (legible : Legible [] gaps words)
    (blank : ∀ gap ∈ gaps, ∀ c ∈ gap, IsSpace c) :
    tokenize (.ofList (weave gaps (words.map Word.lexeme))) =
      .ok (.ok (Position.first.tokens gaps words)) := by
  have whole := Scan.ofText_weave legible blank .first
  simp only [List.append_nil, Scan.ofText_nil] at whole
  rw [tokenize_eq_ofText, whole]
  rfl

section Accepted

variable {source : String} {tokens : List Token}

theorem woven_of_accepted (accepted : tokenize source = .ok (.ok tokens)) :
    Woven source.toList (tokens.map fun token => token.lexeme.toList) := by
  have clean := Scan.ofText_of_accepted accepted
  have text := flatMap_segments source.toList
  have sound : ∀ segment ∈ segments source.toList,
      segment.text ≠ [] ∧ Spells segment.role segment.text := fun segment => spells_of_segment
  obtain ⟨front, later, split, lexical, stop⟩ := Scan.lexical_split (segments source.toList)
  rw [Scan.ofText] at clean
  rw [split] at clean text sound
  rcases stop with rfl | ⟨run, rest, rfl⟩
  · rw [List.append_nil] at clean text sound
    have woven := woven_of_lexical lexical sound .first
    rwa [text, clean] at woven
  · rw [Scan.ofSegments_append lexical] at clean
    cases congrArg Scan.failure clean

theorem words_of_accepted {gaps : List (List Char)} (accepted : tokenize source = .ok (.ok tokens))
    (split : Gaps source.toList (tokens.map fun token => token.lexeme.toList) gaps) :
    ∃ words, words.map Word.lexeme = tokens.map (fun token => token.lexeme.toList) ∧
      Legible [] gaps words ∧ tokens = Position.first.tokens gaps words := by
  have clean := Scan.ofText_of_accepted accepted
  obtain ⟨words, known, legible⟩ :=
    legible_of_clean split (woven_of_accepted accepted).starts clean rfl
  have whole := tokenize_weave legible split.blank
  rw [known, split.woven, String.ofList_toList, accepted] at whole
  exact ⟨words, known, legible, Except.ok.inj (Except.ok.inj whole)⟩

end Accepted

end Lexicon
