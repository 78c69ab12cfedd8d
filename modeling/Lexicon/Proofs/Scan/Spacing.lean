import Lexicon.Proofs.Scan.Words

/-! White space that is changed.

The gaps of a source that is accepted may be made longer or shorter, and new ones may be opened, as
long as none between two lexemes is closed: the scan finds the same lexemes.
-/

set_option autoImplicit false

namespace Lexicon

open Text Vocabulary

section Weave

variable {gaps others lexemes : List (List Char)}

theorem mem_weave {c : Char} : c ∈ weave gaps lexemes ↔
    (∃ gap ∈ gaps, c ∈ gap) ∨ ∃ lexeme ∈ lexemes, c ∈ lexeme := by
  induction lexemes generalizing gaps with
  | nil => cases gaps <;> simp [weave]
  | cons lexeme lexemes ih =>
    cases gaps with
    | nil => simp [weave]
    | cons gap gaps =>
      simp only [weave, List.mem_append, ih, List.mem_cons, exists_eq_or_imp, or_assoc,
        or_left_comm]

/-- No gap between two lexemes is closed. The lists start behind the first lexeme. -/
def StaysOpen (gaps others : List (List Char)) : Prop :=
  ∀ index gap other, index + 1 < gaps.length → gaps[index]? = some gap →
    others[index]? = some other → gap ≠ [] → other ≠ []

theorem StaysOpen.tail {gap other : List Char}
    (opened : StaysOpen (gap :: gaps) (other :: others)) :
    StaysOpen gaps others := fun index one two bound found again =>
  opened (index + 1) one two (Nat.succ_lt_succ bound) found again

theorem prefix_of_solid {part : List Char} (count : gaps.length = lexemes.length + 1)
    (again : others.length = lexemes.length + 1) (opened : StaysOpen gaps others)
    (blank : ∀ gap ∈ others, ∀ c ∈ gap, IsSpace c) (begins : part <+: weave others lexemes)
    (solid : ∀ c ∈ part, ¬ IsSpace c) : part <+: weave gaps lexemes := by
  induction lexemes generalizing gaps others part with
  | nil =>
    obtain ⟨gap, rfl⟩ := List.length_eq_one_iff.mp again
    have empty : part = [] := List.eq_nil_iff_forall_not_mem.mpr fun c member =>
      solid c member (blank gap List.mem_cons_self c (by simpa [weave] using begins.subset member))
    exact empty ▸ List.nil_prefix
  | cons lexeme lexemes ih =>
    cases others with
    | nil => cases again
    | cons other others =>
      cases gaps with
      | nil => cases count
      | cons gap gaps =>
        cases other with
        | cons c other =>
          -- The gap is open, so there is nothing without spaces.
          have space := blank (c :: other) List.mem_cons_self c List.mem_cons_self
          cases part with
          | nil => exact List.nil_prefix
          | cons d part =>
            rw [weave, List.cons_append, List.cons_prefix_cons] at begins
            exact absurd space (begins.1 ▸ solid d List.mem_cons_self)
        | nil =>
          have bound : 0 + 1 < (gap :: gaps).length := by
            rw [count, List.length_cons]
            omega
          have closed : gap = [] := Classical.byContradiction fun filled =>
            opened 0 gap [] bound rfl rfl filled rfl
          rw [weave, List.nil_append] at begins
          rw [closed, weave, List.nil_append]
          rcases List.prefix_or_prefix_of_prefix begins (List.prefix_append lexeme _) with
            within | beyond
          · exact within.trans (List.prefix_append _ _)
          · obtain ⟨rest, rfl⟩ := beyond
            have later := (List.prefix_append_right_inj lexeme).mp begins
            exact (List.prefix_append_right_inj lexeme).mpr (ih (Nat.succ.inj count)
              (Nat.succ.inj again) opened.tail
              (fun one member => blank one (List.mem_cons_of_mem _ member)) later
              (fun c member => solid c (List.mem_append_right lexeme member)))

end Weave

theorem Legible.respaced {gap other : List Char} {gaps others : List (List Char)}
    {words : List Word} (legible : Legible [] (gap :: gaps) words)
    (again : others.length = gaps.length) (opened : StaysOpen gaps others)
    (blank : ∀ one ∈ others, ∀ c ∈ one, IsSpace c) : Legible [] (other :: others) words := by
  induction words generalizing gap other gaps others with
  | nil =>
    have last : gaps.length = 0 := Nat.succ.inj legible.count
    rw [last] at again
    rw [List.eq_nil_of_length_eq_zero again]
    exact .last
  | cons word words ih =>
    cases legible with
    | word longest spelled later =>
      have count := later.count
      have marked : '"' ∈ weave others (words.map Word.lexeme) →
          '"' ∈ weave gaps (words.map Word.lexeme) := by
        intro member
        rcases mem_weave.mp member with ⟨one, listed, inside⟩ | inside
        · exact absurd (blank one listed '"' inside) mark_not_space
        · exact mem_weave.mpr (.inr inside)
      rw [List.append_nil] at longest
      refine .word ?_ spelled ?_
      · rw [List.append_nil]
        exact longest.of_behind spelled
          (fun part begins solid => prefix_of_solid (by rw [count, List.length_map])
            (by rw [again, count, List.length_map]) opened blank begins solid)
          (fun _ _ => marked)
      · cases gaps with
        | nil => cases count
        | cons gap gaps =>
          cases others with
          | nil => cases again
          | cons other others =>
            exact ih later (Nat.succ.inj again) opened.tail
              fun one member => blank one (List.mem_cons_of_mem _ member)

/-! ### One space between lexemes -/

section Single

variable {c : Char}

/-- One space between any two of some lexemes, and none around them. -/
def singleGaps (c : Char) (lexemes : List (List Char)) : List (List Char) :=
  [] :: (List.replicate (lexemes.length - 1) [c] ++ List.replicate (min lexemes.length 1) [])

theorem weave_replicate (lexemes : List (List Char)) :
    weave (List.replicate lexemes.length [c] ++ [[]]) lexemes = lexemes.flatMap (c :: ·) := by
  induction lexemes with
  | nil => rfl
  | cons lexeme lexemes ih =>
    rw [List.length_cons, List.replicate_succ, List.cons_append, weave, ih]
    rfl

theorem intercalate_eq_flatMap (first : List Char) (rest : List (List Char)) :
    [c].intercalate (first :: rest) = first ++ rest.flatMap (c :: ·) := by
  induction rest generalizing first with
  | nil => simp
  | cons second rest ih =>
    rw [List.intercalate_cons_cons, ih, List.flatMap_cons]
    simp

theorem weave_singleGaps (lexemes : List (List Char)) :
    weave (singleGaps c lexemes) lexemes = [c].intercalate lexemes := by
  cases lexemes with
  | nil => rfl
  | cons first rest =>
    have gaps : singleGaps c (first :: rest) = [] :: (List.replicate rest.length [c] ++ [[]]) := by
      simp [singleGaps]
    rw [gaps, weave, weave_replicate, intercalate_eq_flatMap, List.nil_append]

theorem singleGaps_getElem? {lexemes : List (List Char)} {index : Nat} {gap : List Char}
    (positive : 0 < index) (bound : index < lexemes.length)
    (found : (singleGaps c lexemes)[index]? = some gap) : gap = [c] := by
  obtain ⟨before, rfl⟩ := Nat.exists_eq_add_of_lt positive
  rw [singleGaps, Nat.zero_add, List.getElem?_cons_succ,
    List.getElem?_append_left (by rw [List.length_replicate]; omega)] at found
  exact (List.mem_replicate.mp (List.mem_of_getElem? found)).2

theorem length_singleGaps (lexemes : List (List Char)) :
    (singleGaps c lexemes).length = lexemes.length + 1 := by
  simp only [singleGaps, List.length_cons, List.length_append, List.length_replicate]
  omega

theorem blank_singleGaps (space : IsSpace c) (lexemes : List (List Char)) :
    ∀ gap ∈ singleGaps c lexemes, ∀ d ∈ gap, IsSpace d := by
  intro gap member d inside
  simp only [singleGaps, List.mem_cons, List.mem_append, List.mem_replicate] at member
  rcases member with rfl | ⟨_, rfl⟩ | ⟨_, rfl⟩
  · cases inside
  · rwa [List.mem_singleton.mp inside]
  · cases inside

end Single

/-! ### Scans -/

theorem respaced_of_accepted {source : String} {tokens : List Token}
    {gaps others : List (List Char)} (accepted : tokenize source = .ok (.ok tokens))
    (split : Gaps source.toList (tokens.map fun token => token.lexeme.toList) gaps)
    (count : others.length = gaps.length) (blank : ∀ gap ∈ others, ∀ c ∈ gap, IsSpace c)
    (opened : ∀ index gap other, 0 < index → index < tokens.length → gaps[index]? = some gap →
      others[index]? = some other → gap ≠ [] → other ≠ []) :
    ∃ again,
      tokenize (.ofList (weave others (tokens.map fun token => token.lexeme.toList))) =
        .ok (.ok again) ∧
      again.map Token.spelling = tokens.map Token.spelling ∧
      ∀ index token, again[index]? = some token →
        token.line = 1 + (weave (others.take (index + 1))
          ((tokens.map fun token => token.lexeme.toList).take index)).count '\n' := by
  obtain ⟨words, known, legible, same⟩ := words_of_accepted accepted split
  have size : gaps.length = tokens.length + 1 := by
    rw [split.count, List.length_map]
  cases gaps with
  | nil => cases size
  | cons gap gaps =>
    cases others with
    | nil => cases count
    | cons other others =>
      have tails : StaysOpen gaps others := fun index one two bound found again =>
        opened (index + 1) one two (Nat.succ_pos index) (Nat.succ.inj size ▸ bound) found again
      have respaced : Legible [] (other :: others) words :=
        legible.respaced (Nat.succ.inj count) tails
          fun one member => blank one (List.mem_cons_of_mem other member)
      rw [← known]
      refine ⟨_, tokenize_weave respaced blank, ?_, fun index token => Position.tokens_line⟩
      rw [same]
      exact Position.tokens_spelling _ _ (Nat.le_of_lt (by rw [respaced.count]; omega))
        (Nat.le_of_lt (by rw [legible.count]; omega))

/-- A source that is accepted may be spaced in another way: the tokens have the same kinds and
lexemes, and they are on the lines where their lexemes are. In particular the lexemes may be joined
by one space each. -/
theorem tokenize_respaced {source : String} {tokens : List Token}
    (accepted : tokenize source = .ok (.ok tokens)) :
    let lexemes := tokens.map fun token => token.lexeme.toList
    (∀ gaps others, Gaps source.toList lexemes gaps → others.length = gaps.length →
      (∀ gap ∈ others, ∀ c ∈ gap, IsSpace c) →
      (∀ index gap other, 0 < index → index < tokens.length → gaps[index]? = some gap →
        others[index]? = some other → gap ≠ [] → other ≠ []) →
      ∃ again, tokenize (.ofList (weave others lexemes)) = .ok (.ok again) ∧
        again.map Token.spelling = tokens.map Token.spelling ∧
        ∀ index token, again[index]? = some token →
          token.line = 1 + (weave (others.take (index + 1)) (lexemes.take index)).count '\n') ∧
    ∀ c, IsSpace c → ∃ again,
      tokenize ((String.singleton c).intercalate (tokens.map Token.lexeme)) = .ok (.ok again) ∧
        again.map Token.spelling = tokens.map Token.spelling := by
  intro lexemes
  refine ⟨fun gaps others split count blank opened =>
    respaced_of_accepted accepted split count blank opened, ?_⟩
  intro c space
  obtain ⟨gaps, split, _⟩ := (woven_of_accepted accepted).gaps
  obtain ⟨again, outcome, same, _⟩ := respaced_of_accepted accepted split
    (by rw [length_singleGaps, split.count]) (blank_singleGaps space lexemes) (by
      intro index gap other positive bound _ found _
      rw [singleGaps_getElem? positive (by rwa [List.length_map]) found]
      simp)
  refine ⟨again, ?_, same⟩
  have text : (String.singleton c).intercalate (tokens.map Token.lexeme) =
      .ofList (weave (singleGaps c lexemes) lexemes) := by
    rw [weave_singleGaps, ← String.toList_inj, String.toList_intercalate, String.toList_ofList,
      String.toList_singleton, List.map_map]
    rfl
  rw [text, outcome]

/-- The quoted text ends at an escaped mark, as no mark follows, and the point is no part of a
number. -/
theorem tokenize_respaced_escaped :
    let tokens : List Token := [⟨.string, "\"\\\"", 1⟩, ⟨.number, "1", 1⟩, ⟨.dot, ".", 1⟩]
    tokenize "\"\\\" 1." = .ok (.ok tokens) ∧
      Gaps "\"\\\" 1.".toList (tokens.map fun token => token.lexeme.toList) [[], [' '], [], []] ∧
      (∃ again, tokenize "\n\"\\\"\t\n1 ." = .ok (.ok again) ∧
        again.map Token.spelling = tokens.map Token.spelling ∧
        ∀ token, again[1]? = some token → token.line = 3) ∧
      ∃ again, tokenize "\"\\\" 1 ." = .ok (.ok again) ∧
        again.map Token.spelling = tokens.map Token.spelling := by
  intro tokens
  have scanned : ofStandardRows.scan "\"\\\" 1." = .ok ⟨tokens, none⟩ := by
    decide +kernel
  have accepted : tokenize "\"\\\" 1." = .ok (.ok tokens) := by
    rw [tokenize, scan_of_standard standard_eq, scanned]
    rfl
  have space : IsSpace ' ' := isSpace_iff.mpr (by decide)
  have line : IsSpace '\n' := isSpace_iff.mpr (by decide)
  have tab : IsSpace '\t' := isSpace_iff.mpr (by decide)
  have split : Gaps "\"\\\" 1.".toList (tokens.map fun token => token.lexeme.toList)
      [[], [' '], [], []] := ⟨rfl, by simpa using space, by decide⟩
  obtain ⟨respaced, joined⟩ := tokenize_respaced accepted
  obtain ⟨again, outcome, same, lines⟩ :=
    respaced _ [['\n'], ['\t', '\n'], [' '], []] split rfl (by simp [space, line, tab]) (by
      intro index gap other positive bound found changed filled
      have inside : index < 3 := bound
      obtain rfl | rfl : index = 1 ∨ index = 2 := by omega
      all_goals
        cases changed
        simp)
  refine ⟨accepted, split, ⟨again, outcome, same, fun token found => lines 1 token found⟩, ?_⟩
  exact joined ' ' space

end Lexicon
