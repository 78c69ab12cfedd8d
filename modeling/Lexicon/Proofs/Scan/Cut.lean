import Lexicon.Proofs.Scan.Lossless

/-! Sources that are cut.

If a source is cut where a token of its scan starts or ends, or where the scan fails, the scans of
the two parts are the parts of the scan. All these places lie between two segments
(`front_of_boundary`), and such a cut changes no segment (`cut_between`). A quoted lexeme may look
as far ahead as the end of the source; what matters is that it is the longest one at its place.
-/

set_option autoImplicit false

namespace Lexicon

open Text Vocabulary

/-- A place for a cut, with the number of tokens before it. -/
inductive Vocabulary.Boundary (vocabulary : Vocabulary) (source : String) : Nat → Nat → Prop where
  | start {count : Nat} {found : Match} {token : Token} :
      (vocabulary.emitted source)[count]? = some (found, token) →
      Boundary vocabulary source found.start count
  | stop {count : Nat} {found : Match} {token : Token} :
      (vocabulary.emitted source)[count]? = some (found, token) →
      Boundary vocabulary source found.stop (count + 1)
  | failure {scan : Scan} {failure : Failure} :
      vocabulary.scan source = .ok scan → scan.failure = some failure →
      Boundary vocabulary source failure.position.offset scan.tokens.length

/-! ### Places that are moved -/

def Token.below (token : Token) (lines : Nat) : Token := { token with line := token.line + lines }

def Position.below (place : Position) (bytes lines : Nat) : Position :=
  ⟨place.offset + bytes, place.line + lines⟩

def Failure.below (failure : Failure) (bytes lines : Nat) : Failure :=
  ⟨failure.cause, failure.position.below bytes lines⟩

theorem Position.below_behind (place : Position) (bytes lines : Nat) (text : List Char) :
    (place.below bytes lines).behind text = (place.behind text).below bytes lines := by
  simp only [below, behind, Position.mk.injEq]
  omega

theorem Position.first_below (text : List Char) :
    first.behind text = first.below (width text) (text.count '\n') := rfl

namespace Scan

theorem ofSegments_below (place : Position) (bytes lines : Nat) (parts : List Segment) :
    ofSegments (place.below bytes lines) parts =
      ⟨(ofSegments place parts).tokens.map (·.below lines),
        (ofSegments place parts).failure.map (·.below bytes lines)⟩ := by
  induction parts generalizing place with
  | nil => rfl
  | cons segment rest ih =>
    obtain ⟨role, text⟩ := segment
    have step := ih (place.behind text)
    cases role with
    | whitespace => simp only [ofSegments, Position.below_behind, step]
    | anythingElse => rfl
    | token kind =>
      simp only [ofSegments, Position.below_behind, step, List.map_cons]
      rfl

def count (parts : List Segment) : Nat := (ofSegments .first parts).tokens.length

theorem length_ofSegments (place : Position) (parts : List Segment) :
    (ofSegments place parts).tokens.length = count parts := by
  have moved : place = (⟨0, 0⟩ : Position).below place.offset place.line := by
    simp [Position.below]
  have first : Position.first = (⟨0, 0⟩ : Position).below 0 1 := rfl
  rw [count, moved, first, ofSegments_below, ofSegments_below, List.length_map, List.length_map]

theorem count_append {front : List Segment}
    (lexical : ∀ segment ∈ front, segment.isLexical = true) (later : List Segment) :
    count (front ++ later) = count front + count later := by
  rw [count, ofSegments_append lexical, List.length_append, length_ofSegments, length_ofSegments]

end Scan

/-- `found` is the match of a segment of a token, `count` tokens in; the segments start at an
offset. -/
def TokenAt (parts : List Segment) (offset count : Nat) (found : Match) : Prop :=
  ∃ front kind text back, parts = front ++ ⟨.token kind, text⟩ :: back ∧
    (∀ segment ∈ front, segment.isLexical = true) ∧
    found.start = offset + width (front.flatMap Segment.text) ∧
    found.stop = found.start + width text ∧ count = Scan.count front

theorem TokenAt.cons {parts : List Segment} {offset count : Nat} {found : Match}
    (segment : Segment) (goesOn : segment.isLexical = true)
    (inner : TokenAt parts (offset + width segment.text) count found) :
    TokenAt (segment :: parts) offset (Scan.count [segment] + count) found := by
  obtain ⟨front, kind, text, back, split, lexical, start, stop, number⟩ := inner
  refine ⟨segment :: front, kind, text, back, by rw [split, List.cons_append],
    List.forall_mem_cons.mpr ⟨goesOn, lexical⟩, ?_, stop, ?_⟩
  · rw [start, List.flatMap_cons, width_append, Nat.add_assoc]
  · have alone : ∀ one ∈ [segment], one.isLexical = true := List.forall_mem_singleton.mpr goesOn
    rw [number, ← Scan.count_append alone, List.singleton_append]

theorem Scan.lexical_of_ofSegments {place : Position} {parts : List Segment} {failure : Failure}
    (failed : (Scan.ofSegments place parts).failure = some failure) :
    failure.cause.isLexical = true := by
  induction parts generalizing place with
  | nil => cases failed
  | cons segment rest ih =>
    obtain ⟨role, text⟩ := segment
    cases role with
    | whitespace => exact ih failed
    | anythingElse =>
      cases failed
      rfl
    | token kind => exact ih failed

namespace Vocabulary

theorem tokenAt_of_emitted {whole : List Char} {parts : List Segment} {offset count : Nat}
    {found : Match} {token : Token}
    (listed : ∀ segment ∈ parts, segment.role ∈ ofStandardRows.roles)
    (emitted : (ofStandardRows.tokensOf whole
      (ofStandardRows.passed (layout offset parts)))[count]? = some (found, token)) :
    TokenAt parts offset count found := by
  -- White space gives no token and a segment of a token gives one, so only these count down.
  induction parts generalizing offset count with
  | nil => simp [layout, passed, tokensOf] at emitted
  | cons segment rest ih =>
    have known : ofStandardRows.classify ⟨offset, offset + width segment.text,
        String.ofList segment.text, [segment.role.name]⟩ = .ok segment.role :=
      classify_standard (listed _ List.mem_cons_self) rfl
    have others : ∀ other ∈ rest, other.role ∈ ofStandardRows.roles :=
      fun other member => listed other (List.mem_cons_of_mem _ member)
    obtain ⟨role, text⟩ := segment
    simp only [layout] at emitted
    cases role with
    | anythingElse =>
      rw [passed_stop (by rw [cause?, known])] at emitted
      cases emitted
    | whitespace =>
      rw [passed_cons (cause?_of_role known (by simp)), tokensOf_skip (by rw [token?, known])]
        at emitted
      have step := (ih others emitted).cons ⟨.whitespace, text⟩ rfl
      rwa [show Scan.count [⟨.whitespace, text⟩] = 0 from rfl, Nat.zero_add] at step
    | token kind =>
      rw [passed_cons (cause?_of_role known (by simp)), tokensOf_cons (by rw [token?, known])]
        at emitted
      cases count with
      | zero =>
        cases emitted
        exact ⟨[], kind, text, rest, rfl, by simp, rfl, rfl, rfl⟩
      | succ count =>
        rw [List.getElem?_cons_succ] at emitted
        have step := (ih others emitted).cons ⟨.token kind, text⟩ rfl
        rwa [show Scan.count [⟨.token kind, text⟩] = 1 from rfl, Nat.add_comm] at step

theorem front_of_failure {source : String} {scan : Scan} {failure : Failure}
    (scanned : Lexicon.scan source = .ok scan) (failed : scan.failure = some failure) :
    ∃ front back, segments source.toList = front ++ back ∧
      (∀ segment ∈ front, segment.isLexical = true) ∧
      failure.position.offset = width (front.flatMap Segment.text) ∧
      scan.tokens = (Scan.ofSegments .first front).tokens := by
  rw [scan_eq_ofSegments] at scanned
  cases scanned
  obtain ⟨front, later, split, lexical, stop⟩ := Scan.lexical_split (segments source.toList)
  rw [split, Scan.ofSegments_append lexical] at failed ⊢
  refine ⟨front, later, rfl, lexical, ?_⟩
  rcases stop with rfl | ⟨run, rest, rfl⟩
  · cases failed
  · cases failed
    exact ⟨Nat.zero_add _, List.append_nil _⟩

theorem front_of_boundary {source : String} {offset count : Nat}
    (boundary : ofStandardRows.Boundary source offset count) :
    ∃ front back, segments source.toList = front ++ back ∧
      (∀ segment ∈ front, segment.isLexical = true) ∧
      offset = width (front.flatMap Segment.text) ∧ count = Scan.count front := by
  have placed : ofStandardRows.matcher.allMatches source.toList =
      layout 0 (segments source.toList) := allMatches_eq_layout source.toList
  have listed : ∀ segment ∈ segments source.toList, segment.role ∈ ofStandardRows.roles :=
    fun segment => role_of_segment
  cases boundary with
  | start emitted =>
    rw [Vocabulary.emitted, placed] at emitted
    obtain ⟨front, kind, text, back, split, lexical, start, _, number⟩ :=
      tokenAt_of_emitted listed emitted
    rw [Nat.zero_add] at start
    exact ⟨front, _, split, lexical, start, number⟩
  | stop emitted =>
    rw [Vocabulary.emitted, placed] at emitted
    obtain ⟨front, kind, text, back, split, lexical, start, stop, number⟩ :=
      tokenAt_of_emitted listed emitted
    -- The token itself is before the cut.
    refine ⟨front ++ [⟨.token kind, text⟩], back, by simp [split], ?_, ?_, ?_⟩
    · intro one member
      rcases List.mem_append.mp member with member | member
      · exact lexical one member
      · rw [List.mem_singleton.mp member]
        rfl
    · rw [stop, start, List.flatMap_append, width_append, Nat.zero_add]
      simp
    · rw [number, Scan.count_append lexical]
      rfl
  | failure scanned failed =>
    rw [← scan_of_standard standard_eq] at scanned
    obtain ⟨front, back, split, lexical, offset, tokens⟩ := front_of_failure scanned failed
    exact ⟨front, back, split, lexical, offset, by rw [tokens, Scan.count]⟩

theorem cut_between {source : String} {front back : List Segment}
    (split : segments source.toList = front ++ back)
    (lexical : ∀ segment ∈ front, segment.isLexical = true) :
    ∃ left right later, source = left ++ right ∧
      left.toList = front.flatMap Segment.text ∧
      tokenize left = .ok (.ok (Scan.ofSegments .first front).tokens) ∧
      Lexicon.scan right = .ok later ∧
      Lexicon.scan source = .ok
        ⟨(Scan.ofSegments .first front).tokens ++
            later.tokens.map (·.below (left.toList.count '\n')),
          later.failure.map (·.below left.utf8ByteSize (left.toList.count '\n'))⟩ := by
  have text := flatMap_segments source.toList
  rw [split, List.flatMap_append] at text
  refine ⟨.ofList (front.flatMap Segment.text), .ofList (back.flatMap Segment.text), _, ?_,
    String.toList_ofList, ?_, scan_eq_ofSegments _, ?_⟩
  · rw [← String.ofList_append, text, String.ofList_toList]
  · rw [tokenize_eq, String.toList_ofList, segments_front split lexical, Scan.result,
      Scan.failure_of_lexical lexical]
  · rw [scan_eq_ofSegments, split, Scan.ofSegments_append lexical, Position.first_below,
      Scan.ofSegments_below, String.toList_ofList, String.toList_ofList, segments_back split,
      width_ofList]

end Vocabulary

/-- The parts of a source that is cut at a boundary have the tokens and the failure of the source,
but that what is behind the cut has its place from there on. The part before a failure has the
tokens that were reported. -/
theorem scan_cut {vocabulary : Vocabulary} (same : Vocabulary.standard = .ok vocabulary)
    (source : String) :
    (∀ offset count, vocabulary.Boundary source offset count →
      ∃ left right whole later, source = left ++ right ∧ left.utf8ByteSize = offset ∧
        Lexicon.scan source = .ok whole ∧
        whole.tokens = (vocabulary.emitted source).map Prod.snd ∧
        tokenize left = .ok (.ok (whole.tokens.take count)) ∧
        Lexicon.scan right = .ok later ∧ tokenize right = .ok later.result ∧
        whole.tokens.drop count = later.tokens.map (·.below (left.toList.count '\n')) ∧
        whole.failure = later.failure.map (·.below offset (left.toList.count '\n')) ∧
        ∀ failure, later.failure = some failure → failure.cause.isLexical = true) ∧
    ∀ whole failure, Lexicon.scan source = .ok whole → whole.failure = some failure →
      ∃ left right, source = left ++ right ∧
        left.utf8ByteSize = failure.position.offset ∧
        tokenize left = .ok (.ok (whole.reported source)) := by
  have known := Except.ok.inj (standard_eq.symm.trans same)
  subst known
  constructor
  · intro offset count boundary
    obtain ⟨front, back, split, lexical, place, number⟩ := front_of_boundary boundary
    obtain ⟨left, right, later, joined, text, own, scanned, whole⟩ := cut_between split lexical
    have size : left.utf8ByteSize = offset := by rw [← width_toList, text, place]
    have tokens := whole
    rw [scan_of_standard standard_eq, scan_eq] at tokens
    rw [size] at whole
    refine ⟨left, right, _, later, joined, size, whole, ?_, ?_, scanned, ?_, ?_, rfl, ?_⟩
    · exact (congrArg Scan.tokens (Except.ok.inj tokens)).symm
    · rw [number, Scan.count, List.take_left, own]
    · rw [tokenize, scanned]
      rfl
    · rw [number, Scan.count, List.drop_left]
    · intro failure failed
      rw [scan_eq_ofSegments] at scanned
      cases scanned
      exact Scan.lexical_of_ofSegments failed
  · intro whole failure scanned failed
    obtain ⟨front, back, split, lexical, place, tokens⟩ := front_of_failure scanned failed
    obtain ⟨left, right, later, joined, text, own, _, _⟩ := cut_between split lexical
    refine ⟨left, right, joined, by rw [← width_toList, text, place], ?_⟩
    rw [Scan.reported_eq, tokens, own]

theorem scan_cut_inside :
    (ofStandardRows.Boundary "a b" 2 1 ∧
      ∃ left right : String, "a b" = left ++ right ∧ left.utf8ByteSize = 2 ∧
        tokenize left = .ok (.ok [⟨.identifier, "a", 1⟩])) ∧
    ∃ whole failure, Lexicon.scan "a \"" = .ok whole ∧ whole.failure = some failure ∧
      ∃ left right : String, "a \"" = left ++ right ∧
        left.utf8ByteSize = failure.position.offset ∧
        tokenize left = .ok (.ok (whole.reported "a \"")) := by
  have emitted : ofStandardRows.emitted "a b" =
      [(⟨0, 1, "a", ["IDENTIFIER"]⟩, ⟨.identifier, "a", 1⟩),
        (⟨2, 3, "b", ["IDENTIFIER"]⟩, ⟨.identifier, "b", 1⟩)] := by
    decide +kernel
  have second : (ofStandardRows.emitted "a b")[1]? =
      some (⟨2, 3, "b", ["IDENTIFIER"]⟩, ⟨.identifier, "b", 1⟩) := by
    rw [emitted]
    rfl
  have boundary : ofStandardRows.Boundary "a b" 2 1 := .start second
  obtain ⟨left, right, _, _, joined, size, _, tokens, front, _⟩ :=
    (scan_cut standard_eq "a b").1 2 1 boundary
  rw [tokens, emitted] at front
  have failed : (ofStandardRows.matcher.allMatches "a \"".toList).findSome?
      (ofStandardRows.failure? "a \"".toList) = some ⟨.unexpectedSymbol "\"", ⟨2, 1⟩⟩ := by
    decide +kernel
  obtain ⟨whole, scanned, failure⟩ : ∃ whole, Lexicon.scan "a \"" = .ok whole ∧
      whole.failure = some ⟨.unexpectedSymbol "\"", ⟨2, 1⟩⟩ :=
    ⟨_, (scan_of_standard standard_eq _).trans (ofStandardRows.scan_eq _), failed⟩
  exact ⟨⟨boundary, left, right, joined, size, front⟩, whole, _, scanned, failure,
    (scan_cut standard_eq "a \"").2 whole _ scanned failure⟩

end Lexicon
