import Lexicon.Proofs.Lexeme.Literal
import Lexicon.Proofs.Scan.Segments
import Lexicon.Proofs.Source.Line

/-! String literals in a scan.

A scan that comes to a quotation mark takes all up to the first mark that is not escaped for a
string, or all up to the last mark if every mark is escaped. If there is no other mark it fails
(`string_extent`).
-/

set_option autoImplicit false

namespace Lexicon

open Text Vocabulary

/-- A scan comes to a match if none before it ends the scan. -/
def Vocabulary.Visits (vocabulary : Vocabulary) (source : String) (found : Match) : Prop :=
  ∃ earlier later, vocabulary.matcher.allMatches source.toList = earlier ++ found :: later ∧
    ∀ one ∈ earlier, vocabulary.cause? one = none

def Vocabulary.TakesString (vocabulary : Vocabulary) (source : String) (found : Match)
    (body : List Char) : Prop :=
  found.text = String.ofList (inMarks body) ∧ found.stop = found.start + width (inMarks body) ∧
    (found, ⟨.string, found.text, lineAt source.toList found.start⟩) ∈ vocabulary.emitted source

/-! ### Marks that are not escaped -/

/-- Behind `body`, a text has a quotation mark that no backslash stands before. -/
def BareMark (text body : List Char) : Prop :=
  body ++ ['"'] <+: text ∧ body.getLast? ≠ some '\\'

namespace Literal

variable {body tail other : List Char}

theorem length_le_of_bareMark (literal : Literal body tail)
    (bare : BareMark (body ++ '"' :: tail) other) : body.length ≤ other.length := by
  obtain ⟨⟨more, same⟩, plain⟩ := bare
  rw [List.append_assoc, List.singleton_append] at same
  exact Nat.le_of_not_lt fun shorter => plain (literal.getLast?_of_shorter same.symm shorter)

theorem not_bareMark (literal : Literal body tail) (escaped : body.getLast? = some '\\') :
    ¬ BareMark (body ++ '"' :: tail) other := by
  intro bare
  have longer := literal.length_le_of_bareMark bare
  obtain ⟨⟨more, same⟩, plain⟩ := bare
  rw [List.append_assoc, List.singleton_append] at same
  rcases List.append_eq_append_iff.mp same with ⟨part, rfl, _⟩ | ⟨part, rfl, rest⟩
  · have empty : part = [] := List.eq_nil_of_length_eq_zero (by
      rw [List.length_append] at longer
      omega)
    rw [empty, List.append_nil] at escaped
    exact plain escaped
  · cases part with
    | nil => exact plain (by rwa [List.append_nil])
    | cons c part =>
      obtain ⟨rfl, rfl⟩ := List.cons.inj rest
      exact literal.closing escaped (by simp)

end Literal

/-! ### Matches and segments -/

def Segment.matchAt (segment : Segment) (offset : Nat) : Match :=
  ⟨offset, offset + width segment.text, String.ofList segment.text, [segment.role.name]⟩

namespace Vocabulary

theorem layout_split {offset : Nat} {parts : List Segment} {earlier later : List Match}
    {found : Match} (split : layout offset parts = earlier ++ found :: later) :
    ∃ front segment back, parts = front ++ segment :: back ∧ earlier = layout offset front ∧
      found = segment.matchAt (offset + width (front.flatMap Segment.text)) := by
  induction parts generalizing offset earlier with
  | nil => simp [layout] at split
  | cons segment rest ih =>
    cases earlier with
    | nil => exact ⟨[], segment, rest, rfl, rfl, (List.cons.inj split).1.symm⟩
    | cons one earlier =>
      obtain ⟨rfl, tail⟩ := List.cons.inj split
      obtain ⟨front, other, back, rfl, rfl, rfl⟩ := ih tail
      refine ⟨segment :: front, other, back, rfl, rfl, ?_⟩
      rw [List.flatMap_cons, width_append, Nat.add_assoc]

theorem classify_matchAt {segment : Segment} (listed : segment.role ∈ ofStandardRows.roles)
    (offset : Nat) : ofStandardRows.classify (segment.matchAt offset) = .ok segment.role :=
  classify_standard listed rfl

theorem lexical_of_quiet {offset : Nat} {front : List Segment}
    (listed : ∀ segment ∈ front, segment.role ∈ ofStandardRows.roles)
    (quiet : ∀ one ∈ layout offset front, ofStandardRows.cause? one = none) :
    ∀ segment ∈ front, segment.isLexical = true := by
  induction front generalizing offset with
  | nil => simp
  | cons segment rest ih =>
    have own := quiet (segment.matchAt offset) List.mem_cons_self
    have goesOn : segment.isLexical = true := by
      refine bne_iff_ne.mpr fun otherwise => ?_
      rw [cause?, classify_matchAt (listed segment List.mem_cons_self), otherwise] at own
      cases own
    exact List.forall_mem_cons.mpr ⟨goesOn,
      ih (fun other member => listed other (List.mem_cons_of_mem segment member))
        fun one member => quiet one (List.mem_cons_of_mem _ member)⟩

theorem mem_emitted {vocabulary : Vocabulary} {source : String} {found : Match} {kind : Kind}
    (visited : vocabulary.Visits source found)
    (known : vocabulary.classify found = .ok (.token kind)) (plain : kind ≠ .identifier) :
    (found, ⟨kind, found.text, lineAt source.toList found.start⟩) ∈ vocabulary.emitted source := by
  obtain ⟨earlier, later, order, quiet⟩ := visited
  have passes : vocabulary.cause? found = none := cause?_of_role known (by simp)
  have own : vocabulary.token? source.toList found =
      some ⟨kind, found.text, lineAt source.toList found.start⟩ := by
    rw [token?, known]
    simp [plain]
  refine List.mem_filterMap.mpr ⟨found, ?_, by rw [own]; rfl⟩
  rw [order, passed_append quiet, passed_cons passes]
  simp

section Visits

variable {source : String} {found : Match} {front rest : List Char}

theorem segment_of_visited (visited : ofStandardRows.Visits source found)
    (split : source.toList = front ++ rest) (start : found.start = width front) :
    ∃ passed segment back, segments source.toList = passed ++ segment :: back ∧
      (∀ one ∈ passed, one.isLexical = true) ∧ passed.flatMap Segment.text = front ∧
      segments rest = segment :: back ∧ found = segment.matchAt (width front) := by
  obtain ⟨earlier, later, order, quiet⟩ := visited
  have placed : ofStandardRows.matcher.allMatches source.toList =
      layout 0 (segments source.toList) := allMatches_eq_layout source.toList
  obtain ⟨passed, segment, back, parts, rfl, own⟩ := layout_split (placed.symm.trans order)
  rw [Nat.zero_add] at own
  have same : width (passed.flatMap Segment.text) = width front := by
    rw [← start, own]
    rfl
  have whole := flatMap_segments source.toList
  rw [parts, List.flatMap_append, split] at whole
  obtain ⟨rfl, tail⟩ := append_inj_of_width whole same
  refine ⟨passed, segment, back, parts, lexical_of_quiet ?_ quiet, rfl, ?_, own⟩
  · exact fun one member => role_of_segment (parts ▸ List.mem_append_left _ member)
  · rw [← tail]
    exact segments_back parts

theorem takesString_of_literal {body tail : List Char} (literal : Literal body tail)
    (visited : ofStandardRows.Visits source found)
    (split : source.toList = front ++ '"' :: (body ++ '"' :: tail))
    (start : found.start = width front) : ofStandardRows.TakesString source found body := by
  obtain ⟨passed, segment, back, _, _, _, parts, rfl⟩ := segment_of_visited visited split start
  obtain ⟨rfl, _⟩ := List.cons.inj ((segments_of_literal literal).symm.trans parts)
  have listed : Role.token .string ∈ ofStandardRows.roles := by decide
  have known : ofStandardRows.classify (Segment.matchAt ⟨.token .string, inMarks body⟩
      (width front)) = .ok (.token .string) := classify_matchAt listed _
  exact ⟨rfl, rfl, mem_emitted visited known (by decide)⟩

theorem role_of_unclosed {segment : Segment} {back : List Segment} (unclosed : '"' ∉ rest)
    (parts : segments ('"' :: rest) = segment :: back) : segment.role = .anythingElse := by
  obtain ⟨later, _, _, first⟩ := segments_eq_cons parts
  refine Classical.byContradiction fun lexical => ?_
  obtain ⟨longest, _⟩ := first (bne_iff_ne.mpr lexical)
  exact not_isLexeme_of_unclosed unclosed longest.filled longest.begins longest.spelled

theorem stop_le_of_emitted {vocabulary : Vocabulary} {cause : Cause}
    (visited : vocabulary.Visits source found) (stops : vocabulary.cause? found = some cause)
    {one : Match} {token : Token} (emitted : (one, token) ∈ vocabulary.emitted source) :
    one.stop ≤ found.start := by
  obtain ⟨earlier, later, order, quiet⟩ := visited
  have passed : vocabulary.passed (earlier ++ found :: later) = earlier := by
    rw [passed_append quiet, passed_stop stops, List.append_nil]
  obtain ⟨other, member, own⟩ := List.mem_filterMap.mp emitted
  obtain ⟨_, _, same⟩ := Option.map_eq_some_iff.mp own
  cases same
  rw [order, passed] at member
  have apart := (vocabulary.matcher.allMatches_placed source.toList).pairwise
  rw [order] at apart
  exact (List.pairwise_append.mp apart).2.2 one member found List.mem_cons_self

theorem stopped_of_unclosed (unclosed : '"' ∉ rest) (visited : ofStandardRows.Visits source found)
    (split : source.toList = front ++ '"' :: rest) (start : found.start = width front) :
    ofStandardRows.cause? found = some (.unexpectedSymbol found.text) ∧
      tokenize source = .ok (.error ⟨.unexpectedSymbol found.text,
        ⟨width front, lineAt source.toList (width front)⟩⟩) := by
  obtain ⟨passed, segment, back, parts, lexical, rfl, first, rfl⟩ :=
    segment_of_visited visited split start
  have otherwise := role_of_unclosed unclosed first
  obtain ⟨role, text⟩ := segment
  dsimp only at otherwise
  subst otherwise
  have listed : Role.anythingElse ∈ ofStandardRows.roles := by decide
  have known : ofStandardRows.classify (Segment.matchAt ⟨.anythingElse, text⟩
      (width (passed.flatMap Segment.text))) = .ok .anythingElse := classify_matchAt listed _
  refine ⟨?_, tokenize_of_stuck parts lexical⟩
  rw [cause?, known]

end Visits

/-- Where a scan of the language comes to a quotation mark, it takes all up to the first mark that
no backslash stands before for a string. If there is none, the string goes up to the last mark of
the source. If there is no mark at all, the scan fails at the opening one. -/
theorem string_extent {vocabulary : Vocabulary} (standard : Vocabulary.standard = .ok vocabulary)
    {source : String} {found : Match} {front rest : List Char}
    (visited : vocabulary.Visits source found)
    (split : source.toList = front ++ '"' :: rest) (start : found.start = width front) :
    (∃ scan, Lexicon.scan source = .ok scan ∧
      scan.tokens = (vocabulary.emitted source).map Prod.snd) ∧
    ((∃ body, BareMark rest body) → ∃ body, BareMark rest body ∧
      (∀ other, BareMark rest other → body.length ≤ other.length) ∧
      vocabulary.TakesString source found body) ∧
    ((¬ ∃ body, BareMark rest body) → '"' ∈ rest →
      ∃ body tail, rest = body ++ '"' :: tail ∧ '"' ∉ tail ∧
        vocabulary.TakesString source found body) ∧
    ('"' ∉ rest →
      (∀ one token, (one, token) ∈ vocabulary.emitted source → one.stop ≤ width front) ∧
      tokenize source = .ok (.error ⟨.unexpectedSymbol found.text,
        ⟨width front, lineAt source.toList (width front)⟩⟩)) := by
  have known := Except.ok.inj (standard_eq.symm.trans standard)
  subst known
  refine ⟨⟨_, (scan_of_standard standard_eq source).trans (ofStandardRows.scan_eq source), rfl⟩,
    ?_, ?_, ?_⟩
  · rintro ⟨some, bare⟩
    have mark : '"' ∈ rest := bare.1.subset (by simp)
    obtain ⟨body, tail, rfl, literal⟩ := exists_literal mark
    refine ⟨body, ⟨⟨tail, by simp⟩, fun escaped => literal.not_bareMark escaped bare⟩,
      fun other => literal.length_le_of_bareMark, ?_⟩
    exact takesString_of_literal literal visited split start
  · intro escaped mark
    obtain ⟨body, tail, rfl, literal⟩ := exists_literal mark
    refine ⟨body, tail, rfl, literal.closing ?_, takesString_of_literal literal visited split start⟩
    exact Classical.byContradiction fun plain => escaped ⟨body, ⟨tail, by simp⟩, plain⟩
  · intro unclosed
    obtain ⟨stops, failed⟩ := stopped_of_unclosed unclosed visited split start
    refine ⟨fun one token emitted => ?_, failed⟩
    rw [← start]
    exact stop_le_of_emitted visited stops emitted

/-- Two backslashes stand before the second mark, and it does not close the string. Behind a name, a
mark that nothing closes is not expected. -/
theorem string_extent_doubled :
    (ofStandardRows.Visits "\"\\\\\" \"" ⟨0, 6, "\"\\\\\" \"", ["STRING"]⟩ ∧
      ∃ body, BareMark "\\\\\" \"".toList body ∧
        ofStandardRows.TakesString "\"\\\\\" \"" ⟨0, 6, "\"\\\\\" \"", ["STRING"]⟩ body) ∧
    ofStandardRows.Visits "x\n\"\\" ⟨2, 4, "\"\\", ["ANYTHING_ELSE"]⟩ ∧
      tokenize "x\n\"\\" = .ok (.error ⟨.unexpectedSymbol "\"\\", ⟨2, 2⟩⟩) := by
  have string : ofStandardRows.Visits "\"\\\\\" \"" ⟨0, 6, "\"\\\\\" \"", ["STRING"]⟩ :=
    ⟨[], [], by decide +kernel, by simp⟩
  have opened : ofStandardRows.Visits "x\n\"\\" ⟨2, 4, "\"\\", ["ANYTHING_ELSE"]⟩ :=
    ⟨[⟨0, 1, "x", ["IDENTIFIER"]⟩, ⟨1, 2, "\n", ["WHITESPACE"]⟩], [], by decide +kernel,
      by decide +kernel⟩
  have bare : BareMark "\\\\\" \"".toList "\\\\\" ".toList := ⟨⟨[], by decide⟩, by decide⟩
  obtain ⟨-, closed, -⟩ := @string_extent _ standard_eq _ _ [] _ string rfl rfl
  obtain ⟨body, mark, -, taken⟩ := closed ⟨_, bare⟩
  obtain ⟨-, -, -, unclosed⟩ := @string_extent _ standard_eq _ _ ['x', '\n'] ['\\'] opened
    (by decide) (by decide)
  exact ⟨⟨string, body, mark, taken⟩, opened, (unclosed (by decide)).2⟩

end Vocabulary

end Lexicon
