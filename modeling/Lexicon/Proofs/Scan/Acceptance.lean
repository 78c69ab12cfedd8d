import Lexicon.Proofs.Lexeme.Literal
import Lexicon.Proofs.Scan.Segments

/-! Which sources are accepted.

Whether a source is accepted is seen from its characters, without its tokens. Outside string
literals each character has to be a space or one of those that lexemes are made of, and a quotation
mark has to open a literal. Else the scan fails at the first character that offends
(`tokenize_offending`).
-/

set_option autoImplicit false

namespace Lexicon

open Text Vocabulary

def symbols : List Char :=
  [':', '(', ')', '[', ']', '-', '!', '*', '/', '%', '+', '>', '<', '=', ',', '.']

/-- A character of words, numbers, operators and brackets. -/
def isOrdinary (c : Char) : Bool := c.isAlphanum || c == '_' || symbols.contains c

/-- The character between `front` and `rest` stands outside all literals of a text. A literal opens
at the first quotation mark that is outside the literals before and that another mark follows. -/
inductive Exposed : List Char → List Char → Char → List Char → Prop where
  | here {c : Char} {rest : List Char} : (c = '"' → '"' ∉ rest) → Exposed (c :: rest) [] c rest
  | plain {text front rest : List Char} {c d : Char} :
      (d = '"' → '"' ∉ text) → Exposed text front c rest → Exposed (d :: text) (d :: front) c rest
  | literal {text body tail front rest : List Char} {c : Char} :
      text = inMarks body ++ tail → Literal body tail → Exposed tail front c rest →
      Exposed text (inMarks body ++ front) c rest

/-- A character outside all literals that no lexeme has, or a mark that no mark follows. -/
def Offending (text front : List Char) (c : Char) (rest : List Char) : Prop :=
  Exposed text front c rest ∧
    (c = '"' ∧ '"' ∉ rest ∨ ¬ IsSpace c ∧ isOrdinary c = false)

section Offending

variable {text word body tail front rest : List Char} {c : Char}

theorem Exposed.split (exposed : Exposed text front c rest) : text = front ++ c :: rest := by
  induction exposed with
  | here => rfl
  | plain closed later ih => rw [ih, List.cons_append]
  | literal whole literal later ih => rw [whole, ih, List.append_assoc]

theorem not_offending_nil : ¬ Offending [] front c rest := by
  rintro ⟨exposed, -⟩
  have whole := exposed.split
  simp at whole

theorem offending_word (harmless : ∀ d ∈ word, IsSpace d ∨ isOrdinary d = true) :
    Offending (word ++ tail) front c rest ↔
      ∃ later, front = word ++ later ∧ Offending tail later c rest := by
  induction word generalizing front with
  | nil => simp
  | cons d word ih =>
    have own := harmless d List.mem_cons_self
    have unquoted : d ≠ '"' := by
      rintro rfl
      exact own.elim mark_not_space (by decide)
    have step := fun front => @ih front fun e member => harmless e (List.mem_cons_of_mem d member)
    constructor
    · rintro ⟨exposed, reason⟩
      cases exposed with
      | here =>
        rcases reason with ⟨mark, -⟩ | ⟨solid, strange⟩
        · exact absurd mark unquoted
        · rw [strange] at own
          exact absurd own (by simp [solid])
      | plain closed later =>
        obtain ⟨more, rfl, offending⟩ := (step _).mp ⟨later, reason⟩
        exact ⟨more, rfl, offending⟩
      | literal whole => exact absurd (List.cons.inj whole).1 unquoted
    · rintro ⟨later, rfl, offending⟩
      obtain ⟨exposed, reason⟩ := (step _).mpr ⟨later, rfl, offending⟩
      exact ⟨.plain (fun mark => absurd mark unquoted) exposed, reason⟩

theorem offending_literal (literal : Literal body tail) :
    Offending (inMarks body ++ tail) front c rest ↔
      ∃ later, front = inMarks body ++ later ∧ Offending tail later c rest := by
  rw [inMarks_append]
  have mark : '"' ∈ body ++ '"' :: tail := by simp
  constructor
  · rintro ⟨exposed, reason⟩
    cases exposed with
    | here closed => exact absurd mark (closed rfl)
    | plain closed => exact absurd mark (closed rfl)
    | literal whole again later =>
      rw [inMarks_append] at whole
      obtain ⟨rfl, rfl⟩ := literal.unique again (List.cons.inj whole).2
      exact ⟨_, rfl, later, reason⟩
  · rintro ⟨later, rfl, exposed, reason⟩
    exact ⟨.literal (inMarks_append body tail).symm literal exposed, reason⟩

end Offending

/-! ### Lexemes -/

namespace Vocabulary

theorem ordinary_codes : ∀ row ∈ standardRows, row.role ≠ .whitespace →
    row.role ≠ .anythingElse → row.shape ≠ .quoted → ∀ range ∈ row.shape.members.cover,
      ∀ code ∈ List.range' range.1 (range.2 + 1 - range.1), isOrdinary (.ofNat code) = true := by
  decide +kernel

theorem lexeme_codes : ∀ code < 128, isOrdinary (.ofNat code) = true →
    ∃ row ∈ standardRows, row.role ≠ .anythingElse ∧
      row.shape.extent [.ofNat code] = some 1 := by
  decide +kernel

theorem Spells.ordinary {kind : Kind} {text : List Char} (spelled : Spells (.token kind) text)
    (other : kind ≠ .string) : ∀ c ∈ text, isOrdinary c = true := by
  obtain ⟨row, listed, role, shape, described⟩ := spelled.unquoted other
  intro c member
  obtain ⟨range, known, low, high⟩ := CharSet.cover_holds (Shape.mem_members described c member)
  have code : c.toNat ∈ List.range' range.1 (range.2 + 1 - range.1) := by
    rw [List.mem_range'_1]
    omega
  have ordinary := ordinary_codes row listed (by simp [role]) (by simp [role]) shape range known
    c.toNat code
  rwa [Char.ofNat_toNat] at ordinary

theorem symbols_ascii : ('_' :: symbols).all (·.toNat < 128) = true := by
  decide

theorem alphanum_ascii {c : Char} (named : c.isAlphanum = true) : c.toNat < 128 := by
  have parts : (c.isUpper || c.isLower || c.isDigit) = true := named
  rw [Bool.or_eq_true, Bool.or_eq_true] at parts
  rcases parts with (upper | lower) | digit
  · have bound : c.val ≤ 'Z'.val := (of_decide_eq_true upper).2
    exact Nat.lt_of_le_of_lt (UInt32.le_iff_toNat_le.mp bound) (by decide)
  · have bound : c.val ≤ 'z'.val := of_decide_eq_true (Bool.and_eq_true_iff.mp lower).2
    exact Nat.lt_of_le_of_lt (UInt32.le_iff_toNat_le.mp bound) (by decide)
  · exact Nat.lt_of_le_of_lt (Char.isDigit_iff_toNat.mp digit).2 (by decide)

theorem code_of_ordinary {c : Char} (ordinary : isOrdinary c = true) : c.toNat < 128 := by
  rw [isOrdinary, Bool.or_assoc, Bool.or_eq_true] at ordinary
  rcases ordinary with named | symbol
  · exact alphanum_ascii named
  · exact of_decide_eq_true (List.all_eq_true.mp symbols_ascii c (by simpa using symbol))

theorem isLexeme_of_ordinary {c : Char} (ordinary : isOrdinary c = true) : IsLexeme [c] := by
  have known := lexeme_codes c.toNat (code_of_ordinary ordinary)
  rw [Char.ofNat_toNat] at known
  obtain ⟨row, listed, lexical, extent⟩ := known ordinary
  obtain ⟨own, rest, split, size, described⟩ := Shape.extent_described extent
  obtain ⟨d, rfl⟩ := List.length_eq_one_iff.mp size
  obtain ⟨rfl, -⟩ := List.cons.inj split
  exact ⟨row.role, lexical, spells_iff.mpr ⟨row, listed, rfl, described none none⟩⟩

end Vocabulary

section Segments

variable {text front rest : List Char} {c : Char}

theorem offending_segment {segment : Segment} {later : List Char}
    (spelled : Spells segment.role segment.text)
    (longest : Longest (segment.text ++ later) segment.text)
    (lexical : segment.isLexical = true) :
    Offending (segment.text ++ later) front c rest ↔
      ∃ more, front = segment.text ++ more ∧ Offending later more c rest := by
  obtain ⟨role, lexeme⟩ := segment
  cases role with
  | anythingElse => cases lexical
  | whitespace =>
    exact offending_word fun d member => .inl ((spells_whitespace_iff.mp spelled).2 d member)
  | token kind =>
    by_cases string : kind = .string
    · subst string
      obtain ⟨body, rfl, literal⟩ := literal_of_longest longest spelled
      exact offending_literal literal
    · exact offending_word fun d member => .inr (Vocabulary.Spells.ordinary spelled string d member)

theorem offending_front {passed later : List Segment} (parts : segments text = passed ++ later)
    (lexical : ∀ segment ∈ passed, segment.isLexical = true) :
    Offending text front c rest ↔ ∃ more, front = passed.flatMap Segment.text ++ more ∧
      Offending (later.flatMap Segment.text) more c rest := by
  induction passed generalizing text front with
  | nil =>
    have whole := flatMap_segments text
    rw [parts, List.nil_append] at whole
    simp [whole]
  | cons segment passed ih =>
    obtain ⟨tail, rfl, others, first⟩ := segments_eq_cons parts
    obtain ⟨longest, spelled⟩ := first (lexical segment List.mem_cons_self)
    have step := fun front => @ih tail front others
      fun other member => lexical other (List.mem_cons_of_mem segment member)
    rw [offending_segment spelled longest (lexical segment List.mem_cons_self)]
    simp only [step, List.flatMap_cons, List.append_assoc]
    constructor
    · rintro ⟨_, rfl, more, rfl, offending⟩
      exact ⟨more, rfl, offending⟩
    · rintro ⟨more, rfl, offending⟩
      exact ⟨_, rfl, more, rfl, offending⟩

theorem offending_stuck {run : List Char} {later : List Segment}
    (parts : segments text = ⟨.anythingElse, run⟩ :: later) :
    ∃ c more, run = c :: more ∧
      Offending text [] c (more ++ later.flatMap Segment.text) := by
  obtain ⟨stuck, solid, -⟩ := stuck_of_segments parts
  have filled : run ≠ [] :=
    (spells_of_segment (parts ▸ List.mem_cons_self : ⟨.anythingElse, run⟩ ∈ segments text)).1
  obtain ⟨c, more, rfl⟩ := List.exists_cons_of_ne_nil filled
  have whole : c :: (more ++ later.flatMap Segment.text) = text := by
    simpa [parts] using flatMap_segments text
  refine ⟨c, more, rfl, ?_⟩
  generalize more ++ later.flatMap Segment.text = rest at whole ⊢
  subst whole
  refine ⟨.here ?_, ?_⟩
  · rintro rfl mark
    obtain ⟨body, tail, rfl, literal⟩ := exists_literal mark
    exact stuck (inMarks body) ⟨tail, inMarks_append body tail⟩ literal.longest.spelled
  · refine .inr ⟨solid c List.mem_cons_self, Bool.eq_false_iff.mpr fun ordinary => ?_⟩
    exact stuck [c] ⟨rest, rfl⟩ (Vocabulary.isLexeme_of_ordinary ordinary)

end Segments

/-! ### Scans -/

section Scans

variable {source : String} {passed : List Segment}

theorem accepted_of_lexical (parts : segments source.toList = passed)
    (lexical : ∀ segment ∈ passed, segment.isLexical = true) :
    (∃ tokens, tokenize source = .ok (.ok tokens)) ∧
      ∀ front c rest, ¬ Offending source.toList front c rest := by
  constructor
  · refine ⟨(Scan.ofSegments .first passed).tokens, ?_⟩
    rw [tokenize_eq, parts, Scan.result, Scan.failure_of_lexical lexical]
  · intro front c rest offending
    rw [← List.append_nil passed] at parts
    obtain ⟨more, _, inside⟩ := (offending_front parts lexical).mp offending
    exact not_offending_nil inside

theorem rejected_of_stuck {run : List Char} {later : List Segment}
    (parts : segments source.toList = passed ++ ⟨.anythingElse, run⟩ :: later)
    (lexical : ∀ segment ∈ passed, segment.isLexical = true) :
    ∃ front c more back, run = c :: more ∧ source.toList = front ++ (run ++ back) ∧
      Offending source.toList front c (more ++ back) ∧
      (∀ other d rest, Offending source.toList other d rest → width front ≤ width other) ∧
      (∀ d ∈ run, ¬ IsSpace d) ∧ (∀ d, back.head? = some d → IsSpace d) ∧
      tokenize source = .ok (.error ⟨.unexpectedSymbol (String.ofList run),
        ⟨width front, lineAt source.toList (width front)⟩⟩) := by
  have rest := segments_back parts
  obtain ⟨_, solid, stop⟩ := stuck_of_segments rest
  obtain ⟨c, more, filled, offending⟩ := offending_stuck rest
  have whole : passed.flatMap Segment.text ++ (run ++ later.flatMap Segment.text) =
      source.toList := by simpa [parts] using flatMap_segments source.toList
  refine ⟨passed.flatMap Segment.text, c, more, later.flatMap Segment.text, filled, whole.symm,
    (offending_front parts lexical).mpr ⟨[], (List.append_nil _).symm, offending⟩, ?_, solid,
    stop, tokenize_of_stuck parts lexical⟩
  intro other d rest offends
  obtain ⟨further, rfl, _⟩ := (offending_front parts lexical).mp offends
  rw [width_append]
  exact Nat.le_add_right _ _

end Scans

/-- A source is accepted unless a character outside its literals is none of a lexeme or is a mark
that no mark follows. The first such character is where the scan fails, and what is reported goes up
to the next space. Literals are what the pattern of strings takes. -/
theorem tokenize_offending (source : String) :
    (∃ entry ∈ standardEntries, entry.role = .token .string ∧
      ∃ pattern, Pattern.ofString entry.pattern = .ok pattern ∧
        ∀ before body tail, Literal body tail ↔
          pattern.matchHere? before (inMarks body ++ tail) = some ⟨(inMarks body).length, []⟩) ∧
    ((∃ tokens, tokenize source = .ok (.ok tokens)) ↔
      ∀ front c rest, ¬ Offending source.toList front c rest) ∧
    ((∃ front c rest, Offending source.toList front c rest) →
      ∃ front c more back, source.toList = front ++ (c :: more ++ back) ∧
        Offending source.toList front c (more ++ back) ∧
        (∀ other d rest, Offending source.toList other d rest → width front ≤ width other) ∧
        (∀ d ∈ c :: more, ¬ IsSpace d) ∧ (∀ d, back.head? = some d → IsSpace d) ∧
        tokenize source = .ok (.error ⟨.unexpectedSymbol (String.ofList (c :: more)),
          ⟨width front, lineAt source.toList (width front)⟩⟩) ∧
        (Cause.unexpectedSymbol (String.ofList (c :: more))).className = "Lexical") := by
  constructor
  · have listed : ⟨.token .string, .quoted⟩ ∈ standardRows := by decide
    obtain ⟨entry, member, role, read⟩ := entry_of_row listed
    exact ⟨entry, member, role, _, read, fun before body tail => Literal.iff_matchHere? before⟩
  obtain ⟨passed, later, parts, lexical, stop⟩ := Scan.lexical_split (segments source.toList)
  rcases stop with rfl | ⟨run, behind, rfl⟩
  · rw [List.append_nil] at parts
    obtain ⟨accepted, none⟩ := accepted_of_lexical parts lexical
    refine ⟨⟨fun _ => none, fun _ => accepted⟩, ?_⟩
    rintro ⟨front, c, rest, offending⟩
    exact absurd offending (none front c rest)
  · obtain ⟨front, c, more, back, rfl, split, offending, first, solid, ends, failed⟩ :=
      rejected_of_stuck parts lexical
    refine ⟨⟨?_, fun none => absurd offending (none front c _)⟩,
      fun _ => ⟨front, c, more, back, split, offending, first, solid, ends, failed, rfl⟩⟩
    rintro ⟨tokens, accepted⟩
    rw [failed] at accepted
    cases accepted

end Lexicon
