import Lexicon.Proofs.Diagnostic.Located

/-! Carets and what stands above them.

The caret of a diagnostic stands under the first character that a scan of the language does not
expect (`render_points`). One character is an exception: the next line control is no space to a
scan, but where nothing but white space is behind it, the end of the excerpt is cut off with it.
-/

set_option autoImplicit false

namespace Lexicon

open Text Vocabulary

/-! ### Characters that are blank and no space, and that are indentation -/

namespace Vocabulary

theorem isSpace_newline : IsSpace '\n' := isSpace_iff.mpr (by decide)

theorem isIndent_of_not_isSpace {c : Char} (solid : ¬ IsSpace c) :
    Diagnostic.isIndent c = false := by
  have others : c ≠ ' ' ∧ c ≠ '\t' :=
    ⟨fun same => solid (isSpace_iff.mpr (same ▸ by decide)),
      fun same => solid (isSpace_iff.mpr (same ▸ by decide))⟩
  simp [Diagnostic.isIndent, others]

theorem eq_of_isBlank {c : Char} (blank : isBlank c = true) (solid : ¬ IsSpace c) :
    c = '\u0085' := by
  rw [isSpace_iff] at solid
  simp [spacing, CharSet.gathered, Char.le_def, UInt32.le_iff_toNat_le] at solid
  simp [isBlank, blankCodes] at blank
  have code : c.toNat = 0x85 := by omega
  exact Char.toNat_inj.mp code

end Vocabulary

namespace Diagnostic

section Columns

variable {number place shift : Nat}

theorem getElem?_concat_iff {left : List Char} {c : Char} (new : c ∉ left) :
    (left ++ [c])[place]? = some c ↔ place = left.length := by
  constructor
  · intro found
    rcases Nat.lt_trichotomy place left.length with before | same | behind
    · rw [List.getElem?_append_left before] at found
      exact absurd (List.mem_of_getElem? found) new
    · exact same
    · rw [List.getElem?_eq_none (by rw [List.length_append]; exact behind)] at found
      cases found
  · rintro rfl
    exact List.getElem?_concat_length

theorem getElem?_caretLine : (caretLine number (shift + 1))[place]? = some '^' ↔
    place = (gutter number).length + 1 + shift := by
  have line : caretLine number (shift + 1) =
      gutter number ++ ' ' :: List.replicate shift '-' ++ ['^'] := by
    simp [caretLine]
  have new : '^' ∉ gutter number ++ ' ' :: List.replicate shift '-' := by
    simp [gutter]
  rw [line, getElem?_concat_iff new]
  simp only [List.length_append, List.length_cons, List.length_replicate]
  omega

theorem length_gutter (number : Nat) :
    (gutter number).length + 1 = ((toString number).toList ++ [' ', '|', ' ']).length := by
  simp only [gutter, List.length_append, List.length_replicate, List.length_cons, List.length_nil,
    String.length_toList]

theorem getElem?_numbered (number : Nat) (shown : List Char) (shift : Nat) :
    (numbered number shown)[(gutter number).length + 1 + shift]? = shown[shift]? := by
  rw [numbered, ← List.append_assoc, length_gutter,
    List.getElem?_append_right (Nat.le_add_right _ _), Nat.add_sub_cancel_left]

end Columns

/-! ### Lines without newlines -/

theorem not_mem_toString {c : Char} (other : c.isDigit = false) (number : Nat) :
    c ∉ (toString number).toList := by
  intro member
  rw [Nat.toString_eq_repr, Nat.toList_repr] at member
  have digit := Nat.isDigit_of_mem_toDigits (by decide) (by decide) member
  exact Bool.false_ne_true (other.symm.trans digit)

theorem newline_not_mem_toString (number : Nat) : '\n' ∉ (toString number).toList :=
  not_mem_toString rfl number

theorem newline_not_mem_gutter (number : Nat) : '\n' ∉ gutter number := by
  simp [gutter]

theorem newline_not_mem_caretLine (number caret : Nat) : '\n' ∉ caretLine number caret := by
  simp [caretLine, newline_not_mem_gutter]

theorem newline_not_mem_numbered {number : Nat} {shown : List Char} (unbroken : '\n' ∉ shown) :
    '\n' ∉ numbered number shown := by
  rw [numbered, List.mem_append, List.mem_append, not_or, not_or]
  exact ⟨newline_not_mem_toString number, by decide, unbroken⟩

theorem mem_of_mem_excerpt {c : Char} {text : List Char}
    (member : c ∈ trimEnd (text.dropWhile isIndent)) : c ∈ text :=
  (List.dropWhile_suffix isIndent).subset ((trimEnd_begins _).subset member)

theorem newline_not_mem_excerptText {line : SourceLine} {source before after : List Char}
    {offset : Nat} (stands : line.Stands source offset before after) :
    '\n' ∉ excerptText line := by
  obtain ⟨body, unbroken, ending⟩ := stands.ends
  rcases ending with text | ⟨text, -⟩
  · have shown := excerptText_of_cut text rfl
    rw [if_pos (by decide)] at shown
    rw [shown]
    exact fun member => unbroken (mem_of_mem_excerpt member)
  · rw [excerptText, text]
    exact fun member => unbroken (mem_of_mem_excerpt member)

theorem newline_not_mem_headline {failure : Failure} {run : List Char}
    (cause : failure.cause = .unexpectedSymbol (String.ofList run)) (unbroken : '\n' ∉ run) :
    '\n' ∉ headline failure := by
  have tip : failure.tip? = some ("Unexpected symbol: `" ++ String.ofList run ++ "` at line " ++
      toString failure.position.line) := by
    rw [Failure.tip?, cause]
  have digits := newline_not_mem_toString failure.position.line
  rw [headline, tip, cause]
  simp only [Cause.name, String.toList_append, String.toList_ofList, List.mem_append, not_or]
  exact ⟨⟨by decide, by decide⟩, ⟨by decide, ⟨⟨by decide, unbroken⟩, by decide⟩, digits⟩, by decide⟩

/-! ### The offender -/

/-- A failure at a text that is not expected: `lead` stands in front of it in its line, and
`before` in front of the line. -/
structure Offends (source before lead run back : List Char) (failure : Failure) : Prop
    extends Unexpected source (before ++ lead) run back failure where
  starts : before = [] ∨ before.getLast? = some '\n'
  unbroken : '\n' ∉ lead

theorem Offends.of_first_line {source before lead run back front rest : List Char}
    {failure : Failure} (offends : Offends source before lead run back failure)
    (split : source = front ++ rest) (place : failure.position.offset = width front)
    (unbroken : '\n' ∉ front) : before = [] ∧ lead = front := by
  have offset : failure.position.offset = width (before ++ lead) := by
    rw [offends.position]
    exact Nat.zero_add _
  obtain ⟨whole, -⟩ := append_inj_of_width (offends.split.symm.trans split)
    (offset.symm.trans place)
  rcases offends.starts with empty | newline
  · exact ⟨empty, by rw [← whole, empty, List.nil_append]⟩
  · rw [← whole, List.mem_append, not_or] at unbroken
    exact absurd (List.mem_of_getLast? newline) unbroken.1

section Offender

variable {source file : String} {failure : Failure} {line : SourceLine}
  {before lead run back rest after : List Char} {c : Char}

theorem exists_offends (failed : tokenize source = .ok (.error failure)) :
    ∃ before lead c run back line rest after,
      Offends source.toList before lead (c :: run) back failure ∧
      line? failure source = some line ∧
      line.Stands source.toList failure.position.offset before after ∧
      line.text = lead ++ c :: rest ∧ run ++ back = rest ++ after ∧ width lead = line.column := by
  obtain ⟨front, run, back, unexpected⟩ := unexpected_of_failure failed
  obtain ⟨c, run, rfl⟩ := List.exists_cons_of_ne_nil unexpected.filled
  obtain ⟨line, before, lead, tail, after, found, stands, -, rfl, text, behind, column, filled⟩ :=
    exists_line unexpected.split unexpected.position (by simp)
  obtain ⟨d, rest, rfl⟩ := List.exists_cons_of_ne_nil filled
  obtain ⟨rfl, same⟩ := List.cons.inj behind
  exact ⟨before, lead, c, run, back, line, rest, after,
    ⟨unexpected, stands.starts, (stands.newline_last text filled).1⟩, found, stands, text, same,
    column⟩

theorem render_of_offender (file : String) (found : line? failure source = some line)
    (text : line.text = lead ++ c :: rest) (column : width lead = line.column)
    (solid : ¬ IsSpace c) :
    let caret := (lead.dropWhile isIndent).length + 1
    if caretLimit < caret then render failure source file = .error (.caretTooFar caret)
    else ∃ text, render failure source file = .ok text ∧
      text.toList = written (linesAt failure file line caret) := by
  have outcome := render_of_cut file found text column
  rw [length_lead text (isIndent_of_not_isSpace solid)] at outcome
  exact outcome

theorem newline_not_mem_linesAt {offset : Nat} (caret : Nat)
    (stands : line.Stands source.toList offset before after)
    (cause : failure.cause = .unexpectedSymbol (String.ofList run)) (solid : ∀ d ∈ run, ¬ IsSpace d)
    (named : '\n' ∉ file.toList) : ∀ one ∈ linesAt failure file line caret, '\n' ∉ one := by
  simp only [linesAt, List.forall_mem_cons]
  exact ⟨newline_not_mem_headline cause fun member => solid _ member isSpace_newline,
    by simp [named], newline_not_mem_gutter _,
    newline_not_mem_numbered (newline_not_mem_excerptText stands),
    newline_not_mem_caretLine _ _, by simp⟩

theorem all_blank_rest {offset : Nat} (stands : line.Stands source.toList offset before after)
    (text : line.text = lead ++ c :: rest) :
    (c :: rest).all isBlank = ((c :: rest ++ after).takeWhile (· != '\n')).all isBlank := by
  obtain ⟨-, part, unbroken, ending⟩ := stands.newline_last text (List.cons_ne_nil c rest)
  have kept : ∀ d ∈ part, (d != '\n') = true :=
    fun d member => bne_iff_ne.mpr fun same => unbroken (same ▸ member)
  rcases ending with tail | ⟨tail, rfl⟩
  · rw [tail, List.append_assoc, List.takeWhile_append_of_pos kept]
    have newline : isBlank '\n' = true := by decide
    simp [newline]
  · rw [tail, List.append_nil, List.takeWhile_eq_self_iff.mpr kept]

end Offender

end Diagnostic

open Diagnostic in
/-- A diagnostic ends with two lines, and where the second one has its caret, the first one has the
first character that is not expected. The exception is a next line control with nothing but white
space behind it: the excerpt ends before it. -/
theorem render_points {source file text : String} {failure : Failure}
    (failed : tokenize source = .ok (.error failure)) (named : '\n' ∉ file.toList)
    (rendered : render failure source file = .ok text) :
    ∃ (before lead run back excerpt pointer : List Char) (c : Char) (shown : List (List Char))
        (column : Nat),
      Offends source.toList before lead (c :: run) back failure ∧
      text.toList = written (shown ++ [excerpt, pointer]) ∧
      (∀ one ∈ shown ++ [excerpt, pointer], '\n' ∉ one) ∧
      (∀ place, pointer[place]? = some '^' ↔ place = column) ∧
      if ((c :: run ++ back).takeWhile (· != '\n')).all isBlank = true then
        c = '\u0085' ∧ excerpt[column]? = none
      else excerpt[column]? = some c := by
  obtain ⟨before, lead, c, run, back, line, rest, after, offends, found, stands, text, same,
    column⟩ := exists_offends failed
  have solid : ¬ IsSpace c := offends.solid c List.mem_cons_self
  have outcome := render_of_offender file found text column solid
  dsimp only at outcome
  by_cases far : caretLimit < (lead.dropWhile isIndent).length + 1
  · rw [if_pos far] at outcome
    cases rendered.symm.trans outcome
  rw [if_neg far] at outcome
  obtain ⟨shown, outcome, lines⟩ := outcome
  cases rendered.symm.trans outcome
  refine ⟨before, lead, run, back, _, _, c, [_, _, _], _, offends, lines,
    newline_not_mem_linesAt _ stands offends.cause offends.solid named,
    fun place => getElem?_caretLine, ?_⟩
  have excerpt := excerptText_of_cut text (isIndent_of_not_isSpace solid)
  rw [getElem?_numbered, List.cons_append, same, ← List.cons_append, ← all_blank_rest stands text]
  by_cases blank : (c :: rest).all isBlank = true
  · rw [if_pos blank] at excerpt ⊢
    refine ⟨eq_of_isBlank (List.all_eq_true.mp blank c List.mem_cons_self) solid, ?_⟩
    rw [excerpt]
    exact List.getElem?_eq_none (trimEnd_begins _).length_le
  · rw [if_neg blank] at excerpt ⊢
    obtain ⟨more, excerpt⟩ := excerpt
    rw [excerpt]
    simp

open Diagnostic in
theorem render_points_indented :
    tokenize "x\n\t1 @2" = .ok (.error ⟨.unexpectedSymbol "@2", ⟨5, 2⟩⟩) ∧
      ∃ (text : String) (shown : List (List Char)) (excerpt pointer : List Char) (column : Nat),
        render ⟨.unexpectedSymbol "@2", ⟨5, 2⟩⟩ "x\n\t1 @2" "f" = .ok text ∧
        text.toList = written (shown ++ [excerpt, pointer]) ∧
        (∀ place, pointer[place]? = some '^' ↔ place = column) ∧ excerpt[column]? = some '@' := by
  have scanned : ofStandardRows.scan "x\n\t1 @2" =
      .ok ⟨[⟨.identifier, "x", 1⟩, ⟨.number, "1", 2⟩],
        some ⟨.unexpectedSymbol "@2", ⟨5, 2⟩⟩⟩ := by
    decide +kernel
  have failed : tokenize "x\n\t1 @2" = .ok (.error ⟨.unexpectedSymbol "@2", ⟨5, 2⟩⟩) := by
    rw [tokenize, scan_of_standard standard_eq, scanned]
    rfl
  have rendered : render ⟨.unexpectedSymbol "@2", ⟨5, 2⟩⟩ "x\n\t1 @2" "f" =
      .ok ("Error: UnexpectedSymbol (Unexpected symbol: `@2` at line 2)\n-> f\n" ++
        "  |\n2 | 1 @2\n  | --^\n") := by
    decide +kernel
  obtain ⟨before, lead, run, back, excerpt, pointer, c, shown, column, offends, lines, -, caret,
    above⟩ := render_points failed (by decide) rendered
  have own : c = '@' := by
    have same : ['@', '2'] = c :: run :=
      (congrArg String.toList (Cause.unexpectedSymbol.inj offends.cause)).trans
        String.toList_ofList
    exact (List.cons.inj same).1.symm
  subst own
  have seen : ¬ (('@' :: run ++ back).takeWhile (· != '\n')).all isBlank = true := by
    intro blank
    have first := List.all_eq_true.mp blank '@' (by simp)
    cases first
  rw [if_neg seen] at above
  exact ⟨failed, _, shown, excerpt, pointer, column, rendered, lines, caret, above⟩

open Diagnostic in
/-- Nothing stands above the caret of a next line control at the end of its line. -/
theorem render_points_nowhere :
    tokenize "\u0085" = .ok (.error ⟨.unexpectedSymbol "\u0085", ⟨0, 1⟩⟩) ∧
      ∃ text shown, render ⟨.unexpectedSymbol "\u0085", ⟨0, 1⟩⟩ "\u0085" "f" = .ok text ∧
        text.toList = written (shown ++ ["1 | ".toList, "  | ^".toList]) ∧
        "  | ^".toList[4]? = some '^' ∧ "1 | ".toList[4]? = none := by
  have scanned : ofStandardRows.scan "\u0085" =
      .ok ⟨[], some ⟨.unexpectedSymbol "\u0085", ⟨0, 1⟩⟩⟩ := by
    decide +kernel
  have failed : tokenize "\u0085" = .ok (.error ⟨.unexpectedSymbol "\u0085", ⟨0, 1⟩⟩) := by
    rw [tokenize, scan_of_standard standard_eq, scanned]
    rfl
  have found : line? ⟨.unexpectedSymbol "\u0085", ⟨0, 1⟩⟩ "\u0085" = some ⟨1, ['\u0085'], 0⟩ := by
    decide +kernel
  have aligned : caretColumn ⟨1, ['\u0085'], 0⟩ = .ok 1 := by decide +kernel
  obtain ⟨text, rendered, lines⟩ := render_written "f" found aligned
  exact ⟨failed, text, [_, _, _], rendered, lines, by decide, by decide⟩

end Lexicon
