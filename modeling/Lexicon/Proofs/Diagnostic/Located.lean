import Lexicon.Proofs.Diagnostic.Excerpt
import Lexicon.Proofs.Scan.Failing

/-! The place of a failure and the line in its diagnostic.

A scan counts lines as it goes, and a diagnostic cuts its source into lines. Both count the newlines
before the offset, so they name the same line, and the offset never is inside a character of it
(`failure_located`). The line is shown unless there is no room for the caret.
-/

set_option autoImplicit false

namespace Lexicon

open Text

theorem Position.isNull_behind (front : List Char) : (first.behind front).isNull = false := by
  simp [isNull, behind, first]

namespace Diagnostic

variable {failure : Failure} {source : String} {line : SourceLine} {front back : List Char}

theorem line?_of_tied (tied : failure.position.isNull = false) :
    line? failure source = SourceLine.at? source.toList failure.position.offset := by
  rw [line?, tied, if_neg Bool.false_ne_true]

theorem line?_of_behind (place : failure.position = Position.first.behind front) :
    line? failure source = SourceLine.at? source.toList failure.position.offset :=
  line?_of_tied (place ▸ Position.isNull_behind front)

theorem exists_line (split : source.toList = front ++ back)
    (place : failure.position = Position.first.behind front) (filled : back ≠ []) :
    ∃ line before lead tail after, line? failure source = some line ∧
      line.Stands source.toList failure.position.offset before after ∧
      line.number = failure.position.line ∧ front = before ++ lead ∧
      line.text = lead ++ tail ∧ back = tail ++ after ∧ width lead = line.column ∧ tail ≠ [] := by
  have known := Position.first_behind front back
  rw [← split, ← place] at known
  have offset : failure.position.offset = width front := congrArg Position.offset known
  have inside : failure.position.offset < width source.toList := by
    have size := width_pos filled
    rw [offset, split, width_append]
    omega
  obtain ⟨line, before, after, found, stands⟩ := SourceLine.exists_at? inside
  obtain ⟨lead, tail, cut⟩ := stands.cut split offset
  refine ⟨line, before, lead, tail, after, (line?_of_behind place).trans found, stands, ?_, cut⟩
  rw [stands.number_eq, offset]
  exact (congrArg Position.line known).symm

theorem render_of_cut (file : String) {lead tail : List Char}
    (found : line? failure source = some line) (text : line.text = lead ++ tail)
    (place : width lead = line.column) :
    let caret := lead.length - (line.text.takeWhile isIndent).length + 1
    if caretLimit < caret then render failure source file = .error (.caretTooFar caret)
    else ∃ text, render failure source file = .ok text ∧
      text.toList = written (linesAt failure file line caret) := by
  dsimp only
  by_cases far : caretLimit < lead.length - (line.text.takeWhile isIndent).length + 1
  · rw [if_pos far]
    exact render_of_far file found text place far
  · rw [if_neg far]
    exact render_of_near file found text place (Nat.not_lt.mp far)

end Diagnostic

/-- The offset of a failure is at the border of two characters. If it is not the end of the source,
the line whose number the failure states is shown, unless the caret is too far to the right in it. -/
theorem failure_located {vocabulary : Vocabulary} {source : String} {failure : Failure}
    (failed : (vocabulary.scan source).map Scan.result = .ok (.error failure)) :
    let place := failure.position
    (∃ front back, source.toList = front ++ back ∧ place.offset = width front) ∧
      place.offset ≤ source.utf8ByteSize ∧ place.isNull = false ∧
      failure.message = "line " ++ toString place.line ++ ": " ++ failure.cause.message ∧
      (∀ text, failure.cause = .unexpectedSymbol text → failure.tip? =
        some ("Unexpected symbol: `" ++ text ++ "` at line " ++ toString place.line)) ∧
      (place.offset < source.utf8ByteSize → ∃ line column,
        SourceLine.at? source.toList place.offset = some line ∧ line.number = place.line ∧
        charsBefore? line.column line.text = some column ∧
        let caret := column - (line.text.takeWhile Diagnostic.isIndent).length + 1
        ∀ file,
          if Diagnostic.caretLimit < caret then
            Diagnostic.render failure source file = .error (.caretTooFar caret)
          else ∃ text, Diagnostic.render failure source file = .ok text ∧
            text.toList = Diagnostic.written (Diagnostic.linesAt failure file line caret)) ∧
      (Vocabulary.standard = .ok vocabulary → place.offset < source.utf8ByteSize) := by
  obtain ⟨front, back, split, place⟩ := Vocabulary.position_of_failure failed
  have offset : failure.position.offset = width front :=
    (congrArg Position.offset place).trans (Nat.zero_add _)
  have size : source.utf8ByteSize = width front + width back := by
    rw [← width_toList, split, width_append]
  have tied : failure.position.isNull = false := place ▸ Position.isNull_behind front
  refine ⟨⟨front, back, split, offset⟩, by omega, tied, ?_, ?_, ?_, ?_⟩
  · rw [Failure.message, tied, if_neg Bool.false_ne_true]
  · intro text cause
    rw [Failure.tip?, cause]
  · intro inside
    have filled : back ≠ [] := by
      rintro rfl
      rw [width_nil] at size
      omega
    obtain ⟨line, before, lead, tail, after, found, stands, number, -, text, -, column, -⟩ :=
      Diagnostic.exists_line split place filled
    refine ⟨line, lead.length, (Diagnostic.line?_of_behind place).symm.trans found, number, ?_,
      fun file => Diagnostic.render_of_cut file found text column⟩
    rw [text, ← column, charsBefore?_width]
  · -- Something that is not expected stands behind the place.
    intro standard
    have told : tokenize source = .ok (.error failure) := by
      rw [tokenize, scan_of_standard standard, failed]
    obtain ⟨passed, run, rest, unexpected⟩ := unexpected_of_failure told
    have filled := width_pos unexpected.filled
    have same : width front = width passed := by
      have places := place.symm.trans unexpected.position
      simpa [Position.behind] using congrArg Position.offset places
    rw [← width_toList, unexpected.split, width_append, width_append]
    omega

open Diagnostic in
theorem failure_located_below :
    (Vocabulary.ofStandardRows.scan "x\n \u20AC").map Scan.result =
        .ok (.error ⟨.unexpectedSymbol "\u20AC", ⟨3, 2⟩⟩) ∧
      3 < "x\n \u20AC".utf8ByteSize ∧
      SourceLine.at? "x\n \u20AC".toList 3 = some ⟨2, [' ', '\u20AC'], 1⟩ ∧
      render ⟨.unexpectedSymbol "\u20AC", ⟨3, 2⟩⟩ "x\n \u20AC" "f" =
        .ok ("Error: UnexpectedSymbol (Unexpected symbol: `\u20AC` at line 2)\n-> f\n" ++
          "  |\n2 | \u20AC\n  | ^\n") := by
  have scanned : Vocabulary.ofStandardRows.scan "x\n \u20AC" =
      .ok ⟨[⟨.identifier, "x", 1⟩], some ⟨.unexpectedSymbol "\u20AC", ⟨3, 2⟩⟩⟩ := by
    decide +kernel
  have failed : (Vocabulary.ofStandardRows.scan "x\n \u20AC").map Scan.result =
      .ok (.error ⟨.unexpectedSymbol "\u20AC", ⟨3, 2⟩⟩) := by
    rw [scanned]
    rfl
  have second : SourceLine.at? "x\n \u20AC".toList 3 = some ⟨2, [' ', '\u20AC'], 1⟩ := by
    decide +kernel
  obtain ⟨-, -, -, -, -, excerpted, standard⟩ := failure_located failed
  have inside := standard Vocabulary.standard_eq
  obtain ⟨line, column, found, -, cut, rendered⟩ := excerpted inside
  cases second.symm.trans found
  have one : charsBefore? 1 [' ', '\u20AC'] = some 1 := by decide +kernel
  cases one.symm.trans cut
  have near := rendered "f"
  rw [if_neg (by decide)] at near
  obtain ⟨text, rendered, lines⟩ := near
  have shown : written (linesAt ⟨.unexpectedSymbol "\u20AC", ⟨3, 2⟩⟩ "f" ⟨2, [' ', '\u20AC'], 1⟩ 1) =
      ("Error: UnexpectedSymbol (Unexpected symbol: `\u20AC` at line 2)\n-> f\n" ++
        "  |\n2 | \u20AC\n  | ^\n").toList := by
    decide +kernel
  refine ⟨failed, inside, second, rendered.trans (congrArg Except.ok ?_)⟩
  exact String.toList_inj.mp (lines.trans shown)

end Lexicon
