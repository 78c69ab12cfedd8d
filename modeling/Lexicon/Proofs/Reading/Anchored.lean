import Lexicon.Proofs.Pattern.Completeness
import Lexicon.Proofs.Reading.Group

/-! A pattern that has to match a whole text.

The text of a pattern is put into a plain group, between the start and the end of a text. Main
statements: what is read from that is the pattern of the text alone, between these two assertions
(`ofChars_anchored`), and it occurs in a text exactly if the text is one that the pattern describes
(`occursIn_anchored`).
-/

set_option autoImplicit false

namespace Lexicon.Pattern

namespace Reader

/-! ### Comments that stay open -/

theorem step_comment {reader settled next : Reader} {c : Char} (inside : reader.comment = true)
    (settles : reader.Settles settled) (goesOn : c ≠ '\n') (read : reader.step c = .ok next) :
    next.comment = true ∧ next.outer = reader.outer ∧ ∃ settled, next.Settles settled := by
  have still : (c != '\n') = true := bne_iff_ne.mpr goesOn
  cases settles with
  | items mode =>
    simp only [step, inside, overlook?, mode, true_or, if_true] at read
    cases read
    exact ⟨still, rfl, _, .items mode⟩
  | @repeating body count braced settled mode pushed =>
    simp only [step, inside, overlook?, mode, true_or, if_true, pushed] at read
    obtain ⟨room, rfl⟩ := pushRepeated_ok pushed
    cases braced with
    | true =>
      cases read
      exact ⟨still, rfl, _, .repeating mode (if_neg room)⟩
    | false =>
      cases read
      exact ⟨still, rfl, _, .items rfl⟩
  | edge mode =>
    simp only [step, inside, overlook?, mode, true_or, if_true] at read
    cases read
    exact ⟨still, rfl, _, .items rfl⟩

theorem foldlM_comment {reader settled next : Reader} {text : List Char}
    (inside : reader.comment = true) (settles : reader.Settles settled) (oneLine : '\n' ∉ text)
    (read : text.foldlM step reader = .ok next) : next.outer = reader.outer := by
  induction text generalizing reader settled with
  | nil =>
    cases read
    rfl
  | cons c rest ih =>
    rw [List.foldlM_cons] at read
    obtain ⟨second, readFirst, read⟩ := bind_ok read
    rw [List.mem_cons, not_or] at oneLine
    obtain ⟨still, outer, later, settles⟩ :=
      step_comment inside settles (Ne.symm oneLine.1) readFirst
    rw [← outer]
    exact ih still settles oneLine.2 read

/-! ### The text between its edges -/

def anchored : Reader :=
  start.inside [(.plain, Level.push (.opened .start) (.ofAssertion .textStart))] []

theorem foldlM_anchored : "^(?:".toList.foldlM step start = .ok anchored := rfl

end Reader

/-- A text between the edges of a text is read as the pattern that it has alone. -/
theorem ofChars_anchored {text : List Char} {pattern whole : Pattern}
    (alone : ofChars text = .ok pattern)
    (read : ofChars ("^(?:".toList ++ text ++ ")$".toList) = .ok whole) :
    whole = .cat (.look .textStart) (.cat pattern (.look .textEnd)) := by
  obtain ⟨last, piece, folded, finished, rfl⟩ := ofChars_ok alone
  obtain ⟨final, total, foldedWhole, finishedWhole, rfl⟩ := ofChars_ok read
  rw [List.append_assoc, List.foldlM_append, Reader.foldlM_anchored] at foldedWhole
  change (text ++ ")$".toList).foldlM Reader.step Reader.anchored = .ok final at foldedWhole
  cases outside : last.comment with
  | false =>
    rw [show ")$".toList = [')'] ++ ['$'] from rfl, ← List.append_assoc, List.foldlM_append]
      at foldedWhole
    obtain ⟨closed, readBody, readEnd⟩ := bind_ok foldedWhole
    obtain ⟨-, -, rfl⟩ := Reader.foldlM_body .nil folded outside finished readBody
    cases readEnd
    cases finishedWhole
    rfl
  | true =>
    rw [List.foldlM_append] at foldedWhole
    obtain ⟨nested, readBody, readEnd⟩ := bind_ok foldedWhole
    have started : Reader.Alike _ [] false Reader.start Reader.anchored :=
      ⟨rfl, Reader.known_start, .nil, rfl⟩
    have same := started.foldlM text last nested folded readBody
    obtain ⟨settled, settles, -⟩ := Reader.settles_of_finish finished
    obtain ⟨second, settlesNested, -⟩ := same.settles settles
    have inside : nested.comment = true := same.comment_same.trans outside
    have opened := Reader.foldlM_comment inside settlesNested (by decide) readEnd
    obtain ⟨_, settlesWhole, ends⟩ := Reader.settles_of_finish finishedWhole
    obtain ⟨none, -⟩ := Reader.ended_ok ends
    rw [settlesWhole.around_eq.1, opened, same.nested_eq] at none
    exact absurd none (List.append_ne_nil_of_right_ne_nil _ (List.cons_ne_nil _ _))

theorem describes_anchored {pattern : Pattern} {before after : Option Char} {text : List Char} :
    (cat (look .textStart) (cat pattern (look .textEnd))).Describes before text after ↔
      before = none ∧ after = none ∧ pattern.Describes before text after := by
  simp only [describes_cat]
  constructor
  · rintro ⟨_, _, rfl, starts, left, _, rfl, own, ends⟩
    cases starts with
    | look first =>
      cases ends with
      | look last =>
        rw [List.nil_append, List.append_nil]
        exact ⟨Option.isNone_iff_eq_none.mp first, Option.isNone_iff_eq_none.mp last, own⟩
  · rintro ⟨rfl, rfl, own⟩
    exact ⟨[], text, rfl, .look rfl, text, [], (List.append_nil _).symm, own, .look rfl⟩

theorem occursIn_anchored {pattern : Pattern} {text : List Char} :
    (cat (look .textStart) (cat pattern (look .textEnd))).occursIn text ↔
      pattern.Describes none text none := by
  simp only [occursIn_iff, describes_anchored, List.getLast?_eq_none_iff, List.head?_eq_none_iff]
  constructor
  · rintro ⟨_, part, _, rfl, rfl, rfl, own⟩
    simpa using own
  · intro own
    exact ⟨[], text, [], by simp, rfl, rfl, own⟩

end Lexicon.Pattern
