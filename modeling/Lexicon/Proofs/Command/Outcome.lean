import Lexicon.Command.Run
import Lexicon.Proofs.Diagnostic.Caret

/-! What the command answers to a file that it can read.

The answer follows the outcome of the scan (`answer_scan`): the tokens of a source without an
unexpected text, and else the diagnostic. There is no answer if the caret of the diagnostic is too
far to the right.
-/

set_option autoImplicit false

namespace Lexicon.Command

open Text Vocabulary Diagnostic

theorem listing_eq (tokens : List Token) :
    listing tokens = String.join (tokens.map fun token => token.display ++ "\n") := by
  rw [listing, String.join, List.foldl_map]
  simp only [String.append_assoc]

section Answers

variable {source : String} {failure : Failure}

theorem scanSource_eq {result : Except Failure (List Token)} (scanned : tokenize source = .ok result)
    (options : Options) : scanSource options source = report options source result := by
  rw [scanSource, scanned]
  rfl

theorem render_of_failure (failed : tokenize source = .ok (.error failure)) (file : String) :
    ∃ before lead run back, Offends source.toList before lead run back failure ∧
      let caret := (lead.dropWhile isIndent).length + 1
      if caretLimit < caret then render failure source file = .error (.caretTooFar caret)
      else ∃ line text, line? failure source = some line ∧ render failure source file = .ok text ∧
        text.toList = written (linesAt failure file line caret) := by
  obtain ⟨before, lead, c, run, back, line, rest, after, offends, found, -, text, -, column⟩ :=
    exists_offends failed
  have outcome :=
    render_of_offender file found text column (offends.solid c List.mem_cons_self)
  refine ⟨before, lead, c :: run, back, offends, ?_⟩
  dsimp only at outcome ⊢
  by_cases far : caretLimit < (lead.dropWhile isIndent).length + 1
  · rwa [if_pos far] at outcome ⊢
  · rw [if_neg far] at outcome ⊢
    obtain ⟨text, rendered, lines⟩ := outcome
    exact ⟨line, text, found, rendered, lines⟩

end Answers

/-- A source that can be read is answered with code 0 and its tokens if the scan accepts it, and
with code 1 and the complete diagnostic if it does not. No answer is given only if the unexpected
text stands too far behind the indentation of its line. -/
theorem answer_scan {arguments : List String} {options : Options} {source : String}
    {read : String → Except ReadFault String}
    (asked : Request.ofArguments arguments = .scan options)
    (content : read options.file = .ok source) :
    ∃ result, tokenize source = .ok result ∧
      match result with
      | .ok tokens => answer (.ofArguments arguments) read = .ok ⟨0,
          if options.countOnly then toString tokens.length ++ "\n"
          else String.join (tokens.map fun token => token.display ++ "\n"), ""⟩
      | .error failure => ∃ before lead run back,
          Offends source.toList before lead run back failure ∧
          let caret := (lead.dropWhile isIndent).length + 1
          if caretLimit < caret then
            answer (.ofArguments arguments) read = .error (.caretTooFar caret)
          else ∃ line text, line? failure source = some line ∧
            render failure source (baseName options.file) = .ok text ∧
            text.toList = written (linesAt failure (baseName options.file) line caret) ∧
            answer (.ofArguments arguments) read = .ok ⟨1, "", text⟩ := by
  have whole : answer (.ofArguments arguments) read = scanSource options source := by
    rw [asked, answer, content]
  have scanned := tokenize_eq source
  refine ⟨_, scanned, ?_⟩
  rw [whole, scanSource_eq scanned]
  generalize (Scan.ofSegments .first (segments source.toList)).result = result at scanned ⊢
  cases result with
  | ok tokens =>
    rw [report, success, listing_eq]
  | error failure =>
    obtain ⟨before, lead, run, back, offends, rendered⟩ :=
      render_of_failure scanned (baseName options.file)
    refine ⟨before, lead, run, back, offends, ?_⟩
    rw [report]
    dsimp only at rendered ⊢
    by_cases far : caretLimit < (lead.dropWhile isIndent).length + 1
    · rw [if_pos far] at rendered ⊢
      rw [rendered]
      rfl
    · rw [if_neg far] at rendered ⊢
      obtain ⟨line, text, found, rendered, lines⟩ := rendered
      refine ⟨line, text, found, rendered, lines, ?_⟩
      rw [rendered]
      rfl

theorem answer_scan_count :
    ∃ line text, line? ⟨.unexpectedSymbol "@", ⟨2, 1⟩⟩ "x @" = some line ∧
      text.toList = written (linesAt ⟨.unexpectedSymbol "@", ⟨2, 1⟩⟩ (baseName "d/f.l1") line 3) ∧
      answer (.ofArguments ["--count", "d/f.l1"]) (fun _ => .ok "x @") = .ok ⟨1, "", text⟩ := by
  have scanned : ofStandardRows.scan "x @" =
      .ok ⟨[⟨.identifier, "x", 1⟩], some ⟨.unexpectedSymbol "@", ⟨2, 1⟩⟩⟩ := by
    decide +kernel
  have failed : tokenize "x @" = .ok (.error ⟨.unexpectedSymbol "@", ⟨2, 1⟩⟩) := by
    rw [tokenize, scan_of_standard standard_eq, scanned]
    rfl
  have asked : Request.ofArguments ["--count", "d/f.l1"] = .scan ⟨"d/f.l1", true, "warn"⟩ := by
    decide +kernel
  obtain ⟨result, outcome, told⟩ := @answer_scan _ _ "x @" (fun _ => .ok "x @") asked rfl
  cases failed.symm.trans outcome
  obtain ⟨before, lead, run, back, offends, rendered⟩ := told
  obtain ⟨-, rfl⟩ := @Offends.of_first_line _ _ _ _ _ ['x', ' '] ['@'] _ offends rfl rfl (by decide)
  rw [if_neg (by decide)] at rendered
  obtain ⟨line, text, found, -, lines, answered⟩ := rendered
  exact ⟨line, text, found, lines, answered⟩

/-! ### A crash -/

def crowded (count : Nat) : String := String.ofList (List.replicate count 'a' ++ ['@'])

theorem firstRow?_crowded (count : Nat) :
    firstRow? standardRows (List.replicate (count + 1) 'a' ++ ['@']) =
      some (⟨.token .identifier, .run letters wordChars⟩, count + 1) := by
  have letter : 'a' ∈ letters := by decide
  have inside : ∀ c ∈ List.replicate count 'a', c ∈ wordChars := by
    intro c member
    rw [List.eq_of_mem_replicate member]
    decide
  have stop : ['@'].takeWhile wordChars.contains = [] := by decide
  have extent : (Shape.run letters wordChars).extent (List.replicate (count + 1) 'a' ++ ['@']) =
      some (count + 1) := by
    rw [List.replicate_succ, List.cons_append, Shape.extent, Pattern.runExtent, if_pos letter,
      Shape.takeWhile_of_mem inside, stop, List.append_nil, List.length_replicate]
  rw [firstRow?, standardRows, List.findSome?_cons, extent]
  rfl

theorem width_letters (count : Nat) : width (List.replicate count 'a') = count := by
  induction count with
  | zero => rfl
  | succ count ih =>
    have one : 'a'.utf8Size = 1 := by decide
    rw [List.replicate_succ, width_cons, ih, one, Nat.add_comm]

theorem tokenize_crowded (count : Nat) : tokenize (crowded (count + 1)) =
    .ok (.error ⟨.unexpectedSymbol "@", ⟨count + 1, 1⟩⟩) := by
  have sign : firstRow? standardRows ['@'] = some (⟨.anythingElse, .block (.compl spacing)⟩, 1) := by
    decide +kernel
  have place : Position.first.behind (List.replicate (count + 1) 'a') = ⟨count + 1, 1⟩ := by
    simp [Position.behind, Position.first, width_letters, List.count_replicate]
  rw [tokenize_eq, crowded, String.toList_ofList, segments_of_firstRow? (firstRow?_crowded count),
    List.take_left' List.length_replicate, List.drop_left' List.length_replicate,
    segments_of_firstRow? sign]
  simp only [Scan.ofSegments, Scan.result, place]
  rfl

theorem render_crowded {count : Nat} (far : caretLimit ≤ count + 1) (file : String) :
    render ⟨.unexpectedSymbol "@", ⟨count + 1, 1⟩⟩ (crowded (count + 1)) file =
      .error (.caretTooFar (count + 2)) := by
  have solid : ∀ c ∈ List.replicate (count + 1) 'a', isIndent c = false ∧ c ≠ '\n' := by
    intro c member
    rw [List.eq_of_mem_replicate member]
    decide
  obtain ⟨before, lead, run, back, offends, rendered⟩ :=
    render_of_failure (tokenize_crowded count) file
  obtain ⟨-, rfl⟩ := offends.of_first_line String.toList_ofList (width_letters (count + 1)).symm
    fun member => (solid _ member).2 rfl
  have shown : (List.replicate (count + 1) 'a').dropWhile isIndent =
      List.replicate (count + 1) 'a' :=
    List.dropWhile_cons_of_neg (Bool.eq_false_iff.mp (solid 'a' List.mem_cons_self).1)
  rwa [shown, List.length_replicate, if_pos (Nat.lt_succ_of_le far)] at rendered

theorem scanSource_crowded {count : Nat} (far : caretLimit ≤ count + 1) (options : Options) :
    scanSource options (crowded (count + 1)) = .error (.caretTooFar (count + 2)) := by
  rw [scanSource_eq (tokenize_crowded count), report, render_crowded far]
  rfl

/-- The failure is inside the source, and its line is not shown. -/
theorem failure_crowded :
    tokenize (crowded 65535) = .ok (.error ⟨.unexpectedSymbol "@", ⟨65535, 1⟩⟩) ∧
      65535 < (crowded 65535).utf8ByteSize ∧
      render ⟨.unexpectedSymbol "@", ⟨65535, 1⟩⟩ (crowded 65535) "f.l1" =
        .error (.caretTooFar 65536) := by
  refine ⟨tokenize_crowded 65534, ?_, render_crowded (Nat.le_refl caretLimit) "f.l1"⟩
  have sign : width ['@'] = 1 := rfl
  rw [← width_toList, crowded, String.toList_ofList, width_append, width_letters, sign]
  exact Nat.lt_succ_self 65535

theorem answer_crowded :
    tokenize (crowded 65535) = .ok (.error ⟨.unexpectedSymbol "@", ⟨65535, 1⟩⟩) ∧
      answer (.scan ⟨"f.l1", false, "warn"⟩) (fun _ => .ok (crowded 65535)) =
        .error (.caretTooFar 65536) :=
  ⟨tokenize_crowded 65534, scanSource_crowded (Nat.le_refl caretLimit) ⟨"f.l1", false, "warn"⟩⟩

end Lexicon.Command
