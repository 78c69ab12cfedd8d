import Lexicon.Event
import Lexicon.Proofs.Scan.Segments

/-! Where scans fail.

A scan ends at the start of a match, so the place of its failure is that behind the text before the
match (`Vocabulary.position_of_failure`). With the vocabulary of the language something stands
there, and no character of it is a space (`unexpected_of_failure`).
-/

set_option autoImplicit false

namespace Lexicon

open Text Vocabulary

theorem Scan.failure_of_result {scan : Scan} {failure : Failure}
    (failed : scan.result = .error failure) : scan.failure = some failure := by
  unfold Scan.result at failed
  cases outcome : scan.failure with
  | none =>
    rw [outcome] at failed
    cases failed
  | some other =>
    rw [outcome] at failed
    cases failed
    rfl

namespace Vocabulary

theorem position_of_failure {vocabulary : Vocabulary} {source : String} {failure : Failure}
    (failed : (vocabulary.scan source).map Scan.result = .ok (.error failure)) :
    ∃ front back, source.toList = front ++ back ∧
      failure.position = Position.first.behind front := by
  rw [vocabulary.scan_eq source] at failed
  have stopped := Scan.failure_of_result (Except.ok.inj failed)
  obtain ⟨found, member, own⟩ := List.exists_of_findSome?_eq_some stopped
  obtain ⟨cause, -, rfl⟩ := Option.map_eq_some_iff.mp own
  obtain ⟨front, after, split, start, -⟩ :=
    (vocabulary.matcher.allMatches_placed source.toList).slice found member
  rw [List.append_assoc] at split
  refine ⟨front, _, split, ?_⟩
  rw [Position.first_behind front (found.text.toList ++ after), ← split, start, Nat.zero_add]

theorem spells_anythingElse_iff {text : List Char} :
    Spells .anythingElse text ↔ text ≠ [] ∧ ∀ c ∈ text, ¬ IsSpace c := by
  rw [spells_iff]
  simp only [isSpace_iff, ← CharSet.mem_compl]
  constructor
  · rintro ⟨row, listed, role, described⟩
    cases shape_of_anythingElse row listed role
    exact Shape.describes_block.mp described
  · intro solid
    exact ⟨⟨.anythingElse, .block (.compl spacing)⟩, by decide, rfl,
      Shape.describes_block.mpr solid⟩

end Vocabulary

/-- A source with the text in it that a scan of the language does not expect. -/
structure Unexpected (source front run back : List Char) (failure : Failure) : Prop where
  split : source = front ++ (run ++ back)
  filled : run ≠ []
  solid : ∀ c ∈ run, ¬ IsSpace c
  cause : failure.cause = .unexpectedSymbol (String.ofList run)
  position : failure.position = Position.first.behind front

theorem unexpected_of_failure {source : String} {failure : Failure}
    (failed : tokenize source = .ok (.error failure)) :
    ∃ front run back, Unexpected source.toList front run back failure := by
  rw [tokenize_eq] at failed
  have stopped := Scan.failure_of_result (Except.ok.inj failed)
  have text := flatMap_segments source.toList
  have sound : ∀ segment ∈ segments source.toList, Spells segment.role segment.text :=
    fun segment member => (spells_of_segment member).2
  obtain ⟨passed, later, split, lexical, stop⟩ := Scan.lexical_split (segments source.toList)
  rw [split] at text sound stopped
  rw [Scan.ofSegments_append lexical] at stopped
  rcases stop with rfl | ⟨run, rest, rfl⟩
  · cases stopped
  · cases stopped
    obtain ⟨filled, solid⟩ := spells_anythingElse_iff.mp
      (sound _ (List.mem_append_right passed List.mem_cons_self))
    rw [List.flatMap_append, List.flatMap_cons] at text
    exact ⟨_, run, _, text.symm, filled, solid, rfl, rfl⟩

theorem level_ne_error {source : String} {result : Scan} (scanned : scan source = .ok result) :
    ∀ event ∈ result.events source, event.level ≠ "ERROR" := by
  intro event member
  rw [Scan.events, List.mem_cons, List.mem_append, List.mem_map, List.mem_singleton] at member
  rcases member with rfl | ⟨token, -, rfl⟩ | rfl
  · simp [Event.level]
  · simp [Event.level]
  · cases stopped : result.failure with
    | none => simp [Event.level]
    | some failure =>
      have failed : tokenize source = .ok (.error failure) := by
        rw [tokenize, scanned, Except.map, Scan.result, stopped]
      obtain ⟨front, run, back, unexpected⟩ := unexpected_of_failure failed
      simp [Event.level, unexpected.cause, Cause.isLexical]

end Lexicon
