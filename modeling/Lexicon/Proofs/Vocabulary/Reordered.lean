import Lexicon.Proofs.Lexeme.Table
import Lexicon.Proofs.Pattern.Room
import Lexicon.Proofs.Reading.Nested
import Lexicon.Proofs.Vocabulary.Combined
import Mathlib.Data.List.Nodup

/-! Tables whose entries are put in another order.

Main statement: an accepted table whose texts do not depend on what stands before them is accepted
in every order, and its pattern is the choice in that order (`ofTables_reordered`).
-/

set_option autoImplicit false

namespace Lexicon

open Pattern

namespace Entry

def piece (entry : Entry) : Piece :=
  match (entry.pattern.toList.foldlM Reader.step Reader.start).bind Reader.finish with
  | .ok piece => piece
  | .error _ => .nothing

/-- Whether the text can be the body of a group anywhere in a table: it can be read, does not end
in a comment, names no group and leaves room for a level around it. -/
def portable (entry : Entry) : Bool :=
  match entry.pattern.toList.foldlM Reader.step Reader.start with
  | .ok last =>
      !last.comment && Reader.start.nameless entry.pattern.toList &&
        match last.finish with
        | .ok piece => piece.depth < depthLimit
        | .error _ => false
  | .error _ => false

def branch (entry : Entry) : Piece := .group (.named entry.role.name) entry.piece

variable {entry : Entry}

theorem portable_ok (portable : entry.portable) :
    ∃ last, entry.pattern.toList.foldlM Reader.step Reader.start = .ok last ∧
      last.comment = false ∧ Reader.start.nameless entry.pattern.toList ∧
      last.finish = .ok entry.piece ∧ entry.piece.depth < depthLimit := by
  unfold Entry.portable at portable
  unfold piece
  cases read : entry.pattern.toList.foldlM Reader.step Reader.start with
  | error fault => simp [read] at portable
  | ok last =>
    cases whole : last.finish with
    | error fault => simp [read, whole] at portable
    | ok piece =>
      simp only [read, whole, Bool.and_eq_true, Bool.not_eq_true', decide_eq_true_eq] at portable
      obtain ⟨⟨outside, unnamed⟩, shallow⟩ := portable
      refine ⟨last, rfl, outside, unnamed, ?_, ?_⟩ <;>
        simp only [Except.bind, whole]
      exact shallow

theorem branch_pattern {pattern : Pattern} (reads : ofString entry.pattern = .ok pattern) :
    entry.branch.pattern = entry.grouped := by
  obtain ⟨last, piece, folded, finished, same⟩ := ofChars_ok reads
  have own : entry.piece = piece := by
    rw [Entry.piece, folded]
    simp only [Except.bind, finished]
  simp only [branch, Piece.group, grouped, alone, reads, own, same]

end Entry

namespace Pattern.Reader

theorem foldlM_portable {entry : Entry} (portable : entry.portable) {branches : List Piece}
    {names : List String} (fresh : (entry.role.name :: names).Nodup) :
    entry.groupText.foldlM step (row branches names) =
      .ok ((row branches (entry.role.name :: names)).push entry.branch) := by
  obtain ⟨last, alone, outside, unnamed, whole, shallow⟩ := Entry.portable_ok portable
  obtain ⟨new, distinct⟩ := List.nodup_cons.mp fresh
  have flags : (row branches names).level.flags = .start := rfl
  exact foldlM_group_ok rfl rfl flags distinct entry.role.isGroupName_name alone outside whole
    unnamed shallow new

theorem foldlM_portables {entries : List Entry} (filled : entries ≠ [])
    (portable : ∀ entry ∈ entries, entry.portable) {branches : List Piece} {names : List String}
    (fresh : ((entries.map fun entry => entry.role.name) ++ names).Nodup) :
    ∃ last, (Vocabulary.combinedText entries).foldlM step (row branches names) = .ok last ∧
      last.finish = .ok (.oneOf (branches.reverse ++ entries.map Entry.branch)) := by
  induction entries generalizing branches names with
  | nil => exact absurd rfl filled
  | cons entry rest ih =>
    obtain ⟨first, later⟩ := List.forall_mem_cons.mp portable
    -- The names of the later entries stay new when that of the first one has been used.
    have moved : ((rest.map fun entry => entry.role.name) ++ entry.role.name :: names).Nodup :=
      List.perm_middle.nodup_iff.mpr fresh
    have read := @foldlM_portable entry first branches names (List.nodup_append.mp moved).2.1
    cases rest with
    | nil =>
      rw [Vocabulary.combinedText_single]
      refine ⟨_, read, ?_⟩
      have whole : ((row branches (entry.role.name :: names)).push entry.branch).finish =
          .ok (.oneOf (entry.branch :: branches).reverse) := rfl
      rw [whole, List.reverse_cons, List.map_singleton]
    | cons second rest =>
      obtain ⟨last, goes, whole⟩ :=
        @ih (List.cons_ne_nil _ _) later (entry.branch :: branches) _ moved
      refine ⟨last, ?_, ?_⟩
      · rw [Vocabulary.combinedText_cons, List.foldlM_append, read]
        exact (foldlM_of_step step_bar _).trans goes
      · rw [whole, List.reverse_cons, List.append_assoc, List.singleton_append]
        rfl

end Pattern.Reader

namespace Vocabulary

variable {entries others : List Entry} {keywords : List Keyword} {vocabulary : Vocabulary}

theorem nodup_names (distinct : (entries.map Entry.role).Nodup) :
    (entries.map fun entry => entry.role.name).Nodup := by
  have names : entries.map (fun entry => entry.role.name) =
      (entries.map Entry.role).map Role.name := by
    rw [List.map_map]
    rfl
  rw [names]
  exact List.Pairwise.map Role.name (fun _ _ other same => other (Role.name_injective same)) distinct

theorem ofChars_combined (filled : entries ≠ []) (portable : ∀ entry ∈ entries, entry.portable)
    (distinct : (entries.map Entry.role).Nodup) :
    ofChars (combinedText entries) = Piece.admit (.oneOf (entries.map Entry.branch)) := by
  obtain ⟨last, read, whole⟩ := @Reader.foldlM_portables entries filled portable [] []
    ((List.append_nil _).symm ▸ nodup_names distinct)
  change List.foldlM Reader.step Reader.start _ = _ at read
  rw [ofChars, read]
  change (last.finish.bind Piece.admit) = _
  rw [whole]
  rfl

theorem find?_role_reordered (perm : others.Perm entries)
    (distinct : (entries.map Entry.role).Nodup) (role : Role) :
    (others.find? fun entry => entry.role == role) = entries.find? fun entry => entry.role == role := by
  cases found : entries.find? fun entry => entry.role == role with
  | none =>
    rw [List.find?_eq_none] at found ⊢
    exact fun entry member => found entry (perm.mem_iff.mp member)
  | some entry =>
    have own := List.find?_some found
    have member := List.mem_of_find?_eq_some found
    cases again : others.find? fun entry => entry.role == role with
    | none => exact absurd own (List.find?_eq_none.mp again entry (perm.mem_iff.mpr member))
    | some other =>
      have fits := List.find?_some again
      have same := (beq_iff_eq.mp fits).trans (beq_iff_eq.mp own).symm
      have listed := perm.mem_iff.mp (List.mem_of_find?_eq_some again)
      rw [List.inj_on_of_nodup_map distinct listed member same]

theorem identifierText_reordered (perm : others.Perm entries)
    (distinct : (entries.map Entry.role).Nodup) :
    identifierText others = identifierText entries := by
  rw [identifierText, identifierText, find?_role_reordered perm distinct]

theorem missingRole?_reordered (perm : others.Perm entries) :
    missingRole? others = missingRole? entries := by
  unfold missingRole?
  congr 1
  funext role
  rw [perm.any_eq]

theorem invalidEntry?_reordered (perm : others.Perm entries)
    (valid : invalidEntry? entries = none) : invalidEntry? others = none := by
  unfold invalidEntry? at valid ⊢
  rw [List.findSome?_eq_none_iff] at valid ⊢
  exact fun entry member => valid entry (perm.mem_iff.mp member)

theorem ofTables_reordered (perm : others.Perm entries)
    (portable : ∀ entry ∈ entries, entry.portable) (distinct : (entries.map Entry.role).Nodup)
    (several : 2 ≤ entries.length) (accepted : check entries keywords = .ok vocabulary) :
    ofTables others keywords = .ok ⟨String.ofList (combinedText others),
      .oneOf (others.map Entry.grouped), others.map Entry.role, keywords⟩ := by
  obtain ⟨complete, valid, matcher, identifier, combined, whole, spelled, -⟩ := check_ok accepted
  have filled := filled_of_complete complete
  have admitted := readPattern_eq_ok.mp combined
  rw [ofChars_combined filled portable distinct] at admitted
  -- The other table is checked like the first one.
  have moved : others ≠ [] := fun empty => filled (List.nil_perm.mp (empty ▸ perm))
  have own : ∀ entry ∈ others, entry.portable :=
    fun entry member => portable entry (perm.mem_iff.mp member)
  have roles : (others.map Entry.role).Nodup := (perm.map Entry.role).nodup_iff.mpr distinct
  have groups : ∀ piece ∈ entries.map Entry.branch, piece.plan.isGroup := by
    simp [Entry.branch, Piece.group, Plan.isGroup]
  have again := Piece.admit_reordered (perm.map Entry.branch) groups
    (by simpa using several) admitted
  have patterns : others.map (Piece.pattern ∘ Entry.branch) = others.map Entry.grouped := by
    refine List.map_congr_left fun entry member => ?_
    obtain ⟨pattern, reads⟩ := read_of_valid valid entry (perm.mem_iff.mp member)
    exact Entry.branch_pattern reads
  rw [← ofChars_combined moved own roles, Piece.pattern_oneOf, List.map_map, patterns] at again
  have accepts : check others keywords = .ok _ :=
    check_eq_ok ((missingRole?_reordered perm).trans complete) (invalidEntry?_reordered perm valid)
      (by rw [readPattern, again]) (identifierText_reordered perm distinct ▸ whole) spelled
  rw [ofTables, accepts]
  rfl

end Vocabulary

end Lexicon
