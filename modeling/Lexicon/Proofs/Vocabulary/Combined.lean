import Lexicon.Proofs.Pattern.Alternatives
import Lexicon.Proofs.Reading.Group
import Lexicon.Vocabulary.Basic
import Mathlib.Data.List.Nodup

/-! The pattern of a table.

Main statement: the pattern that is read from the joined text of an accepted table is the ordered
choice of its entries' patterns, each read alone and made a group, and no name is used in two
entries (`matcher_eq`). That holds unless the text of an entry ends inside a comment: then the
comment goes on over what is written around the next entries.
-/

set_option autoImplicit false

namespace Lexicon

open Pattern

namespace Entry

/-- What the text of the entry means by itself; nothing is matched if it cannot be read. -/
def alone (entry : Entry) : Pattern :=
  match Pattern.ofString entry.pattern with
  | .ok pattern => pattern
  | .error _ => .never

/-- The pattern of the entry as a group with the name of its role. -/
def grouped (entry : Entry) : Pattern := .group entry.role.name entry.alone

/-- The group names that the entry brings into a table, latest first: those in its text, and behind
them the name of its role. -/
def names (entry : Entry) : List String :=
  match entry.pattern.toList.foldlM Reader.step Reader.start with
  | .ok last => last.names ++ [entry.role.name]
  | .error _ => [entry.role.name]

def closed (entry : Entry) : Bool :=
  match entry.pattern.toList.foldlM Reader.step Reader.start with
  | .ok last => !last.comment
  | .error _ => true

end Entry

theorem Role.isGroupName_name (role : Role) : Reader.isGroupName role.name.toList := by
  cases role with
  | token kind => cases kind <;> decide +kernel
  | whitespace => decide +kernel
  | anythingElse => decide +kernel

namespace Pattern

theorem Piece.pattern_oneOf (pieces : List Piece) :
    (Piece.oneOf pieces).pattern = .oneOf (pieces.map Piece.pattern) := by
  match pieces with
  | [] => rfl
  | [only] => rfl
  | _ :: _ :: _ => rfl

end Pattern

namespace Vocabulary

theorem combinedText_single (entry : Entry) : combinedText [entry] = entry.groupText := by
  simp [combinedText]

theorem combinedText_cons (first second : Entry) (rest : List Entry) :
    combinedText (first :: second :: rest) =
      first.groupText ++ '|' :: combinedText (second :: rest) := by
  simp [combinedText, List.intercalate_cons_cons]

end Vocabulary

namespace Pattern.Reader

def row (branches : List Piece) (names : List String) : Reader :=
  ⟨[], ⟨.start, branches, [], none⟩, names, .items, false⟩

theorem foldlM_entry {entry : Entry} {pattern : Pattern}
    (reads : ofString entry.pattern = .ok pattern) (closed : entry.closed)
    {branches : List Piece} {names : List String} (distinct : names.Nodup) {next : Reader}
    (read : entry.groupText.foldlM step (row branches names) = .ok next) :
    ∃ piece, piece.pattern = entry.grouped ∧ entry.grouped.groupNames ⊆ entry.names ∧
      (entry.names ++ names).Nodup ∧ next = (row branches (entry.names ++ names)).push piece := by
  obtain ⟨last, piece, folded, finished, rfl⟩ := ofChars_ok reads
  have outside : last.comment = false := by simpa [Entry.closed, folded] using closed
  have flags : (row branches names).level.flags = .start := rfl
  obtain ⟨inside, used, rfl⟩ := foldlM_group rfl rfl flags distinct
    entry.role.isGroupName_name folded outside finished read
  have grouped : entry.grouped = .group entry.role.name piece.pattern := by
    simp only [Entry.grouped, Entry.alone, reads]
  have own : entry.names = last.names ++ [entry.role.name] := by rw [Entry.names, folded]
  have all : last.names ++ entry.role.name :: names = entry.names ++ names := by simp [own]
  refine ⟨.group (.named entry.role.name) piece, grouped.symm, ?_, all ▸ used, ?_⟩
  · rw [grouped, own]
    exact List.cons_subset.mpr ⟨by simp, List.subset_append_of_subset_left _ inside⟩
  · rw [← all]
    rfl

theorem step_bar {branches : List Piece} {names : List String} {piece : Piece} :
    ((row branches names).push piece).step '|' = .ok (row (piece :: branches) names) :=
  (step_plain rfl rfl '|').trans rfl

theorem foldlM_entries {entries : List Entry} (filled : entries ≠ [])
    (reads : ∀ entry ∈ entries, ∃ pattern, ofString entry.pattern = .ok pattern)
    (closed : ∀ entry ∈ entries, entry.closed) {branches : List Piece} {names : List String}
    (distinct : names.Nodup) {last : Reader}
    (read : (Vocabulary.combinedText entries).foldlM step (row branches names) = .ok last) :
    ∃ pieces, pieces.map Piece.pattern = entries.map Entry.grouped ∧
      last.finish = .ok (.oneOf (branches.reverse ++ pieces)) ∧
      (∀ entry ∈ entries, entry.grouped.groupNames ⊆ entry.names) ∧
      (entries.reverse.flatMap Entry.names ++ names).Nodup := by
  induction entries generalizing branches names with
  | nil => exact absurd rfl filled
  | cons entry rest ih =>
    obtain ⟨⟨pattern, readsFirst⟩, readsRest⟩ := List.forall_mem_cons.mp reads
    obtain ⟨closedFirst, closedRest⟩ := List.forall_mem_cons.mp closed
    cases rest with
    | nil =>
      rw [Vocabulary.combinedText_single] at read
      obtain ⟨piece, same, own, nodup, rfl⟩ :=
        foldlM_entry readsFirst closedFirst distinct read
      have whole : ((row branches (entry.names ++ names)).push piece).finish =
          .ok (.oneOf (piece :: branches).reverse) := rfl
      rw [List.reverse_cons] at whole
      exact ⟨[piece], by simp [same], whole, by simpa using own, by simpa using nodup⟩
    | cons second rest =>
      rw [Vocabulary.combinedText_cons, List.foldlM_append] at read
      obtain ⟨next, readFirst, read⟩ := bind_ok read
      obtain ⟨piece, same, own, nodup, rfl⟩ :=
        foldlM_entry readsFirst closedFirst distinct readFirst
      rw [foldlM_of_step step_bar] at read
      obtain ⟨pieces, others, whole, known, used⟩ :=
        ih (List.cons_ne_nil _ _) readsRest closedRest nodup read
      refine ⟨piece :: pieces, by rw [List.map_cons, same, others, ← List.map_cons], ?_,
        List.forall_mem_cons.mpr ⟨own, known⟩, ?_⟩
      · rw [whole, List.reverse_cons, List.append_assoc, List.singleton_append]
      · rw [List.reverse_cons, List.flatMap_append, List.flatMap_singleton, List.append_assoc]
        exact used

end Pattern.Reader

namespace Vocabulary

variable {entries : List Entry} {keywords : List Keyword} {vocabulary : Vocabulary}

/-- What the checks of a table have found if they accept it. -/
structure Accepted (entries : List Entry) (vocabulary : Vocabulary) : Prop where
  filled : entries ≠ []
  reads : ∀ entry ∈ entries, ∃ pattern, ofString entry.pattern = .ok pattern
  combined : ofChars (combinedText entries) = .ok vocabulary.matcher
  roles : vocabulary.roles = entries.map Entry.role

theorem check_ok (accepted : check entries keywords = .ok vocabulary) :
    missingRole? entries = none ∧ invalidEntry? entries = none ∧ ∃ matcher identifier,
      readPattern "<combined>" (combinedText entries) = .ok matcher ∧
      readPattern Kind.identifier.name (identifierText entries) = .ok identifier ∧
      badKeyword? identifier keywords = none ∧
      vocabulary =
        ⟨String.ofList (combinedText entries), matcher, entries.map Entry.role, keywords⟩ := by
  unfold check at accepted
  cases complete : missingRole? entries with
  | some role => simp [complete] at accepted
  | none =>
    cases valid : invalidEntry? entries with
    | some cause => simp [complete, valid] at accepted
    | none =>
      cases combined : readPattern "<combined>" (combinedText entries) with
      | error cause => simp [complete, valid, combined] at accepted
      | ok matcher =>
        cases whole : readPattern Kind.identifier.name (identifierText entries) with
        | error cause => simp [complete, valid, combined, whole] at accepted
        | ok identifier =>
          cases spelled : badKeyword? identifier keywords with
          | some keyword => simp [complete, valid, combined, whole, spelled] at accepted
          | none =>
            simp only [complete, valid, combined, whole, spelled, Except.ok.injEq] at accepted
            exact ⟨rfl, rfl, matcher, identifier, rfl, rfl, spelled, accepted.symm⟩

theorem filled_of_complete (complete : missingRole? entries = none) : entries ≠ [] := by
  rintro rfl
  cases complete

theorem read_of_valid (valid : invalidEntry? entries = none) :
    ∀ entry ∈ entries, ∃ pattern, ofString entry.pattern = .ok pattern := by
  intro entry member
  have fine := List.findSome?_eq_none_iff.mp valid entry member
  split at fine
  · next pattern read => exact ⟨pattern, read⟩
  · cases fine

theorem accepted_of_ofTables (accepted : ofTables entries keywords = .ok vocabulary) :
    Accepted entries vocabulary := by
  have checked : check entries keywords = .ok vocabulary := by
    unfold ofTables at accepted
    cases outcome : check entries keywords with
    | error cause =>
      rw [outcome] at accepted
      cases accepted
    | ok other =>
      rw [outcome] at accepted
      cases accepted
      rfl
  obtain ⟨complete, valid, matcher, identifier, combined, -, -, rfl⟩ := check_ok checked
  exact ⟨filled_of_complete complete, read_of_valid valid, readPattern_eq_ok.mp combined, rfl⟩

theorem accepted_of_run {Value : Type} {use : Vocabulary → Value} {value : Value}
    (run : (ofTables entries keywords).toOption.map use = some value) :
    ∃ vocabulary, ofTables entries keywords = .ok vocabulary ∧ use vocabulary = value := by
  cases accepted : ofTables entries keywords with
  | error failure => simp [accepted, Except.toOption] at run
  | ok vocabulary => exact ⟨vocabulary, rfl, by simpa [accepted, Except.toOption] using run⟩

theorem Accepted.alone_eq (accepted : Accepted entries vocabulary) :
    ∀ entry ∈ entries, ofString entry.pattern = .ok entry.alone := by
  intro entry member
  obtain ⟨pattern, reads⟩ := accepted.reads entry member
  simp only [Entry.alone, reads]

theorem combined_ok (filled : entries ≠ [])
    (reads : ∀ entry ∈ entries, ∃ pattern, ofString entry.pattern = .ok pattern)
    (closed : ∀ entry ∈ entries, entry.closed) {matcher : Pattern}
    (combined : ofChars (combinedText entries) = .ok matcher) :
    matcher = .oneOf (entries.map Entry.grouped) ∧
      (∀ entry ∈ entries, entry.grouped.groupNames ⊆ entry.names) ∧
      (entries.flatMap Entry.names).Nodup := by
  obtain ⟨last, piece, folded, finished, same⟩ := ofChars_ok combined
  change List.foldlM Reader.step (Reader.row [] []) _ = _ at folded
  obtain ⟨pieces, patterns, whole, known, used⟩ :=
    Reader.foldlM_entries filled reads closed .nil folded
  rw [finished] at whole
  cases whole
  rw [List.append_nil] at used
  refine ⟨?_, known, (List.Perm.flatMap_right _ entries.reverse_perm).nodup_iff.mp used⟩
  rw [same, Piece.pattern_oneOf, List.reverse_nil, List.nil_append, patterns]

/-- The matcher of an accepted table is the ordered choice of its entries, each of them alone in a
group, and no two entries have a group name in common. -/
theorem Accepted.matcher_eq (accepted : Accepted entries vocabulary)
    (closed : ∀ entry ∈ entries, entry.closed) :
    vocabulary.matcher = .oneOf (entries.map Entry.grouped) ∧
      (entries.map Entry.grouped).Pairwise NamesApart := by
  obtain ⟨matcher, known, used⟩ :=
    combined_ok accepted.filled accepted.reads closed accepted.combined
  refine ⟨matcher, List.pairwise_map.mpr ?_⟩
  refine (List.nodup_flatMap.mp used).2.imp_of_mem fun one other disjoint name inside again => ?_
  exact disjoint (known _ one inside) (known _ other again)

/-! ### Which entry a match is one of -/

/-- The first entry in the order of the table whose pattern, read alone, matches where the text
begins, and the extent that this pattern prefers. -/
def winner? (entries : List Entry) (before : Option Char) (text : List Char) :
    Option (Entry × Nat) :=
  entries.findSome? fun entry =>
    (entry.alone.matchHere? before text).map fun hit => (entry, hit.taken)

theorem filter_roles {front behind : List Entry} {entry : Entry}
    (apart : ((front ++ entry :: behind).map Entry.grouped).Pairwise NamesApart)
    {groups : List String} (own : entry.role.name ∈ groups)
    (inside : groups ⊆ entry.grouped.groupNames) :
    ((front ++ entry :: behind).map Entry.role).filter (fun role => groups.contains role.name) =
      [entry.role] := by
  have named (other : Entry) : other.role.name ∈ other.grouped.groupNames := List.mem_cons_self
  rw [List.map_append, List.map_cons, List.pairwise_append, List.pairwise_cons] at apart
  obtain ⟨-, ⟨later, -⟩, earlier⟩ := apart
  have before : (front.map Entry.role).filter (fun role => groups.contains role.name) = [] := by
    rw [List.filter_eq_nil_iff]
    intro role member
    obtain ⟨other, listed, rfl⟩ := List.mem_map.mp member
    have stranger := earlier _ (List.mem_map_of_mem listed) _ List.mem_cons_self _ (named other)
    simpa using fun shared => stranger (inside shared)
  have after : (behind.map Entry.role).filter (fun role => groups.contains role.name) = [] := by
    rw [List.filter_eq_nil_iff]
    intro role member
    obtain ⟨other, listed, rfl⟩ := List.mem_map.mp member
    simpa using fun shared =>
      later _ (List.mem_map_of_mem listed) _ (inside shared) (named other)
  rw [List.map_append, List.map_cons, List.filter_append, before, List.nil_append,
    List.filter_cons_of_pos (by simpa using own), after]

/-- The joined pattern matches where an entry of the table does. Its match has the extent of the
first such entry, and its groups name this entry and no other. -/
structure Follows (vocabulary : Vocabulary) (entries : List Entry) : Prop where
  misses : ∀ before text, vocabulary.matcher.matchHere? before text = none →
    winner? entries before text = none
  hits : ∀ before text hit, vocabulary.matcher.matchHere? before text = some hit →
    ∃ entry ∈ entries, winner? entries before text = some (entry, hit.taken) ∧
      vocabulary.roles.filter (fun role => hit.groups.contains role.name) = [entry.role]

theorem matchHere?_grouped (entry : Entry) (before : Option Char) (text : List Char) :
    entry.grouped.matchHere? before text =
      (entry.alone.matchHere? before text).map fun hit =>
        ⟨hit.taken, entry.role.name :: hit.groups⟩ :=
  matchHere?_group entry.role.name entry.alone before text

theorem Accepted.follows (accepted : Accepted entries vocabulary)
    (closed : ∀ entry ∈ entries, entry.closed) : vocabulary.Follows entries := by
  obtain ⟨matcher, apart⟩ := accepted.matcher_eq closed
  constructor
  · intro before text fails
    rw [matcher, matchHere?_oneOf, List.findSome?_map] at fails
    refine List.findSome?_eq_none_iff.mpr fun entry member => ?_
    have none := List.findSome?_eq_none_iff.mp fails entry member
    rw [Function.comp_apply, matchHere?_grouped, Option.map_eq_none_iff] at none
    rw [none, Option.map_none]
  · intro before text hit found
    rw [matcher, matchHere?_oneOf, List.findSome?_map] at found
    obtain ⟨front, entry, behind, rfl, here, ahead⟩ := List.findSome?_eq_some_iff.mp found
    rw [Function.comp_apply, matchHere?_grouped] at here
    obtain ⟨own, alone, rfl⟩ := Option.map_eq_some_iff.mp here
    refine ⟨entry, by simp, ?_, ?_⟩
    · refine List.findSome?_eq_some_iff.mpr ⟨front, entry, behind, rfl, ?_, fun other member => ?_⟩
      · rw [alone, Option.map_some]
      · have none := ahead other member
        rw [Function.comp_apply, matchHere?_grouped, Option.map_eq_none_iff] at none
        rw [none, Option.map_none]
    · rw [accepted.roles]
      exact filter_roles apart List.mem_cons_self
        (List.cons_subset_cons _ (matchHere?_groups alone))

theorem classify_of_filter {found : Match} {role : Role}
    (only : vocabulary.roles.filter (fun role => found.groups.contains role.name) = [role]) :
    vocabulary.classify found = .ok role := by
  unfold classify
  rw [only]

end Vocabulary

end Lexicon
