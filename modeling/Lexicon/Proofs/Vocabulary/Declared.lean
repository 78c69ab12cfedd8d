import Lexicon.Proofs.Pattern.Sequence
import Lexicon.Proofs.Vocabulary.Combined

/-! The order of a table as the priority of its patterns.

`Declared` is a scanner that never joins the patterns of a table: it tries them one after the other
at each place, each of them read alone. Where no pattern is verbose, the matches of the joined
pattern have the roles and the extents that this scanner gives.
-/

set_option autoImplicit false

namespace Lexicon

open Pattern

/-! ### Patterns that are never verbose -/

/-- Whether no character of the text is read in verbose mode. -/
def Pattern.Reader.neverVerbose (reader : Reader) : List Char → Bool
  | [] => true
  | c :: rest =>
      !reader.level.flags.verbose &&
        match reader.step c with
        | .ok next => next.neverVerbose rest
        | .error _ => true

def Entry.neverVerbose (entry : Entry) : Bool := Reader.start.neverVerbose entry.pattern.toList

namespace Pattern.Reader

theorem alike_start : Alike [] [] false start start := ⟨rfl, known_start, .nil, rfl⟩

theorem comment_of_neverVerbose {reader last : Reader} {text : List Char}
    (same : Alike [] [] false reader reader) (plain : reader.neverVerbose text)
    (read : text.foldlM step reader = .ok last) : last.comment = false := by
  induction text generalizing reader with
  | nil =>
    cases read
    exact same.comment_eq
  | cons c rest ih =>
    rw [List.foldlM_cons] at read
    obtain ⟨next, readFirst, read⟩ := bind_ok read
    simp only [neverVerbose, readFirst, Bool.and_eq_true, Bool.not_eq_true'] at plain
    obtain ⟨alike, quiet⟩ := same.step c next next readFirst readFirst
    rw [quiet rfl plain.1] at alike
    exact ih alike plain.2 read

end Pattern.Reader

theorem Entry.closed_of_neverVerbose {entry : Entry} (plain : entry.neverVerbose) :
    entry.closed := by
  unfold closed
  split
  · next last read => simp [Reader.comment_of_neverVerbose Reader.alike_start plain read]
  · rfl

/-! ### The scanner that tries the patterns one after the other -/

structure Part where
  role : Role
  start : Nat
  stop : Nat
  deriving DecidableEq, Repr

def Cursor.winner? (cursor : Cursor) (entries : List Entry) : Option (Entry × Nat) :=
  Vocabulary.winner? entries cursor.before cursor.rest

/-- The leftmost place at which an entry matches is `skipped` characters ahead, and there `entry` is
the first in the order of the table. -/
structure Leftmost (entries : List Entry) (cursor : Cursor) (skipped : Nat) (entry : Entry)
    (taken : Nat) : Prop where
  ahead : ∀ fewer < skipped, (cursor.advance fewer).winner? entries = none
  here : (cursor.advance skipped).winner? entries = some (entry, taken)

/-- The parts that a scanner finds from a place on, `barred` if a match ends there: an empty match
is dropped then and the search starts again one character further. -/
inductive Declared (entries : List Entry) : Cursor → Bool → List Part → Prop where
  | finished {cursor : Cursor} {barred : Bool} :
      (∀ skipped, (cursor.advance skipped).winner? entries = none) →
      Declared entries cursor barred []
  | found {cursor : Cursor} {barred : Bool} {skipped taken : Nat} {entry : Entry}
      {later : List Part} :
      Leftmost entries cursor skipped entry taken →
      ¬ (barred = true ∧ skipped + taken = 0) →
      Declared entries ((cursor.advance skipped).advance taken) true later →
      Declared entries cursor barred
        (⟨entry.role, (cursor.advance skipped).offset,
          ((cursor.advance skipped).advance taken).offset⟩ :: later)
  | dropped {cursor : Cursor} {entry : Entry} {later : List Part} :
      Leftmost entries cursor 0 entry 0 → cursor.rest ≠ [] →
      Declared entries (cursor.advance 1) false later →
      Declared entries cursor true later
  | exhausted {cursor : Cursor} {entry : Entry} :
      Leftmost entries cursor 0 entry 0 → cursor.rest = [] →
      Declared entries cursor true []

section Declared

variable {entries : List Entry} {cursor : Cursor}

theorem Leftmost.unique {skipped taken otherSkipped otherTaken : Nat} {entry other : Entry}
    (one : Leftmost entries cursor skipped entry taken)
    (two : Leftmost entries cursor otherSkipped other otherTaken) :
    skipped = otherSkipped ∧ entry = other ∧ taken = otherTaken := by
  have same : skipped = otherSkipped := by
    rcases Nat.lt_trichotomy skipped otherSkipped with less | same | less
    · exact absurd one.here (by simp [two.ahead skipped less])
    · exact same
    · exact absurd two.here (by simp [one.ahead otherSkipped less])
  subst same
  have found := one.here.symm.trans two.here
  simpa using found

theorem Leftmost.not_nowhere {skipped taken : Nat} {entry : Entry}
    (leftmost : Leftmost entries cursor skipped entry taken)
    (nowhere : ∀ skipped, (cursor.advance skipped).winner? entries = none) : False := by
  have here := leftmost.here
  rw [nowhere skipped] at here
  cases here

theorem Declared.unique {barred : Bool} {parts others : List Part}
    (one : Declared entries cursor barred parts) (two : Declared entries cursor barred others) :
    parts = others := by
  induction one generalizing others with
  | finished nowhere =>
    cases two with
    | finished => rfl
    | found leftmost => exact (leftmost.not_nowhere nowhere).elim
    | dropped leftmost => exact (leftmost.not_nowhere nowhere).elim
    | exhausted => rfl
  | found leftmost free rest ih =>
    cases two with
    | finished nowhere => exact (leftmost.not_nowhere nowhere).elim
    | found other _ behind =>
      obtain ⟨rfl, rfl, rfl⟩ := leftmost.unique other
      rw [ih behind]
    | dropped other =>
      obtain ⟨rfl, -, rfl⟩ := leftmost.unique other
      exact absurd ⟨rfl, rfl⟩ free
    | exhausted other =>
      obtain ⟨rfl, -, rfl⟩ := leftmost.unique other
      exact absurd ⟨rfl, rfl⟩ free
  | dropped leftmost filled rest ih =>
    cases two with
    | finished nowhere => exact (leftmost.not_nowhere nowhere).elim
    | found other free =>
      obtain ⟨rfl, -, rfl⟩ := leftmost.unique other
      exact absurd ⟨rfl, rfl⟩ free
    | dropped _ _ behind => exact ih behind
    | exhausted _ empty => exact absurd empty filled
  | exhausted leftmost empty =>
    cases two with
    | finished => rfl
    | found other free =>
      obtain ⟨rfl, -, rfl⟩ := leftmost.unique other
      exact absurd ⟨rfl, rfl⟩ free
    | dropped _ filled => exact absurd empty filled
    | exhausted => rfl

end Declared

/-! ### The joined pattern and the table -/

namespace Vocabulary

variable {entries : List Entry} {keywords : List Keyword} {vocabulary : Vocabulary}

namespace Follows

variable (follows : vocabulary.Follows entries) {cursor : Cursor}
include follows

theorem nowhere (none : vocabulary.matcher.search cursor = none) (count : Nat) :
    (cursor.advance count).winner? entries = .none :=
  follows.misses _ _ (search_none none count)

theorem leftmost {skipped : Nat} {hit : Hit}
    (found : vocabulary.matcher.search cursor = some (skipped, hit)) :
    ∃ entry, Leftmost entries cursor skipped entry hit.taken ∧
      vocabulary.roles.filter (fun role => hit.groups.contains role.name) = [entry.role] := by
  obtain ⟨ahead, here⟩ := search_leftmost found
  obtain ⟨entry, -, first, only⟩ := follows.hits _ _ hit here
  exact ⟨entry, ⟨fun fewer less => follows.misses _ _ (ahead fewer less), first⟩, only⟩

theorem matchesFrom (cursor : Cursor) (barred : Bool) (found : List Match) :
    ∃ later parts, vocabulary.matcher.matchesFrom cursor barred found = found.reverse ++ later ∧
      Declared entries cursor barred parts ∧
      later.map (fun one => (vocabulary.classify one, one.start, one.stop)) =
        parts.map fun part => (.ok part.role, part.start, part.stop) := by
  fun_induction vocabulary.matcher.matchesFrom cursor barred found with
  | case1 cursor barred found outcome =>
    exact ⟨[], [], by simp, .finished (follows.nowhere outcome), rfl⟩
  | case2 cursor barred found skipped hit outcome repeated ahead =>
    obtain ⟨entry, leftmost, -⟩ := follows.leftmost outcome
    obtain ⟨rfl, nothing⟩ := repeated
    obtain ⟨rfl, empty⟩ := Nat.add_eq_zero_iff.mp nothing
    rw [empty] at leftmost
    exact ⟨[], [], by simp, .exhausted leftmost ahead, rfl⟩
  | case3 cursor barred found skipped hit outcome repeated head tail ahead ih =>
    obtain ⟨entry, leftmost, -⟩ := follows.leftmost outcome
    obtain ⟨rfl, nothing⟩ := repeated
    obtain ⟨rfl, empty⟩ := Nat.add_eq_zero_iff.mp nothing
    rw [empty] at leftmost
    obtain ⟨later, parts, whole, declared, same⟩ := ih
    exact ⟨later, parts, whole, .dropped leftmost (by simp [ahead]) declared, same⟩
  | case4 cursor barred found skipped hit outcome free start stop text ih =>
    obtain ⟨entry, leftmost, only⟩ := follows.leftmost outcome
    obtain ⟨later, parts, whole, declared, same⟩ := ih
    refine ⟨⟨start.offset, stop.offset, text, hit.groups⟩ :: later, _, ?_,
      .found leftmost free declared, ?_⟩
    · rw [whole, List.reverse_cons, List.append_assoc]
      rfl
    · have role : vocabulary.classify ⟨start.offset, stop.offset, text, hit.groups⟩ =
          .ok entry.role := classify_of_filter only
      rw [List.map_cons, List.map_cons, role, same]

end Follows

/-- The order of the table is the priority of its patterns: the matches of the joined pattern have
the roles and the extents that the patterns give, read alone and tried in this order. -/
theorem classify_declared (accepted : ofTables entries keywords = .ok vocabulary)
    (plain : ∀ entry ∈ entries, entry.neverVerbose) (source : String) :
    (∀ entry ∈ entries, Pattern.ofString entry.pattern = .ok entry.alone) ∧
    ∃ parts,
      (vocabulary.matcher.allMatches source.toList).map
          (fun one => (vocabulary.classify one, one.start, one.stop)) =
        parts.map (fun part => (.ok part.role, part.start, part.stop)) ∧
      ∀ others, Declared entries (.ofText source.toList) false others ↔ others = parts := by
  have checked := accepted_of_ofTables accepted
  have follows := checked.follows fun entry member =>
    Entry.closed_of_neverVerbose (plain entry member)
  refine ⟨checked.alone_eq, ?_⟩
  obtain ⟨later, parts, whole, declared, same⟩ :=
    follows.matchesFrom (.ofText source.toList) false []
  refine ⟨parts, ?_, fun others => ⟨fun other => other.unique declared, ?_⟩⟩
  · rw [allMatches, whole]
    exact same
  · rintro rfl
    exact declared

/-- A table with a pattern that comes too early for a longer one, and with one that can be empty. -/
def colonEntries : List Entry := [⟨.token .colon, ":"⟩, ⟨.token .beDefinedAs, ":="⟩,
  ⟨.token .identifier, "[a-z]*"⟩, ⟨.whitespace, " "⟩, ⟨.anythingElse, "[^ ]+"⟩]

def colonParts : List Part :=
  [⟨.token .colon, 0, 1⟩, ⟨.token .identifier, 2, 2⟩, ⟨.token .identifier, 3, 4⟩]

theorem classify_declared_colon :
    ∃ vocabulary, ofTables colonEntries [] = .ok vocabulary ∧
      (∀ entry ∈ colonEntries, entry.neverVerbose) ∧
      (vocabulary.matcher.allMatches ":= a".toList).map
          (fun one => (vocabulary.classify one, one.start, one.stop)) =
        colonParts.map (fun part => (.ok part.role, part.start, part.stop)) ∧
      ∀ others, Declared colonEntries (.ofText ":= a".toList) false others ↔
        others = colonParts := by
  obtain ⟨vocabulary, accepted, run⟩ :
      ∃ vocabulary, ofTables colonEntries [] = .ok vocabulary ∧
        (vocabulary.matcher.allMatches ":= a".toList).map
            (fun one => ((vocabulary.classify one).toOption, one.start, one.stop)) =
          colonParts.map fun part => (some part.role, part.start, part.stop) :=
    accepted_of_run (by decide +kernel)
  have plain : ∀ entry ∈ colonEntries, entry.neverVerbose := by decide +kernel
  obtain ⟨-, parts, same, only⟩ := classify_declared accepted plain ":= a"
  have outcomes := congrArg (List.map fun shown => (shown.1.toOption, shown.2)) same
  rw [List.map_map, List.map_map] at outcomes
  obtain rfl : parts = colonParts := by
    refine (List.map_inj_right ?_).mp (outcomes.symm.trans run)
    rintro ⟨role, start, stop⟩ ⟨other, otherStart, otherStop⟩ equal
    simpa [Except.toOption] using equal
  exact ⟨vocabulary, accepted, plain, same, only⟩

end Vocabulary

end Lexicon
