import Lexicon.Proofs.Scan.Matches
import Lexicon.Proofs.Vocabulary.Combined

/-! The roles of matches.

With an accepted table in which no text ends inside a comment, each match has one role, and nothing
but an unexpected symbol can end a scan. A comment that is left open hides the head of the next
group: such a table may be accepted too, and a scan with it can come upon a match that has no role.
-/

set_option autoImplicit false

namespace Lexicon

open Pattern

namespace Vocabulary

variable {entries : List Entry} {keywords : List Keyword} {vocabulary : Vocabulary}

theorem Accepted.role_mem_groupNames (accepted : Accepted entries vocabulary)
    (closed : ∀ entry ∈ entries, entry.closed) {entry : Entry} (member : entry ∈ entries) :
    entry.role.name ∈ vocabulary.matcher.groupNames := by
  rw [(accepted.matcher_eq closed).1, groupNames_oneOf, List.mem_flatMap]
  exact ⟨entry.grouped, List.mem_map_of_mem member, List.mem_cons_self⟩

theorem Follows.classified (follows : vocabulary.Follows entries) {text : List Char}
    {found : Match} (member : found ∈ vocabulary.matcher.allMatches text) :
    ∃ role, vocabulary.classify found = .ok role ∧
      vocabulary.roles.filter (fun other => found.groups.contains other.name) = [role] := by
  obtain ⟨before, rest, hit, here, groups⟩ := groups_of_allMatches member
  obtain ⟨entry, -, -, only⟩ := follows.hits before rest hit here
  rw [← groups] at only
  exact ⟨entry.role, classify_of_filter only, only⟩

theorem cause_of_failure {source : String} {failure : Failure}
    (classified : ∀ found ∈ vocabulary.matcher.allMatches source.toList,
      ∃ role, vocabulary.classify found = .ok role)
    (fails : (vocabulary.matcher.allMatches source.toList).findSome?
      (vocabulary.failure? source.toList) = some failure) :
    ∃ text, failure.cause = .unexpectedSymbol text := by
  obtain ⟨found, member, first⟩ := List.exists_of_findSome?_eq_some fails
  obtain ⟨cause, own, rfl⟩ := Option.map_eq_some_iff.mp first
  obtain ⟨role, known⟩ := classified found member
  cases role with
  | anythingElse =>
    rw [cause?, known] at own
    exact ⟨found.text, (Option.some.inj own).symm⟩
  | token kind =>
    rw [cause?_of_role known (by simp)] at own
    cases own
  | whitespace =>
    rw [cause?_of_role known (by simp)] at own
    cases own

/-- With an accepted table in which no comment is left open, every role is a group of the matcher,
each match has one role, and the only failure of a scan is an unexpected symbol. -/
theorem scan_lexical (accepted : ofTables entries keywords = .ok vocabulary)
    (closed : ∀ entry ∈ entries, entry.closed) :
    (∀ entry ∈ entries, entry.role.name ∈ vocabulary.matcher.groupNames) ∧
    ∀ source : String,
      (∀ found ∈ vocabulary.matcher.allMatches source.toList,
        ∃ role, vocabulary.classify found = .ok role ∧
          vocabulary.roles.filter (fun other => found.groups.contains other.name) = [role]) ∧
      ∃ scan, vocabulary.scan source = .ok scan ∧
        ∀ failure, scan.failure = some failure →
          ∃ text, failure.cause = .unexpectedSymbol text := by
  have checked := accepted_of_ofTables accepted
  have follows := checked.follows closed
  refine ⟨fun entry => checked.role_mem_groupNames closed, fun source => ⟨?_, ?_⟩⟩
  · exact fun found => follows.classified
  · refine ⟨_, vocabulary.scan_eq source, fun failure fails => cause_of_failure ?_ fails⟩
    intro found member
    obtain ⟨role, known, -⟩ := follows.classified member
    exact ⟨role, known⟩

/-- A table with a comment that the end of its line closes, inside the text of the entry. -/
def verboseEntries : List Entry := [⟨.token .identifier, "[a-z]+"⟩,
  ⟨.token .plus, "(?x) \\+ # the sign\n"⟩, ⟨.whitespace, " +"⟩, ⟨.anythingElse, "[^ ]+"⟩]

theorem scan_lexical_verbose :
    ∃ vocabulary, ofTables verboseEntries [] = .ok vocabulary ∧
      (∀ entry ∈ verboseEntries, entry.closed) ∧
      Kind.plus.name ∈ vocabulary.matcher.groupNames ∧
      ∃ scan, vocabulary.scan "a + 1" = .ok scan ∧
        ∀ failure, scan.failure = some failure →
          ∃ text, failure.cause = .unexpectedSymbol text := by
  obtain ⟨vocabulary, accepted, -⟩ : ∃ vocabulary,
      ofTables verboseEntries [] = .ok vocabulary ∧
        vocabulary.roles = verboseEntries.map Entry.role :=
    accepted_of_run (by decide +kernel)
  have closed : ∀ entry ∈ verboseEntries, entry.closed := by decide +kernel
  obtain ⟨named, scans⟩ := scan_lexical accepted closed
  have plus : ⟨.token .plus, "(?x) \\+ # the sign\n"⟩ ∈ verboseEntries := by decide
  exact ⟨vocabulary, accepted, closed, named _ plus, (scans "a + 1").2⟩

/-- A table with a comment that is open at the end of an entry: it goes on to the line end in the
next one. -/
def commentEntries : List Entry := [⟨.token .identifier, "[a-z]+"⟩, ⟨.token .plus, "(?x)\\+#"⟩,
  ⟨.token .modulus, "[\n)|(%\\]]+"⟩, ⟨.whitespace, "\\s+"⟩, ⟨.anythingElse, "\\S+"⟩]

theorem scan_unclassified :
    ∃ vocabulary, ofTables commentEntries [] = .ok vocabulary ∧
      Kind.modulus.name ∉ vocabulary.matcher.groupNames ∧
      vocabulary.scan "%]]" = .ok ⟨[], some ⟨.unclassifiedMatch "%]]" 0, ⟨0, 1⟩⟩⟩ := by
  obtain ⟨vocabulary, accepted, run⟩ : ∃ vocabulary,
      ofTables commentEntries [] = .ok vocabulary ∧
        (decide (Kind.modulus.name ∈ vocabulary.matcher.groupNames),
            (vocabulary.scan "%]]").toOption) =
          (false, some ⟨[], some ⟨.unclassifiedMatch "%]]" 0, ⟨0, 1⟩⟩⟩) :=
    accepted_of_run (by decide +kernel)
  simp only [Prod.mk.injEq, decide_eq_false_iff_not] at run
  obtain ⟨missing, outcome⟩ := run
  cases scanned : vocabulary.scan "%]]" with
  | error crash => simp [scanned, Except.toOption] at outcome
  | ok scan =>
    rw [scanned] at outcome
    have failed := scanned.trans (congrArg Except.ok (Option.some.inj outcome))
    exact ⟨vocabulary, accepted, missing, failed⟩

end Vocabulary

end Lexicon
