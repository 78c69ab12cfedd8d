import Lexicon.Proofs.Reading.Anchored
import Lexicon.Proofs.Vocabulary.Declared

/-! What is said of a table and its keywords.

`Verdict` lists the outcomes, each with the checks before it that are passed and the one that fails.
Nothing in it is searched or matched: the first of something is the one with none before it, and a
keyword has the form of an identifier if the pattern of identifiers, read alone, describes it. Main
statement: the construction of a vocabulary has the outcome that `Verdict` allows
(`ofTables_verdict`).
-/

set_option autoImplicit false

namespace Lexicon

open Pattern

/-- The element has the property, and nothing that stands before it in the list has. -/
def IsFirst {α : Type} (property : α → Prop) (list : List α) (element : α) : Prop :=
  ∃ earlier later, list = earlier ++ element :: later ∧ property element ∧
    ∀ other ∈ earlier, ¬ property other

section First

variable {α : Type} {property : α → Prop} {list : List α} {element : α}

theorem IsFirst.find?_eq (first : IsFirst property list element) {test : α → Bool}
    (same : ∀ x, test x = true ↔ property x) : list.find? test = some element := by
  obtain ⟨earlier, later, rfl, holds, ahead⟩ := first
  refine List.find?_eq_some_iff_append.mpr
    ⟨(same element).mpr holds, earlier, later, rfl, fun other member => ?_⟩
  rw [Bool.not_eq_true', Bool.eq_false_iff]
  exact fun found => ahead other member ((same other).mp found)

theorem IsFirst.eq_head {head : α} {tail : List α} (first : IsFirst property (head :: tail) element)
    (holds : property head) : element = head := by
  obtain ⟨earlier, later, split, -, ahead⟩ := first
  cases earlier with
  | nil => exact (List.cons.inj split).1.symm
  | cons other earlier =>
    cases split
    exact absurd holds (ahead head List.mem_cons_self)

theorem exists_isFirst (property : α → Prop) (list : List α) :
    (∃ element, IsFirst property list element) ∨ ∀ element ∈ list, ¬ property element := by
  induction list with
  | nil => exact .inr (by simp)
  | cons head tail ih =>
    by_cases holds : property head
    · exact .inl ⟨head, [], tail, rfl, holds, by simp⟩
    · rcases ih with ⟨element, earlier, later, rfl, found, ahead⟩ | none
      · exact .inl ⟨element, head :: earlier, later, rfl, found,
          List.forall_mem_cons.mpr ⟨holds, ahead⟩⟩
      · exact .inr (List.forall_mem_cons.mpr ⟨holds, none⟩)

end First

def Entry.anchoredText (entry : Entry) : List Char :=
  "^(?:".toList ++ entry.pattern.toList ++ ")$".toList

namespace Vocabulary

/-- The checks of the single entries are passed. -/
structure Readable (entries : List Entry) : Prop where
  complete : ∀ role ∈ requiredRoles, ∃ entry ∈ entries, entry.role = role
  reads : ∀ entry ∈ entries, ∃ pattern, ofString entry.pattern = .ok pattern

/-- The patterns can be joined as well. -/
structure Joined (entries : List Entry) (matcher : Pattern) : Prop extends Readable entries where
  combined : ofChars (combinedText entries) = .ok matcher

structure Anchored (entries : List Entry) (matcher : Pattern) (identifier : Entry) : Prop extends
    Joined entries matcher where
  first : IsFirst (fun entry => entry.role = .token .identifier) entries identifier
  anchored : ∃ whole, ofChars identifier.anchoredText = .ok whole

/-- The outcomes for a table and its keywords, in the order of the checks. -/
inductive Verdict (entries : List Entry) (keywords : List Keyword) :
    Except Failure Vocabulary → Prop where
  | missing {role : Role} :
      IsFirst (fun role => ∀ entry ∈ entries, entry.role ≠ role) requiredRoles role →
      Verdict entries keywords (.error (.detached (.missingPattern role.name)))
  | invalid {entry : Entry} {fault : Fault} :
      (∀ role ∈ requiredRoles, ∃ entry ∈ entries, entry.role = role) →
      IsFirst (fun entry => ∃ fault, ofString entry.pattern = .error fault) entries entry →
      ofString entry.pattern = .error fault →
      Verdict entries keywords
        (.error (.detached (.invalidPattern entry.role.name fault.message)))
  | combined {fault : Fault} :
      Readable entries → ofChars (combinedText entries) = .error fault →
      Verdict entries keywords (.error (.detached (.invalidPattern "<combined>" fault.message)))
  | anchored {matcher : Pattern} {identifier : Entry} {fault : Fault} :
      Joined entries matcher →
      IsFirst (fun entry => entry.role = .token .identifier) entries identifier →
      ofChars identifier.anchoredText = .error fault →
      Verdict entries keywords
        (.error (.detached (.invalidPattern Kind.identifier.name fault.message)))
  | keyword {matcher : Pattern} {identifier : Entry} {keyword : Keyword} :
      Anchored entries matcher identifier →
      IsFirst (fun keyword => ¬ identifier.alone.Describes none keyword.lexeme.toList none) keywords
        keyword →
      Verdict entries keywords (.error (.detached (.keywordNotIdentifier keyword.lexeme)))
  | accepted {matcher : Pattern} {identifier : Entry} :
      Anchored entries matcher identifier →
      (∀ keyword ∈ keywords, identifier.alone.Describes none keyword.lexeme.toList none) →
      Verdict entries keywords
        (.ok ⟨String.ofList (combinedText entries), matcher, entries.map Entry.role, keywords⟩)

variable {entries : List Entry} {keywords : List Keyword} {matcher : Pattern} {identifier : Entry}

/-! ### The checks -/

theorem missingRole?_of_complete
    (complete : ∀ role ∈ requiredRoles, ∃ entry ∈ entries, entry.role = role) :
    missingRole? entries = none := by
  refine List.find?_eq_none.mpr fun role member => ?_
  obtain ⟨entry, listed, same⟩ := complete role member
  simpa using ⟨entry, listed, same⟩

theorem invalidEntry?_of_reads
    (reads : ∀ entry ∈ entries, ∃ pattern, ofString entry.pattern = .ok pattern) :
    invalidEntry? entries = none := by
  refine List.findSome?_eq_none_iff.mpr fun entry member => ?_
  obtain ⟨pattern, read⟩ := reads entry member
  rw [read]

theorem invalidEntry?_of_first {entry : Entry} {fault : Fault}
    (first : IsFirst (fun entry => ∃ fault, ofString entry.pattern = .error fault) entries entry)
    (read : ofString entry.pattern = .error fault) :
    invalidEntry? entries = some (.invalidPattern entry.role.name fault.message) := by
  obtain ⟨earlier, later, rfl, -, ahead⟩ := first
  refine List.findSome?_eq_some_iff.mpr ⟨earlier, entry, later, rfl, by rw [read], ?_⟩
  intro other member
  cases outcome : ofString other.pattern with
  | error fault => exact absurd ⟨fault, outcome⟩ (ahead other member)
  | ok pattern => rfl

theorem identifierText_of_first
    (first : IsFirst (fun entry => entry.role = .token .identifier) entries identifier) :
    identifierText entries = identifier.anchoredText := by
  unfold identifierText
  rw [first.find?_eq (by simp)]
  rfl

theorem Anchored.occursIn_iff (anchored : Anchored entries matcher identifier) {whole : Pattern}
    (read : ofChars identifier.anchoredText = .ok whole) (text : List Char) :
    whole.occursIn text ↔ identifier.alone.Describes none text none := by
  obtain ⟨_, _, split, _, _⟩ := anchored.first
  obtain ⟨pattern, reads⟩ := anchored.reads identifier (by simp [split])
  rw [ofChars_anchored reads read, occursIn_anchored]
  simp only [Entry.alone, reads]

theorem Anchored.check_eq (anchored : Anchored entries matcher identifier) {whole : Pattern}
    (read : ofChars identifier.anchoredText = .ok whole) :
    check entries keywords = match badKeyword? whole keywords with
      | some keyword => .error (.keywordNotIdentifier keyword.lexeme)
      | none => .ok
          ⟨String.ofList (combinedText entries), matcher, entries.map Entry.role, keywords⟩ := by
  cases bad : badKeyword? whole keywords <;>
    simp only [check, missingRole?_of_complete anchored.complete,
      invalidEntry?_of_reads anchored.reads, readPattern_eq_ok.mpr anchored.combined,
      identifierText_of_first anchored.first, readPattern_eq_ok.mpr read, bad]

theorem ofTables_of_verdict {outcome : Except Failure Vocabulary}
    (verdict : Verdict entries keywords outcome) : ofTables entries keywords = outcome := by
  unfold ofTables
  cases verdict with
  | missing first =>
    have absent : missingRole? entries = some _ := first.find?_eq (by simp)
    rw [check, absent]
    rfl
  | invalid complete first read =>
    rw [check, missingRole?_of_complete complete, invalidEntry?_of_first first read]
    rfl
  | combined readable read =>
    rw [check, missingRole?_of_complete readable.complete, invalidEntry?_of_reads readable.reads,
      readPattern_of_error read]
    rfl
  | anchored joined first read =>
    rw [check, missingRole?_of_complete joined.complete, invalidEntry?_of_reads joined.reads,
      readPattern_eq_ok.mpr joined.combined, identifierText_of_first first,
      readPattern_of_error read]
    rfl
  | keyword anchored first =>
    obtain ⟨whole, read⟩ := anchored.anchored
    have bad : badKeyword? whole keywords = some _ := first.find?_eq fun keyword => by
      rw [← anchored.occursIn_iff read]
      simp
    rw [anchored.check_eq read, bad]
    rfl
  | accepted anchored spelled =>
    obtain ⟨whole, read⟩ := anchored.anchored
    have fine : badKeyword? whole keywords = none :=
      List.find?_eq_none.mpr fun keyword member => by
        simpa using (anchored.occursIn_iff read _).mpr (spelled keyword member)
    rw [anchored.check_eq read, fine]
    rfl

theorem exists_verdict (entries : List Entry) (keywords : List Keyword) :
    ∃ outcome, Verdict entries keywords outcome := by
  rcases exists_isFirst (fun role => ∀ entry ∈ entries, entry.role ≠ role) requiredRoles with
    ⟨role, absent⟩ | present
  · exact ⟨_, .missing absent⟩
  have complete : ∀ role ∈ requiredRoles, ∃ entry ∈ entries, entry.role = role := by
    intro role member
    simpa using present role member
  rcases exists_isFirst (fun entry => ∃ fault, ofString entry.pattern = .error fault) entries with
    ⟨entry, invalid⟩ | valid
  · have ⟨_, _, _, ⟨_, read⟩, _⟩ := invalid
    exact ⟨_, .invalid complete invalid read⟩
  have reads : ∀ entry ∈ entries, ∃ pattern, ofString entry.pattern = .ok pattern := by
    intro entry member
    cases read : ofString entry.pattern with
    | error fault => exact absurd ⟨fault, read⟩ (valid entry member)
    | ok pattern => exact ⟨pattern, rfl⟩
  cases combined : ofChars (combinedText entries) with
  | error fault => exact ⟨_, .combined ⟨complete, reads⟩ combined⟩
  | ok matcher =>
    have joined : Joined entries matcher := ⟨⟨complete, reads⟩, combined⟩
    rcases exists_isFirst (fun entry => entry.role = .token .identifier) entries with
      ⟨identifier, first⟩ | none
    · cases anchored : ofChars identifier.anchoredText with
      | error fault => exact ⟨_, .anchored joined first anchored⟩
      | ok whole =>
        have anchored : Anchored entries matcher identifier := ⟨joined, first, whole, anchored⟩
        rcases exists_isFirst (fun keyword =>
            ¬ identifier.alone.Describes none keyword.lexeme.toList none) keywords with
          ⟨keyword, bad⟩ | spelled
        · exact ⟨_, .keyword anchored bad⟩
        · exact ⟨_, .accepted anchored fun keyword member => not_not.mp (spelled keyword member)⟩
    · obtain ⟨identifier, member, same⟩ := complete (.token .identifier) List.mem_cons_self
      exact absurd same (none identifier member)

/-! ### Names that are used twice -/

theorem role_mem_names (entry : Entry) : entry.role.name ∈ entry.names := by
  unfold Entry.names
  split <;> simp

theorem nodup_roles (used : (entries.flatMap Entry.names).Nodup) :
    (entries.map Entry.role).Nodup := by
  refine List.pairwise_map.mpr ((List.nodup_flatMap.mp used).2.imp ?_)
  intro one other disjoint same
  exact disjoint (role_mem_names one) (same ▸ role_mem_names other)

theorem combined_of_repeated (readable : Readable entries)
    (plain : ∀ entry ∈ entries, entry.neverVerbose)
    (repeated : ¬ (entries.map Entry.role).Nodup ∨ ¬ (entries.flatMap Entry.names).Nodup) :
    ∃ fault : Fault, ofChars (combinedText entries) = .error fault := by
  cases combined : ofChars (combinedText entries) with
  | error fault => exact ⟨fault, rfl⟩
  | ok matcher =>
    have filled := filled_of_complete (missingRole?_of_complete readable.complete)
    have closed : ∀ entry ∈ entries, entry.closed := fun entry member =>
      Entry.closed_of_neverVerbose (plain entry member)
    obtain ⟨-, -, used⟩ := combined_ok filled readable.reads closed combined
    rcases repeated with twice | twice
    · exact absurd (nodup_roles used) twice
    · exact absurd used twice

/-! ### The construction -/

/-- The construction of a vocabulary has the outcome of the first check that fails. Where no pattern
is verbose, a role that occurs twice or a name that two groups have keeps the patterns from being
joined. An accepted vocabulary has the roles of the table in their order, and each lexeme has the
kind of the last keyword with this lexeme. -/
theorem ofTables_verdict (entries : List Entry) (keywords : List Keyword) :
    (∀ outcome, ofTables entries keywords = outcome ↔ Verdict entries keywords outcome) ∧
    (Readable entries → (∀ entry ∈ entries, entry.neverVerbose) →
      ¬ (entries.map Entry.role).Nodup ∨ ¬ (entries.flatMap Entry.names).Nodup →
      ∃ message, ofTables entries keywords =
        .error (.detached (.invalidPattern "<combined>" message))) ∧
    ∀ vocabulary, ofTables entries keywords = .ok vocabulary →
      vocabulary.roles = entries.map Entry.role ∧
      (∀ earlier keyword later, keywords = earlier ++ keyword :: later →
        (∀ other ∈ later, other.lexeme ≠ keyword.lexeme) →
        vocabulary.resolve keyword.lexeme = keyword.kind) ∧
      ∀ lexeme, (∀ keyword ∈ keywords, keyword.lexeme ≠ lexeme) →
        vocabulary.resolve lexeme = .identifier := by
  obtain ⟨allowed, verdict⟩ := exists_verdict entries keywords
  have outcome := ofTables_of_verdict verdict
  refine ⟨fun other => ⟨?_, ofTables_of_verdict⟩, fun readable plain repeated => ?_, ?_⟩
  · rintro rfl
    rwa [outcome]
  · obtain ⟨fault, read⟩ := combined_of_repeated readable plain repeated
    exact ⟨_, ofTables_of_verdict (.combined readable read)⟩
  · intro vocabulary accepted
    rw [outcome] at accepted
    subst accepted
    cases verdict with
    | accepted anchored spelled =>
      refine ⟨rfl, ?_, ?_⟩
      · intro earlier keyword later split last
        exact resolve_of_last split last
      · exact fun lexeme absent => resolve_of_absent absent

/-- A table where a group inside a pattern has the name of a role. -/
def repeatedEntries : List Entry := [⟨.token .plus, "[+]"⟩,
  ⟨.token .identifier, "(?P<PLUS>[a-z])[a-z]*"⟩, ⟨.whitespace, " "⟩, ⟨.anythingElse, "[^ ]+"⟩]

theorem ofTables_verdict_repeated :
    ∃ message, ofTables repeatedEntries [⟨.letKeyword, "LET"⟩] =
      .error (.detached (.invalidPattern "<combined>" message)) := by
  have complete : ∀ role ∈ requiredRoles, ∃ entry ∈ repeatedEntries, entry.role = role := by
    decide
  have reads := read_of_valid (show invalidEntry? repeatedEntries = none by decide +kernel)
  exact (ofTables_verdict repeatedEntries _).2.1 ⟨complete, reads⟩ (by decide +kernel)
    (.inr (by decide +kernel))

end Vocabulary

end Lexicon
