import Lexicon.Proofs.Pattern.Congruence
import Lexicon.Proofs.Scan.Matches
import Lexicon.Proofs.Vocabulary.Verdict

/-! Which keywords a scan recognises.

A keyword is accepted if the pattern of identifiers describes it, by any of its choices. A scan
takes the one match that the pattern prefers. Main statement: with the pattern of identifiers in
front, a keyword is scanned as its own token if and only if this match is all of it
(`scan_keyword`).
-/

set_option autoImplicit false

namespace Lexicon

open Pattern Text

namespace Vocabulary

variable {entries : List Entry} {keywords : List Keyword} {vocabulary : Vocabulary}

theorem anchored_of_ofTables (accepted : ofTables entries keywords = .ok vocabulary) :
    ∃ identifier, Anchored entries vocabulary.matcher identifier ∧ vocabulary.keywords = keywords ∧
      ∀ keyword ∈ keywords, identifier.alone.Describes none keyword.lexeme.toList none := by
  obtain ⟨outcome, verdict⟩ := exists_verdict entries keywords
  rw [ofTables_of_verdict verdict] at accepted
  subst accepted
  cases verdict with
  | accepted anchored spelled => exact ⟨_, anchored, rfl, spelled⟩

theorem Follows.of_first {first : Entry} {rest : List Entry}
    (follows : vocabulary.Follows (first :: rest)) {before : Option Char} {text : List Char}
    {hit : Hit} (alone : first.alone.matchHere? before text = some hit) :
    ∃ groups, vocabulary.matcher.matchHere? before text = some ⟨hit.taken, groups⟩ ∧
      vocabulary.roles.filter (fun role => groups.contains role.name) = [first.role] := by
  have wins : winner? (first :: rest) before text = some (first, hit.taken) := by
    simp [winner?, alone]
  cases found : vocabulary.matcher.matchHere? before text with
  | none =>
    rw [follows.misses _ _ found] at wins
    cases wins
  | some joined =>
    obtain ⟨entry, -, same, only⟩ := follows.hits _ _ _ found
    rw [wins] at same
    obtain ⟨rfl, taken⟩ := Prod.mk.inj (Option.some.inj same)
    exact ⟨joined.groups, by rw [taken], only⟩

section Scanned

variable {lexeme : String} {found : Match}

theorem token?_of_identifier (known : vocabulary.classify found = .ok (.token .identifier))
    (text : List Char) : vocabulary.token? text found =
      some ⟨vocabulary.resolve found.text, found.text, lineAt text found.start⟩ := by
  rw [token?, known]
  rfl

theorem scan_lexeme {hit : Hit} (here : vocabulary.matcher.matchHere? none lexeme.toList = some hit)
    (only : vocabulary.roles.filter (fun role => hit.groups.contains role.name) =
      [.token .identifier]) :
    (vocabulary.scan lexeme).map Scan.result =
        .ok (.ok [⟨vocabulary.resolve lexeme, lexeme, 1⟩]) ↔ hit.taken = lexeme.length := by
  constructor
  · intro scanned
    obtain ⟨head, later, all, text, groups⟩ := allMatches_head here
    have known : vocabulary.classify head = .ok (.token .identifier) :=
      classify_of_filter (groups ▸ only)
    obtain ⟨-, leads⟩ := vocabulary.head_of_accepted all scanned
    obtain ⟨_, tokens⟩ := leads _ (token?_of_identifier known _)
    have same : lexeme = head.text := congrArg Token.lexeme (List.cons.inj tokens).1
    rw [text] at same
    have size := congrArg String.length same
    have bound := matchHere?_taken here
    rw [String.length_ofList, List.length_take, String.length_toList] at size
    rw [String.length_toList] at bound
    omega
  · intro whole
    have all := allMatches_whole here (whole.trans String.length_toList.symm)
    rw [String.ofList_toList] at all
    have known : vocabulary.classify ⟨0, width lexeme.toList, lexeme, hit.groups⟩ =
        .ok (.token .identifier) := classify_of_filter only
    have quiet := cause?_of_role known (by simp)
    rw [scan_eq, emitted, all, passed_cons quiet, tokensOf_cons (token?_of_identifier known _)]
    simp only [List.findSome?_cons, failure?, quiet]
    rfl

end Scanned

/-- A keyword of an accepted table with the pattern of identifiers in front: the pattern has a match
where the lexeme begins, and the lexeme is scanned as one token, of the kind that its last keyword
has, exactly if this match is all of it. -/
theorem scan_keyword {identifier : Entry} {rest : List Entry}
    (accepted : ofTables (identifier :: rest) keywords = .ok vocabulary)
    (leads : identifier.role = .token .identifier)
    (closed : ∀ entry ∈ identifier :: rest, entry.closed) {earlier later : List Keyword}
    {keyword : Keyword} (listed : keywords = earlier ++ keyword :: later)
    (last : ∀ other ∈ later, other.lexeme ≠ keyword.lexeme) :
    ∃ hit, identifier.alone.matchHere? none keyword.lexeme.toList = some hit ∧
      ((vocabulary.scan keyword.lexeme).map Scan.result =
          .ok (.ok [⟨keyword.kind, keyword.lexeme, 1⟩]) ↔
        hit.taken = keyword.lexeme.length) := by
  obtain ⟨first, anchored, table, spelled⟩ := anchored_of_ofTables accepted
  obtain rfl := anchored.first.eq_head leads
  have described := spelled keyword (by simp [listed])
  have found := matchHere?_isSome_iff.mpr ⟨_, [], (List.append_nil _).symm, described⟩
  obtain ⟨hit, alone⟩ := Option.isSome_iff_exists.mp found
  obtain ⟨groups, here, only⟩ :=
    ((accepted_of_ofTables accepted).follows closed).of_first alone
  rw [leads] at only
  have scanned := scan_lexeme here only
  rw [resolve_of_last (table.trans listed) last] at scanned
  exact ⟨hit, alone, scanned⟩

/-- A table whose identifiers have a longer choice in front, with two keywords of one lexeme. -/
def longerEntries : List Entry := [⟨.token .identifier, "[a-z]{2}|[a-z]"⟩, ⟨.whitespace, " +"⟩,
  ⟨.anythingElse, "[^ ]+"⟩]

def twiceKeywords : List Keyword := [⟨.endKeyword, "ab"⟩, ⟨.letKeyword, "ab"⟩]

theorem scan_keyword_longer :
    ∃ vocabulary, ofTables longerEntries twiceKeywords = .ok vocabulary ∧
      (vocabulary.scan "ab").map Scan.result = .ok (.ok [⟨.letKeyword, "ab", 1⟩]) := by
  obtain ⟨vocabulary, accepted, -⟩ : ∃ vocabulary,
      ofTables longerEntries twiceKeywords = .ok vocabulary ∧
        vocabulary.keywords = twiceKeywords :=
    accepted_of_run (by decide +kernel)
  have closed : ∀ entry ∈ longerEntries, entry.closed := by decide +kernel
  have listed : twiceKeywords = [⟨.endKeyword, "ab"⟩] ++ ⟨.letKeyword, "ab"⟩ :: [] := rfl
  obtain ⟨hit, alone, scanned⟩ := scan_keyword accepted rfl closed listed (by simp)
  have taken : ((⟨.token .identifier, "[a-z]{2}|[a-z]"⟩ : Entry).alone.matchHere? none
      "ab".toList).map Hit.taken = some 2 := by decide +kernel
  refine ⟨vocabulary, accepted, scanned.mpr ?_⟩
  rw [alone] at taken
  exact Option.some.inj taken

theorem scan_of_run {source : String} {scan : Scan}
    (run : (ofTables entries keywords).toOption.map
      (fun vocabulary => (vocabulary.scan source).toOption) = some (some scan)) :
    ∃ vocabulary, ofTables entries keywords = .ok vocabulary ∧ vocabulary.scan source = .ok scan := by
  obtain ⟨vocabulary, accepted, scanned⟩ := accepted_of_run run
  refine ⟨vocabulary, accepted, ?_⟩
  cases ended : vocabulary.scan source with
  | error crash => simp [ended, Except.toOption] at scanned
  | ok other =>
    rw [ended] at scanned
    exact congrArg Except.ok (Option.some.inj scanned)

def shorterEntries : List Entry := [⟨.token .identifier, "a|ab"⟩, ⟨.whitespace, " +"⟩,
  ⟨.anythingElse, "[^ ]+"⟩]

/-- A table where an open comment hides the head of a group, so that a group inside the pattern of
identifiers can have the name of that role. -/
def hiddenEntries : List Entry := [⟨.token .identifier, "(?P<MODULUS>[a-z]+)"⟩,
  ⟨.token .plus, "(?x)\\+#"⟩, ⟨.token .modulus, "[\n)|(%\\]]+"⟩, ⟨.whitespace, "\\s+"⟩,
  ⟨.anythingElse, "\\S+"⟩]

/-- An accepted keyword need not be scanned as its own token: the pattern of identifiers may prefer
a part of it. Nor need it be scanned as a token at all where a comment is left open. -/
theorem keyword_not_scanned :
    (∃ vocabulary, ofTables shorterEntries [⟨.letKeyword, "ab"⟩] = .ok vocabulary ∧
      vocabulary.scan "ab" =
        .ok ⟨[⟨.identifier, "a", 1⟩], some ⟨.unexpectedSymbol "b", ⟨1, 1⟩⟩⟩) ∧
    ∃ vocabulary, ofTables hiddenEntries [⟨.letKeyword, "ab"⟩] = .ok vocabulary ∧
      vocabulary.scan "ab" =
        .ok ⟨[], some ⟨.ambiguousMatch "ab" 0 ["IDENTIFIER", "MODULUS"], ⟨0, 1⟩⟩⟩ := by
  exact ⟨scan_of_run (by decide +kernel), scan_of_run (by decide +kernel)⟩

end Vocabulary

end Lexicon
