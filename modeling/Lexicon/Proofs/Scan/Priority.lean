import Lexicon.Proofs.Lexeme.Order
import Lexicon.Proofs.Pattern.Congruence
import Lexicon.Proofs.Scan.Segments
import Lexicon.Proofs.Vocabulary.Reordered
import Mathlib.Data.List.Perm.Basic

/-! What the order of the standard table means for scans.

Main statement: the standard table makes a vocabulary in every order, and its scans are the same as
those of the language if and only if each operator stands behind the longer ones that begin with it
and anything else stands behind all tokens (`scan_reordered_iff`).
-/

set_option autoImplicit false

namespace Lexicon

open Pattern Text

/-! ### Vocabularies that classify alike -/

namespace Scan

theorem ofMatches_congr {one other : Vocabulary} (keywords : one.keywords = other.keywords)
    {found : List Match} (same : ∀ part ∈ found, one.classify part = other.classify part)
    (lines : LineTracker) (tokens : List Token) :
    ofMatches one lines tokens found = ofMatches other lines tokens found := by
  have resolve (lexeme : String) : one.resolve lexeme = other.resolve lexeme := by
    rw [Vocabulary.resolve, keywords, Vocabulary.resolve]
  induction found generalizing lines tokens with
  | nil => rfl
  | cons part rest ih =>
    have later := ih fun other member => same other (List.mem_cons_of_mem part member)
    unfold ofMatches
    simp only [same part List.mem_cons_self, later, resolve]

end Scan

namespace Vocabulary

theorem token?_of_kind {vocabulary : Vocabulary} {found : Match} {kind : Kind}
    (known : vocabulary.classify found = .ok (.token kind)) (plain : kind ≠ .identifier)
    (text : List Char) : vocabulary.token? text found =
      some ⟨kind, found.text, lineAt text found.start⟩ := by
  rw [token?, known]
  simp only [if_neg plain]

variable {rows : List Row} {vocabulary : Vocabulary}

theorem kind_of_outranks {role other : Role} (higher : outranks role other = true) :
    ∃ kind, role = .token kind := by
  cases role with
  | token kind => exact ⟨kind, rfl⟩
  | _ => cases higher

/-- The vocabulary of the language but for the order of its rows. -/
structure Reorders (vocabulary : Vocabulary) (rows : List Row) : Prop where
  perm : rows.Perm standardRows
  matcher : vocabulary.matcher = matcherOf rows
  roles : vocabulary.roles = rows.map Row.role
  keywords : vocabulary.keywords = standardKeywords

namespace Reorders

variable (reorders : vocabulary.Reorders rows)
include reorders

theorem distinct : (rows.map Row.role).Nodup :=
  (reorders.perm.map Row.role).nodup_iff.mpr distinct_standard

theorem classify {row : Row} (listed : row ∈ rows) {found : Match}
    (groups : found.groups = [row.role.name]) : vocabulary.classify found = .ok row.role := by
  have standard := List.mem_map_of_mem (f := Row.role) (reorders.perm.mem_iff.mp listed)
  have only := classify_named row.role standard
  have perm := (reorders.perm.map Row.role).filter fun role => found.groups.contains role.name
  rw [groups] at perm
  have same : vocabulary.roles.filter (fun role => found.groups.contains role.name) =
      [row.role] := by
    rw [reorders.roles, groups]
    exact List.perm_singleton.mp (perm.trans (List.Perm.of_eq only))
  exact classify_of_filter same

theorem groups_of_allMatches {text : List Char} {found : Match}
    (member : found ∈ vocabulary.matcher.allMatches text) :
    ∃ row ∈ rows, found.groups = [row.role.name] := by
  obtain ⟨before, rest, hit, here, groups⟩ := Pattern.groups_of_allMatches member
  rw [reorders.matcher, matcherOf_matchHere?] at here
  obtain ⟨⟨row, size⟩, first, rfl⟩ := Option.map_eq_some_iff.mp here
  exact ⟨row, (mem_of_firstRow? first).1, groups⟩

theorem scan_eq_standard (same : ∀ text, firstRow? rows text = firstRow? standardRows text)
    (source : String) : vocabulary.scan source = ofStandardRows.scan source := by
  have alike (before : Option Char) (text : List Char) :
      vocabulary.matcher.matchHere? before text = ofStandardRows.matcher.matchHere? before text := by
    rw [reorders.matcher, matcherOf_matchHere?, same, ← matcherOf_matchHere?]
    rfl
  unfold Vocabulary.scan
  dsimp only
  rw [← allMatches_congr alike]
  refine Scan.ofMatches_congr reorders.keywords (fun found member => ?_) _ _
  obtain ⟨row, listed, groups⟩ := reorders.groups_of_allMatches member
  have standard := List.mem_map_of_mem (f := Row.role) (reorders.perm.mem_iff.mp listed)
  rw [reorders.classify listed groups, classify_standard standard groups]

theorem scan_sample_ne {row first : Row} {kind : Kind} {size : Nat} (listed : row ∈ standardRows)
    (role : row.role = .token kind)
    (found : firstRow? rows row.shape.sample = some (first, size)) (other : first ≠ row) :
    (vocabulary.scan (String.ofList row.shape.sample)).map Scan.result ≠
      tokenize (String.ofList row.shape.sample) := by
  intro same
  obtain ⟨firstListed, extent⟩ := mem_of_firstRow? found
  have standard := reorders.perm.mem_iff.mp firstListed
  obtain ⟨white, identifier⟩ := (rivals_sample row listed first standard (by simp [role])
    (by simp [role]) (by simp [extent])).resolve_left other
  have here : vocabulary.matcher.matchHere? none row.shape.sample =
      some ⟨size, [first.role.name]⟩ := by
    rw [reorders.matcher, matcherOf_matchHere?, found]
    rfl
  obtain ⟨head, later, all, -, groups⟩ := allMatches_head here
  have known := reorders.classify firstListed groups
  rw [tokenize, scan_of_standard standard_eq, scan_sample row listed kind kind.mem_all role] at same
  obtain ⟨quiet, leads⟩ :=
    vocabulary.head_of_accepted ((String.toList_ofList (l := row.shape.sample)).symm ▸ all) same
  cases own : first.role with
  | whitespace => exact white own
  | anythingElse =>
    rw [own] at known
    simp [cause?, known] at quiet
  | token declared =>
    rw [own] at known
    have plain : declared ≠ .identifier := fun same => identifier (same ▸ own)
    -- The kind of the first token tells the two rows apart.
    obtain ⟨rest, tokens⟩ := leads _ (token?_of_kind known plain _)
    have kinds := congrArg Token.kind (List.cons.inj tokens).1
    have roles : first.role = row.role := by
      rw [own, role]
      exact congrArg Role.token kinds.symm
    exact other (List.inj_on_of_nodup_map distinct_standard standard listed roles)

theorem scan_eq_iff :
    (∀ source, (vocabulary.scan source).map Scan.result = tokenize source) ↔
      ∀ role ∈ vocabulary.roles, ∀ other ∈ vocabulary.roles, outranks role other = true →
        vocabulary.roles.idxOf role < vocabulary.roles.idxOf other := by
  rw [reorders.roles]
  constructor
  · intro same role named other otherNamed higher
    obtain ⟨row, listed, rfl⟩ := List.mem_map.mp named
    obtain ⟨rival, otherListed, rfl⟩ := List.mem_map.mp otherNamed
    have standard := reorders.perm.mem_iff.mp listed
    have otherStandard := reorders.perm.mem_iff.mp otherListed
    have competes := extent_sample row standard rival otherStandard higher
    obtain ⟨size, extent⟩ := Option.isSome_iff_exists.mp competes
    obtain ⟨first, taken, found⟩ := exists_firstRow? otherListed extent
    have least := firstRow?_least reorders.distinct found otherListed extent
    obtain ⟨kind, role⟩ := kind_of_outranks higher
    have leads : first = row := Classical.byContradiction fun other =>
      reorders.scan_sample_ne standard role found other (same _)
    rw [leads] at least
    refine Nat.lt_of_le_of_ne least fun place => ?_
    have before := outranks_standard row standard rival otherStandard higher
    rw [(List.idxOf_inj named).mp place] at before
    exact Nat.lt_irrefl _ before
  · intro ordered source
    have first := firstRow?_reordered reorders.perm fun row listed other otherListed =>
      ordered row.role (List.mem_map_of_mem (reorders.perm.mem_iff.mpr listed))
        other.role (List.mem_map_of_mem (reorders.perm.mem_iff.mpr otherListed))
    rw [reorders.scan_eq_standard first, tokenize, scan_of_standard standard_eq]

end Reorders

/-! ### Tables -/

variable {entries : List Entry}

def Precedes (entries : List Entry) (role other : Role) : Prop :=
  (entries.map Entry.role).idxOf role < (entries.map Entry.role).idxOf other

instance {role other : Role} : Decidable (Precedes entries role other) := Nat.decLt _ _

/-- The order that the standard table has to keep. -/
structure Prioritized (entries : List Entry) : Prop where
  operators : ∀ pair ∈ extensions, Precedes entries (.token pair.1) (.token pair.2)
  anythingElse : ∀ entry ∈ entries, ∀ kind, entry.role = .token kind →
    Precedes entries (.token kind) .anythingElse

instance : Decidable (Prioritized entries) :=
  decidable_of_iff
    ((∀ pair ∈ extensions, Precedes entries (.token pair.1) (.token pair.2)) ∧
      ∀ entry ∈ entries, ∀ kind ∈ Kind.all, entry.role = .token kind →
        Precedes entries (.token kind) .anythingElse)
    ⟨fun ⟨operators, tokens⟩ =>
      ⟨operators, fun entry listed kind => tokens entry listed kind kind.mem_all⟩,
     fun ⟨operators, tokens⟩ => ⟨operators, fun entry listed kind _ => tokens entry listed kind⟩⟩

theorem extensions_standard : ∀ pair ∈ extensions,
    .token pair.1 ∈ standardEntries.map Entry.role ∧
      .token pair.2 ∈ standardEntries.map Entry.role := by
  decide +kernel

theorem prioritized_iff (reordered : entries.Perm standardEntries) : Prioritized entries ↔
    ∀ role ∈ entries.map Entry.role, ∀ other ∈ entries.map Entry.role,
      outranks role other = true → Precedes entries role other := by
  have roles (role : Role) : role ∈ entries.map Entry.role ↔
      role ∈ standardEntries.map Entry.role := (reordered.map Entry.role).mem_iff
  constructor
  · intro prioritized role named other otherNamed higher
    obtain ⟨entry, listed, rfl⟩ := List.mem_map.mp named
    obtain ⟨kind, role⟩ := kind_of_outranks higher
    rw [role] at higher ⊢
    cases other with
    | token shorter =>
      exact prioritized.operators (kind, shorter) (List.contains_iff_mem.mp higher)
    | anythingElse => exact prioritized.anythingElse entry listed kind role
    | whitespace => cases higher
  · intro ordered
    constructor
    · intro pair listed
      obtain ⟨first, second⟩ := extensions_standard pair listed
      exact ordered _ ((roles _).mpr first) _ ((roles _).mpr second)
        (List.contains_iff_mem.mpr listed)
    · intro entry listed kind role
      exact ordered _ (List.mem_map.mpr ⟨entry, listed, role⟩) _ ((roles _).mpr (by decide)) rfl

theorem portable_standard : ∀ entry ∈ standardEntries, entry.portable := by decide +kernel

theorem alone_standard : standardEntries.map (fun entry => (entry.role, entry.alone)) =
    standardRows.map fun row => (row.role, row.shape.pattern) := by
  have read := congrArg (List.map fun pair => (pair.1, pair.2.getD .never)) standardEntries_read
  rw [List.map_map, List.map_map] at read
  have alone (entry : Entry) : entry.alone =
      ((Pattern.ofString entry.pattern).toOption).getD .never := by
    unfold Entry.alone
    cases Pattern.ofString entry.pattern <;> rfl
  simp only [alone]
  exact read

theorem exists_reorders (reordered : entries.Perm standardEntries) :
    ∃ vocabulary rows, ofTables entries standardKeywords = .ok vocabulary ∧
      vocabulary.Reorders rows ∧ vocabulary.roles = entries.map Entry.role := by
  have distinct : (standardEntries.map Entry.role).Nodup := by
    rw [roles_standard]
    exact distinct_standard
  have accepted := ofTables_reordered reordered portable_standard distinct (by decide)
    check_standard
  have perm := reordered.map fun entry => (entry.role, entry.alone)
  rw [alone_standard] at perm
  obtain ⟨rows, same, perm⟩ := (congrFun (congrFun (List.eq_map_comp_perm _) _) _).mpr perm
  have roles := congrArg (List.map Prod.fst) same
  have patterns := congrArg (List.map fun pair => Pattern.group pair.1.name pair.2) same
  rw [List.map_map, List.map_map] at roles patterns
  refine ⟨_, rows, accepted, ⟨perm, ?_, roles, rfl⟩, rfl⟩
  exact congrArg Pattern.oneOf patterns

/-- The standard table makes a vocabulary in every order. This vocabulary scans every source as the
language does if and only if the table keeps the order of the longer operators and the shorter
ones, and has all tokens before anything else. -/
theorem scan_reordered_iff (reordered : entries.Perm standardEntries) :
    ∃ vocabulary, ofTables entries standardKeywords = .ok vocabulary ∧
      ((∀ source, (vocabulary.scan source).map Scan.result = tokenize source) ↔
        Prioritized entries) := by
  obtain ⟨vocabulary, rows, accepted, reorders, roles⟩ := exists_reorders reordered
  refine ⟨vocabulary, accepted, ?_⟩
  rw [reorders.scan_eq_iff, prioritized_iff reordered, roles]
  rfl

theorem scan_reordered_iff_reverse :
    (∃ vocabulary, ofTables standardEntries.reverse standardKeywords = .ok vocabulary ∧
      ¬ ∀ source, (vocabulary.scan source).map Scan.result = tokenize source) ∧
    ∃ vocabulary,
      ofTables (standardEntries.take 25 ++ (standardEntries.drop 25).reverse) standardKeywords =
        .ok vocabulary ∧
      ∀ source, (vocabulary.scan source).map Scan.result = tokenize source := by
  constructor
  · obtain ⟨vocabulary, accepted, same⟩ := scan_reordered_iff (List.reverse_perm standardEntries)
    exact ⟨vocabulary, accepted, fun always => absurd (same.mp always) (by decide +kernel)⟩
  · obtain ⟨vocabulary, accepted, same⟩ :=
      @scan_reordered_iff (standardEntries.take 25 ++ (standardEntries.drop 25).reverse)
        (by decide +kernel)
    exact ⟨vocabulary, accepted, same.mpr (by decide +kernel)⟩

end Vocabulary

end Lexicon
