import Lexicon.Proofs.Command.Outcome
import Lexicon.Proofs.Lexeme.Literal
import Lexicon.Proofs.Scan.Munch

/-! What a listing tells.

Nothing in a listing is escaped, and a string may hold what looks like other lines of a listing.
Still the tokens can be read back. A line number and the name of a kind hold no space, and a lexeme
that is no string holds no newline. A string ends where its scan has ended it: if its last mark is
escaped, no mark follows in the source, and so none in the listing. Main statement: two sources with
the same listing have the same tokens (`listing_injective`).
-/

set_option autoImplicit false

namespace Lexicon.Command

open Text Vocabulary Diagnostic

def listed (tokens : List Token) : List Char :=
  tokens.flatMap fun token => token.display.toList ++ ['\n']

theorem toList_listing (tokens : List Token) : (listing tokens).toList = listed tokens := by
  rw [listing_eq, String.toList_join, List.flatMap_map, listed]
  simp

theorem listed_cons (token : Token) (later : List Token) :
    listed (token :: later) = (toString token.line).toList ++ ' ' ::
      (token.kind.name.toList ++ ' ' :: (token.lexeme.toList ++ '\n' :: listed later)) := by
  simp [listed, Token.display]

/-! ### Reading back -/

theorem field_unique {c : Char} {left right other rest : List Char} (outside : c ∉ left)
    (apart : c ∉ other) (same : left ++ c :: right = other ++ c :: rest) :
    left = other ∧ right = rest := by
  have field : left = other := @eq_of_runs _ (· ≠ c) _ _ _ _ same
    (fun d member => ne_of_mem_of_not_mem member outside)
    (fun d head other => other (Option.some.inj head).symm)
    (fun d member => ne_of_mem_of_not_mem member apart)
    (fun d head other => other (Option.some.inj head).symm)
  rw [field] at same
  exact ⟨field, (List.cons.inj (List.append_cancel_left same)).2⟩

/-- A lexeme that ends where a listing goes on with a newline and `rest`. -/
structure Readable (token : Token) (rest : List Char) : Prop where
  string : token.kind = .string →
    ∃ body, token.lexeme.toList = inMarks body ∧ Literal body ('\n' :: rest)
  plain : token.kind ≠ .string → '\n' ∉ token.lexeme.toList

theorem Readable.unique {token other : Token} {rest more : List Char}
    (readable : Readable token rest) (again : Readable other more) (kind : token.kind = other.kind)
    (same : token.lexeme.toList ++ '\n' :: rest = other.lexeme.toList ++ '\n' :: more) :
    token.lexeme = other.lexeme ∧ rest = more := by
  by_cases string : token.kind = .string
  · obtain ⟨body, own, literal⟩ := readable.string string
    obtain ⟨part, another, closed⟩ := again.string (kind ▸ string)
    rw [own, another, inMarks_append, inMarks_append] at same
    obtain ⟨rfl, tail⟩ := literal.unique closed (List.cons.inj same).2
    exact ⟨String.toList_inj.mp (own.trans another.symm), (List.cons.inj tail).2⟩
  · obtain ⟨lexeme, tail⟩ := field_unique (readable.plain string) (again.plain (kind ▸ string)) same
    exact ⟨String.toList_inj.mp lexeme, tail⟩

inductive Listable : List Token → Prop where
  | nil : Listable []
  | cons {token : Token} {later : List Token} :
      Readable token (listed later) → Listable later → Listable (token :: later)

theorem name_plain (kind : Kind) : ' ' ∉ kind.name.toList ∧ '"' ∉ kind.name.toList := by
  cases kind <;> decide

theorem number_unique {left right : Nat}
    (same : (toString left).toList = (toString right).toList) : left = right := by
  have values := congrArg (Nat.ofDigitChars 10 · 0) same
  simpa [Nat.toList_repr, Nat.ofDigitChars_toDigits] using values

theorem Listable.unique {tokens others : List Token} (listable : Listable tokens)
    (again : Listable others) (same : listed tokens = listed others) : tokens = others := by
  induction listable generalizing others with
  | nil =>
    cases again with
    | nil => rfl
    | cons => simp [listed] at same
  | @cons token later readable listable ih =>
    cases again with
    | nil => simp [listed] at same
    | @cons other more another rest =>
      rw [listed_cons, listed_cons] at same
      obtain ⟨line, behind⟩ := field_unique (not_mem_toString rfl _) (not_mem_toString rfl _) same
      obtain ⟨name, text⟩ := field_unique (name_plain _).1 (name_plain _).1 behind
      have kind := Kind.name_injective (String.toList_inj.mp name)
      obtain ⟨lexeme, tail⟩ := readable.unique another kind text
      have number := number_unique line
      have whole : token = other := by
        cases token
        cases other
        simp only [Token.mk.injEq]
        exact ⟨kind, lexeme, number⟩
      rw [ih rest tail, whole]

/-! ### Listings of scans -/

theorem string_iff_of_resolves {declared kind : Kind} {lexeme : String}
    (resolves : Resolves declared lexeme kind) : kind = .string ↔ declared = .string := by
  have keywords : ∀ keyword ∈ standardKeywords, keyword.kind ≠ .string := by decide
  cases resolves with
  | keyword listed => simp [keywords _ listed]
  | identifier absent => rfl
  | other plain => rfl

theorem readable_of_longest {declared kind : Kind} {lexeme rest later : List Char} {line : Nat}
    (longest : Longest (lexeme ++ rest) lexeme) (spelled : Spells (.token declared) lexeme)
    (resolves : Resolves declared (String.ofList lexeme) kind)
    (marks : '"' ∈ later → '"' ∈ rest) :
    Readable ⟨kind, String.ofList lexeme, line⟩ later := by
  have own : (String.ofList lexeme).toList = lexeme := String.toList_ofList
  constructor
  · intro string
    obtain rfl := (string_iff_of_resolves resolves).mp string
    obtain ⟨body, rfl, literal⟩ := literal_of_longest longest spelled
    refine ⟨body, own, literal.escaped, fun escaped mark => literal.closing escaped (marks ?_)⟩
    exact List.mem_of_ne_of_mem (by decide) mark
  · intro plain newline
    rw [own] at newline
    have space : IsSpace '\n' := isSpace_iff.mpr (by decide)
    have other : declared ≠ .string :=
      fun string => plain ((string_iff_of_resolves resolves).mpr string)
    exact spelled.solid other '\n' newline space

theorem mark_mem_listed {token : Token} {later : List Token} :
    '"' ∈ listed (token :: later) ↔ '"' ∈ token.lexeme.toList ∨ '"' ∈ listed later := by
  have digits : '"' ∉ (toString token.line).toList := not_mem_toString rfl token.line
  have name := (name_plain token.kind).2
  rw [listed_cons]
  simp only [List.mem_append, List.mem_cons, digits, name, false_or]
  simp

theorem listable_of_munches {place : Position} {text : List Char} {tokens : List Token}
    (munches : Munches place text (.ok tokens)) :
    Listable tokens ∧ ('"' ∈ listed tokens → '"' ∈ text) := by
  generalize same : (.ok tokens : Except Failure (List Token)) = outcome at munches
  induction munches generalizing tokens with
  | finished =>
    cases same
    exact ⟨.nil, fun mark => by cases mark⟩
  | blank longest spelled rest ih =>
    obtain ⟨listable, marks⟩ := ih same
    exact ⟨listable, fun mark => List.mem_append_right _ (marks mark)⟩
  | @token place declared kind lexeme rest outcome longest spelled resolves later ih =>
    cases outcome with
    | error failure => cases same
    | ok others =>
      cases same
      obtain ⟨listable, marks⟩ := ih rfl
      refine ⟨.cons (readable_of_longest longest spelled resolves marks) listable, fun mark => ?_⟩
      rw [mark_mem_listed, String.toList_ofList] at mark
      exact List.mem_append.mpr (mark.imp_right marks)
  | stuck => cases same

theorem listable_of_accepted {source : String} {tokens : List Token}
    (accepted : tokenize source = .ok (.ok tokens)) : Listable tokens := by
  have outcome := Except.ok.inj ((tokenize_eq source).symm.trans accepted)
  exact (listable_of_munches (munches_iff.mpr outcome.symm)).1

/-- Sources with the same listing have the same tokens. -/
theorem listing_injective {source other : String} {tokens others : List Token}
    (accepted : tokenize source = .ok (.ok tokens)) (again : tokenize other = .ok (.ok others))
    (same : listing tokens = listing others) : tokens = others := by
  refine (listable_of_accepted accepted).unique (listable_of_accepted again) ?_
  rw [← toList_listing, ← toList_listing, same]

/-- The first string holds what looks like a line of a listing, and the last one ends at an escaped
mark. The spaces are not listed. -/
theorem listing_injective_nested :
    ∃ tokens others, tokenize "\"\n2 IF if\"x\"\\\"" = .ok (.ok tokens) ∧
      tokenize "\"\n2 IF if\" x \"\\\"\n" = .ok (.ok others) ∧
      listing tokens = "1 STRING \"\n2 IF if\"\n2 IDENTIFIER x\n2 STRING \"\\\"\n" ∧
      listing tokens = listing others ∧ tokens = others := by
  have scanned : ofStandardRows.scan "\"\n2 IF if\"x\"\\\"" =
      .ok ⟨[⟨.string, "\"\n2 IF if\"", 1⟩, ⟨.identifier, "x", 2⟩, ⟨.string, "\"\\\"", 2⟩],
        none⟩ := by
    decide +kernel
  have spaced : ofStandardRows.scan "\"\n2 IF if\" x \"\\\"\n" =
      .ok ⟨[⟨.string, "\"\n2 IF if\"", 1⟩, ⟨.identifier, "x", 2⟩, ⟨.string, "\"\\\"", 2⟩],
        none⟩ := by
    decide +kernel
  have known := scan_of_standard standard_eq
  have accepted := congrArg (Except.map Scan.result) ((known _).trans scanned)
  have again := congrArg (Except.map Scan.result) ((known _).trans spaced)
  exact ⟨_, _, accepted, again, by decide +kernel, rfl, listing_injective accepted again rfl⟩

end Lexicon.Command
