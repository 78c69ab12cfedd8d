import Lexicon.Proofs.Pattern.Sequence
import Lexicon.Proofs.Source.Tracking
import Lexicon.Scan
import Mathlib.Data.List.TakeWhile

/-! Scans as functions of the matches.

A scan asks its tracker for the line of some of the matches only. Their places never decrease,
so the tracker answers each time and the outcome can be told without it (`scan_eq`).
-/

set_option autoImplicit false

namespace Lexicon

open Text

namespace Vocabulary

variable (vocabulary : Vocabulary)

def cause? (found : Match) : Option Cause :=
  match vocabulary.classify found with
  | .error defect => some defect
  | .ok .anythingElse => some (.unexpectedSymbol found.text)
  | .ok _ => none

def failure? (text : List Char) (found : Match) : Option Failure :=
  (vocabulary.cause? found).map (⟨·, ⟨found.start, lineAt text found.start⟩⟩)

def token? (text : List Char) (found : Match) : Option Token :=
  match vocabulary.classify found with
  | .ok (.token role) =>
      let kind := if role = .identifier then vocabulary.resolve found.text else role
      some ⟨kind, found.text, lineAt text found.start⟩
  | _ => none

/-- The matches before the first one that ends a scan. -/
def passed (found : List Match) : List Match :=
  found.takeWhile fun one => (vocabulary.cause? one).isNone

def tokensOf (text : List Char) (found : List Match) : List (Match × Token) :=
  found.filterMap fun one => (vocabulary.token? text one).map (one, ·)

/-- The tokens of a scan, each with its match. -/
def emitted (source : String) : List (Match × Token) :=
  vocabulary.tokensOf source.toList
    (vocabulary.passed (vocabulary.matcher.allMatches source.toList))

section Steps

variable {vocabulary : Vocabulary} {one : Match} {role : Role}

theorem cause?_of_role (known : vocabulary.classify one = .ok role) (lexical : role ≠ .anythingElse) :
    vocabulary.cause? one = none := by
  unfold cause?
  rw [known]
  cases role with
  | anythingElse => exact absurd rfl lexical
  | whitespace => rfl
  | token kind => rfl

theorem passed_cons (quiet : vocabulary.cause? one = none) (rest : List Match) :
    vocabulary.passed (one :: rest) = one :: vocabulary.passed rest :=
  List.takeWhile_cons_of_pos (Option.isNone_iff_eq_none.mpr quiet)

theorem passed_stop {cause : Cause} (stop : vocabulary.cause? one = some cause)
    (rest : List Match) : vocabulary.passed (one :: rest) = [] :=
  List.takeWhile_cons_of_neg (by simp [stop])

theorem passed_append {earlier : List Match}
    (quiet : ∀ one ∈ earlier, vocabulary.cause? one = none) (rest : List Match) :
    vocabulary.passed (earlier ++ rest) = earlier ++ vocabulary.passed rest :=
  List.takeWhile_append_of_pos fun one member =>
    Option.isNone_iff_eq_none.mpr (quiet one member)

theorem tokensOf_skip {text : List Char} (silent : vocabulary.token? text one = none)
    (rest : List Match) : vocabulary.tokensOf text (one :: rest) = vocabulary.tokensOf text rest :=
  List.filterMap_cons_none (by rw [silent]; rfl)

theorem tokensOf_cons {text : List Char} {token : Token}
    (own : vocabulary.token? text one = some token) (rest : List Match) :
    vocabulary.tokensOf text (one :: rest) = (one, token) :: vocabulary.tokensOf text rest :=
  List.filterMap_cons_some (by rw [own]; rfl)

theorem tokensOf_tokens (text : List Char) (found : List Match) :
    (vocabulary.tokensOf text found).map Prod.snd = found.filterMap (vocabulary.token? text) := by
  rw [tokensOf, List.map_filterMap]
  congr 1
  funext one
  simp only [Option.map_map, Function.comp_def, Option.map_id']

end Steps

end Vocabulary

theorem Scan.ofMatches_eq (vocabulary : Vocabulary) {text : List Char} {found : List Match}
    {tracker : LineTracker} (tokens : List Token) (tracks : tracker.Tracks text)
    (reachable : ∀ one ∈ found, tracker.reached ≤ one.start ∧ one.start ≤ width text)
    (ordered : found.Pairwise fun one other => one.start ≤ other.start) :
    ofMatches vocabulary tracker tokens found = .ok
      ⟨tokens.reverse ++ (vocabulary.passed found).filterMap (vocabulary.token? text),
        found.findSome? (vocabulary.failure? text)⟩ := by
  -- The tracker has reached no match that is left. White space does not move it, so that has to be
  -- said of all matches and not of the next one only.
  induction found generalizing tracker tokens with
  | nil => simp [ofMatches, Vocabulary.passed]
  | cons one rest ih =>
    obtain ⟨reached, inside⟩ := reachable one List.mem_cons_self
    have later : ∀ other ∈ rest, one.start ≤ other.start ∧ other.start ≤ width text :=
      fun other member => ⟨List.rel_of_pairwise_cons ordered member,
        (reachable other (List.mem_cons_of_mem one member)).2⟩
    have place : min one.start (width text) = one.start := Nat.min_eq_left inside
    obtain ⟨next, asked, nextTracks, moved⟩ :=
      LineTracker.advance_of_tracks tracks (place.symm ▸ reached)
    rw [place] at asked moved
    unfold ofMatches
    cases outcome : vocabulary.classify one with
    | error defect =>
      simp [abort, asked, Vocabulary.failure?, Vocabulary.cause?, Vocabulary.passed, outcome]
    | ok role =>
      cases role with
      | anythingElse =>
        simp [abort, asked, Vocabulary.failure?, Vocabulary.cause?, Vocabulary.passed, outcome]
      | whitespace =>
        have step := ih tokens tracks
          (fun other member => ⟨Nat.le_trans reached (later other member).1,
            (later other member).2⟩) ordered.of_cons
        simp [step, Vocabulary.failure?, Vocabulary.cause?, Vocabulary.token?, Vocabulary.passed,
          outcome]
      | token kind =>
        have step (token : Token) := ih (token :: tokens) nextTracks (moved.symm ▸ later)
          ordered.of_cons
        simp [step, asked, Vocabulary.failure?, Vocabulary.cause?, Vocabulary.token?,
          Vocabulary.passed, outcome]

namespace Vocabulary

variable (vocabulary : Vocabulary) (source : String)

/-- No vocabulary and no source bring the line tracker to a crash. -/
theorem scan_eq : vocabulary.scan source = .ok
    ⟨(vocabulary.emitted source).map Prod.snd,
      (vocabulary.matcher.allMatches source.toList).findSome?
        (vocabulary.failure? source.toList)⟩ := by
  have placed := vocabulary.matcher.allMatches_placed source.toList
  have reachable : ∀ one ∈ vocabulary.matcher.allMatches source.toList,
      0 ≤ one.start ∧ one.start ≤ width source.toList := by
    intro one member
    obtain ⟨low, order, high⟩ := placed.bounds one member
    rw [Nat.zero_add] at high
    exact ⟨low, Nat.le_trans order high⟩
  have ordered : (vocabulary.matcher.allMatches source.toList).Pairwise
      fun one other => one.start ≤ other.start :=
    placed.pairwise.imp_of_mem fun member _ apart =>
      Nat.le_trans (placed.bounds _ member).2.1 apart
  have run := Scan.ofMatches_eq vocabulary [] (LineTracker.tracks_ofText source.toList)
    reachable ordered
  rw [emitted, tokensOf_tokens]
  exact run

theorem passed_of_no_failure
    (none : (vocabulary.matcher.allMatches source.toList).findSome?
      (vocabulary.failure? source.toList) = none) :
    vocabulary.passed (vocabulary.matcher.allMatches source.toList) =
      vocabulary.matcher.allMatches source.toList := by
  refine List.takeWhile_eq_self_iff.mpr fun one member => ?_
  have quiet := List.findSome?_eq_none_iff.mp none one member
  rw [failure?, Option.map_eq_none_iff] at quiet
  rw [quiet]
  rfl

theorem head_of_accepted {source : String} {head : Match} {later : List Match}
    {tokens : List Token}
    (all : vocabulary.matcher.allMatches source.toList = head :: later)
    (accepted : (vocabulary.scan source).map Scan.result = .ok (.ok tokens)) :
    vocabulary.cause? head = none ∧ ∀ token, vocabulary.token? source.toList head = some token →
      ∃ rest, tokens = token :: rest := by
  rw [scan_eq, all] at accepted
  have result := Except.ok.inj accepted
  rw [Scan.result] at result
  split at result
  · next quiet =>
    have none := List.findSome?_eq_none_iff.mp quiet head List.mem_cons_self
    rw [failure?, Option.map_eq_none_iff] at none
    refine ⟨none, fun token own =>
      ⟨(vocabulary.tokensOf source.toList (vocabulary.passed later)).map Prod.snd, ?_⟩⟩
    rw [← Except.ok.inj result, emitted, all, passed_cons none, tokensOf_cons own, List.map_cons]
  · cases result

theorem emitted_sublist : ((vocabulary.emitted source).map Prod.fst).Sublist
    (vocabulary.matcher.allMatches source.toList) := by
  have kept (found : List Match) :
      ((vocabulary.tokensOf source.toList found).map Prod.fst).Sublist found := by
    induction found with
    | nil => exact .slnil
    | cons one rest ih =>
      cases own : vocabulary.token? source.toList one with
      | none =>
        rw [tokensOf_skip own]
        exact ih.cons one
      | some token =>
        rw [tokensOf_cons own]
        exact ih.cons_cons one
  exact (kept _).trans (List.takeWhile_sublist _)

/-- A scan is told by its matches: it gives the failure of the first match that has one, or else
the tokens of all matches. The matches of its tokens do not overlap. -/
theorem scan_of_matches (vocabulary : Vocabulary) (source : String) :
    let text := source.toList
    let found := vocabulary.matcher.allMatches text
    ∃ scan, vocabulary.scan source = .ok scan ∧
      scan.result = (match found.findSome? (vocabulary.failure? text) with
        | none => .ok (found.filterMap (vocabulary.token? text))
        | some failure => .error failure) ∧
      (∀ one ∈ found, ∃ before after, text = before ++ one.text.toList ++ after ∧
        one.start = width before ∧ one.stop = width (before ++ one.text.toList)) ∧
      scan.tokens = (vocabulary.emitted source).map Prod.snd ∧
      ((vocabulary.emitted source).map Prod.fst).Pairwise fun one other =>
        one.start ≤ other.start ∧ one.stop ≤ other.start := by
  intro text found
  have placed := vocabulary.matcher.allMatches_placed text
  refine ⟨_, vocabulary.scan_eq source, ?_, ?_, rfl, ?_⟩
  · unfold Scan.result
    cases outcome : found.findSome? (vocabulary.failure? text) with
    | some failure => rfl
    | none =>
      dsimp only
      rw [emitted, tokensOf_tokens, vocabulary.passed_of_no_failure source outcome]
  · intro one member
    obtain ⟨before, after, split, start, stop⟩ := placed.slice one member
    rw [Nat.zero_add] at start
    exact ⟨before, after, split, start, by rw [stop, start, width_append]⟩
  · have apart := placed.pairwise.imp_of_mem fun member _ behind =>
      And.intro (Nat.le_trans (placed.bounds _ member).2.1 behind) behind
    exact apart.sublist (vocabulary.emitted_sublist source)

end Vocabulary

end Lexicon
