import Lexicon.Proofs.Reading.Group

/-! Texts that can be read inside open groups because they can be read alone.

Main statements: a text that can be read alone and names no group can be read inside open groups
(`Alike.foldlM_carries`), and as the body of a named group whose name has not been used
(`foldlM_group_ok`).
-/

set_option autoImplicit false

namespace Lexicon.Pattern

def Carries {α : Type} (alone nested : Except Fault α) : Prop :=
  ∀ first, alone = .ok first → ∃ second, nested = .ok second

namespace Carries

variable {α β : Type}

theorem ok {alone : Except Fault α} (second : α) : Carries alone (.ok second) :=
  fun _ _ => ⟨second, rfl⟩

theorem fault (fault : Fault) (nested : Except Fault α) : Carries (.error fault) nested := by
  rintro _ ⟨⟩

theorem map {part : Except Fault α} {use useNested : α → β} :
    Carries (part.map use) (part.map useNested) := by
  cases part with
  | error fault => exact .fault fault _
  | ok value => exact .ok _

theorem bind {related : α → α → Prop} {alone nested : Except Fault α}
    {goOn goOnNested : α → Except Fault β} (carries : Carries alone nested)
    (agree : Agree related alone nested)
    (later : ∀ first second, related first second → Carries (goOn first) (goOnNested second)) :
    Carries (alone.bind goOn) (nested.bind goOnNested) := by
  intro last ends
  obtain ⟨first, read, ends⟩ := bind_ok ends
  obtain ⟨second, readNested⟩ := carries first read
  obtain ⟨final, endsNested⟩ := later first second (agree first second read readNested) last ends
  refine ⟨final, ?_⟩
  rw [readNested]
  exact endsNested

end Carries

namespace Reader

def nameless (reader : Reader) : List Char → Bool
  | [] => true
  | c :: rest =>
      match reader.step c with
      | .ok next => next.names == reader.names && next.nameless rest
      | .error _ => true

namespace Alike

variable {outer : List (GroupKind × Level)} {names : List String} {comment : Bool}
  {alone nested : Reader} (same : Alike outer names comment alone nested)
include same

omit same in
theorem pushDeep_carries (alone nested : Reader) (piece : Piece) :
    Carries (alone.pushDeep piece) (nested.pushDeep piece) := by
  unfold Reader.pushDeep
  split
  · exact .fault _ _
  · exact .ok _

theorem pushRepeated_carries (body : Piece) (count : Count) (greedy : Bool) :
    Carries (alone.pushRepeated body count greedy) (nested.pushRepeated body count greedy) := by
  simp only [Reader.pushRepeated, same.level_eq]
  exact pushDeep_carries _ _ _

theorem takeOperand_carries (mode : Piece → Mode) :
    Carries (alone.takeOperand mode) (nested.takeOperand mode) := by
  simp only [Reader.takeOperand, same.level_eq]
  cases alone.level.operand with
  | none => exact .fault _ _
  | some body => exact .ok _

theorem closeGroup_carries : Carries alone.closeGroup nested.closeGroup := by
  obtain ⟨rfl, -, -, -⟩ := same
  unfold Reader.closeGroup
  cases opened : alone.outer with
  | nil => exact .fault _ _
  | cons first rest =>
    simp only [inside, opened, List.cons_append]
    exact pushDeep_carries _ _ _

theorem startItem_carries (c : Char) : Carries (alone.startItem c) (nested.startItem c) := by
  simp only [Reader.startItem, same.level_eq]
  split
  · exact .ok _
  · exact same.closeGroup_carries
  · exact .ok _
  · exact .ok _
  · exact .ok _
  · exact same.takeOperand_carries _
  · exact same.takeOperand_carries _
  · exact same.takeOperand_carries _
  · exact same.takeOperand_carries _
  · exact .map
  · exact .ok _
  · exact .ok _
  · exact .ok _

/-- The head of a group can be at fault inside groups only if it has a name. -/
theorem stepHead_carries (head : GroupHead) (c : Char) {first : Reader}
    (read : alone.stepHead head c = .ok first) (unnamed : first.names = alone.names) :
    ∃ second, nested.stepHead head c = .ok second := by
  simp only [Reader.stepHead, same.level_eq] at read ⊢
  cases found : head.step c with
  | error fault =>
    rw [found] at read
    cases read
  | ok outcome =>
    rw [found] at read
    cases outcome with
    | more head => exact ⟨_, rfl⟩
    | absent => exact (same.openGroup (List.nil_subset _) _).startItem_carries c first read
    | named name =>
      exfalso
      simp only [Reader.openNamed] at read
      split at read
      · cases read
      · cases read
        exact absurd (congrArg List.length unnamed) (by simp [Reader.openGroup])
    | unnamed list => exact ⟨_, rfl⟩
    | setting list => exact ⟨_, rfl⟩

theorem stepEscape_carries (escape : Escape) (c : Char) :
    Carries (alone.stepEscape escape c) (nested.stepEscape escape c) := by
  simp only [Reader.stepEscape, same.level_eq]
  cases escape.step c with
  | error fault => exact .fault _ _
  | ok outcome =>
    cases outcome with
    | byte d =>
      dsimp only
      split
      · exact .ok _
      · exact .fault _ _
    | members kind negated => exact .map
    | property members negated => exact .map
    | _ => exact .ok _

theorem stepBracket_carries (bracket : Bracket) (c : Char) :
    Carries (alone.stepBracket bracket c) (nested.stepBracket bracket c) := by
  simp only [Reader.stepBracket, same.level_eq]
  cases bracket.step alone.level.flags c with
  | error fault => exact .fault _ _
  | ok outcome =>
    cases outcome with
    | more bracket => exact .ok _
    | closed inner => exact pushDeep_carries _ _ _

omit same in
theorem stepCounting_carries (alone nested : Reader) (body : Piece) (counting : Counting)
    (c : Char) : Carries (alone.stepCounting body counting c)
      (nested.stepCounting body counting c) := by
  unfold Reader.stepCounting
  cases counting.step c with
  | error fault => exact .fault _ _
  | ok outcome => cases outcome <;> exact .ok _

theorem startCountOrItem_carries (braced : Bool) (c : Char) :
    Carries (alone.startCountOrItem braced c) (nested.startCountOrItem braced c) := by
  unfold Reader.startCountOrItem
  split
  · refine (same.takeOperand_carries _).bind same.startCounting fun first second started => ?_
    rw [started.mode_eq]
    cases first.mode with
    | counting body counting => exact stepCounting_carries _ _ body counting c
    | _ => exact .fault _ _
  · exact same.startItem_carries c

theorem stepEdge_carries (name : EdgeName) (c : Char) :
    Carries (alone.stepEdge name c) (nested.stepEdge name c) := by
  unfold Reader.stepEdge
  cases name.step c with
  | error fault => exact .fault _ _
  | ok outcome =>
    cases outcome with
    | absent braced => exact (same.pushEdge .atEdge).startCountOrItem_carries braced c
    | _ => exact .ok _

theorem take_carries (c : Char) {first : Reader} (read : alone.take c = .ok first)
    (unnamed : first.names = alone.names) : ∃ second, nested.take c = .ok second := by
  have own := same.known.mode
  unfold Reader.take at read ⊢
  rw [same.mode_eq]
  cases mode : alone.mode with
  | items =>
    rw [mode] at read
    exact same.startItem_carries c first read
  | repeating body count braced =>
    rw [mode] at read own
    dsimp only at read ⊢
    split at read
    · next lazy =>
      rw [if_pos lazy]
      exact same.pushRepeated_carries body count false first read
    · next other =>
      rw [if_neg other]
      exact ((same.pushRepeated_carries body count true).bind (same.pushRepeated own count true)
        fun _ _ pushed => pushed.startItem_carries c) first read
  | counting body counting =>
    rw [mode] at read
    exact stepCounting_carries _ _ body counting c first read
  | escape escape =>
    rw [mode] at read
    exact same.stepEscape_carries escape c first read
  | edge name =>
    rw [mode] at read
    exact same.stepEdge_carries name c first read
  | bracket bracket =>
    rw [mode] at read
    exact same.stepBracket_carries bracket c first read
  | head head =>
    rw [mode] at read
    exact same.stepHead_carries head c read unnamed

theorem overlook?_carries (c : Char) : Carries (alone.overlook? c) (nested.overlook? c) := by
  unfold Reader.overlook?
  rw [same.mode_eq]
  cases alone.mode with
  | repeating body count braced =>
    dsimp only
    split
    · exact .ok _
    · intro first read
      cases pushed : alone.pushRepeated body count true with
      | error fault =>
        rw [pushed] at read
        cases read
      | ok next =>
        obtain ⟨second, again⟩ := same.pushRepeated_carries body count true next pushed
        rw [again]
        exact ⟨_, rfl⟩
  | edge name => cases name <;> exact .ok _
  | head head => cases head <;> exact .ok _
  | _ => exact .ok _

theorem step_carries (c : Char) {first : Reader} (read : alone.step c = .ok first)
    (unnamed : first.names = alone.names) : ∃ second, nested.step c = .ok second := by
  simp only [Reader.step, same.comment_same, same.level_eq] at read ⊢
  split at read
  · next skips =>
    rw [if_pos skips]
    obtain ⟨overlooked, skipped, read⟩ := bind_ok read
    obtain ⟨again, skippedNested⟩ := same.overlook?_carries c overlooked skipped
    have alike := same.overlook? c overlooked again skipped skippedNested
    rw [skippedNested]
    cases alike with
    | none => exact same.take_carries c read unnamed
    | some next => exact ⟨_, rfl⟩
  · next counts =>
    rw [if_neg counts]
    exact same.take_carries c read unnamed

theorem foldlM_carries {text : List Char} (unnamed : alone.nameless text) :
    Carries (text.foldlM Reader.step alone) (text.foldlM Reader.step nested) := by
  induction text generalizing alone nested comment with
  | nil => exact .ok _
  | cons c rest ih =>
    intro last read
    rw [List.foldlM_cons] at read
    obtain ⟨first, readFirst, read⟩ := bind_ok read
    simp only [nameless, readFirst, Bool.and_eq_true, beq_iff_eq] at unnamed
    obtain ⟨second, readSecond⟩ := same.step_carries c readFirst unnamed.1
    have next := (same.step c first second readFirst readSecond).1
    rw [foldlM_of_step readSecond]
    exact ih next unnamed.2 last read

end Alike

theorem names_of_nameless {reader last : Reader} {text : List Char}
    (unnamed : reader.nameless text) (read : text.foldlM step reader = .ok last) :
    last.names = reader.names := by
  induction text generalizing reader with
  | nil =>
    cases read
    rfl
  | cons c rest ih =>
    rw [List.foldlM_cons] at read
    obtain ⟨next, readFirst, read⟩ := bind_ok read
    simp only [nameless, readFirst, Bool.and_eq_true, beq_iff_eq] at unnamed
    exact (ih unnamed.2 read).trans unnamed.1

section Groups

variable {reader last : Reader} {name : String} {body : List Char} {piece : Piece}

theorem exists_foldlM_group (items : reader.mode = .items) (quiet : reader.comment = false)
    (flags : reader.level.flags = .start) (distinct : reader.names.Nodup)
    (valid : isGroupName name.toList) (alone : body.foldlM step start = .ok last)
    (outside : last.comment = false) (whole : last.finish = .ok piece)
    (unnamed : start.nameless body) (shallow : piece.depth < depthLimit)
    (fresh : name ∉ reader.names) :
    ∃ next, ("(?P<".toList ++ name.toList ++ '>' :: body ++ [')']).foldlM step reader =
      .ok next := by
  have plain : reader.level.flags.verbose = false := by rw [flags]; rfl
  have parts : "(?P<".toList ++ name.toList ++ '>' :: body ++ [')'] =
      ("(?P<".toList ++ name.toList ++ ['>']) ++ (body ++ [')']) := by simp
  obtain ⟨opened, opens⟩ : ∃ opened, reader.openNamed name = .ok opened := ⟨_, if_neg fresh⟩
  obtain ⟨-, rfl⟩ := openNamed_eq quiet flags opens
  -- The body is read inside the new group like alone.
  have started : Alike ((.named name, reader.level) :: reader.outer) (name :: reader.names) false
      start (start.inside _ _) :=
    ⟨rfl, known_start, List.nodup_cons.mpr ⟨fresh, distinct⟩, rfl⟩
  obtain ⟨nested, readBody⟩ := started.foldlM_carries unnamed last alone
  have same := started.foldlM body last nested alone readBody
  obtain ⟨settled, settles, ends⟩ := settles_of_finish whole
  obtain ⟨none, rfl⟩ := ended_ok ends
  obtain ⟨second, settlesNested, alike⟩ := same.settles settles
  rw [parts, List.foldlM_append, foldlM_head quiet plain items valid, opens]
  change ∃ next, (body ++ [')']).foldlM step _ = .ok next
  rw [List.foldlM_append, readBody]
  change ∃ next, [')'].foldlM step nested = .ok next
  rw [List.foldlM_cons, step_close (same.comment_same.trans outside) settlesNested]
  obtain ⟨rfl, -, -, -⟩ := alike
  have room : ¬ depthLimit < (Piece.group (.named name) settled.level.whole).depth :=
    Nat.not_lt.mpr shallow
  simp only [closeGroup, inside, none, List.nil_append, pushDeep, if_neg room]
  exact ⟨_, rfl⟩

/-- A text that can be read alone, names no group and does not end in a comment can be read as the
body of a group with a new name, unless that is too deep. -/
theorem foldlM_group_ok (items : reader.mode = .items) (quiet : reader.comment = false)
    (flags : reader.level.flags = .start) (distinct : reader.names.Nodup)
    (valid : isGroupName name.toList) (alone : body.foldlM step start = .ok last)
    (outside : last.comment = false) (whole : last.finish = .ok piece)
    (unnamed : start.nameless body) (shallow : piece.depth < depthLimit)
    (fresh : name ∉ reader.names) :
    ("(?P<".toList ++ name.toList ++ '>' :: body ++ [')']).foldlM step reader =
      .ok { reader.push (.group (.named name) piece) with names := name :: reader.names } := by
  obtain ⟨next, read⟩ := exists_foldlM_group items quiet flags distinct valid alone outside whole
    unnamed shallow fresh
  obtain ⟨-, -, rfl⟩ := foldlM_group items quiet flags distinct valid alone outside whole read
  rw [read, names_of_nameless unnamed alone]
  rfl

end Groups

end Reader

end Lexicon.Pattern
