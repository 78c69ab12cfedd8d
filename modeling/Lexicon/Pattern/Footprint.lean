import Lexicon.Pattern.Plan
import Lexicon.Text.ByteSequence

/-! Footprints: the room that the automaton of a plan takes.

An automaton reads bytes. It is laid out twice: forward, where the borders of groups are
marked, and backward, where they are not. A pattern is refused if either layout takes more
than ten mebibytes.

Each state takes 32 bytes, each transition of a state with several 8 bytes more, and each
branch of a state that only branches 4 bytes more.
-/

set_option autoImplicit false

namespace Lexicon.Pattern

inductive Direction where
  | forward
  | backward
  deriving DecidableEq, Repr

def stateRoom : Nat := 32

def transitionsRoom (count : Nat) : Nat := stateRoom + 8 * count

def branchesRoom (count : Nat) : Nat := stateRoom + 4 * count

/-- The room of one more branch, if there is a state that lists it. -/
def branchRoom (listed : Bool) : Nat := if listed then 4 else 0

def roomLimit : Nat := 10485760

def totalRoom (rooms : List Nat) : Nat := rooms.foldl (· + ·) 0

/-! ### Sets of characters -/

section Sets

open Text (ByteSequence CodeRanges)

/-- The sequences sorted by their first ranges; those with the same one follow each other. -/
def byFirst : List ByteSequence → List ((Nat × Nat) × List ByteSequence)
  | [] => []
  | [] :: rest => byFirst rest
  | (first :: others) :: rest =>
      match byFirst rest with
      | (next, grouped) :: groups =>
          if first = next then (next, (others :: grouped)) :: groups
          else (first, [others]) :: (next, grouped) :: groups
      | [] => [(first, [others])]

def beginningsRoom : Nat → List ByteSequence → Nat
  | 0, _ => 0
  | width + 1, sequences =>
      totalRoom ((byFirst sequences).map fun group => stateRoom + beginningsRoom width group.2)

/-- The transitions of a state: bytes, and the state they lead to. States are numbered from one;
zero is the end. -/
abbrev Fork := List ((Nat × Nat) × Nat)

def numberOf (fork : Fork) (forks : List Fork) : List Fork × Nat :=
  match forks.idxOf? fork with
  | some later => (forks, forks.length - later)
  | none => (fork :: forks, forks.length + 1)

/-- Add the states that read sequences of up to `width` ranges. States with the same
transitions are one state. -/
def shareForks : Nat → List Fork → List ByteSequence → List Fork × Nat
  | 0, forks, _ => (forks, 0)
  | width + 1, forks, sequences =>
      let (forks, fork) := (byFirst sequences).foldl
        (fun (forks, fork) (range, others) =>
          if others = [[]] then (forks, (range, 0) :: fork)
          else
            let (forks, next) := shareForks width forks others
            (forks, (range, next) :: fork))
        (forks, [])
      numberOf fork forks

/-- ASCII characters are read by one state. Others are read forward by as few states as can
be, and backward by states that are shared where characters begin alike. -/
def setRoom (direction : Direction) (codes : CodeRanges) : Nat :=
  if codes.all (·.2 < 0x80) then stateRoom + transitionsRoom codes.length
  else
    let sequences := Text.ByteSequence.ofRanges codes
    match direction with
    | .forward =>
        let forks := (shareForks 4 [] sequences).1
        stateRoom + totalRoom (forks.map fun fork => transitionsRoom fork.length)
    | .backward =>
        stateRoom + branchesRoom sequences.length + beginningsRoom 4 sequences

end Sets

/-! ### Alternatives that are all texts -/

def textBytes (direction : Direction) (chars : List Char) : List UInt8 :=
  let bytes := chars.flatMap String.utf8EncodeChar
  match direction with
  | .forward => bytes
  | .backward => bytes.reverse

def betweenEmpty : List (List UInt8) → List (List (List UInt8))
  | [] => [[]]
  | [] :: rest => [] :: betweenEmpty rest
  | word :: rest =>
      match betweenEmpty rest with
      | part :: parts => (word :: part) :: parts
      | [] => [[word]]

/-- Words share states where they begin alike, as far as no word that ends there comes in
between. -/
def wordsRoom : Nat → List (List UInt8) → Nat
  | 0, _ => 0
  | width + 1, words =>
      if words.all (·.isEmpty) then 0
      else
        let leading := words.takeWhile (·.isEmpty)
        let parts := betweenEmpty (leading.take 1 ++ words.drop leading.length)
        let filled := parts.filter (!·.isEmpty)
        let partRoom (part : List (List UInt8)) : Nat :=
          let firsts := (part.filterMap List.head?).eraseDups
          let own := if firsts.length = 1 then stateRoom else transitionsRoom firsts.length
          own + totalRoom (firsts.map fun first =>
            wordsRoom width ((part.filter (·.head? == some first)).map List.tail))
        branchesRoom (filled.length + (parts.length - 1)) + totalRoom (filled.map partRoom)

def textsRoom (direction : Direction) (texts : List (List Char)) : Nat :=
  let words := texts.map (textBytes direction)
  stateRoom + wordsRoom (words.foldl (fun longest word => max longest word.length) 0 + 1) words

/-! ### Plans -/

def repeatedRoom (body : Nat) (reads : Bool) (count : Count) : Nat :=
  match count.least, count.most with
  | 0, none => body + if reads then branchesRoom 2 else 2 * branchesRoom 2 + stateRoom
  | least, none => least * body + branchesRoom 2
  | 0, some 1 => branchesRoom 2 + body + stateRoom
  | least, some most =>
      if most = least then least * body
      else
        (if least = 0 then stateRoom else least * body) + stateRoom +
          (most - least) * (branchesRoom 2 + body)

namespace Plan

def text? : Plan → Option (List Char)
  | text chars => some chars
  | _ => none

/-- The room of a plan, as one of several branches if `listed`. Alternatives in such a list
are branches of it themselves. -/
def room (direction : Direction) : Plan → Bool → Nat
  | alt first rest, listed =>
      let branches := first.room direction true + rest.room direction true
      if listed then branches
      else
        match (first :: rest.branches).mapM text? with
        | some texts => textsRoom direction texts
        | none => branchesRoom 0 + stateRoom + branches
  | empty, listed | look _, listed => stateRoom + branchRoom listed
  | text chars, listed =>
      stateRoom * (textBytes direction chars).length + branchRoom listed
  | set codes, listed => setRoom direction codes + branchRoom listed
  | repeated _ count body, listed =>
      repeatedRoom (body.room direction false) body.alwaysReads count + branchRoom listed
  | group body, listed =>
      let marks := if direction = .forward then 2 * stateRoom else 0
      marks + body.room direction false + branchRoom listed
  | cat first rest, listed =>
      first.room direction false + rest.room direction false + branchRoom listed

/-- Whether every match stands where the text begins, as seen in a direction. -/
def anchored (direction : Direction) : Plan → Bool
  | look assertion =>
      assertion = match direction with
        | .forward => .textStart
        | .backward => .textEnd
  | empty | text _ | set _ => false
  | repeated _ count body => 0 < count.least && body.anchored direction
  | group body => body.anchored direction
  | cat first rest =>
      match direction with
      | .forward => first.anchored direction || first.neverReads && rest.anchored direction
      | .backward => rest.anchored direction || rest.neverReads && first.anchored direction
  | alt first rest => first.anchored direction && rest.anchored direction

/-- The room of the whole automaton, with the states that look for the first place of a match,
that mark its borders and that end it. -/
def footprint (direction : Direction) (plan : Plan) : Nat :=
  let searching :=
    if plan.anchored direction then stateRoom
    else branchesRoom 2 + transitionsRoom 1 + stateRoom
  let borders := if direction = .forward then 2 * stateRoom else 0
  searching + borders + plan.room direction false + stateRoom

def fits (plan : Plan) : Bool :=
  plan.footprint .forward ≤ roomLimit && plan.footprint .backward ≤ roomLimit

end Plan

end Lexicon.Pattern
