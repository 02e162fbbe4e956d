import ChatFlow.Pattern.Syntax

/-!
Searching a text for a pattern.

`Node.run` tries a pattern at a position and hands every way of matching, in order of preference, to
a continuation until one is accepted. A repetition beyond its least count stops when an iteration has
taken nothing, so it makes at most one step more than there are characters left; that bounds the
recursion of the loops.
-/

namespace ChatFlow.Pattern

/-- A position in the text and the ends of the groups matched so far: the start of group `n` in place
`2n - 2` and its end in the next. -/
structure Cursor where
  position : Nat
  marks : Array (Option Nat)

/-- What is done with a cursor once a pattern has matched. -/
abbrev Next := Cursor → Option Cursor

/-- A way of matching from a cursor. -/
abbrev Stepper := Cursor → Next → Option Cursor

namespace Cursor

/-- Remembers the position in a mark. -/
def mark (c : Cursor) (place : Nat) : Cursor :=
  { c with marks := c.marks.setIfInBounds place (some c.position) }

/-- Where a group matched. -/
def group? (c : Cursor) (number : Nat) : Option (Nat × Nat) :=
  match c.marks[2 * number - 2]?.join, c.marks[2 * number - 1]?.join with
  | some first, some last => if first ≤ last then some (first, last) else none
  | _, _ => none

end Cursor

/-! ## Tests -/

/-- The character at a position satisfies a test. -/
def charAt (text : Array Char) (i : Nat) (test : Char → Bool) : Bool :=
  match text[i]? with
  | some c => test c
  | none => false

/-- The character before a position satisfies a test. -/
def charBefore (text : Array Char) (i : Nat) (test : Char → Bool) : Bool :=
  i != 0 && charAt text (i - 1) test

/-- The position satisfies an anchor. -/
def Anchor.holds (text : Array Char) (i : Nat) : Anchor → Bool
  | .textStart => i == 0
  | .textEnd => i == text.size
  | .lastLineEnd => i == text.size || (i + 1 == text.size && charAt text i (· == '\n'))
  | .lineStart => i == 0 || charBefore text i (· == '\n')
  | .lineEnd => i == text.size || charAt text i (· == '\n')
  | .wordEdge negated asciiOnly =>
    let isWord := Category.word.holds asciiOnly
    text.size != 0 && (charBefore text i isWord != charAt text i isWord) != negated

/-- The two stretches of the text agree, letters being compared by their lower-case forms. -/
def agree (text : Array Char) (folding : Folding) (a b : Nat) : Nat → Bool
  | 0 => true
  | n + 1 =>
    match text[a]?, text[b]? with
    | some c, some d =>
      (match folding with
        | .none => c == d
        | .ascii => asciiLower c.toNat == asciiLower d.toNat
        | .full => Text.lowerChar c == Text.lowerChar d)
        && agree text folding (a + 1) (b + 1) n
    | _, _ => false

/-! ## Loops -/

/-- More iterations are allowed. -/
def below (most : Option Nat) (count : Nat) : Bool :=
  match most with
  | some m => count < m
  | none => true

/-- As many iterations as possible first. `last` is where the latest optional iteration began. -/
def greedyLoop (step : Stepper) (least : Nat) (most : Option Nat) :
    Nat → Nat → Option Nat → Stepper
  | 0, _, _, c, next => next c
  | fuel + 1, count, last, c, next =>
    if count < least then
      step c fun c' => greedyLoop step least most fuel (count + 1) last c' next
    else if below most count && last != some c.position then
      (step c fun c' => greedyLoop step least most fuel (count + 1) (some c.position) c' next).orElse
        fun _ => next c
    else next c

/-- As few iterations as possible first. -/
def lazyLoop (step : Stepper) (least : Nat) (most : Option Nat) :
    Nat → Nat → Option Nat → Stepper
  | 0, _, _, c, next => next c
  | fuel + 1, count, last, c, next =>
    if count < least then
      step c fun c' => lazyLoop step least most fuel (count + 1) last c' next
    else
      (next c).orElse fun _ =>
        if below most count && last != some c.position then
          step c fun c' => lazyLoop step least most fuel (count + 1) (some c.position) c' next
        else none

/-- As many iterations as possible, each settled before the next. -/
def possessiveLoop (step : Stepper) (least : Nat) (most : Option Nat) :
    Nat → Nat → Option Nat → Cursor → Option Cursor
  | 0, _, _, c => some c
  | fuel + 1, count, last, c =>
    if count < least then
      (step c some).bind fun c' => possessiveLoop step least most fuel (count + 1) last c'
    else if below most count && last != some c.position then
      match step c some with
      | some c' => possessiveLoop step least most fuel (count + 1) (some c.position) c'
      | none => some c
    else some c

/-- The number of characters of a class in a row from a position, at most `most`. -/
def runLength (text : Array Char) (cls : CharClass) (most : Option Nat) (i : Nat) : Nat → Nat → Nat
  | 0, count => count
  | fuel + 1, count =>
    if below most count && charAt text (i + count) cls.holds then
      runLength text cls most i fuel (count + 1)
    else count

/-- Takes `count` characters, or fewer down to `least`, until the continuation accepts. -/
def fewer (c : Cursor) (least : Nat) (next : Next) : Nat → Option Cursor
  | 0 => if least == 0 then next c else none
  | count + 1 =>
    if count + 1 < least then none
    else
      match next { c with position := c.position + (count + 1) } with
      | some r => some r
      | none => fewer c least next count

/-! ## Patterns -/

/-- A bound on the iterations of a loop that begins at a cursor. -/
def loopBound (text : Array Char) (least : Nat) (c : Cursor) : Nat :=
  least + (text.size - c.position) + 2

/-- Matches a pattern from a cursor. -/
def Node.run (text : Array Char) : Node → Stepper
  | .empty, c, next => next c
  | .char cls, c, next =>
    if charAt text c.position cls.holds then next { c with position := c.position + 1 } else none
  | .anchor a, c, next => if a.holds text c.position then next c else none
  | .seq p q, c, next => p.run text c fun c' => q.run text c' next
  | .alt p q, c, next => (p.run text c next).orElse fun _ => q.run text c next
  | .group n p, c, next => p.run text (c.mark (2 * n - 2)) fun c' => next (c'.mark (2 * n - 1))
  | .repetition greed least most p, c, next =>
    let bound := loopBound text least c
    match greed, p with
    | .greedy, .char cls =>
      fewer c least next (runLength text cls most c.position (text.size - c.position) 0)
    | .greedy, _ => greedyLoop (p.run text) least most bound 0 none c next
    | .lazy, _ => lazyLoop (p.run text) least most bound 0 none c next
    | .possessive, _ => (possessiveLoop (p.run text) least most bound 0 none c).bind next
  | .atomic p, c, next => (p.run text c some).bind next
  | .look width negated p, c, next =>
    let back := width.getD 0
    let found := if c.position < back then none
      else p.run text { c with position := c.position - back } some
    match negated, found with
    | true, none => next c
    | true, some _ => none
    | false, some c' => next { c' with position := c.position }
    | false, none => none
  | .backReference n folding, c, next =>
    match c.group? n with
    | some (first, last) =>
      let size := last - first
      if c.position + size ≤ text.size && agree text folding first c.position size then
        next { c with position := c.position + size }
      else none
    | none => none
  | .conditional n p q, c, next =>
    if (c.group? n).isSome then p.run text c next else q.run text c next

/-- The pattern matches at one of the positions from the first to the last. -/
def Node.foundFrom (p : Node) (groups : Nat) (text : Array Char) : Nat → Nat → Bool
  | 0, _ => false
  | tries + 1, i =>
    (p.run text ⟨i, Array.replicate (2 * groups) none⟩ some).isSome
      || p.foundFrom groups text tries (i + 1)

/-- The pattern matches somewhere in the text. -/
def Node.isFoundIn (p : Node) (groups : Nat) (s : String) : Bool :=
  let text := s.toList.toArray
  p.foundFrom groups text (text.size + 1) 0

end ChatFlow.Pattern
