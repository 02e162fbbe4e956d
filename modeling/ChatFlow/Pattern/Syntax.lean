import ChatFlow.Text.Lowercase
import ChatFlow.Text.Alphanumeric
import ChatFlow.Text.Digit
import ChatFlow.Text.Blank

/-!
Text patterns as trees.

A pattern is built from tests on single characters, tests on positions, sequences, alternatives,
repetitions, groups that remember what they matched, and look-arounds. Switches such as "ignore case"
are resolved while a pattern is read, so every node carries what it needs.
-/

namespace ChatFlow.Pattern

/-! ## Characters -/

/-- How letters are compared. -/
inductive Folding where
  /-- As they are. -/
  | none
  /-- The 26 basic letters without regard to case. -/
  | ascii
  /-- Every letter without regard to case. -/
  | full
deriving Repr, DecidableEq

/-- The named classes of characters. -/
inductive Category where
  | digit
  | space
  | word
deriving Repr, DecidableEq

/-- A member of a character class. -/
inductive Member where
  /-- The code points from the first to the last. -/
  | range (first last : Nat)
  /-- A named class or its complement, over the basic characters only or over all of them. -/
  | category (c : Category) (negated asciiOnly : Bool)
deriving Repr, DecidableEq

/-- A class of characters or its complement. -/
structure CharClass where
  negated : Bool
  folding : Folding
  members : List Member
deriving Repr, DecidableEq

/-- The basic letter in lower case. -/
def asciiLower (n : Nat) : Nat :=
  if 0x41 ≤ n && n ≤ 0x5A then n + 0x20 else n

/-- All code points that are the same letter as a character when case is ignored. -/
def sameLetters (c : Char) : List Nat :=
  let form := (Text.lowerChar c).toNat
  let forms := form :: ((Text.sameLetter.lookup form).getD [])
  forms.flatMap fun t =>
    t :: (Text.lowerRuns.filterMap fun (first, last, stride, shift) =>
      let x := (t : Int) - shift
      if (first : Int) ≤ x && x ≤ last && (x.toNat - first) % stride == 0 then some x.toNat else none)

/-- The code points that stand for a character under a folding. -/
def Folding.standIns (f : Folding) (c : Char) : List Nat :=
  match f with
  | .none => [c.toNat]
  | .ascii =>
    let l := asciiLower c.toNat
    if 0x61 ≤ l && l ≤ 0x7A then [l, l - 0x20] else [l]
  | .full => sameLetters c

/-- The character belongs to a named class. -/
def Category.holds (cat : Category) (asciiOnly : Bool) (c : Char) : Bool :=
  match cat with
  | .digit => if asciiOnly then c.isDigit else Text.isDecimal c
  | .space =>
    if asciiOnly then c == ' ' || (0x09 ≤ c.val && c.val ≤ 0x0D) else Text.isBlank c
  | .word => if asciiOnly then c.isAlphanum || c == '_' else Text.isWordChar c

/-- The member holds the character. -/
def Member.holds (f : Folding) (c : Char) : Member → Bool
  | .range first last => (f.standIns c).any fun n => first ≤ n && n ≤ last
  | .category cat negated asciiOnly => cat.holds asciiOnly c != negated

/-- The class holds the character. -/
def CharClass.holds (cls : CharClass) (c : Char) : Bool :=
  (cls.members.any fun m => m.holds cls.folding c) != cls.negated

/-! ## Positions -/

/-- A test on a position. -/
inductive Anchor where
  | textStart
  | textEnd
  /-- The end, or just before a line feed that ends the text. -/
  | lastLineEnd
  | lineStart
  | lineEnd
  /-- Between a word character and another one or an end of the text; or the opposite. -/
  | wordEdge (negated asciiOnly : Bool)
deriving Repr, DecidableEq

/-! ## Patterns -/

/-- How a repetition chooses its count. -/
inductive Greed where
  /-- As many as possible first. -/
  | greedy
  /-- As few as possible first. -/
  | lazy
  /-- As many as possible, without going back. -/
  | possessive
deriving Repr, DecidableEq

/-- A pattern. -/
inductive Node where
  | empty
  | char (cls : CharClass)
  | anchor (a : Anchor)
  | seq (first second : Node)
  | alt (first second : Node)
  /-- The body, whose place in the text is remembered under a number. -/
  | group (number : Nat) (body : Node)
  /-- The body at least `least` times and at most `most` times. -/
  | repetition (greed : Greed) (least : Nat) (most : Option Nat) (body : Node)
  /-- The first way in which the body matches, and no other. -/
  | atomic (body : Node)
  /-- The body matches (or not) at this position, without taking anything; behind this position if a
  width is given. -/
  | look (width : Option Nat) (negated : Bool) (body : Node)
  /-- What a group matched, once more. -/
  | backReference (number : Nat) (folding : Folding)
  /-- One of two patterns, by whether a group has matched. -/
  | conditional (number : Nat) (yes no : Node)
deriving Repr, Inhabited

end ChatFlow.Pattern
