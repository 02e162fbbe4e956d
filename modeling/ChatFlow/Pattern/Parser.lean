import ChatFlow.Pattern.Matcher
import ChatFlow.Decimal.Numeral
import ChatFlow.Json.Reader

/-!
Reading text patterns.

A pattern is first cut into tokens, a backslash making one token with the character after it. The
parser then reads alternatives of sequences of items. It resolves the switches (`i`, `m`, `s`, `x`,
`a`, `u`) as it goes: those for the whole pattern may only stand at its beginning, others hold inside
their group. Beside each node it keeps the least and the greatest number of characters that the node
can take, since what is looked for behind a position must have a fixed width.

Most errors are of one sort, `Fault.malformed`; a repetition count beyond all bounds, one with too
many digits to read, and contradicting switches are told apart.
-/

namespace ChatFlow.Pattern

/-- Why a text is no pattern. -/
inductive Fault where
  | malformed
  | countTooLarge
  | countTooLong (digits : Nat)
  | contradictingSwitches
deriving Repr, DecidableEq

/-! ## Tokens -/

/-- A token of a pattern. -/
inductive Token where
  | plain (c : Char)
  | escaped (c : Char)
  /-- A backslash that ends the pattern. -/
  | dangling
deriving Repr, DecidableEq

/-- Cuts a pattern into tokens. -/
def tokens : List Char → List Token
  | [] => []
  | ['\\'] => [.dangling]
  | '\\' :: c :: rest => .escaped c :: tokens rest
  | c :: rest => .plain c :: tokens rest

/-! ## Switches -/

/-- The switches in force. -/
structure Switches where
  ignoreCase : Bool := false
  multiLine : Bool := false
  dotAll : Bool := false
  verbose : Bool := false
  ascii : Bool := false
  unicode : Bool := false
  template : Bool := false
deriving Repr, DecidableEq

namespace Switches

/-- The comparison of letters under the switches. -/
def folding (s : Switches) : Folding :=
  if !s.ignoreCase then .none else if s.ascii then .ascii else .full

/-- Turns on what `other` has on. -/
def union (s other : Switches) : Switches where
  ignoreCase := s.ignoreCase || other.ignoreCase
  multiLine := s.multiLine || other.multiLine
  dotAll := s.dotAll || other.dotAll
  verbose := s.verbose || other.verbose
  ascii := s.ascii || other.ascii
  unicode := s.unicode || other.unicode
  template := s.template || other.template

/-- Turns off what `other` has on. -/
def without (s other : Switches) : Switches where
  ignoreCase := s.ignoreCase && !other.ignoreCase
  multiLine := s.multiLine && !other.multiLine
  dotAll := s.dotAll && !other.dotAll
  verbose := s.verbose && !other.verbose
  ascii := s.ascii && !other.ascii
  unicode := s.unicode && !other.unicode
  template := s.template && !other.template

/-- Some switch is on. -/
def isEmpty (s : Switches) : Bool :=
  s == {}

/-- One of the two switches that choose a repertoire of characters is on. -/
def choosesRepertoire (s : Switches) : Bool :=
  s.ascii || s.unicode

/-- The switches inside a group that turns some on and some off. -/
def inside (s on off : Switches) : Switches :=
  let base := if on.choosesRepertoire then { s with ascii := false, unicode := false } else s
  (base.union on).without off

/-- The switch that a letter stands for. -/
def ofLetter? : Char → Option Switches
  | 'i' => some { ignoreCase := true }
  | 'm' => some { multiLine := true }
  | 's' => some { dotAll := true }
  | 'x' => some { verbose := true }
  | 'a' => some { ascii := true }
  | 'u' => some { unicode := true }
  | 't' => some { template := true }
  | _ => none

end Switches

/-! ## The state of the parser -/

/-- The least and the greatest number of characters that a pattern takes. -/
abbrev Width := Nat × Nat

/-- A width beyond which all count as equal. -/
def widthLimit : Nat := Nat.pow 2 64

/-- The largest count of a repetition, exclusive, and the largest width that is looked behind. -/
def countLimit : Nat := Nat.pow 2 32 - 1

/-- What an item is to a repetition sign that follows it. -/
inductive Role where
  | plain
  /-- A position cannot be repeated. -/
  | position
  /-- A repetition cannot be repeated again. -/
  | repeated
deriving Repr, DecidableEq

/-- A pattern with its width. -/
structure Item where
  node : Node
  width : Width
  role : Role := .plain

/-- What has been read of a pattern, and what is left. -/
structure Parsing where
  rest : List Token
  /-- The switches of the whole pattern. -/
  base : Switches := {}
  /-- The widths of the groups in the order of their numbers; none while a group is open. -/
  groups : List (Option Width) := []
  names : List (String × Nat) := []
  /-- The number of groups at the outermost look behind that is being read. -/
  behind : Option Nat := none
  /-- The groups that conditions ask for. -/
  asked : List Nat := []
  /-- Something was read that no pattern may hold, although its grammar allows it. -/
  isRefused : Bool := false

/-- A parser. -/
abbrev Parser := StateT Parsing (Except Fault)

/-- A scope: the switches that the enclosing groups turn on and off, outermost first. -/
abbrev Scope := List (Switches × Switches)

/-- The pattern is malformed here. -/
def malformed {α : Type} : Parser α :=
  throw .malformed

/-- The pattern holds something that its grammar allows and that is refused in the end. -/
def refuse : Parser Unit :=
  modify fun s => { s with isRefused := true }

/-- The next token. -/
def peek : Parser (Option Token) := do
  match (← get).rest.head? with
  | some .dangling => malformed
  | t => return t

/-- Drops the next token. -/
def drop : Parser Unit :=
  modify fun s => { s with rest := s.rest.tail }

/-- Takes the next token. -/
def take : Parser (Option Token) := do
  let t ← peek
  drop
  return t

/-- Takes the next token if it is this character. -/
def accept (c : Char) : Parser Bool := do
  if (← peek) == some (.plain c) then
    drop
    return true
  else
    return false

/-- Takes the next token, which has to be this character. -/
def expect (c : Char) : Parser Unit := do
  unless ← accept c do malformed

/-- The switches in force in a scope. -/
def switches (scope : Scope) : Parser Switches := do
  return scope.foldl (fun s (on, off) => s.inside on off) (← get).base

/-- Takes characters that satisfy a test, at most so many. -/
def takeUpTo (test : Char → Bool) : Nat → Parser (List Char)
  | 0 => return []
  | n + 1 => do
    match ← peek with
    | some (.plain c) =>
      if test c then
        drop
        return c :: (← takeUpTo test n)
      else
        return []
    | _ => return []

/-- Takes everything up to a closing character, which is dropped; something has to stand before it.
An escape in between gives a backslash and its character. -/
def takeUntil (close : Char) : Nat → Parser (List Char)
  | 0 => malformed
  | n + 1 => do
    match ← take with
    | none => malformed
    | some (.plain c) =>
      if c == close then return [] else return c :: (← takeUntil close n)
    | some (.escaped c) => return '\\' :: c :: (← takeUntil close n)
    | some .dangling => malformed

/-! ## Single characters -/

/-- A digit of base eight. -/
def isOctal (c : Char) : Bool :=
  '0' ≤ c && c ≤ '7'

/-- The value of digits of a base. -/
def ofBase (base : Nat) (cs : List Char) : Nat :=
  cs.foldl (fun n c => n * base + (Json.hexValue? c).getD 0) 0

/-- An item for one code point. -/
def literal (sw : Switches) (n : Nat) : Item :=
  ⟨.char ⟨false, sw.folding, [.range n n]⟩, (1, 1), .plain⟩

/-- A named class under the switches, if the letter stands for one. -/
def category? (sw : Switches) (c : Char) : Option Member :=
  match c with
  | 'd' => some (.category .digit false sw.ascii)
  | 'D' => some (.category .digit true sw.ascii)
  | 's' => some (.category .space false sw.ascii)
  | 'S' => some (.category .space true sw.ascii)
  | 'w' => some (.category .word false sw.ascii)
  | 'W' => some (.category .word true sw.ascii)
  | _ => none

/-- The control characters with a letter of their own. -/
def control? : Char → Option Nat
  | 'a' => some 7
  | 'b' => some 8
  | 'f' => some 12
  | 'n' => some 10
  | 'r' => some 13
  | 't' => some 9
  | 'v' => some 11
  | '\\' => some 92
  | _ => none

/-- Exactly so many hexadecimal digits. -/
def hexDigits (count : Nat) : Parser Nat := do
  let cs ← takeUpTo (fun c => (Json.hexValue? c).isSome) count
  if cs.length == count then return ofBase 16 cs else malformed

/-- The code point of an escape that is neither a class nor a position nor a group. -/
def codePoint (c : Char) : Parser Nat := do
  match c with
  | 'x' => hexDigits 2
  | 'u' => hexDigits 4
  | 'U' =>
    let n ← hexDigits 8
    if n ≤ 0x10FFFF then return n else malformed
  | _ => if c.isAlphanum then malformed else return c.toNat

/-- The code point of an octal escape; it must fit into a byte. -/
def octal (cs : List Char) : Parser Nat :=
  let n := ofBase 8 cs
  if n ≤ 0xFF then return n else malformed

/-- The group exists and is closed. -/
def checkClosed (number : Nat) : Parser Width := do
  match (← get).groups[number - 1]?.join with
  | some w => return w
  | none => malformed

/-- A group asked for inside a look behind must have been closed before it began. -/
def checkBehind (number : Nat) : Parser Unit := do
  match (← get).behind with
  | some outside =>
    let _ ← checkClosed number
    if number > outside then malformed
  | none => return

/-- What a group matched, once more. -/
def backReference (sw : Switches) (number : Nat) : Parser Item := do
  if number == 0 then malformed
  let w ← checkClosed number
  checkBehind number
  return ⟨.backReference number sw.folding, w, .plain⟩

/-- An escape outside a class. -/
def escape (sw : Switches) (c : Char) : Parser Item := do
  let position (a : Anchor) : Item := ⟨.anchor a, (0, 0), .position⟩
  match c with
  | 'A' => return position .textStart
  | 'Z' => return position .textEnd
  | 'b' => return position (.wordEdge false sw.ascii)
  | 'B' => return position (.wordEdge true sw.ascii)
  | '0' => return literal sw (ofBase 8 ('0' :: (← takeUpTo isOctal 2)))
  | _ =>
    match category? sw c, control? c with
    | some m, _ => return ⟨.char ⟨false, sw.folding, [m]⟩, (1, 1), .plain⟩
    | none, some n => return literal sw n
    | none, none =>
      if c.isDigit then
        match ← takeUpTo Char.isDigit 1 with
        | [d] =>
          if isOctal c && isOctal d then
            match ← takeUpTo isOctal 1 with
            | [e] => return literal sw (← octal [c, d, e])
            | _ => backReference sw (ofBase 10 [c, d])
          else backReference sw (ofBase 10 [c, d])
        | _ => backReference sw (ofBase 10 [c])
      else return literal sw (← codePoint c)

/-- An escape inside a class. -/
def classEscape (sw : Switches) (c : Char) : Parser Member := do
  match category? sw c, control? c with
  | some m, _ => return m
  | none, some n => return .range n n
  | none, none =>
    let n ← if isOctal c then octal (c :: (← takeUpTo isOctal 2)) else codePoint c
    return .range n n

/-! ## Classes -/

/-- A single member of a class. -/
def classMember (sw : Switches) : Token → Parser Member
  | .plain c => return .range c.toNat c.toNat
  | .escaped c => classEscape sw c
  | .dangling => malformed

/-- The members of a class up to its closing bracket, which stands for itself in the first place. -/
def classMembers (sw : Switches) (first : Bool) : Nat → Parser (List Member)
  | 0 => malformed
  | fuel + 1 => do
    match ← take with
    | none => malformed
    | some t =>
      if t == .plain ']' && !first then return []
      let m ← classMember sw t
      if ← accept '-' then
        match ← take with
        | none => malformed
        | some (.plain ']') => return [m, .range 0x2D 0x2D]
        | some t' =>
          let m' ← classMember sw t'
          match m, m' with
          | .range lo _, .range hi _ =>
            if hi < lo then malformed
            return .range lo hi :: (← classMembers sw false fuel)
          | _, _ => malformed
      else
        return m :: (← classMembers sw false fuel)

/-- A class after its opening bracket. -/
def charClass (sw : Switches) : Parser Item := do
  let negated ← accept '^'
  let members ← classMembers sw true ((← get).rest.length + 1)
  return ⟨.char ⟨negated, sw.folding, members⟩, (1, 1), .plain⟩

/-! ## Repetitions -/

/-- The count written by digits; no digits give none. -/
def count? (digits : List Char) : Parser (Option Nat) := do
  if digits.isEmpty then return none
  if digits.length > Decimal.digitLimit then throw (.countTooLong digits.length)
  let n := ofBase 10 digits
  if n ≥ countLimit then throw .countTooLarge
  return some n

/-- The bounds of a repetition in braces after the opening one; none if that brace stands for itself. -/
def braces : Parser (Option (Nat × Option Nat)) := do
  let here := (← get).rest
  if (← peek) == some (.plain '}') then return none
  let low ← takeUpTo Char.isDigit here.length
  let high ← if ← accept ',' then takeUpTo Char.isDigit here.length else pure low
  if ← accept '}' then
    let _ ← peek
    let least ← count? low
    let most ← count? high
    if most.any (· < least.getD 0) then malformed
    return some (least.getD 0, most)
  else
    modify fun s => { s with rest := here }
    return none

/-- The bounds of a repetition by its sign; none if the sign is a brace that stands for itself. -/
def bounds (sign : Char) : Parser (Option (Nat × Option Nat)) :=
  match sign with
  | '?' => return some (0, some 1)
  | '*' => return some (0, none)
  | '+' => return some (1, none)
  | _ => braces

/-- The width of a repetition. -/
def repeatedWidth (w : Width) (least : Nat) (most : Option Nat) : Width :=
  let high :=
    match most with
    | some m => w.2 * m
    | none => if w.2 == 0 then 0 else widthLimit
  (w.1 * least, high)

/-- How a repetition chooses its count, by the sign that follows it. -/
def greedSign : Parser Greed := do
  match ← peek with
  | some (.plain '?') =>
    drop
    return .lazy
  | some (.plain '+') =>
    drop
    return .possessive
  | _ => return .greedy

/-- Repeats the item that was read last. -/
def repeatItem (sw : Switches) (least : Nat) (most : Option Nat) : List Item → Parser (List Item)
  | [] => malformed
  | item :: before => do
    if item.role != .plain then malformed
    if sw.template then refuse
    let greed ← greedSign
    return ⟨.repetition greed least most item.node, repeatedWidth item.width least most, .repeated⟩
      :: before

/-! ## Names and switches of groups -/

/-- The text may name a group. -/
def isName : List Char → Bool
  | [] => false
  | c :: rest =>
    (c == '_' || (Text.isAlphanumeric c && !Text.isDecimal c && !Text.isDigit c))
      && rest.all Text.isWordChar

/-- The name of a group up to a closing character. -/
def groupName (close : Char) : Parser String := do
  let cs ← takeUntil close ((← get).rest.length + 1)
  if isName cs then return String.ofList cs else malformed

/-- Letters of switches that are turned on, up to a character that ends them. -/
def switchesOn (on : Switches) (c : Char) : Nat → Parser (Switches × Char)
  | 0 => malformed
  | fuel + 1 => do
    match Switches.ofLetter? c with
    | none => malformed
    | some s =>
      let on := on.union s
      if s.choosesRepertoire && on.ascii && on.unicode then malformed
      match ← take with
      | some (.plain c') =>
        if c' == ')' || c' == '-' || c' == ':' then return (on, c') else switchesOn on c' fuel
      | _ => malformed

/-- Letters of switches that are turned off, up to a colon. -/
def switchesOff (off : Switches) : Nat → Parser Switches
  | 0 => malformed
  | fuel + 1 => do
    match ← take with
    | some (.plain c) =>
      if c == ':' && !off.isEmpty then return off
      match Switches.ofLetter? c with
      | some s => if s.choosesRepertoire then malformed else switchesOff (off.union s) fuel
      | none => malformed
    | _ => malformed

/-- What the letters after the opening of a group do: set the base switches, or open a scope. -/
def groupSwitches (c : Char) : Parser (Sum Switches (Switches × Switches)) := do
  let fuel := (← get).rest.length + 1
  let (on, stop) ← if c == '-' then pure ({}, '-') else switchesOn {} c fuel
  if stop == ')' then return .inl on
  if on.template then malformed
  let off ← if stop == '-' then switchesOff {} fuel else pure {}
  if off.template || !(on.without (on.without off)).isEmpty then malformed
  return .inr (on, off)

/-! ## Sequences and alternatives -/

/-- Drops everything up to a character and that character; the end of the pattern ends it, too. -/
def skipPast (c : Char) : Nat → Parser Bool
  | 0 => return false
  | fuel + 1 => do
    match ← take with
    | none => return false
    | some t => if t == .plain c then return true else skipPast c fuel

/-- The width of two patterns in a row. -/
def addWidths (a b : Width) : Width :=
  (min (a.1 + b.1) widthLimit, min (a.2 + b.2) widthLimit)

/-- The width of either of two patterns. -/
def eitherWidth (a b : Width) : Width :=
  (min a.1 b.1, max a.2 b.2)

/-- Joins items, the latest first, into one. -/
def joinItems (items : List Item) : Item :=
  items.foldl (fun acc i => ⟨.seq i.node acc.node, addWidths i.width acc.width, .plain⟩)
    ⟨.empty, (0, 0), .plain⟩

/-- Opens a group and gives its number; a name may be taken only once. -/
def openGroup (name : Option String) : Parser Nat := do
  let s ← get
  let number := s.groups.length + 1
  match name with
  | some n =>
    if (s.names.lookup n).isSome then malformed
    set { s with groups := s.groups ++ [none], names := (n, number) :: s.names }
  | none => set { s with groups := s.groups ++ [none] }
  return number

/-- Closes a group. -/
def closeGroup (number : Nat) (w : Width) : Parser Unit :=
  modify fun s => { s with groups := s.groups.set (number - 1) (some w) }

/-- The number of the group that a condition asks for. -/
def conditionGroup : Parser Nat := do
  let cs ← takeUntil ')' ((← get).rest.length + 1)
  if cs.isEmpty then malformed
  let number ←
    if isName cs then
      match (← get).names.lookup (String.ofList cs) with
      | some n => pure n
      | none => malformed
    else
      match Decimal.readInteger (String.ofList cs) with
      | .ok n =>
        if n ≤ 0 then malformed
        modify fun s => { s with asked := n.toNat :: s.asked }
        pure n.toNat
      | .error _ => malformed
  checkBehind number
  return number

/-- What an opening parenthesis begins. -/
inductive Opening where
  /-- A remembered group, perhaps with a name. -/
  | capture (name : Option String)
  /-- A group that only holds together, with switches turned on and off inside. -/
  | plain (change : Switches × Switches)
  | atomic
  | look (behind negated : Bool)
  | conditional (number : Nat)
  /-- No group: an item of its own, or nothing at all. -/
  | closed (item : Option Item)

/-- What an opening parenthesis begins, read as far as it takes to tell. Switches of the whole pattern
may be set if nothing stands before them. -/
def opening (scope : Scope) (first : Bool) : Parser Opening := do
  if !(← accept '?') then return .capture none
  match ← take with
  | some (.plain ':') => return .plain ({}, {})
  | some (.plain '>') => return .atomic
  | some (.plain '=') => return .look false false
  | some (.plain '!') => return .look false true
  | some (.plain '<') =>
    match ← take with
    | some (.plain '=') => return .look true false
    | some (.plain '!') => return .look true true
    | _ => malformed
  | some (.plain '(') => return .conditional (← conditionGroup)
  | some (.plain '#') =>
    if ← skipPast ')' ((← get).rest.length + 1) then return .closed none else malformed
  | some (.plain 'P') =>
    match ← take with
    | some (.plain '<') => return .capture (some (← groupName '>'))
    | some (.plain '=') =>
      let name ← groupName ')'
      match (← get).names.lookup name with
      | some number => return .closed (some (← backReference (← switches scope) number))
      | none => malformed
    | _ => malformed
  | some (.plain c) =>
    match ← groupSwitches c with
    | .inl on =>
      if !first then malformed
      modify fun s => { s with base := s.base.union on }
      return .closed none
    | .inr change => return .plain change
  | _ => malformed

mutual

/-- Alternatives up to the end of their group. -/
def alternatives (scope : Scope) (first : Bool) : Nat → Parser Item
  | 0 => malformed
  | fuel + 1 => do
    let p ← sequence scope first [] fuel
    if ← accept '|' then
      let q ← alternatives scope false fuel
      return ⟨.alt p.node q.node, eitherWidth p.width q.width, .plain⟩
    else
      return p

/-- Items up to the end of an alternative; `items` are those read so far, the latest first. `first`
tells that switches of the whole pattern may still be set. -/
def sequence (scope : Scope) (first : Bool) (items : List Item) : Nat → Parser Item
  | 0 => malformed
  | fuel + 1 => do
    let sw ← switches scope
    match ← peek with
    | none => return joinItems items
    | some .dangling => malformed
    | some (.escaped c) =>
      drop
      let item ← escape sw c
      sequence scope first (item :: items) fuel
    | some (.plain c) =>
      if c == '|' || c == ')' then return joinItems items
      drop
      if sw.verbose && (c == ' ' || (0x09 ≤ c.val && c.val ≤ 0x0D)) then
        sequence scope first items fuel
      else if sw.verbose && c == '#' then
        let _ ← skipPast '\n' ((← get).rest.length + 1)
        sequence scope first items fuel
      else
        match c with
        | '[' =>
          let item ← charClass sw
          sequence scope first (item :: items) fuel
        | '.' =>
          let cls : CharClass :=
            if sw.dotAll then ⟨true, .none, []⟩ else ⟨true, .none, [.range 0x0A 0x0A]⟩
          sequence scope first (⟨.char cls, (1, 1), .plain⟩ :: items) fuel
        | '^' =>
          let a := if sw.multiLine then Anchor.lineStart else .textStart
          sequence scope first (⟨.anchor a, (0, 0), .position⟩ :: items) fuel
        | '$' =>
          let a := if sw.multiLine then Anchor.lineEnd else .lastLineEnd
          sequence scope first (⟨.anchor a, (0, 0), .position⟩ :: items) fuel
        | '(' =>
          let found ← group scope (first && items.isEmpty) fuel
          match found with
          | some item => sequence scope first (item :: items) fuel
          | none => sequence scope first items fuel
        | '*' | '+' | '?' | '{' =>
          match ← bounds c with
          | some (least, most) =>
            let items ← repeatItem sw least most items
            sequence scope first items fuel
          | none => sequence scope first (literal sw c.toNat :: items) fuel
        | _ => sequence scope first (literal sw c.toNat :: items) fuel

/-- A group after its opening parenthesis, up to its closing one. -/
def group (scope : Scope) (first : Bool) : Nat → Parser (Option Item)
  | 0 => malformed
  | fuel + 1 => do
    match ← opening scope first with
    | .closed item => return item
    | .capture name =>
      let number ← openGroup name
      let p ← alternatives scope false fuel
      expect ')'
      closeGroup number p.width
      return some ⟨.group number p.node, p.width, .plain⟩
    | .plain change =>
      let p ← alternatives (scope ++ [change]) false fuel
      expect ')'
      return some { p with role := .plain }
    | .atomic =>
      let p ← alternatives scope false fuel
      expect ')'
      return some ⟨.atomic p.node, p.width, .plain⟩
    | .look behind negated =>
      let outer := (← get).behind
      let outermost := behind && outer.isNone
      if outermost then modify fun s => { s with behind := some s.groups.length }
      let p ← alternatives scope false fuel
      if outermost then modify fun s => { s with behind := none }
      expect ')'
      if behind && (p.width.1 != p.width.2 || p.width.1 > countLimit) then refuse
      return some ⟨.look (if behind then some p.width.1 else none) negated p.node, (0, 0), .plain⟩
    | .conditional number =>
      let yes ← sequence scope false [] fuel
      let no ←
        if ← accept '|' then
          let no ← sequence scope false [] fuel
          if (← peek) == some (.plain '|') then malformed
          pure (some no)
        else pure none
      expect ')'
      let width :=
        match no with
        | some q => eitherWidth yes.width q.width
        | none => (0, yes.width.2)
      return some ⟨.conditional number yes.node ((no.map Item.node).getD .empty), width, .plain⟩

end

/-- A pattern and the number of its groups. -/
structure Compiled where
  node : Node
  groups : Nat

/-- Reads a whole pattern. -/
def compile (s : String) : Except Fault Compiled := do
  let ts := tokens s.toList
  let (p, st) ← (alternatives [] true (8 * ts.length + 8)).run { rest := ts }
  if st.base.ascii && st.base.unicode then throw .contradictingSwitches
  if !st.rest.isEmpty then throw .malformed
  if st.isRefused || st.asked.any (· > st.groups.length) then throw .malformed
  return ⟨p.node, st.groups.length⟩

/-- The pattern is found somewhere in the text. -/
def search? (pattern text : String) : Except Fault Bool :=
  (compile pattern).map fun c => c.node.isFoundIn c.groups text

end ChatFlow.Pattern
