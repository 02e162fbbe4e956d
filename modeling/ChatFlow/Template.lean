import ChatFlow.Path
import ChatFlow.Text.Blank
import ChatFlow.Value.Display

/-!
Message texts with places to fill.

A place is written as two opening braces, one or more characters other than a closing brace, and two
closing braces; the leftmost reading counts, so of three opening braces the third belongs to the name.
`Template.segments` splits a text into literal runs and places. The split depends on the text alone:
what is filled in is never read again. `Template.fill?` puts into each place the text of the value that
its path leads to.
-/

namespace ChatFlow.Template

/-! ## Segments -/

/-- A part of a template. -/
inductive Segment where
  | literal (run : List Char)
  | place (name : List Char)
deriving Repr, DecidableEq

/-- The text that a segment was read from. -/
def Segment.chars : Segment → List Char
  | .literal run => run
  | .place name => '{' :: '{' :: name ++ ['}', '}']

/-- The place that starts here, if one does: its name and what follows it. -/
def placeAt? : List Char → Option (List Char × List Char)
  | '{' :: '{' :: rest =>
    match rest.takeWhile (· != '}'), rest.dropWhile (· != '}') with
    | c :: name, '}' :: '}' :: after => some (c :: name, after)
    | _, _ => none
  | _ => none

theorem length_of_placeAt? {cs name after : List Char} (h : placeAt? cs = some (name, after)) :
    after.length < cs.length := by
  unfold placeAt? at h
  split at h
  · rename_i rest
    split at h
    · rename_i hd
      have hl : (rest.dropWhile (· != '}')).length ≤ rest.length := by
        exact (List.dropWhile_sublist _).length_le
      simp only [Option.some.injEq, Prod.mk.injEq] at h
      obtain ⟨-, rfl⟩ := h
      rw [hd] at hl
      simp only [List.length_cons] at hl ⊢
      omega
    · simp at h
  · simp at h

/-- Puts a character in front of the segments, into a literal run that stands there already. -/
def consChar (c : Char) : List Segment → List Segment
  | .literal run :: rest => .literal (c :: run) :: rest
  | segments => .literal [c] :: segments

/-- Splits a text into literal runs and places. -/
def segments (cs : List Char) : List Segment :=
  match cs with
  | [] => []
  | c :: rest =>
    match _ : placeAt? (c :: rest) with
    | some (name, after) => .place name :: segments after
    | none => consChar c (segments rest)
termination_by cs.length
decreasing_by
  · exact length_of_placeAt? ‹_›
  · exact Nat.lt_succ_self rest.length

/-! ## Filling -/

/-- The text that a segment becomes. -/
def Segment.fill? (scope : Value) : Segment → Except Failure (List Char)
  | .literal run => .ok run
  | .place name =>
    match Path.find? scope (Text.trim (String.ofList name)) with
    | .error f => .error f
    | .ok v => v.fill?.map String.toList

/-- The text that the segments become, one after another. -/
def fillAll? (scope : Value) : List Segment → Except Failure (List Char)
  | [] => .ok []
  | s :: rest =>
    match s.fill? scope with
    | .error f => .error f
    | .ok cs => (fillAll? scope rest).map (cs ++ ·)

/-- The text with its places filled. -/
def fill? (scope : Value) (text : String) : Except Failure String :=
  (fillAll? scope (segments text.toList)).map String.ofList

/-- Fills a value that should be a text: what counts as absent is the empty text, and anything that is
no text is a fault. -/
def fillValue? (scope : Value) (template : Value) : Except Failure String :=
  if !template.isPresent then .ok ""
  else
    match template with
    | .text s => fill? scope s
    | v => .error (.textDue v.sortName)

mutual

/-- Fills every text inside a value; keys and other leaves stay as they are. -/
def fillWithin? (scope : Value) : Value → Except Failure Value
  | .text s => (fill? scope s).map .text
  | .list items => (fillItems? scope items).map .list
  | .dict entries => (fillEntries? scope entries).map .dict
  | v => .ok v

/-- Fills every text inside the items of a list. -/
def fillItems? (scope : Value) : List Value → Except Failure (List Value)
  | [] => .ok []
  | v :: rest =>
    match fillWithin? scope v with
    | .error f => .error f
    | .ok v' => (fillItems? scope rest).map (v' :: ·)

/-- Fills every text inside the values of a dictionary. -/
def fillEntries? (scope : Value) : List (String × Value) → Except Failure Entries
  | [] => .ok []
  | (k, v) :: rest =>
    match fillWithin? scope v with
    | .error f => .error f
    | .ok v' => (fillEntries? scope rest).map ((k, v') :: ·)

end

end ChatFlow.Template
