/-!
Finding one text inside another.
-/

namespace ChatFlow.Text

/-- The characters `needle` stand one after another somewhere in a text. -/
def occursIn (needle : List Char) : List Char → Bool
  | [] => needle.isEmpty
  | c :: rest => needle.isPrefixOf (c :: rest) || occursIn needle rest

/-- `occursIn` decides whether a list of characters is a segment of another. -/
theorem occursIn_iff (needle text : List Char) : occursIn needle text = true ↔ needle <:+: text := by
  induction text with
  | nil => simp [occursIn]
  | cons c rest ih => simp [occursIn, ih, List.infix_cons_iff]

end ChatFlow.Text
