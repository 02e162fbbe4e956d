import ChatFlow.Text.Ranges
import ChatFlow.Text.CaseTable

/-!
Lower case over the whole character repertoire.

Every character has at most one lower-case form, with two exceptions that only show in a text: the
capital I with a dot becomes two characters, and a capital sigma becomes the final form at the end of
a word, that is after a cased character and not before one, marks in between not counting.
-/

namespace ChatFlow.Text

/-- The lower-case form of a single character; a character without one is its own. -/
def lowerChar (c : Char) : Char :=
  if c.val < 0x80 then c.toLower
  else
    match lowerRuns.find? fun (lo, hi, stride, _) =>
        lo ≤ c.toNat && c.toNat ≤ hi && (c.toNat - lo) % stride == 0 with
    | some (_, _, _, shift) => Char.ofNat ((c.toNat : Int) + shift).toNat
    | none => c

/-- The character is upper, lower or title case. -/
def isCased (c : Char) : Bool :=
  inRanges casedRanges c

/-- The character is passed over when a case rule looks at its neighbours. -/
def isCaseIgnorable (c : Char) : Bool :=
  inRanges caseIgnorableRanges c

/-- The nearest character that a case rule sees is cased. -/
def startsCased (cs : List Char) : Bool :=
  match cs.dropWhile isCaseIgnorable with
  | c :: _ => isCased c
  | [] => false

/-- Lower case of the characters `cs`, where `before` holds those in front of them, nearest first. -/
def lowerFrom (before : List Char) : List Char → List Char
  | [] => []
  | c :: rest =>
    let form :=
      if c == 'Σ' then [if startsCased before && !startsCased rest then 'ς' else 'σ']
      else if c == 'İ' then ['i', '\u0307']
      else [lowerChar c]
    form ++ lowerFrom (c :: before) rest

/-- Lower case of a list of characters. -/
def lowerChars (cs : List Char) : List Char :=
  lowerFrom [] cs

/-- Lower case of a text. -/
def lower (s : String) : String :=
  String.ofList (lowerChars s.toList)

end ChatFlow.Text
