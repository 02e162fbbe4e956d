import ChatFlow.Behavior.Branch
import ChatFlow.Proofs.Interpreter.Answering
import ChatFlow.Proofs.Json.RoundTrip
import ChatFlow.Proofs.Text.Visible
import ChatFlow.Proofs.Turn.Standard

/-!
Whether a list contains one of its texts.

A rule compares texts, and the text of a list is its JSON. So a list contains one of its texts if that stands in the
JSON as it is, which is so if it is plain: visible, without a quote and without a backslash. JSON is visible
throughout (`Json.isVisible_of_mem_write`), so that a text with any other character than the visible ones is not
found in it, the sign for kelvin apart (`Behavior.contains_member`).
-/

namespace ChatFlow

open Text (isVisible lowerChars)

/-! ## JSON is visible -/

namespace Json

variable {s : String} {texts : List String}

theorem isVisible_digitChar (d : Nat) : isVisible d.digitChar = true := by
  by_cases digit : d < 16
  · exact (show ∀ d < 16, isVisible d.digitChar = true by decide) d digit
  · have star : d.digitChar = '*' := by
      unfold Nat.digitChar
      repeat rw [if_neg (by omega)]
    rw [star]
    rfl

theorem isVisible_toDigitsCore {base fuel n : Nat} {done : List Char} (visible : ∀ c ∈ done, isVisible c = true) :
    ∀ c ∈ Nat.toDigitsCore base fuel n done, isVisible c = true := by
  induction fuel generalizing n done with
  | zero => exact visible
  | succ fuel ih =>
    have more : ∀ c ∈ (n % base).digitChar :: done, isVisible c = true :=
      List.forall_mem_cons.mpr ⟨isVisible_digitChar _, visible⟩
    rw [Nat.toDigitsCore]
    split
    · exact more
    · exact ih more

theorem isVisible_unitEscape (n : Nat) : ∀ c ∈ unitEscape n, isVisible c = true := by
  have digits : ∀ c ∈ Nat.toDigits 16 n, isVisible c = true := isVisible_toDigitsCore (by simp)
  intro c written
  simp only [unitEscape, Text.hexPadded, List.mem_cons, List.mem_append, List.mem_replicate] at written
  rcases written with rfl | rfl | ⟨-, rfl⟩ | digit
  · rfl
  · rfl
  · rfl
  · exact digits c digit

theorem isVisible_writeChar (c : Char) : ∀ d ∈ writeChar c, isVisible d = true := by
  unfold writeChar
  repeat' split
  -- The first seven are the short escapes.
  iterate 7 exact List.all_eq_true.mp rfl
  · intro d same
    cases List.mem_singleton.mp same
    assumption
  · exact isVisible_unitEscape _
  · intro d written
    rcases List.mem_append.mp written with high | low
    · exact isVisible_unitEscape _ d high
    · exact isVisible_unitEscape _ d low

theorem isVisible_writeText (s : String) : ∀ c ∈ writeText s, isVisible c = true := by
  intro c written
  rcases List.mem_append.mp written with inner | last
  · rcases List.mem_cons.mp inner with rfl | body
    · rfl
    · obtain ⟨d, -, written⟩ := List.mem_flatMap.mp body
      exact isVisible_writeChar d c written
  · cases List.mem_singleton.mp last
    rfl

theorem isVisible_writeItems (texts : List String) (first : Bool) :
    ∀ c ∈ writeItems first (texts.map .text), isVisible c = true := by
  induction texts generalizing first with
  | nil => simp [writeItems]
  | cons s rest ih =>
    intro c written
    rw [List.map_cons, writeItems, write] at written
    rcases List.mem_append.mp written with here | later
    · rcases List.mem_append.mp here with separator | text
      · cases first with
        | true => cases separator
        | false => exact List.all_eq_true.mp (show [',', ' '].all isVisible = true from rfl) c separator
      · exact isVisible_writeText s c text
    · exact ih false c later

/-- The JSON of a list of texts is visible. -/
theorem isVisible_of_mem_write (texts : List String) :
    ∀ c ∈ write (.list (texts.map .text)), isVisible c = true := by
  intro c written
  rw [write] at written
  rcases List.mem_append.mp written with inner | last
  · rcases List.mem_cons.mp inner with rfl | items
    · rfl
    · exact isVisible_writeItems texts true c items
  · cases List.mem_singleton.mp last
    rfl

/-! ## Plain texts -/

/-- The character stands in JSON as it is. -/
def isPlain (c : Char) : Bool :=
  isVisible c && c != '"' && c != '\\'

theorem writeChar_plain {c : Char} (plain : isPlain c = true) : writeChar c = [c] := by
  simp only [isPlain, Bool.and_eq_true, bne_iff_ne] at plain
  obtain ⟨⟨visible, quote⟩, backslash⟩ := plain
  have apart : ∀ d : Char, isVisible d = false → c ≠ d := by
    rintro d hidden rfl
    exact Bool.noConfusion (visible.symm.trans hidden)
  have range : (0x20 ≤ c.val && c.val ≤ 0x7E) = true := visible
  simp [writeChar, quote, backslash, range, apart '\n' rfl, apart '\r' rfl, apart '\t' rfl, apart '\x08' rfl,
    apart '\x0c' rfl]

theorem flatMap_writeChar_plain {cs : List Char} (plain : ∀ c ∈ cs, isPlain c = true) :
    cs.flatMap writeChar = cs := by
  induction cs with
  | nil => rfl
  | cons c rest ih =>
    rw [List.flatMap_cons, writeChar_plain (plain c List.mem_cons_self),
      ih fun d later => plain d (List.mem_cons_of_mem _ later)]
    rfl

theorem isInfix_writeText (plain : ∀ c ∈ s.toList, isPlain c = true) : s.toList <:+: writeText s :=
  ⟨['"'], ['"'], by rw [writeText, flatMap_writeChar_plain plain]; rfl⟩

theorem isInfix_writeItems (member : s ∈ texts) (first : Bool) :
    writeText s <:+: writeItems first (texts.map .text) := by
  induction texts generalizing first with
  | nil => cases member
  | cons t rest ih =>
    rw [List.map_cons, writeItems, write]
    rcases List.mem_cons.mp member with rfl | later
    · exact ⟨_, _, rfl⟩
    · exact (ih later false).trans (List.suffix_append _ _).isInfix

/-- The JSON of a text of a list stands in that of the list. -/
theorem isInfix_write (member : s ∈ texts) : writeText s <:+: write (.list (texts.map .text)) := by
  rw [write]
  exact (isInfix_writeItems member true).trans ⟨['['], [']'], rfl⟩

end Json

namespace Flow

variable {texts : List String} {s : String}

/-- The text of a list of texts, in lower case, holds the text in lower case. -/
def Holds (texts : List String) (s : String) : Prop :=
  lowerChars s.toList <:+: lowerChars (Json.write (.list (texts.map .text)))

theorem fault?_texts (texts : List String) : Json.fault? false (.list (texts.map .text)) = none :=
  Json.fault?_exact (.list fun v listed => by
    obtain ⟨s, -, rfl⟩ := List.mem_map.mp listed
    exact .text s) false

/-- A list of texts contains a text if its JSON does, case aside. -/
theorem contains?_texts (texts : List String) (s : String) :
    ∃ b, contains? (.list (texts.map .text)) (.text s) = .ok b ∧ (b = true ↔ Holds texts s) := by
  have filled : (Value.list (texts.map .text)).fill? = .ok (Json.text (.list (texts.map .text))) := by
    rw [Value.fill?, Json.text?, fault?_texts]
  refine ⟨_, ?_, Text.occursIn_iff _ _⟩
  unfold contains?
  rw [filled]
  show Except.ok (Text.occursIn (lowerChars s.toList) (lowerChars (Json.text _).toList)) = _
  rw [Json.text, String.toList_ofList]

/-- A plain text of the list is held. -/
theorem holds_of_plain (member : s ∈ texts) (plain : ∀ c ∈ s.toList, Json.isPlain c = true) : Holds texts s := by
  have visible : ∀ c ∈ s.toList, isVisible c = true := fun c listed => by
    have here := plain c listed
    simp only [Json.isPlain, Bool.and_eq_true] at here
    exact here.1.1
  rw [Holds, Text.lowerChars_visible visible, Text.lowerChars_visible (Json.isVisible_of_mem_write texts)]
  exact ((Json.isInfix_writeText plain).trans (Json.isInfix_write member)).map _

/-- A text with a character that is not visible is not held, unless the character is the sign for kelvin. -/
theorem not_holds_of_hidden (texts : List String) {c : Char} (listed : c ∈ s.toList) (hidden : isVisible c = false)
    (noKelvin : c ≠ Text.kelvin) : ¬ Holds texts s := by
  rintro ⟨before, after, whole⟩
  obtain ⟨d, lowered, hidden'⟩ := Text.exists_hidden_lowerChars listed hidden noKelvin
  have visible := Text.isVisible_of_mem_lowerChars (Json.isVisible_of_mem_write texts) d
    (whole ▸ List.mem_append_left _ (List.mem_append_right _ lowered))
  exact Bool.noConfusion (visible.symm.trans hidden')

end Flow

namespace Behavior

open ChatFlow.Flow (Rule Operator Holds)

/-- A rule that is judged is evaluated to whether it holds. -/
theorem Branch.evaluate_run {rule : Rule} {scope : Value} {b : Bool} (judged : rule.judge? scope = .ok (.ofBool b))
    (outside : Outside) : (Branch.evaluate rule scope).run outside = (.ok b, outside) := by
  rw [Branch.evaluate, Service.run_ofExcept_bind, judged]
  cases b <;> rfl

/-- A rule that cannot be judged fails. -/
theorem Branch.evaluate_error {rule : Rule} {scope : Value} {f : Failure} (judged : rule.judge? scope = .error f)
    (outside : Outside) : (Branch.evaluate rule scope).run outside = (.error f, outside) := by
  rw [Branch.evaluate, Service.run_ofExcept_bind, judged]

/-- A rule on a list of texts, whose value is one of them. It is found exactly if the JSON of the list has it inside,
case aside. So it is found if all its characters are visible ones other than the quote and the backslash; and it is
not, if there is one that is not visible and not the sign for kelvin. -/
theorem contains_member {rule : Rule} {scope : Value} {texts : List String} {s : String}
    (stored : Path.find? scope rule.variableName = .ok (.list (texts.map .text))) (member : s ∈ texts)
    (value : rule.value = .text s) (outside : Outside) :
    ∃ b, (rule.operator = Operator.contains.word → (Branch.evaluate rule scope).run outside = (.ok b, outside)) ∧
      (rule.operator = Operator.notContains.word → (Branch.evaluate rule scope).run outside = (.ok !b, outside)) ∧
      (b = true ↔ Holds texts s) ∧
      ((∀ c ∈ s.toList, Json.isPlain c = true) → b = true) ∧
      ((∃ c ∈ s.toList, isVisible c = false ∧ c ≠ Text.kelvin) → b = false) := by
  obtain ⟨b, contains, holds⟩ := Flow.contains?_texts texts s
  refine ⟨b, fun op => Branch.evaluate_run ?_ outside, fun op => Branch.evaluate_run ?_ outside, holds, ?_, ?_⟩
  · rw [Rule.judge?, stored, op, value]
    show (Flow.contains? (.list (texts.map .text)) (.text s)).map Flow.Verdict.ofBool = _
    rw [contains]
    rfl
  · rw [Rule.judge?, stored, op, value]
    show (Flow.lacks? (.list (texts.map .text)) (.text s)).map Flow.Verdict.ofBool = _
    rw [Flow.lacks?_eq, contains]
    rfl
  · exact fun plain => holds.mpr (Flow.holds_of_plain member plain)
  · rintro ⟨c, listed, hidden, noKelvin⟩
    rw [Bool.eq_false_iff]
    exact fun found => Flow.not_holds_of_hidden texts listed hidden noKelvin (holds.mp found)

end Behavior

/-! ## Looking for tags -/

namespace Sample

open ChatFlow.Flow (Rule)

/-- A rule on the tags. -/
def tagRule (operator value : String) : Rule :=
  ⟨none, "tags", operator, .text value, none, []⟩

/-- The variables, with these tags. -/
def tagged (tags : List String) : Value :=
  .dict [("tags", .list (tags.map .text))]

/-- A plain tag is found among others. -/
theorem contains_member_plain :
    Path.find? (tagged ["Ann", "hot lead"]) "tags" = .ok (.list (["Ann", "hot lead"].map .text)) ∧
      (∀ c ∈ "hot lead".toList, Json.isPlain c = true) ∧
      (Behavior.Branch.evaluate (tagRule "contains" "hot lead") (tagged ["Ann", "hot lead"])).run (world []).outside
        = (.ok true, (world []).outside) := by
  have stored : Path.find? (tagged ["Ann", "hot lead"]) "tags" = .ok (.list (["Ann", "hot lead"].map .text)) := by
    with_unfolding_all rfl
  have plain : ∀ c ∈ "hot lead".toList, Json.isPlain c = true := List.all_eq_true.mp (by decide +kernel)
  obtain ⟨b, contains, -, -, found, -⟩ := @Behavior.contains_member (tagRule "contains" "hot lead") _ _ _ stored
    (List.mem_cons_of_mem _ List.mem_cons_self) rfl (world []).outside
  refine ⟨stored, plain, ?_⟩
  rw [contains rfl, found plain]

/-- Whether the tag is found, and whether it is missed, in the list that holds it. -/
def verdicts (tag : String) : List (Except Failure Bool) :=
  ["contains", "not_contains"].map fun operator =>
    ((Behavior.Branch.evaluate (tagRule operator tag) (tagged [tag, "Ann"])).run (world []).outside).1

theorem verdicts_eq {tag : String} {found : Bool}
    (contains : ((tagRule "contains" tag).judge? (tagged [tag, "Ann"])).toOption = some (.ofBool found))
    (lacks : ((tagRule "not_contains" tag).judge? (tagged [tag, "Ann"])).toOption = some (.ofBool !found)) :
    verdicts tag = [.ok found, .ok !found] := by
  have toOk : ∀ {e : Except Failure Flow.Verdict} {v : Flow.Verdict}, e.toOption = some v → e = .ok v := by
    rintro (f | v) _ ⟨⟩
    rfl
  simp only [verdicts, List.map_cons, List.map_nil, Behavior.Branch.evaluate_run (toOk contains),
    Behavior.Branch.evaluate_run (toOk lacks)]

/-- A tag with an accent, with a quote or with a backslash is not found in the list that holds it. -/
theorem contains_member_fails :
    verdicts "José" = [.ok false, .ok true] ∧ verdicts "say \"hi\"" = [.ok false, .ok true] ∧
      verdicts "a\\b" = [.ok false, .ok true] := by
  refine ⟨verdicts_eq ?_ ?_, verdicts_eq ?_ ?_, verdicts_eq ?_ ?_⟩ <;> decide +kernel

end Sample

end ChatFlow
