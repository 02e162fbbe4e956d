import ChatFlow.Proofs.Behavior.Containing
import ChatFlow.Proofs.Decimal.Numerals

/-!
Rules that compare texts, and rules that deny.

A rule holds by equality where the two values put the same text into a message (`Flow.equals?_eq`). The rule for a
missing variable is no exception: only null and the empty text put nothing into a message, since a number has digits
or a name and all else has a frame (`Value.fill?_eq_empty_iff`). So equality is an equivalence on the values that have
a text. And a rule that denies is the negation of the rule that affirms, failures included
(`Behavior.equality_and_denials`).
-/

namespace ChatFlow

/-! ## Values with an empty text -/

namespace Text

theorem append_ne_empty {s t : String} (h : s ≠ "" ∨ t ≠ "") : s ++ t ≠ "" := by
  rw [Ne, String.append_eq_empty_iff]
  rintro ⟨rfl, rfl⟩
  simp at h

end Text

namespace Decimal

open Text (append_ne_empty)

theorem toString_ne_empty (n : Int) : toString n ≠ "" := fun empty =>
  toList_toString_ne_nil n (by simpa using congrArg String.toList empty)

theorem exponentText_ne_empty (e : Int) : exponentText e ≠ "" := by
  unfold exponentText
  exact append_ne_empty (.inl (append_ne_empty (.inl (append_ne_empty (.inl (by decide))))))

/-- A decimal is laid out with a point or an exponent. -/
theorem layout_ne_empty (d : Dec) : d.layout ≠ "" := by
  unfold Dec.layout
  dsimp only
  split
  · split
    · exact append_ne_empty (.inr (by decide))
    · split
      · exact append_ne_empty (.inl (append_ne_empty (.inr (by decide))))
      · exact append_ne_empty (.inl (by decide))
  · exact append_ne_empty (.inr (exponentText_ne_empty _))

/-- A number is written in digits or by a name. -/
theorem numberText_ne_empty (x : Float) : numberText x ≠ "" := by
  unfold numberText numberTextWith
  split
  · decide
  · dsimp only
    split
    · exact append_ne_empty (.inr (by decide))
    · refine append_ne_empty (.inr ?_)
      split
      · decide
      · exact layout_ne_empty _

end Decimal

namespace Value

/-- The text that the value puts into a message. The identifier of a record has digits. -/
structure HasText (v : Value) (s : String) : Prop where
  filled : v.fill? = .ok s
  genuine : v ≠ .recordId ""

variable {v w u : Value} {s t : String}

theorem text_ne_empty (filled : Json.text? v = .ok s) (framed : ∃ c cs, Json.write v = c :: cs) : s ≠ "" := by
  unfold Json.text? at filled
  split at filled
  · cases filled
  · cases filled
    obtain ⟨c, cs, written⟩ := framed
    rw [Json.text, written]
    exact fun empty => List.cons_ne_nil c cs (by simpa using congrArg String.toList empty)

/-- Only null and the empty text put nothing into a message. -/
theorem HasText.eq_empty_iff (h : v.HasText s) : s = "" ↔ v = .null ∨ v = .text "" := by
  obtain ⟨filled, genuine⟩ := h
  cases v with
  | null =>
    cases filled
    simp
  | bool b =>
    cases filled
    cases b <;> simp
  | int n =>
    simp only [fill?, display?] at filled
    split at filled
    · cases filled
    · cases filled
      exact iff_of_false (by rw [inspect]; exact Decimal.toString_ne_empty n) (by simp)
  | float x =>
    rw [fill?] at filled
    split at filled <;> cases filled
    · exact iff_of_false (Decimal.toString_ne_empty _) (by simp)
    · exact iff_of_false (Decimal.numberText_ne_empty x) (by simp)
  | text t =>
    obtain rfl : t = s := Except.ok.inj filled
    simp
  | list items => exact iff_of_false (text_ne_empty filled ⟨_, _, by rw [Json.write]; rfl⟩) (by simp)
  | dict entries => exact iff_of_false (text_ne_empty filled ⟨_, _, by rw [Json.write]; rfl⟩) (by simp)
  | date m =>
    obtain rfl : m.spacedText = s := Except.ok.inj filled
    have spaced : m.spacedText ≠ "" :=
      Text.append_ne_empty (.inl (Text.append_ne_empty (.inl (Text.append_ne_empty (.inr (by decide))))))
    exact iff_of_false spaced (by simp)
  | recordId hex =>
    obtain rfl : hex = s := Except.ok.inj filled
    simpa using genuine

end Value

namespace Flow

variable {v w : Value} {s t : String}

/-- A value equals another if they have the same text. -/
theorem equals?_eq (left : v.HasText s) (right : w.HasText t) : equals? v w = .ok (decide (s = t)) := by
  unfold equals?
  split
  · next missing =>
    cases v with
    | null =>
      cases left.filled
      have nothing : (isNull w || w.isText "") = decide (t = "") := by
        rw [Bool.eq_iff_iff, decide_eq_true_iff, right.eq_empty_iff, Bool.or_eq_true]
        cases w <;> simp [isNull, Value.isText]
      rw [nothing]
      simp only [eq_comm]
    | bool | int | float | text | list | dict | date | recordId => cases missing
  · rw [left.filled, right.filled]
    rfl

end Flow

namespace Behavior

open ChatFlow.Flow (Rule Operator)

variable {rule : Rule} {scope : Value} {o denial : Operator} {outside : Outside}

/-! ## Rules -/

/-- The rule with this operator in the place of its own. -/
def Branch.ask (o : Operator) (rule : Rule) (scope : Value) : Service Bool :=
  Branch.evaluate { rule with operator := o.word } scope

/-- A rule that compares the value of its variable by `answer`. -/
theorem Branch.ask_run (answer : Value → Except Failure Bool)
    (judged : ∀ v, o.judge? v rule.value = (answer v).map .ofBool) (scope : Value) (outside : Outside) :
    (Branch.ask o rule scope).run outside = (Path.find? scope rule.variableName >>= answer, outside) := by
  have verdict : ({ rule with operator := o.word } : Rule).judge? scope
      = (Path.find? scope rule.variableName >>= answer).map .ofBool := by
    have known : Operator.ofWord? o.word = some o := by cases o <;> decide
    rw [Rule.judge?, known]
    cases Path.find? scope rule.variableName with
    | error f => rfl
    | ok v => exact judged v
  cases answered : Path.find? scope rule.variableName >>= answer with
  | error f => exact Branch.evaluate_error (by rw [verdict, answered]; rfl) outside
  | ok b => exact Branch.evaluate_run (by rw [verdict, answered]; rfl) outside

/-- The operator denies what the other affirms. -/
inductive Denies : Operator → Operator → Prop
  | equals : Denies .notEquals .equals
  | contains : Denies .notContains .contains
  | isEmpty : Denies .isNotEmpty .isEmpty

/-- An operator answers by comparing the value of the variable, and the one that denies it by negating the answer. -/
theorem Denies.answers (denies : Denies denial o) (w : Value) :
    ∃ answer : Value → Except Failure Bool, ∀ v, o.judge? v w = (answer v).map .ofBool ∧
      denial.judge? v w = ((answer v).map (!·)).map .ofBool := by
  cases denies with
  | equals =>
    refine ⟨(Flow.equals? · w), fun v => ⟨rfl, ?_⟩⟩
    rw [← Flow.differs?_eq]
    rfl
  | contains =>
    refine ⟨(Flow.contains? · w), fun v => ⟨rfl, ?_⟩⟩
    rw [← Flow.lacks?_eq]
    rfl
  | isEmpty => exact ⟨fun v => .ok (Flow.isBlank v), fun v => ⟨rfl, rfl⟩⟩

theorem Denies.ask_run (denies : Denies denial o) (rule : Rule) (scope : Value) (outside : Outside) :
    ∃ answer, (Branch.ask o rule scope).run outside = (answer, outside) ∧
      (Branch.ask denial rule scope).run outside = (answer.map (!·), outside) := by
  obtain ⟨answer, judged⟩ := denies.answers rule.value
  refine ⟨_, Branch.ask_run _ (fun v => (judged v).1) scope outside, ?_⟩
  rw [Branch.ask_run _ (fun v => (judged v).2) scope outside]
  cases Path.find? scope rule.variableName <;> rfl

/-- A rule by equality on two values that have texts. -/
theorem ask_equals {v : Value} {s t : String} (found : Path.find? scope rule.variableName = .ok v)
    (left : v.HasText s) (right : rule.value.HasText t) (outside : Outside) :
    (Branch.ask .equals rule scope).run outside = (.ok (decide (s = t)), outside) := by
  rw [Branch.ask_run (Flow.equals? · rule.value) (fun _ => rfl), found]
  exact congrArg (·, outside) (Flow.equals?_eq left right)

/-- Every rule by equality that finds the first value and compares it with the second holds. -/
def Equal (outside : Outside) (v w : Value) : Prop :=
  ∀ (rule : Rule) (scope : Value), Path.find? scope rule.variableName = .ok v → rule.value = w →
    (Branch.ask .equals rule scope).run outside = (.ok true, outside)

/-- Two values are equal if they have the same text. -/
theorem equal_iff {v w : Value} {s t : String} (left : v.HasText s) (right : w.HasText t) :
    Equal outside v w ↔ s = t := by
  constructor
  · intro equal
    -- There is a rule on the two values, whatever they are.
    have found : Path.find? (.dict [("value", v)]) "value" = .ok v := by with_unfolding_all rfl
    have holds := equal ⟨none, "value", "", w, none, []⟩ _ found rfl
    rw [ask_equals found left right] at holds
    exact of_decide_eq_true (Except.ok.inj (Prod.mk.inj holds).1)
  · rintro rfl rule scope found rfl
    rw [ask_equals found left right, decide_eq_true rfl]

/-- A rule by equality holds exactly if the two values put the same text into a message, a missing value putting
nothing; so equality is an equivalence on the values that have a text. Inequality, lacking and not being empty are
the negations of equality, containing and being empty: if the one rule fails, so does the other. -/
theorem equality_and_denials (rule : Rule) (scope : Value) (outside : Outside) :
    (∀ {v : Value} {s t : String}, Path.find? scope rule.variableName = .ok v → v.HasText s → rule.value.HasText t →
      (Branch.ask .equals rule scope).run outside = (.ok (decide (s = t)), outside)) ∧
    Equivalence (fun v w : { v : Value // ∃ s, v.HasText s } => Equal outside v w) ∧
    ∀ {denial o : Operator}, Denies denial o → ∃ answer, (Branch.ask o rule scope).run outside = (answer, outside) ∧
      (Branch.ask denial rule scope).run outside = (answer.map (!·), outside) := by
  refine ⟨fun found left right => ask_equals found left right outside, ⟨?_, ?_, ?_⟩,
    fun denies => denies.ask_run rule scope outside⟩
  · rintro ⟨v, s, read⟩
    exact (equal_iff read read).mpr rfl
  · rintro ⟨v, s, left⟩ ⟨w, t, right⟩ equal
    exact (equal_iff right left).mpr ((equal_iff left right).mp equal).symm
  · rintro ⟨v, s, first⟩ ⟨w, t, second⟩ ⟨u, r, third⟩ equal equal'
    exact (equal_iff first third).mpr (((equal_iff first second).mp equal).trans ((equal_iff second third).mp equal'))

end Behavior

/-! ## Comparing sizes -/

namespace Sample

open ChatFlow.Flow (Rule Operator)

/-- A rule that holds the size against a text. -/
def sizeRule (s : String) : Rule := ⟨none, "size", "", .text s, none, []⟩

/-- The variables with this size. -/
def sized (v : Value) : Value := .dict [("size", v)]

/-- A size that is a number equals the text of the number, a missing size equals the empty text, and each rule is
denied by its negation. -/
theorem equality_and_denials_of_sizes :
    Value.HasText (.int 42) "42" ∧ Value.HasText (.text "42") "42" ∧ Value.HasText .null "" ∧
      (Behavior.Branch.ask .equals (sizeRule "42") (sized (.int 42))).run (world []).outside
        = (.ok true, (world []).outside) ∧
      (Behavior.Branch.ask .notEquals (sizeRule "42") (sized (.int 42))).run (world []).outside
        = (.ok false, (world []).outside) ∧
      (Behavior.Branch.ask .equals (sizeRule "") (sized .null)).run (world []).outside
        = (.ok true, (world []).outside) ∧
      Behavior.Equal (world []).outside (.text "42") (.int 42) := by
  have number : Value.HasText (.int 42) "42" := ⟨by with_unfolding_all rfl, nofun⟩
  have numeral : Value.HasText (.text "42") "42" := ⟨rfl, nofun⟩
  have nothing : Value.HasText .null "" := ⟨rfl, nofun⟩
  obtain ⟨equals, equivalence, denies⟩ :=
    Behavior.equality_and_denials (sizeRule "42") (sized (.int 42)) (world []).outside
  have same := equals (by with_unfolding_all rfl) number numeral
  rw [decide_eq_true rfl] at same
  obtain ⟨answer, affirmed, denied⟩ := denies .equals
  obtain ⟨missing, -⟩ := Behavior.equality_and_denials (sizeRule "") (sized .null) (world []).outside
  refine ⟨number, numeral, nothing, same, ?_, missing (by with_unfolding_all rfl) nothing ⟨rfl, nofun⟩, ?_⟩
  · rw [denied, (Prod.mk.inj (affirmed.symm.trans same)).1]
    rfl
  · exact equivalence.symm (x := ⟨.int 42, _, number⟩) (y := ⟨.text "42", _, numeral⟩)
      ((Behavior.equal_iff number numeral).mpr rfl)

end Sample

end ChatFlow
