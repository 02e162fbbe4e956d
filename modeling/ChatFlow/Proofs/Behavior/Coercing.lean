import Mathlib.Algebra.Group.Int.Defs
import ChatFlow.Behavior.Assign
import ChatFlow.Behavior.Say
import ChatFlow.Proofs.Behavior.Containing
import ChatFlow.Proofs.Decimal.Numerals
import ChatFlow.Proofs.Template.Filling

/-!
Integers where numbers are due.

A variable that is set to a number, a rule that orders and a delay all take a value by its number, and the number of
an integer holds the short integer next to it. So a variable may come to hold another integer, and a rule may not
tell two integers apart; but no order is reversed (`Behavior.integers_as_numbers`). The text of an integer is as good
as the integer itself, and better where no finite number is next to it: the text is then infinite, and the integer is
a failure.
-/

namespace ChatFlow

open Decimal (IsShort IsWithin held)

namespace Value

variable {a : Int} {v : Value}

/-- The value is the integer, or its text in decimal. -/
inductive Gives (a : Int) : Value → Prop
  | integer : Gives a (.int a)
  | numeral : Gives a (.text (toString a))

/-- The value is an integer, not a text, that no finite number is next to. -/
def IsTooLarge (v : Value) : Prop :=
  ∃ a, v = .int a ∧ ¬ IsWithin a

theorem isTooLarge_int (n : Int) : IsTooLarge (.int n) ↔ ¬ IsWithin n := by
  constructor
  · rintro ⟨_, ⟨⟩, far⟩
    exact far
  · exact fun far => ⟨n, rfl, far⟩

theorem toNumber?_tooLarge (large : v.IsTooLarge) : v.toNumber? = .error .integerTooLarge := by
  obtain ⟨a, rfl, far⟩ := large
  rw [toNumber?, Decimal.ofInt?_eq_none far]

theorem Gives.toNumber?_eq (h : Gives a v) (fits : ¬ v.IsTooLarge) : v.toNumber? = .ok (some (Float.ofInt a)) := by
  cases h with
  | integer =>
    have within : IsWithin a := Decidable.byContradiction fun far => fits ⟨a, rfl, far⟩
    rw [Value.toNumber?, Decimal.ofInt?_eq within]
  | numeral => rw [Value.toNumber?, Decimal.readNumber?_toString]

end Value

namespace Behavior

open ChatFlow.Flow (Node Assignment Rule Operator)
open Value (Gives IsTooLarge)

variable {a b : Int} {v w : Value}

/-! ## Variables -/

/-- What a variable for a number holds after it has been set to the integer. -/
def stored (a : Int) : Value :=
  if IsWithin a then .int (held a) else .float (Float.ofInt a)

theorem numberValue_ofInt (a : Int) : Assign.numberValue (Float.ofInt a) = stored a := by
  unfold Assign.numberValue stored
  split
  · next n whole =>
    by_cases within : IsWithin a
    · rw [Decimal.whole?_ofInt within] at whole
      cases whole
      rw [if_pos within]
    · cases (Decimal.whole?_ofInt_eq_none within).symm.trans whole
  · next fraction =>
    by_cases within : IsWithin a
    · cases (Decimal.whole?_ofInt within).symm.trans fraction
    · rw [if_neg within]

/-- Exactly the short integers are stored as they are. -/
theorem stored_eq_iff : stored a = .int a ↔ IsShort a.natAbs ∧ IsWithin a := by
  unfold stored
  split
  · next within => rw [Value.int.injEq, Decimal.held_eq_self_iff within, and_iff_left within]
  · next far => exact iff_of_false nofun fun both => far both.2

/-- What is stored is a short integer that is nearest. -/
theorem stored_nearest (within : IsWithin a) :
    ∃ n, stored a = .int n ∧ ∀ m : Int, IsShort m.natAbs → (a - n).natAbs ≤ (a - m).natAbs :=
  ⟨held a, if_pos within, fun _ short => Decimal.held_nearest within short⟩

/-- The text of an integer has no places to fill. -/
theorem filled?_of_gives (h : Gives a v) (scope : Value) : Assign.filled? scope v = .ok v := by
  cases h with
  | integer => rfl
  | numeral =>
    rw [Assign.filled?, Template.fill?_plain]
    · rfl
    · rintro c member rfl
      rcases Decimal.minus_or_isDigit a _ member with minus | digit
      · cases minus
      · cases digit

variable {node : Node} {context : Context} {input : Option String} {outside : Outside}

/-- A node that sets a variable fills its value, brings it to the declared sort and stores it. -/
theorem setVariable_eq {assignment : Assignment} (given : (node.setting "variable").isPresent = true)
    (read : Assignment.read (node.setting "variable") = .valid assignment) :
    (setVariable node context input).run outside
      = ((Assign.filled? context.scope assignment.value >>= fun v => Assign.coerce? v assignment.sort).map
          fun u => .setting [(assignment.name, u)], outside) := by
  unfold setVariable
  dsimp only
  rw [if_neg (by simp [given])]
  rw [Service.run_ofExcept_bind, read]
  show ((Service.ofExcept (Assign.filled? context.scope assignment.value)) >>= _).run outside = _
  rw [Service.run_ofExcept_bind]
  cases Assign.filled? context.scope assignment.value with
  | error f => rfl
  | ok v =>
    show ((Service.ofExcept (Assign.coerce? v assignment.sort)) >>= _).run outside
      = ((Assign.coerce? v assignment.sort).map _, outside)
    rw [Service.run_ofExcept_bind]
    cases Assign.coerce? v assignment.sort <;> rfl

/-- A node that sets a variable to the integer. -/
theorem setVariable_run {assignment : Assignment} (given : (node.setting "variable").isPresent = true)
    (read : Assignment.read (node.setting "variable") = .valid assignment) (number : assignment.sort = some "number")
    (value : Gives a assignment.value) :
    (IsTooLarge assignment.value →
      (setVariable node context input).run outside = (.error .integerTooLarge, outside)) ∧
    (¬ IsTooLarge assignment.value →
      (setVariable node context input).run outside = (.ok (.setting [(assignment.name, stored a)]), outside)) := by
  have run : (setVariable node context input).run outside
      = ((Assign.toNumberValue? assignment.value).map fun u => .setting [(assignment.name, u)], outside) := by
    have coerced : Assign.coerce? assignment.value (some "number") = Assign.toNumberValue? assignment.value := by
      rw [Assign.coerce?]
    rw [setVariable_eq given read, filled?_of_gives value, number]
    exact congrArg (fun e => (Except.map _ e, outside)) coerced
  constructor
  · intro large
    rw [run, Assign.toNumberValue?, Value.toNumber?_tooLarge large]
    rfl
  · intro fits
    rw [run, Assign.toNumberValue?, value.toNumber?_eq fits, ← numberValue_ofInt]
    rfl

/-! ## Conditions -/

theorem compare?_tooLarge (first : Gives a v) (large : IsTooLarge v ∨ IsTooLarge w)
    (related : Float → Float → Bool) : Flow.compare? related v w = .error .integerTooLarge := by
  unfold Flow.compare?
  by_cases large' : IsTooLarge v
  · rw [Value.toNumber?_tooLarge large']
    rfl
  · rw [first.toNumber?_eq large', Value.toNumber?_tooLarge (large.resolve_left large')]
    rfl

theorem compare?_of_gives (first : Gives a v) (second : Gives b w) (fits : ¬ (IsTooLarge v ∨ IsTooLarge w))
    (related : Float → Float → Bool) :
    Flow.compare? related v w = .ok (related (Float.ofInt a) (Float.ofInt b)) := by
  unfold Flow.compare?
  rw [first.toNumber?_eq fun large => fits (.inl large), second.toNumber?_eq fun large => fits (.inr large)]
  rfl

/-- A rule that orders an integer and another. -/
theorem evaluate_order {rule : Rule} {scope : Value} (found : Path.find? scope rule.variableName = .ok v)
    (other : rule.value = w) (first : Gives a v) (second : Gives b w) :
    (IsTooLarge v ∨ IsTooLarge w →
      rule.operator = Operator.greaterThan.word ∨ rule.operator = Operator.lessThan.word →
        (Branch.evaluate rule scope).run outside = (.error .integerTooLarge, outside)) ∧
    (¬ (IsTooLarge v ∨ IsTooLarge w) →
      (rule.operator = Operator.greaterThan.word →
        (Branch.evaluate rule scope).run outside = (.ok (decide (held b < held a)), outside)) ∧
      (rule.operator = Operator.lessThan.word →
        (Branch.evaluate rule scope).run outside = (.ok (decide (held a < held b)), outside))) := by
  have greater (op : rule.operator = Operator.greaterThan.word) :
      rule.judge? scope = (Flow.compare? (fun x y => decide (y < x)) v w).map .ofBool := by
    rw [Rule.judge?, found, op, other]
    rfl
  have less (op : rule.operator = Operator.lessThan.word) :
      rule.judge? scope = (Flow.compare? (fun x y => decide (x < y)) v w).map .ofBool := by
    rw [Rule.judge?, found, op, other]
    rfl
  constructor
  · rintro large (op | op)
    · exact Branch.evaluate_error (by rw [greater op, compare?_tooLarge first large]; rfl) outside
    · exact Branch.evaluate_error (by rw [less op, compare?_tooLarge first large]; rfl) outside
  · intro fits
    refine ⟨fun op => Branch.evaluate_run ?_ outside, fun op => Branch.evaluate_run ?_ outside⟩
    · rw [greater op, compare?_of_gives first second fits]
      simp only [Decimal.ofInt_lt_ofInt_iff]
      rfl
    · rw [less op, compare?_of_gives first second fits]
      simp only [Decimal.ofInt_lt_ofInt_iff]
      rfl

/-! ## Delays -/

theorem orElse_of_gives (h : Gives a v) : v.orElse (.int 0) = v := by
  unfold Value.orElse
  split
  · rfl
  · next absent =>
    cases h with
    | integer =>
      have zero : a = 0 := by simpa [Value.isPresent] using absent
      rw [zero]
    | numeral =>
      have empty : toString a = "" := by simpa [Value.isPresent] using absent
      exact absurd (congrArg String.toList empty) (Decimal.toList_toString_ne_nil a)

/-- A node that pauses for the integer. -/
theorem delay_run (waits : node.setting "delay" = v) (given : Gives a v) :
    (IsTooLarge v → (delay node context input).run outside = (.error .integerTooLarge, outside)) ∧
    (¬ IsTooLarge v → (delay node context input).run outside
      = (.ok (if 0 < a then .saying [pauseMessage outside.now node (Float.ofInt a)] else .plain), outside)) := by
  constructor
  · intro large
    have seconds : delaySeconds? (node.setting "delay") = .error .integerTooLarge := by
      rw [waits, delaySeconds?, orElse_of_gives given, Value.toNumber?_tooLarge large]
      rfl
    rw [delay, Service.run_ofExcept_bind, seconds]
  · intro fits
    have seconds : delaySeconds? (node.setting "delay")
        = .ok (some (if Float.ofInt a < 0 then 0 else Float.ofInt a)) := by
      rw [waits, delaySeconds?, orElse_of_gives given, given.toNumber?_eq fits]
      rfl
    rw [delay, Service.run_ofExcept_bind, seconds]
    dsimp only
    have negative : Float.ofInt a < 0 ↔ held a < 0 := Decimal.held_zero ▸ Decimal.ofInt_lt_ofInt_iff a 0
    have none : Float.ofInt a ≤ 0 ↔ held a ≤ 0 := Decimal.held_zero ▸ Decimal.ofInt_le_ofInt_iff a 0
    have sign := @Decimal.held_pos_iff a
    by_cases more : 0 < a
    · have more' := sign.mpr more
      rw [if_neg (mt negative.mp (by omega)), if_neg (mt none.mp (by omega)), if_pos more]
      rfl
    · have zero : (0 : Float) ≤ 0 := (Decimal.ofInt_le_ofInt_iff 0 0).mpr (Int.le_refl _)
      have less : Float.ofInt a ≤ 0 := none.mpr (by omega)
      rw [if_neg more, if_pos (by split <;> assumption)]
      rfl

/-! ## Integers where numbers are due -/

/-- What becomes of an integer, or of its text in decimal, where a number is due. A variable holds it as it is exactly
if it is short and within reach of the finite numbers, and else a short one that is nearest. A comparison with another
integer is right, but where both have one number: then neither is the greater. Only an integer that is too large
fails, and it fails everywhere. -/
theorem integers_as_numbers {a b : Int} {v w : Value} (first : Gives a v) (second : Gives b w) {setter : Node}
    {assignment : Assignment} (given : (setter.setting "variable").isPresent = true)
    (read : Assignment.read (setter.setting "variable") = .valid assignment)
    (number : assignment.sort = some "number") (value : assignment.value = v) {rule : Rule} {scope : Value}
    (found : Path.find? scope rule.variableName = .ok v) (other : rule.value = w) {pausing : Node}
    (waits : pausing.setting "delay" = v) (context : Context) (input : Option String) (outside : Outside) :
    (IsTooLarge v →
      (setVariable setter context input).run outside = (.error .integerTooLarge, outside) ∧
      (delay pausing context input).run outside = (.error .integerTooLarge, outside)) ∧
    (¬ IsTooLarge v →
      (setVariable setter context input).run outside = (.ok (.setting [(assignment.name, stored a)]), outside) ∧
      (stored a = .int a ↔ IsShort a.natAbs ∧ IsWithin a) ∧
      (IsWithin a → ∃ n, stored a = .int n ∧ ∀ m : Int, IsShort m.natAbs → (a - n).natAbs ≤ (a - m).natAbs) ∧
      (delay pausing context input).run outside
        = (.ok (if 0 < a then .saying [pauseMessage outside.now pausing (Float.ofInt a)] else .plain), outside)) ∧
    (IsTooLarge v ∨ IsTooLarge w →
      rule.operator = Operator.greaterThan.word ∨ rule.operator = Operator.lessThan.word →
        (Branch.evaluate rule scope).run outside = (.error .integerTooLarge, outside)) ∧
    (¬ (IsTooLarge v ∨ IsTooLarge w) →
      (rule.operator = Operator.greaterThan.word →
        (Branch.evaluate rule scope).run outside = (.ok (decide (b < a ∧ held b ≠ held a)), outside)) ∧
      (rule.operator = Operator.lessThan.word →
        (Branch.evaluate rule scope).run outside = (.ok (decide (a < b ∧ held a ≠ held b)), outside))) := by
  subst value
  obtain ⟨sets, setsOk⟩ := @setVariable_run a setter context input outside assignment given read number first
  obtain ⟨pauses, pausesOk⟩ := @delay_run a _ pausing context input outside waits first
  obtain ⟨fails, compares⟩ := @evaluate_order a b _ w outside rule scope found other first second
  refine ⟨fun large => ⟨sets large, pauses large⟩,
    fun fits => ⟨setsOk fits, stored_eq_iff, stored_nearest, pausesOk fits⟩, fails, ?_⟩
  simpa only [Decimal.held_lt_held_iff] using compares

end Behavior

/-! ## Numbers of orders -/

namespace Sample

open Value (Gives IsTooLarge)
open ChatFlow.Flow (Node Rule)

/-- A node that sets the variable `order` to a number. -/
def ordered (v : Value) : Node :=
  ⟨"set", "set_variable", [("variable", .dict [("name", .text "order"), ("value", v), ("type", .text "number")])], []⟩

/-- A rule that orders the variable `order` and a value. -/
def orderRule (operator : String) (v : Value) : Rule :=
  ⟨none, "order", operator, v, none, []⟩

/-- The variables with this order. -/
def orders (v : Value) : Value := .dict [("order", v)]

theorem find?_orders (v : Value) : Path.find? (orders v) "order" = .ok v := by
  with_unfolding_all rfl

/-- A node that pauses. -/
def pausing (v : Value) : Node := ⟨"pause", "delay", [("delay", v)], []⟩

/-- A small number of an order is kept, comes after a smaller one, and can be waited for. -/
theorem integers_as_numbers_small :
    Gives 42 (.text "42") ∧ Gives 7 (.int 7) ∧ ¬ IsTooLarge (.text "42") ∧
      (Behavior.setVariable (ordered (.text "42")) context none).run (world []).outside
        = (.ok (.setting [("order", .int 42)]), (world []).outside) ∧
      (Behavior.Branch.evaluate (orderRule "greater_than" (.int 7)) (orders (.text "42"))).run (world []).outside
        = (.ok true, (world []).outside) ∧
      (Behavior.delay (pausing (.text "42")) context none).run (world []).outside
        = (.ok (.saying [Behavior.pauseMessage noon (pausing (.text "42")) (Float.ofInt 42)]), (world []).outside) := by
  have first : Gives 42 (.text "42") := Gives.numeral
  have second : Gives 7 (.int 7) := Gives.integer
  have fits : ¬ IsTooLarge (.text "42") := by
    rintro ⟨a, same, -⟩
    cases same
  have fits' : ¬ IsTooLarge (.int 7) := fun large => (Value.isTooLarge_int 7).mp large (by decide +kernel)
  obtain ⟨-, kept, -, compared⟩ := @Behavior.integers_as_numbers 42 7 (.text "42") (.int 7) first second
    (ordered (.text "42")) ⟨"order", .text "42", some "number", []⟩ (by decide +kernel) (by with_unfolding_all rfl) rfl
    rfl (orderRule "greater_than" (.int 7)) (orders (.text "42")) (find?_orders _) rfl (pausing (.text "42")) rfl context
    none (world []).outside
  obtain ⟨sets, exactly, -, pauses⟩ := kept fits
  have short : Decimal.IsShort 42 := ⟨42, 0, by decide, rfl⟩
  have greater := (compared (by rintro (large | large); exacts [fits large, fits' large])).1 rfl
  refine ⟨first, second, fits, ?_, ?_, pauses⟩
  · rw [sets, exactly.mpr ⟨short, by decide +kernel⟩]
  · rw [greater, decide_eq_true (show (7 : Int) < 42 ∧ held 7 ≠ held 42 from ⟨by decide, by decide +kernel⟩)]

/-- The number of an order with 17 digits is not kept, two with 16 digits are not told apart, and one with 401 digits
fails everywhere. -/
theorem integers_as_numbers_fail :
    (Behavior.setVariable (ordered (.int 12345678901234567)) context none).run (world []).outside
        = (.ok (.setting [("order", .int 12345678901234568)]), (world []).outside) ∧
      (Behavior.Branch.evaluate (orderRule "greater_than" (.int 9007199254740992))
        (orders (.int 9007199254740993))).run (world []).outside = (.ok false, (world []).outside) ∧
      (Behavior.setVariable (ordered (.int (10 ^ 400))) context none).run (world []).outside
        = (.error .integerTooLarge, (world []).outside) ∧
      (Behavior.Branch.evaluate (orderRule "less_than" (.int (10 ^ 400))) (orders (.int 7))).run (world []).outside
        = (.error .integerTooLarge, (world []).outside) ∧
      (Behavior.delay (pausing (.int (10 ^ 400))) context none).run (world []).outside
        = (.error .integerTooLarge, (world []).outside) := by
  have far : IsTooLarge (.int (10 ^ 400)) := (Value.isTooLarge_int _).mpr (by decide +kernel)
  have near : ∀ n : Int, IsWithin n → ¬ IsTooLarge (.int n) := fun n within large =>
    (Value.isTooLarge_int n).mp large within
  have setting (n : Int) := @Behavior.setVariable_run n (ordered (.int n)) context none (world []).outside
    ⟨"order", .int n, some "number", []⟩ rfl rfl rfl Gives.integer
  have rule (op : String) (m n : Int) := @Behavior.evaluate_order m n (.int m) (.int n) (world []).outside
    (orderRule op (.int n)) (orders (.int m)) (find?_orders _) rfl Gives.integer Gives.integer
  refine ⟨?_, ?_, (setting _).1 far, (rule _ _ _).1 (.inr far) (.inr rfl), ?_⟩
  · have longer : Behavior.stored 12345678901234567 = .int 12345678901234568 := by
      rw [Behavior.stored, if_pos (by decide +kernel),
        show held 12345678901234567 = 12345678901234568 by decide +kernel]
    rw [(setting _).2 (near _ (by decide +kernel)), longer]
  · have fits : ¬ (IsTooLarge (.int 9007199254740993) ∨ IsTooLarge (.int 9007199254740992)) := by
      rintro (large | large)
      · exact near _ (by decide +kernel) large
      · exact near _ (by decide +kernel) large
    rw [((rule _ _ _).2 fits).1 rfl, decide_eq_false (by decide +kernel)]
  · exact (@Behavior.delay_run _ _ (pausing (.int (10 ^ 400))) context none (world []).outside rfl Gives.integer).1 far

end Sample

end ChatFlow
