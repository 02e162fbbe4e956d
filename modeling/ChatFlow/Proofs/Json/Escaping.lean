import ChatFlow.Json.Reader
import ChatFlow.Json.Writer

/-!
Texts in JSON, read back.

A character is written as it is, by a short escape, or by the hexadecimal numbers of its 16-bit units: one for a
character of the basic plane, two surrogates for one beyond it. The reader collects units first and joins surrogates
afterwards, and `Json.units` says which units it gets from which character (`Json.readUnits_writeChar`). No character
is a surrogate, so the units of one character are never joined with those of the next (`Json.joinUnits_units`), and
every text is read back as it was written (`Json.readText_writeText`).
-/

namespace ChatFlow

/-! ## Hexadecimal digits -/

namespace Text

/-- One digit more is one place more. -/
theorem hexPadded_succ (k n : Nat) :
    hexPadded (k + 2) n = hexPadded (k + 1) (n / 16) ++ [(n % 16).digitChar] := by
  unfold hexPadded
  by_cases small : n < 16
  · rw [Nat.toDigits_of_lt_base small, Nat.div_eq_of_lt small, Nat.toDigits_zero, Nat.mod_eq_of_lt small]
    simp [← List.replicate_succ']
  · rw [Nat.toDigits_of_base_le (by decide) (Nat.le_of_not_lt small)]
    simp

/-- Four places are enough for a number of 16 bits. -/
theorem hexPadded_four {n : Nat} (short : n < 0x10000) :
    hexPadded 4 n = [(n / 4096).digitChar, (n / 256 % 16).digitChar, (n / 16 % 16).digitChar, (n % 16).digitChar] := by
  have first : hexPadded 1 (n / 4096) = [(n / 4096).digitChar] := by
    rw [hexPadded, Nat.toDigits_of_lt_base (by omega)]
    simp
  rw [hexPadded_succ, hexPadded_succ, hexPadded_succ]
  simp only [Nat.div_div_eq_div_mul, Nat.reduceMul, first, List.cons_append, List.nil_append]

end Text

namespace Json

variable {n start : Nat} {c : Char} {cs rest : List Char}

theorem hexValue?_digitChar {d : Nat} (digit : d < 16) : hexValue? d.digitChar = some d :=
  (show ∀ d < 16, hexValue? d.digitChar = some d by decide) d digit

/-- The number of a unit is read off its four digits. -/
theorem unit?_hexPadded (short : n < 0x10000) :
    unit? (n / 4096).digitChar (n / 256 % 16).digitChar (n / 16 % 16).digitChar (n % 16).digitChar = some n := by
  unfold unit?
  rw [hexValue?_digitChar (by omega), hexValue?_digitChar (by omega), hexValue?_digitChar (by omega),
    hexValue?_digitChar (by omega)]
  exact congrArg some (by omega)

/-! ## Reading units -/

/-- The units that a character is read as. -/
def units (c : Char) : List Nat :=
  if c.toNat < 0x10000 then [c.toNat]
  else [0xD800 + (c.toNat - 0x10000) / 0x400, 0xDC00 + (c.toNat - 0x10000) % 0x400]

theorem units_basic (small : c.toNat < 0x10000) : units c = [c.toNat] := if_pos small

theorem units_beyond (large : ¬ c.toNat < 0x10000) :
    units c = [0xD800 + (c.toNat - 0x10000) / 0x400, 0xDC00 + (c.toNat - 0x10000) % 0x400] := if_neg large

theorem toNat_lt (c : Char) : c.toNat < 0x110000 := by
  rcases c.valid with low | high
  · exact Nat.lt_trans low (by decide)
  · exact high.2

/-- An escape by number is read as its number, if something follows it. -/
theorem readUnits_unitEscape (short : n < 0x10000) (more : rest ≠ []) :
    readUnits start (unitEscape n ++ rest) = (readUnits start rest).cons n := by
  obtain ⟨e, rest, rfl⟩ := List.exists_cons_of_ne_nil more
  rw [unitEscape, Text.hexPadded_four short]
  simp only [List.cons_append, List.nil_append]
  rw [readUnits, unit?_hexPadded short]

/-- Two escapes by numbers, one after the other. -/
theorem readUnits_unitEscapes {high low : Nat} (first : high < 0x10000) (second : low < 0x10000) (more : rest ≠ []) :
    readUnits start (unitEscape high ++ unitEscape low ++ rest)
      = [high, low].foldr Read.cons (readUnits start rest) := by
  rw [List.append_assoc, readUnits_unitEscape first (by simp [unitEscape]), readUnits_unitEscape second more]
  rfl

/-- A character that needs no escape is read as itself. -/
theorem readUnits_plain (quote : c ≠ '"') (backslash : c ≠ '\\') (visible : 0x20 ≤ c.val) :
    readUnits start (c :: rest) = (readUnits start rest).cons c.toNat := by
  rw [readUnits]
  · rw [if_neg]
    exact fun low => absurd (UInt32.le_trans visible low) (by decide)
  · exact fun same => quote same
  · exact fun same _ => backslash same
  · intros; exact backslash ‹_›
  · intros; exact backslash ‹_›
  · intros; exact backslash ‹_›

/-- What is written for a character is read as its units, if something follows it. -/
theorem readUnits_writeChar (start : Nat) (c : Char) (more : rest ≠ []) :
    readUnits start (writeChar c ++ rest) = (units c).foldr Read.cons (readUnits start rest) := by
  unfold writeChar
  -- The seven short escapes come first, in the order of the writer.
  iterate 7
    split
    · next same =>
      rw [beq_iff_eq] at same
      subst same
      rw [units_basic (by decide)]
      rfl
  next quote backslash _ _ _ _ _ =>
  rw [beq_iff_eq] at quote backslash
  split
  · next visible =>
    simp only [Bool.and_eq_true, decide_eq_true_eq, UInt32.le_iff_toNat_le] at visible
    have small : c.toNat < 0x10000 := Nat.lt_of_le_of_lt visible.2 (by decide)
    rw [units_basic small]
    exact readUnits_plain quote backslash (UInt32.le_iff_toNat_le.mpr visible.1)
  · split
    · next small =>
      rw [units_basic small]
      exact readUnits_unitEscape small more
    · next large =>
      have limit : c.toNat < 0x110000 := toNat_lt c
      rw [units_beyond large]
      exact readUnits_unitEscapes (by omega) (by omega) more

/-- What is written for characters is read as their units, up to the closing quote. -/
theorem readUnits_flatMap (start : Nat) (cs rest : List Char) :
    readUnits start (cs.flatMap writeChar ++ '"' :: rest) = .ok (cs.flatMap units, rest) := by
  have collect (ns ms : List Nat) : ns.foldr Read.cons (.ok (ms, rest)) = .ok (ns ++ ms, rest) := by
    induction ns with
    | nil => rfl
    | cons n ns ih =>
      rw [List.foldr_cons, ih]
      rfl
  induction cs with
  | nil =>
    rw [List.flatMap_nil, List.nil_append, readUnits]
    rfl
  | cons c cs ih =>
    rw [List.flatMap_cons, List.append_assoc, readUnits_writeChar start c (by simp), ih, collect]
    rfl

/-! ## Joining units -/

theorem isHighSurrogate_iff : isHighSurrogate n = true ↔ 0xD800 ≤ n ∧ n ≤ 0xDBFF := by
  rw [isHighSurrogate, Bool.and_eq_true, decide_eq_true_iff, decide_eq_true_iff]

theorem isLowSurrogate_iff : isLowSurrogate n = true ↔ 0xDC00 ≤ n ∧ n ≤ 0xDFFF := by
  rw [isLowSurrogate, Bool.and_eq_true, decide_eq_true_iff, decide_eq_true_iff]

/-- No character is a surrogate. -/
theorem toNat_apart (c : Char) : c.toNat < 0xD800 ∨ 0xDFFF < c.toNat :=
  c.valid.imp_right And.left

theorem not_isHighSurrogate (c : Char) : isHighSurrogate c.toNat = false := by
  have apart := toNat_apart c
  rw [Bool.eq_false_iff, ne_eq, isHighSurrogate_iff]
  omega

theorem not_isLowSurrogate (c : Char) : isLowSurrogate c.toNat = false := by
  have apart := toNat_apart c
  rw [Bool.eq_false_iff, ne_eq, isLowSurrogate_iff]
  omega

theorem unitChar_toNat (c : Char) : unitChar c.toNat = c := by
  rw [unitChar, not_isHighSurrogate, not_isLowSurrogate]
  exact Char.ofNat_toNat c

/-- The number of a character stands for the character, whatever follows it. -/
theorem joinUnits_toNat (c : Char) (ns : List Nat) : joinUnits (c.toNat :: ns) = c :: joinUnits ns := by
  cases ns with
  | nil =>
    rw [joinUnits, joinUnits]
    exact congrArg (· :: []) (unitChar_toNat c)
  | cons m rest =>
    rw [joinUnits, not_isHighSurrogate, Bool.false_and, if_neg Bool.false_ne_true, unitChar_toNat]

/-- The two surrogates of a character are joined to it. -/
theorem joinUnits_pair (large : 0x10000 ≤ c.toNat) (ns : List Nat) :
    joinUnits ((0xD800 + (c.toNat - 0x10000) / 0x400) :: (0xDC00 + (c.toNat - 0x10000) % 0x400) :: ns)
      = c :: joinUnits ns := by
  have limit : c.toNat < 0x110000 := toNat_lt c
  obtain ⟨n, offset⟩ : ∃ n, c.toNat = 0x10000 + n := ⟨c.toNat - 0x10000, by omega⟩
  have high : isHighSurrogate (0xD800 + n / 0x400) = true := isHighSurrogate_iff.mpr (by omega)
  have low : isLowSurrogate (0xDC00 + n % 0x400) = true := isLowSurrogate_iff.mpr (by omega)
  have whole : 0x10000 + (0xD800 + n / 0x400 - 0xD800) * 0x400 + (0xDC00 + n % 0x400 - 0xDC00) = c.toNat := by
    omega
  rw [offset, Nat.add_sub_cancel_left, joinUnits, high, low, pairChar, whole, Char.ofNat_toNat]
  rfl

/-- The units of characters are joined to these characters. -/
theorem joinUnits_units (cs : List Char) : joinUnits (cs.flatMap units) = cs := by
  induction cs with
  | nil => rfl
  | cons c cs ih =>
    rw [List.flatMap_cons]
    by_cases small : c.toNat < 0x10000
    · rw [units_basic small, List.singleton_append, joinUnits_toNat, ih]
    · rw [units_beyond small, List.cons_append, List.singleton_append, joinUnits_pair (Nat.le_of_not_lt small), ih]

/-- A text is read back up to its closing quote. -/
theorem readText_writeText (start : Nat) (s : String) (rest : List Char) :
    readText start (s.toList.flatMap writeChar ++ '"' :: rest) = .ok (s, rest) := by
  rw [readText, readUnits_flatMap]
  show Except.ok (String.ofList (joinUnits _), rest) = _
  rw [joinUnits_units, String.ofList_toList]

end Json

end ChatFlow
