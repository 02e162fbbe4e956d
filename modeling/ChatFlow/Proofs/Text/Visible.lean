import ChatFlow.Text.Lowercase

/-!
Lower case and the visible characters of seven bits.

On a text of visible characters lower case works character by character, and its result is visible again
(`Text.lowerChars_visible`). It makes no visible character of another one, the sign for kelvin apart, whose form is
the letter k: any other character that is not visible leaves one that is not visible
(`Text.exists_hidden_lowerChars`).
-/

namespace ChatFlow.Text

/-- The character is a visible one of seven bits, or the space. -/
def isVisible (c : Char) : Bool :=
  0x20 ≤ c.val && c.val ≤ 0x7E

theorem isVisible_iff {c : Char} : isVisible c = true ↔ 0x20 ≤ c.toNat ∧ c.toNat ≤ 0x7E := by
  simp [isVisible, UInt32.le_iff_toNat_le]

/-- A fact about the characters of seven bits, from all their numbers. -/
theorem forall_ascii {P : Char → Prop} (all : ∀ n < 0x80, P (Char.ofNat n)) {c : Char} (ascii : c.toNat < 0x80) :
    P c := by
  rw [← Char.ofNat_toNat c]
  exact all _ ascii

theorem isVisible_toLower {c : Char} (ascii : c.toNat < 0x80) : isVisible c.toLower = isVisible c :=
  forall_ascii (P := fun c => isVisible c.toLower = isVisible c) (by decide) ascii

theorem val_lt_iff {c : Char} : c.val < 0x80 ↔ c.toNat < 0x80 :=
  UInt32.lt_iff_toNat_lt

theorem lowerChar_ascii {c : Char} (ascii : c.toNat < 0x80) : lowerChar c = c.toLower := by
  rw [lowerChar, if_pos (val_lt_iff.mpr ascii)]

/-! ## Visible texts -/

theorem lowerFrom_visible {cs : List Char} (visible : ∀ c ∈ cs, isVisible c = true) (before : List Char) :
    lowerFrom before cs = cs.map Char.toLower := by
  induction cs generalizing before with
  | nil => rfl
  | cons c rest ih =>
    have here := isVisible_iff.mp (visible c List.mem_cons_self)
    have sigma : (c == 'Σ') = false := by
      rw [beq_eq_false_iff_ne]
      rintro rfl
      exact absurd here (by decide)
    have dotted : (c == 'İ') = false := by
      rw [beq_eq_false_iff_ne]
      rintro rfl
      exact absurd here (by decide)
    rw [lowerFrom, ih fun d later => visible d (List.mem_cons_of_mem _ later), sigma, dotted]
    simp [lowerChar_ascii (show c.toNat < 0x80 by omega)]

/-- Lower case of a visible text goes character by character. -/
theorem lowerChars_visible {cs : List Char} (visible : ∀ c ∈ cs, isVisible c = true) :
    lowerChars cs = cs.map Char.toLower :=
  lowerFrom_visible visible []

/-- Lower case leaves a visible text visible. -/
theorem isVisible_of_mem_lowerChars {cs : List Char} (visible : ∀ c ∈ cs, isVisible c = true) :
    ∀ d ∈ lowerChars cs, isVisible d = true := by
  rw [lowerChars_visible visible]
  intro d lowered
  obtain ⟨c, listed, rfl⟩ := List.mem_map.mp lowered
  have here := isVisible_iff.mp (visible c listed)
  rw [isVisible_toLower (by omega)]
  exact visible c listed

/-! ## Characters that are not visible -/

/-- The sign for kelvin, whose lower case is the letter k. -/
def kelvin : Char := '\u212A'

/-- No run of the table leads from beyond seven bits into them, but for the dotted I and the sign for kelvin. -/
theorem lowerRuns_stay : ∀ r ∈ lowerRuns, r.2.1 < 0x80 ∨ r.1 = 0x130 ∧ r.2.1 = 0x130 ∨ r.1 = 0x212A ∧ r.2.1 = 0x212A ∨
    0x80 ≤ (r.1 : Int) + r.2.2.2 := by
  decide +kernel

theorem isVisible_ofNat {n : Nat} (wide : 0x80 ≤ n) : isVisible (Char.ofNat n) = false := by
  by_cases valid : n.isValidChar
  · have same : (Char.ofNat n).toNat = n := by
      rw [show Char.ofNat n = Char.ofNatAux n valid from dif_pos valid]
      rfl
    rw [Bool.eq_false_iff, ne_eq, isVisible_iff, same]
    omega
  · rw [show Char.ofNat n = Char.ofNat 0 from dif_neg valid]
    rfl

theorem isVisible_lowerChar {c : Char} (hidden : isVisible c = false) (noKelvin : c ≠ kelvin) (noDot : c ≠ 'İ') :
    isVisible (lowerChar c) = false := by
  by_cases ascii : c.toNat < 0x80
  · rw [lowerChar_ascii ascii, isVisible_toLower ascii, hidden]
  · rw [lowerChar, if_neg fun small => ascii (val_lt_iff.mp small)]
    split
    · rename_i lo hi stride shift found
      have listed := List.mem_of_find?_eq_some found
      have within := List.find?_some found
      simp only [Bool.and_eq_true, decide_eq_true_eq] at within
      have stays := lowerRuns_stay _ listed
      have dot : c.toNat ≠ 0x130 := fun same => noDot (Char.ext (UInt32.toNat_inj.mp same))
      have sign : c.toNat ≠ 0x212A := fun same => noKelvin (Char.ext (UInt32.toNat_inj.mp same))
      dsimp only at stays
      exact isVisible_ofNat (by omega)
    · exact hidden

/-- A character that is neither visible nor the sign for kelvin leaves one in lower case that is not visible. -/
theorem exists_hidden_lowerFrom {cs : List Char} {c : Char} (listed : c ∈ cs) (hidden : isVisible c = false)
    (noKelvin : c ≠ kelvin) (before : List Char) : ∃ d ∈ lowerFrom before cs, isVisible d = false := by
  induction cs generalizing before with
  | nil => cases listed
  | cons first rest ih =>
    rw [lowerFrom]
    rcases List.mem_cons.mp listed with rfl | later
    · by_cases sigma : c = 'Σ'
      · subst sigma
        refine ⟨if startsCased before && !startsCased rest then 'ς' else 'σ', by simp, ?_⟩
        split <;> decide
      by_cases dot : c = 'İ'
      · subst dot
        exact ⟨'\u0307', by simp, by decide⟩
      · exact ⟨lowerChar c, by simp [sigma, dot], isVisible_lowerChar hidden noKelvin dot⟩
    · obtain ⟨d, lowered, hidden'⟩ := ih later (first :: before)
      exact ⟨d, List.mem_append_right _ lowered, hidden'⟩

theorem exists_hidden_lowerChars {cs : List Char} {c : Char} (listed : c ∈ cs) (hidden : isVisible c = false)
    (noKelvin : c ≠ kelvin) : ∃ d ∈ lowerChars cs, isVisible d = false :=
  exists_hidden_lowerFrom listed hidden noKelvin []

end ChatFlow.Text
