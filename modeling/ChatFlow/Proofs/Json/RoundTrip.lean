import ChatFlow.Proofs.Decimal.Numerals
import ChatFlow.Proofs.Json.Escaping

/-!
Values in JSON, read back.

A value without fractions is written and read back as it was (`Json.parse_text`): null, truth values, integers that
are not too long, texts of any characters, and lists and dictionaries of such values in any nesting, the entries in
their order (`Value.IsExact`). The reader of a value stops where the value ends, if what follows is one of the
characters that end a value (`Json.Ends`); so values are read one after another, and the whole is an induction on the
value (`Json.readValue_write`). The bound on the depth of the reader is no smaller than the text is long, which is
enough on every level.
-/

namespace ChatFlow

/-- The value has no fractions and no integers with too many digits, and no part without a JSON form; the keys of a
dictionary are distinct. -/
inductive Value.IsExact : Value → Prop
  | null : IsExact .null
  | bool (b : Bool) : IsExact (.bool b)
  | int {n : Int} (short : (Nat.toDigits 10 n.natAbs).length ≤ Decimal.digitLimit) : IsExact (.int n)
  | text (s : String) : IsExact (.text s)
  | list {items : List Value} (exact_ : ∀ v ∈ items, IsExact v) : IsExact (.list items)
  | dict {entries : Entries} (distinct : (entries.map Prod.fst).Nodup) (exact_ : ∀ e ∈ entries, IsExact e.2) :
    IsExact (.dict entries)

namespace Json

variable {c : Char} {cs rest : List Char} {limit : Option Nat} {fuel n : Nat} {v : Value} {items : List Value}
  {entries : Entries}

/-! ## What is written -/

theorem isOverlong_eq_false {n : Int} (short : (Nat.toDigits 10 n.natAbs).length ≤ Decimal.digitLimit) :
    isOverlong n = false := by
  have less := (Nat.length_toDigits_le_iff (by decide) (by decide)).mp short
  unfold isOverlong
  simp only [Nat.pow_eq, ge_iff_le, Nat.not_le_of_lt less, decide_false, Bool.and_false]

theorem faultInItems?_eq_none {asTexts : Bool} (fine : ∀ v ∈ items, fault? asTexts v = none) :
    faultInItems? asTexts items = none := by
  induction items with
  | nil => rfl
  | cons v later ih =>
    rw [faultInItems?, fine v List.mem_cons_self]
    exact ih fun w listed => fine w (List.mem_cons_of_mem v listed)

theorem faultInEntries?_eq_none {asTexts : Bool} (fine : ∀ e ∈ entries, fault? asTexts e.2 = none) :
    faultInEntries? asTexts entries = none := by
  induction entries with
  | nil => rfl
  | cons e later ih =>
    rw [faultInEntries?, fine e List.mem_cons_self]
    exact ih fun w listed => fine w (List.mem_cons_of_mem e listed)

/-- Nothing in a value without fractions is refused. -/
theorem fault?_exact (exact_ : v.IsExact) (asTexts : Bool) : fault? asTexts v = none := by
  induction exact_ with
  | null | bool | text => rw [fault?]
  | int short =>
    rw [fault?, isOverlong_eq_false short]
    rfl
  | list _ ih => rw [fault?, faultInItems?_eq_none ih]
  | dict _ _ ih => rw [fault?, faultInEntries?_eq_none ih]

/-! ## What may follow a value -/

/-- Nothing stands here, or one of the characters that end a value. -/
def Ends (rest : List Char) : Prop :=
  ∀ c ∈ rest.head?, c = ',' ∨ c = ']' ∨ c = '}'

theorem ends_nil : Ends [] := nofun

theorem ends_comma : Ends (',' :: rest) := by simp [Ends]

theorem ends_bracket : Ends (']' :: rest) := by simp [Ends]

theorem ends_brace : Ends ('}' :: rest) := by simp [Ends]

/-! ## Integers -/

theorem ne_of_isDigit {d : Char} (digit : c.isDigit = true) (other : d.isDigit = false) : c ≠ d := by
  rintro rfl
  exact Bool.noConfusion (digit.symm.trans other)

/-- The digits of a number other than zero do not start with a zero. -/
theorem head?_toDigits (positive : n ≠ 0) : (Nat.toDigits 10 n).head? ≠ some '0' := by
  induction n using Nat.strongRecOn with
  | _ n ih =>
    by_cases small : n < 10
    · rw [Nat.toDigits_of_lt_base small]
      simpa using positive
    · rw [Nat.toDigits_of_base_le (by decide) (Nat.le_of_not_lt small), List.head?_append,
        Option.or_of_isSome (List.isSome_head?.mpr Nat.toDigits_ne_nil)]
      exact ih (n / 10) (by omega) (by omega)

/-- Digits are split off as far as they go. -/
theorem takeDigits_append (digits : ∀ c ∈ cs, c.isDigit = true) (ends : Ends rest) :
    takeDigits (cs ++ rest) = (cs.map fun c => c.toNat - '0'.toNat, rest) := by
  have stop : rest.takeWhile Char.isDigit = [] ∧ rest.dropWhile Char.isDigit = rest := by
    cases rest with
    | nil => exact ⟨rfl, rfl⟩
    | cons d after =>
      have other : d.isDigit = false := by
        rcases ends d rfl with rfl | rfl | rfl <;> rfl
      simp [other]
  rw [takeDigits, List.takeWhile_append_of_pos digits, List.dropWhile_append_of_pos digits, stop.1, stop.2,
    List.append_nil]

theorem map_digits (digits : ∀ c ∈ cs, c.isDigit = true) :
    cs.map (fun c => c.toNat - '0'.toNat) = cs.filterMap Text.decimalValue? := by
  induction cs with
  | nil => rfl
  | cons c cs ih =>
    rw [List.map_cons, List.filterMap_cons_some (Decimal.decimalValue?_of_isDigit (digits c List.mem_cons_self)),
      ih fun d later => digits d (List.mem_cons_of_mem c later)]

/-- The digits of a number are read as the number, whether it is zero or not. -/
theorem takeWhole?_toDigits (n : Nat) (ends : Ends rest) :
    takeWhole? (Nat.toDigits 10 n ++ rest) = some ((Nat.toDigits 10 n).filterMap Text.decimalValue?, rest) := by
  have digits := Decimal.isDigit_toDigits n
  by_cases zero : n = 0
  · subst zero
    rfl
  · have first := head?_toDigits zero
    obtain ⟨c, cs, begins⟩ := List.exists_cons_of_ne_nil (Nat.toDigits_ne_nil (n := n) (b := 10))
    rw [← map_digits digits]
    rw [begins] at first digits ⊢
    rw [List.cons_append, takeWhole?, if_pos (digits c List.mem_cons_self), ← List.cons_append,
      takeDigits_append digits ends]
    rintro rfl
    exact first rfl

theorem takeFraction_of_ends (ends : Ends rest) : takeFraction rest = (none, rest) := by
  unfold takeFraction
  split
  · next same => rcases ends '.' rfl with h | h | h <;> cases h
  · rfl

theorem takeExponent_of_ends (ends : Ends rest) : takeExponent rest = (none, rest) := by
  cases rest with
  | nil => rfl
  | cons c after => rcases ends c rfl with rfl | rfl | rfl <;> rfl

/-- An integer is read as far as it goes, unless it has too many digits. -/
theorem readNumber?_toString (a : Int) (ends : Ends rest) :
    readNumber? (some Decimal.digitLimit) ((toString a).toList ++ rest)
      = some (if Decimal.digitLimit < (Nat.toDigits 10 a.natAbs).length
          then .error (.tooLong (Nat.toDigits 10 a.natAbs).length) else .ok (.int a, rest)) := by
  have count (m : Nat) : ((Nat.toDigits 10 m).filterMap Text.decimalValue?).length = (Nat.toDigits 10 m).length := by
    rw [← map_digits (Decimal.isDigit_toDigits m), List.length_map]
  cases a with
  | ofNat m =>
    have unsigned : ∀ after, Nat.toDigits 10 m ++ rest ≠ '-' :: after := by
      obtain ⟨c, cs, begins⟩ := List.exists_cons_of_ne_nil (Nat.toDigits_ne_nil (n := m) (b := 10))
      have digit := Decimal.isDigit_toDigits m c (begins ▸ List.mem_cons_self)
      rw [begins]
      exact fun after same => ne_of_isDigit digit rfl (List.cons.inj same).1
    rw [Decimal.toList_ofNat, readNumber?, takeWhole?_toDigits m ends, Option.map_some]
    · simp only [takeFraction_of_ends ends, takeExponent_of_ends ends]
      rw [count, Decimal.ofDigits_toDigits]
      simp
    · exact unsigned
  | negSucc m =>
    rw [Decimal.toList_negSucc, List.cons_append, readNumber?, takeWhole?_toDigits (m + 1) ends, Option.map_some]
    simp only [takeFraction_of_ends ends, takeExponent_of_ends ends]
    rw [count, Decimal.ofDigits_toDigits, Int.natAbs_negSucc]
    simp [Int.negSucc_eq]

/-- No word is an integer. -/
theorem readWord?_toString (a : Int) (rest : List Char) : readWord? ((toString a).toList ++ rest) = none := by
  obtain ⟨n, digits⟩ : ∃ n, (toString a).toList = Nat.toDigits 10 n ∨ (toString a).toList = '-' :: Nat.toDigits 10 n := by
    cases a with
    | ofNat n => exact ⟨n, .inl (Decimal.toList_ofNat n)⟩
    | negSucc n => exact ⟨n + 1, .inr (Decimal.toList_negSucc n)⟩
  obtain ⟨c, cs, begins⟩ := List.exists_cons_of_ne_nil (Nat.toDigits_ne_nil (n := n) (b := 10))
  have digit := Decimal.isDigit_toDigits n c (begins ▸ List.mem_cons_self)
  have apart : ∀ d : Char, d.isDigit = false → d ≠ c := fun d other => (ne_of_isDigit digit other).symm
  rw [begins] at digits
  rcases digits with same | same <;> rw [same] <;>
    simp [readWord?, words, apart 'n' rfl, apart 't' rfl, apart 'f' rfl, apart 'N' rfl, apart 'I' rfl, apart '-' rfl]

/-! ## How values begin -/

/-- The character begins a value: it is neither white space nor the end of a list nor a mark of the byte order. -/
def Begins (c : Char) : Prop :=
  isSpace c = false ∧ c ≠ ']' ∧ c ≠ '\uFEFF'

theorem toString_begins (n : Int) : ∃ c cs, (toString n).toList = c :: cs ∧ Begins c := by
  obtain ⟨c, cs, begins⟩ := List.exists_cons_of_ne_nil (Decimal.toList_toString_ne_nil n)
  refine ⟨c, cs, begins, ?_⟩
  rcases Decimal.minus_or_isDigit n c (begins ▸ List.mem_cons_self) with rfl | digit
  · exact ⟨rfl, by decide⟩
  · have space : ∀ d : Char, d.isDigit = false → (c == d) = false := fun d other =>
      beq_eq_false_iff_ne.mpr (ne_of_isDigit digit other)
    exact ⟨by simp [isSpace, space ' ' rfl, space '\t' rfl, space '\n' rfl, space '\r' rfl],
      ne_of_isDigit digit rfl, ne_of_isDigit digit rfl⟩

theorem write_begins (exact_ : v.IsExact) : ∃ c cs, write v = c :: cs ∧ Begins c := by
  cases exact_ with
  | null => exact ⟨_, _, rfl, rfl, by decide⟩
  | bool b => cases b <;> exact ⟨_, _, rfl, rfl, by decide⟩
  | @int n short => exact toString_begins n
  | text s => exact ⟨_, _, by rw [write, writeText]; rfl, rfl, by decide⟩
  | list => exact ⟨_, _, by rw [write]; rfl, rfl, by decide⟩
  | dict => exact ⟨_, _, by rw [write]; rfl, rfl, by decide⟩

theorem skipSpace_write (exact_ : v.IsExact) (rest : List Char) : skipSpace (write v ++ rest) = write v ++ rest := by
  obtain ⟨c, cs, begins, ink, -⟩ := write_begins exact_
  rw [begins, skipSpace, List.cons_append, List.dropWhile_cons_of_neg (by simp [ink])]

/-! ## Reading values -/

/-- The value is read back from what is written for it, if what follows ends a value, and a depth of as many levels
as there are characters is enough. -/
def ReadsBack (v : Value) : Prop :=
  ∀ fuel rest, (write v).length ≤ fuel → Ends rest →
    readValue (some Decimal.digitLimit) fuel (write v ++ rest) = .ok (v, rest)

theorem readsBack_word {word : List Char} (written : write v = word) (starts : ∃ c ∈ word.head?, c = 'n' ∨ c = 't' ∨ c = 'f')
    (known : ∀ rest, readWord? (word ++ rest) = some (v, rest)) : ReadsBack v := by
  intro fuel rest enough _
  obtain ⟨c, here, begins⟩ := starts
  obtain ⟨cs, rfl⟩ := List.head?_eq_some_iff.mp here
  rw [written] at enough ⊢
  cases fuel with
  | zero => simp at enough
  | succ fuel =>
    have found := known rest
    rw [List.cons_append] at found ⊢
    rw [readValue, found]
    all_goals
      rintro _ ⟨⟩
      simp at begins

/-- A value that is written in digits is read as an integer. -/
theorem readValue_toString (n : Int) (fuel : Nat) (ends : Ends rest) :
    readValue (some Decimal.digitLimit) (fuel + 1) ((toString n).toList ++ rest)
      = if Decimal.digitLimit < (Nat.toDigits 10 n.natAbs).length
          then .error (.tooLong (Nat.toDigits 10 n.natAbs).length) else .ok (.int n, rest) := by
  have word := readWord?_toString n rest
  have number := readNumber?_toString n ends
  obtain ⟨c, cs, begins⟩ := List.exists_cons_of_ne_nil (Decimal.toList_toString_ne_nil n)
  have first := Decimal.minus_or_isDigit n c (begins ▸ List.mem_cons_self)
  rw [begins] at word number ⊢
  rw [List.cons_append] at word number ⊢
  rw [readValue, word, number]
  · rfl
  all_goals
    rintro _ ⟨⟩
    simp [Char.isDigit] at first

theorem readsBack_int {n : Int} (short : (Nat.toDigits 10 n.natAbs).length ≤ Decimal.digitLimit) :
    ReadsBack (.int n) := by
  intro fuel rest enough ends
  rw [write] at enough ⊢
  cases fuel with
  | zero => exact absurd (List.length_eq_zero_iff.mp (Nat.le_zero.mp enough)) (Decimal.toList_toString_ne_nil n)
  | succ fuel => rw [readValue_toString n fuel ends, if_neg (Nat.not_lt_of_le short)]

theorem readsBack_text (s : String) : ReadsBack (.text s) := by
  intro fuel rest enough _
  rw [write, writeText] at enough ⊢
  cases fuel with
  | zero => simp at enough
  | succ fuel =>
    rw [List.cons_append, List.cons_append, List.append_assoc, List.singleton_append, readValue, readText_writeText]
    rfl

/-- Items are read one after another. -/
theorem readItems_write (first : v.IsExact ∧ ReadsBack v) (others : ∀ w ∈ items, w.IsExact ∧ ReadsBack w)
    (enough : (write v ++ writeItems false items).length < fuel) (rest : List Char) :
    readItems (some Decimal.digitLimit) fuel (write v ++ writeItems false items ++ ']' :: rest)
      = .ok (v :: items, rest) := by
  induction items generalizing v fuel with
  | nil =>
    cases fuel with
    | zero => simp at enough
    | succ fuel =>
      rw [writeItems, List.append_nil] at enough ⊢
      rw [readItems, first.2 fuel _ (by omega) ends_bracket]
      rfl
  | cons w later ih =>
    cases fuel with
    | zero => simp at enough
    | succ fuel =>
      have next := others w List.mem_cons_self
      rw [writeItems] at enough ⊢
      simp only [Bool.false_eq_true, if_false, List.length_append, List.length_cons, List.length_nil] at enough
      have split : write v ++ ((if false = true then [] else [',', ' ']) ++ write w ++ writeItems false later)
          ++ ']' :: rest = write v ++ ',' :: ' ' :: (write w ++ writeItems false later ++ ']' :: rest) := by
        simp
      have after : skipSpace (' ' :: (write w ++ writeItems false later ++ ']' :: rest))
          = write w ++ writeItems false later ++ ']' :: rest := by
        rw [List.append_assoc]
        exact skipSpace_write next.1 _
      rw [split, readItems, first.2 fuel _ (by omega) ends_comma]
      show (readItems _ fuel (skipSpace (' ' :: _))).map _ = _
      rw [after, ih next (fun u listed => others u (List.mem_cons_of_mem w listed)) (by simp; omega)]
      rfl

theorem readsBack_list (exact_ : ∀ w ∈ items, w.IsExact ∧ ReadsBack w) : ReadsBack (.list items) := by
  intro fuel rest enough _
  cases fuel with
  | zero => simp [write] at enough
  | succ fuel =>
    cases items with
    | nil =>
      show readValue _ (fuel + 1) ('[' :: ']' :: rest) = _
      rw [readValue]
      rfl
    | cons v later =>
      have first := exact_ v List.mem_cons_self
      have split : write (.list (v :: later)) ++ rest = '[' :: (write v ++ writeItems false later ++ ']' :: rest) := by
        simp [write, writeItems]
      have length : (write v ++ writeItems false later).length < fuel := by
        simp [write, writeItems] at enough
        simp
        omega
      have items := readItems_write first (fun u listed => exact_ u (List.mem_cons_of_mem v listed)) length rest
      obtain ⟨c, cs, begins, ink, inside, -⟩ := write_begins first.1
      rw [split, readValue]
      rw [begins] at items ⊢
      simp only [List.cons_append] at items ⊢
      rw [skipSpace, List.dropWhile_cons_of_neg (by simp [ink])]
      split
      · next same => exact absurd (List.cons.inj same).1 inside
      · rw [items]
        rfl

/-! ## Entries -/

/-- A key that is not there yet goes last. -/
theorem insert_of_notMem {key : String} (new : key ∉ entries.map Prod.fst) (value : Value) :
    Entries.insert key value entries = entries ++ [(key, value)] := by
  induction entries with
  | nil => rfl
  | cons e later ih =>
    rw [List.map_cons, List.mem_cons, not_or] at new
    rw [Entries.insert, if_neg (by simpa using Ne.symm new.1), ih new.2]
    rfl

theorem update_append {done : Entries} (distinct : ((done ++ entries).map Prod.fst).Nodup) :
    Entries.update done entries = done ++ entries := by
  induction entries generalizing done with
  | nil => exact (List.append_nil done).symm
  | cons e later ih =>
    have new : e.1 ∉ done.map Prod.fst := by
      rw [List.map_append, List.nodup_append] at distinct
      exact fun there => distinct.2.2 e.1 there e.1 (by simp) rfl
    show Entries.update (Entries.insert e.1 e.2 done) later = _
    rw [insert_of_notMem new, ih (by simpa using distinct), List.append_assoc]
    rfl

/-- Entries with distinct keys are kept as they are, in their order. -/
theorem update_distinct (distinct : (entries.map Prod.fst).Nodup) : Entries.update [] entries = entries :=
  update_append distinct

/-- An entry is read with its key, and then the reader looks at what follows. -/
theorem readEntries_entry (key : String) (entry : v.IsExact ∧ ReadsBack v) (enough : (write v).length ≤ fuel)
    {after : List Char} (ends : Ends after) :
    readEntries (some Decimal.digitLimit) (fuel + 1) (writeText key ++ ':' :: ' ' :: (write v ++ after))
      = match skipSpace after with
        | '}' :: rest => .ok ([(key, v)], rest)
        | ',' :: rest =>
          (readEntries (some Decimal.digitLimit) fuel (skipSpace rest)).map fun (es, r) => ((key, v) :: es, r)
        | rest => .error (.broken rest.length) := by
  have colon (cs : List Char) : skipSpace (':' :: cs) = ':' :: cs := rfl
  have found : readValue (some Decimal.digitLimit) fuel (skipSpace (' ' :: (write v ++ after))) = .ok (v, after) := by
    rw [show skipSpace (' ' :: (write v ++ after)) = write v ++ after from skipSpace_write entry.1 after]
    exact entry.2 fuel after enough ends
  rw [writeText, List.cons_append, List.cons_append, List.append_assoc, List.singleton_append, readEntries,
    readText_writeText]
  simp only [colon]
  generalize readValue (some Decimal.digitLimit) fuel (skipSpace (' ' :: (write v ++ after))) = result at found ⊢
  subst found
  rfl

/-- Entries are read one after another. -/
theorem readEntries_write {key : String} (first : v.IsExact ∧ ReadsBack v)
    (others : ∀ e ∈ entries, e.2.IsExact ∧ ReadsBack e.2)
    (enough : (writeText key ++ ':' :: ' ' :: (write v ++ writeEntries false entries)).length < fuel)
    (rest : List Char) :
    readEntries (some Decimal.digitLimit) fuel
        (writeText key ++ ':' :: ' ' :: (write v ++ (writeEntries false entries ++ '}' :: rest)))
      = .ok ((key, v) :: entries, rest) := by
  induction entries generalizing key v fuel with
  | nil =>
    cases fuel with
    | zero => simp at enough
    | succ fuel =>
      rw [writeEntries, List.nil_append, readEntries_entry key first (by simp [writeEntries] at enough; omega) ends_brace]
      rfl
  | cons e later ih =>
    cases fuel with
    | zero => simp at enough
    | succ fuel =>
      obtain ⟨next, w⟩ := e
      have listed := others (next, w) List.mem_cons_self
      have split : writeEntries false ((next, w) :: later) ++ '}' :: rest
          = ',' :: ' ' :: (writeText next ++ ':' :: ' ' :: (write w ++ (writeEntries false later ++ '}' :: rest))) := by
        simp [writeEntries]
      have length : (writeText next ++ ':' :: ' ' :: (write w ++ writeEntries false later)).length < fuel := by
        simp [writeEntries] at enough
        simp
        omega
      rw [split, readEntries_entry key first (by simp at enough; omega) ends_comma]
      show (readEntries _ fuel (writeText next ++ _)).map _ = _
      rw [ih listed (fun u member => others u (List.mem_cons_of_mem _ member)) length]
      rfl

theorem readsBack_dict (distinct : (entries.map Prod.fst).Nodup) (exact_ : ∀ e ∈ entries, e.2.IsExact ∧ ReadsBack e.2) :
    ReadsBack (.dict entries) := by
  intro fuel rest enough _
  cases fuel with
  | zero => simp [write] at enough
  | succ fuel =>
    cases entries with
    | nil =>
      show readValue _ (fuel + 1) ('{' :: '}' :: rest) = _
      rw [readValue]
      rfl
    | cons e later =>
      obtain ⟨key, v⟩ := e
      have split : write (.dict ((key, v) :: later)) ++ rest
          = '{' :: (writeText key ++ ':' :: ' ' :: (write v ++ (writeEntries false later ++ '}' :: rest))) := by
        simp [write, writeEntries]
      have length : (writeText key ++ ':' :: ' ' :: (write v ++ writeEntries false later)).length < fuel := by
        simp [write, writeEntries] at enough
        simp
        omega
      have entries := readEntries_write (exact_ (key, v) List.mem_cons_self)
        (fun u member => exact_ u (List.mem_cons_of_mem _ member)) length rest
      rw [split, readValue]
      show (readEntries _ fuel (writeText key ++ _)).map _ = _
      rw [entries]
      show Except.ok (Value.dict (Entries.update [] ((key, v) :: later)), rest) = _
      rw [update_distinct distinct]

/-! ## Whole documents -/

/-- A value without fractions is read back from what is written for it. -/
theorem readValue_write (exact_ : v.IsExact) : ReadsBack v := by
  induction exact_ with
  | null => exact readsBack_word rfl ⟨'n', rfl, .inl rfl⟩ fun _ => rfl
  | bool b =>
    cases b with
    | true => exact readsBack_word rfl ⟨'t', rfl, .inr (.inl rfl)⟩ fun _ => rfl
    | false => exact readsBack_word rfl ⟨'f', rfl, .inr (.inr rfl)⟩ fun _ => rfl
  | int short => exact readsBack_int short
  | text s => exact readsBack_text s
  | list exact_ ih => exact readsBack_list fun w listed => ⟨exact_ w listed, ih w listed⟩
  | dict distinct exact_ ih => exact readsBack_dict distinct fun e listed => ⟨exact_ e listed, ih e listed⟩

/-- A document that begins where its text begins. -/
theorem parse_eq {s : String} {c : Char} {cs : List Char} (text : s.toList = c :: cs) (begins : Begins c) :
    parse s = match readValue (some Decimal.digitLimit) ((c :: cs).length + 1) (c :: cs) with
      | .error f => .error f
      | .ok (v, rest) =>
        match skipSpace rest with
        | [] => .ok v
        | rest => .error (.broken rest.length) := by
  obtain ⟨ink, -, unmarked⟩ := begins
  rw [parse, parseWith, text, skipSpace, List.dropWhile_cons_of_neg (by simp [ink])]
  split
  · next same => exact absurd (List.cons.inj same).1 unmarked
  · rfl

/-- The JSON text of a value without fractions is a document of which the value is the content. -/
theorem parse_text (exact_ : v.IsExact) : parse (text v) = .ok v := by
  obtain ⟨c, cs, written, begins⟩ := write_begins exact_
  have whole := readValue_write exact_ ((write v).length + 1) [] (Nat.le_succ _) ends_nil
  rw [List.append_nil, written] at whole
  rw [parse_eq (by rw [text, String.toList_ofList, written]) begins, whole]
  rfl

/-- An integer with too many digits is a document that is not read. -/
theorem parse_tooLong {n : Int} (long : Decimal.digitLimit < (Nat.toDigits 10 n.natAbs).length) :
    parse (toString n) = .error (.tooLong (Nat.toDigits 10 n.natAbs).length) := by
  obtain ⟨c, cs, written, begins⟩ := toString_begins n
  have whole := readValue_toString n (toString n).toList.length ends_nil
  rw [List.append_nil, written, if_pos long] at whole
  rw [parse_eq written begins, whole]

end Json

end ChatFlow
