import Mathlib.Data.List.TakeWhile
import ChatFlow.Template

/-!
How a template is read, and what it is filled with.

The segments of a text are its leftmost reading: a place is taken where one begins, and no place begins in a literal
run, not even one that goes on behind the run (`Template.IsLeftmost`). A text has one such reading
(`Template.IsLeftmost.eq_segments`), and it is found without looking at a single value. Filling leaves the literal runs
as they are and puts into each place the text of the value that its trimmed name leads to (`Template.fill?_eq_ok_iff`);
what was put there is not read again.
-/

namespace ChatFlow

namespace Template

variable {cs rest name after run : List Char} {parts : List Segment} {s : Segment} {scope : Value}

/-! ## Places -/

/-- A place can have this name: there is something in it, and nothing that closes the place. -/
structure IsPlaceName (name : List Char) : Prop where
  nonempty : name ≠ []
  unclosed : '}' ∉ name

/-- The text begins with a place. -/
def BeginsWithPlace (cs : List Char) : Prop :=
  ∃ name after, IsPlaceName name ∧ cs = (Segment.place name).chars ++ after

/-- A place stands somewhere in the text. -/
def HoldsPlace (cs : List Char) : Prop :=
  ∃ rest, rest <:+ cs ∧ BeginsWithPlace rest

theorem chars_place (name after : List Char) :
    (Segment.place name).chars ++ after = '{' :: '{' :: (name ++ '}' :: '}' :: after) := by
  simp [Segment.chars]

theorem BeginsWithPlace.append (h : BeginsWithPlace cs) (more : List Char) : BeginsWithPlace (cs ++ more) := by
  obtain ⟨name, after, isName, rfl⟩ := h
  exact ⟨name, after ++ more, isName, List.append_assoc _ _ _⟩

/-- A place is found exactly where one begins: its name runs up to the first closing brace. -/
theorem placeAt?_eq_some_iff :
    placeAt? cs = some (name, after) ↔ IsPlaceName name ∧ cs = (Segment.place name).chars ++ after := by
  constructor
  · intro found
    unfold placeAt? at found
    split at found
    · rename_i rest
      split at found
      · rename_i c name' after' taken left
        cases found
        refine ⟨⟨List.cons_ne_nil c name', fun closing => ?_⟩, ?_⟩
        · rw [← taken] at closing
          simpa using List.mem_takeWhile_imp closing
        · rw [chars_place, ← taken, ← left, List.takeWhile_append_dropWhile]
      · cases found
    · cases found
  · rintro ⟨isName, rfl⟩
    have inside : ∀ c ∈ name, (c != '}') = true := fun c member => by
      simpa using ne_of_mem_of_not_mem member isName.unclosed
    have taken : (name ++ '}' :: '}' :: after).takeWhile (· != '}') = name := by
      rw [List.takeWhile_append_of_pos inside]
      simp
    have left : (name ++ '}' :: '}' :: after).dropWhile (· != '}') = '}' :: '}' :: after := by
      rw [List.dropWhile_append_of_pos inside]
      rfl
    rw [chars_place, placeAt?, taken, left]
    obtain ⟨c, cs, rfl⟩ := List.exists_cons_of_ne_nil isName.nonempty
    rfl

theorem placeAt?_eq_none_iff : placeAt? cs = none ↔ ¬ BeginsWithPlace cs := by
  constructor
  · rintro none ⟨name, after, place⟩
    cases none.symm.trans (placeAt?_eq_some_iff.mpr place)
  · intro plain
    cases found : placeAt? cs with
    | none => rfl
    | some place => exact absurd ⟨place.1, place.2, placeAt?_eq_some_iff.mp found⟩ plain

/-! ## Segments -/

theorem segments_nil : segments [] = [] := by rw [segments]

theorem segments_place (isName : IsPlaceName name) (after : List Char) :
    segments ((Segment.place name).chars ++ after) = .place name :: segments after := by
  have place : placeAt? ((Segment.place name).chars ++ after) = some (name, after) :=
    placeAt?_eq_some_iff.mpr ⟨isName, rfl⟩
  rw [chars_place] at place ⊢
  rw [segments]
  split
  · next found =>
    cases place.symm.trans found
    rfl
  · next found => cases place.symm.trans found

theorem segments_cons {c : Char} (plain : ¬ BeginsWithPlace (c :: rest)) :
    segments (c :: rest) = consChar c (segments rest) := by
  rw [segments]
  split
  · next found => cases (placeAt?_eq_none_iff.mpr plain).symm.trans found
  · rfl

/-- The segments are the leftmost reading of the text: a place stands where one begins, and none begins in a literal
run. Literal runs are as long as they can be. -/
inductive IsLeftmost : List Char → List Segment → Prop
  | nil : IsLeftmost [] []
  | place {name after : List Char} {parts : List Segment} (isName : IsPlaceName name) (behind : IsLeftmost after parts) :
    IsLeftmost ((Segment.place name).chars ++ after) (.place name :: parts)
  | literal {run after : List Char} {parts : List Segment} (nonempty : run ≠ [])
    (plain : ∀ rest, rest ≠ [] → rest <:+ run → ¬ BeginsWithPlace (rest ++ after))
    (whole : ∀ more, parts.head? ≠ some (.literal more)) (behind : IsLeftmost after parts) :
    IsLeftmost (run ++ after) (.literal run :: parts)

/-- A character where no place begins belongs to a literal run. -/
theorem IsLeftmost.consChar {c : Char} (h : IsLeftmost rest parts) (plain : ¬ BeginsWithPlace (c :: rest)) :
    IsLeftmost (c :: rest) (consChar c parts) := by
  have alone : ∀ tail, tail ≠ [] → tail <:+ [c] → ¬ BeginsWithPlace (tail ++ rest) := by
    intro tail nonempty suffix
    obtain rfl | rfl := List.suffix_cons_iff.mp suffix |>.imp_right List.suffix_nil.mp
    · exact plain
    · exact absurd rfl nonempty
  cases h with
  | nil =>
    show IsLeftmost ([c] ++ []) _
    exact .literal (List.cons_ne_nil c []) alone nofun .nil
  | @place name after parts isName behind =>
    show IsLeftmost ([c] ++ ((Segment.place name).chars ++ after)) _
    exact .literal (List.cons_ne_nil c []) alone nofun (.place isName behind)
  | @literal run after parts nonempty plain' whole behind =>
    show IsLeftmost (c :: run ++ after) _
    refine .literal (List.cons_ne_nil c run) (fun tail nonempty suffix => ?_) whole behind
    obtain rfl | suffix := List.suffix_cons_iff.mp suffix
    · exact plain
    · exact plain' tail nonempty suffix

/-- The segments are a leftmost reading. -/
theorem isLeftmost_segments (cs : List Char) : IsLeftmost cs (segments cs) := by
  -- The recursion either takes a whole place or moves on by one character, which joins the run behind it.
  fun_induction segments cs with
  | case1 => exact .nil
  | case2 c rest name after found ih =>
    obtain ⟨isName, same⟩ := placeAt?_eq_some_iff.mp found
    rw [same]
    exact .place isName ih
  | case3 c rest found ih => exact ih.consChar (placeAt?_eq_none_iff.mp found)

/-- A run in which no place begins is one literal, unless another follows. -/
theorem segments_run (nonempty : run ≠ [])
    (plain : ∀ rest, rest ≠ [] → rest <:+ run → ¬ BeginsWithPlace (rest ++ after))
    (whole : ∀ more, (segments after).head? ≠ some (.literal more)) :
    segments (run ++ after) = .literal run :: segments after := by
  induction run with
  | nil => exact absurd rfl nonempty
  | cons c later ih =>
    have here : ¬ BeginsWithPlace (c :: (later ++ after)) := plain (c :: later) nonempty List.suffix_rfl
    rw [List.cons_append, segments_cons here]
    cases later with
    | nil =>
      -- The last character of the run must not join a literal behind it: there is none.
      rw [List.nil_append]
      unfold consChar
      split
      · next more rest same => exact absurd (congrArg List.head? same) (whole more)
      · rfl
    | cons d later =>
      rw [ih (List.cons_ne_nil d later) fun rest nonempty suffix =>
        plain rest nonempty (suffix.trans (List.suffix_cons c _))]
      rfl

/-- There is no other leftmost reading. -/
theorem IsLeftmost.eq_segments (h : IsLeftmost cs parts) : parts = segments cs := by
  induction h with
  | nil => exact segments_nil.symm
  | place isName _ ih => rw [segments_place isName, ih]
  | literal nonempty plain whole _ ih => rw [segments_run nonempty plain (ih ▸ whole), ih]

theorem IsLeftmost.flatMap_chars (h : IsLeftmost cs parts) : parts.flatMap Segment.chars = cs := by
  induction h with
  | nil => rfl
  | place _ _ ih => rw [List.flatMap_cons, ih]
  | literal _ _ _ _ ih =>
    rw [List.flatMap_cons, ih]
    rfl

theorem IsLeftmost.not_holdsPlace (h : IsLeftmost cs parts) : ∀ run, .literal run ∈ parts → ¬ HoldsPlace run := by
  induction h with
  | nil => exact nofun
  | place _ _ ih => exact fun run member => ih run (by simpa using member)
  | literal _ plain _ _ ih =>
    intro run' member
    rcases List.mem_cons.mp member with same | member
    · cases same
      rintro ⟨rest, suffix, begins⟩
      obtain ⟨name, after, -, rfl⟩ := id begins
      exact plain _ (by simp [Segment.chars]) suffix (begins.append _)
    · exact ih run' member

/-! ## Filling a text -/

/-- What succeeds with a further step that cannot fail. -/
theorem map_eq_ok_iff {α β : Type} {x : Except Failure α} {g : α → β} {b : β} :
    x.map g = .ok b ↔ ∃ a, x = .ok a ∧ g a = b := by
  cases x <;> simp [Except.map]

/-- Two steps, one after the other, succeed if each of them does. -/
theorem both_eq_ok_iff {α β γ : Type} {x : Except Failure α} {y : Except Failure β} {g : α → β → γ} {c : γ} :
    (x >>= fun a => y.map (g a)) = .ok c ↔ ∃ a b, x = .ok a ∧ y = .ok b ∧ g a b = c := by
  cases x with
  | error f => exact iff_of_false nofun nofun
  | ok a =>
    show y.map (g a) = .ok c ↔ _
    simp [map_eq_ok_iff]

/-- The text that goes into a place of this name. -/
def wordOf? (scope : Value) (name : List Char) : Except Failure String :=
  Path.find? scope (Text.trim (String.ofList name)) >>= Value.fill?

/-- The segment after filling, with this word in each place. -/
def Segment.filled (word : List Char → String) : Segment → List Char
  | .literal run => run
  | .place name => (word name).toList

theorem fill?_place (scope : Value) (name : List Char) :
    (Segment.place name).fill? scope = (wordOf? scope name).map String.toList := by
  unfold Segment.fill? wordOf?
  dsimp only
  cases Path.find? scope (Text.trim (String.ofList name)) <;> rfl

theorem fillAll?_cons_eq_ok_iff : fillAll? scope (s :: parts) = .ok cs ↔
    ∃ here later, s.fill? scope = .ok here ∧ fillAll? scope parts = .ok later ∧ here ++ later = cs := by
  rw [← both_eq_ok_iff, fillAll?]
  cases s.fill? scope <;> rfl

/-- Where every place has a word, the text is filled with the words. -/
theorem fillAll?_of_words {word : List Char → String}
    (words : ∀ name, .place name ∈ parts → wordOf? scope name = .ok (word name)) :
    fillAll? scope parts = .ok (parts.flatMap (·.filled word)) := by
  induction parts with
  | nil => rfl
  | cons s rest ih =>
    have here : s.fill? scope = .ok (s.filled word) := by
      cases s with
      | literal run => rfl
      | place name =>
        rw [fill?_place, words name List.mem_cons_self]
        rfl
    have later := ih fun name member => words name (List.mem_cons_of_mem s member)
    exact fillAll?_cons_eq_ok_iff.mpr ⟨_, _, here, later, rfl⟩

/-- Where a text is filled, every place has a word. -/
theorem words_of_fillAll? (filled : fillAll? scope parts = .ok cs) :
    ∀ name, .place name ∈ parts → ∃ s, wordOf? scope name = .ok s := by
  induction parts generalizing cs with
  | nil => exact nofun
  | cons s rest ih =>
    intro name member
    obtain ⟨here, later, first, others, -⟩ := fillAll?_cons_eq_ok_iff.mp filled
    rcases List.mem_cons.mp member with rfl | member
    · rw [fill?_place, map_eq_ok_iff] at first
      obtain ⟨s, found, -⟩ := first
      exact ⟨s, found⟩
    · exact ih others name member

/-- A text is filled exactly if every place has a word, and then with these words and with its literal runs. -/
theorem fill?_eq_ok_iff {text t : String} :
    fill? scope text = .ok t ↔
      ∃ word : List Char → String, (∀ name, .place name ∈ segments text.toList → wordOf? scope name = .ok (word name)) ∧
        t = String.ofList ((segments text.toList).flatMap (·.filled word)) := by
  rw [fill?, map_eq_ok_iff]
  constructor
  · rintro ⟨cs, filled, rfl⟩
    have words : ∀ name, .place name ∈ segments text.toList →
        wordOf? scope name = .ok ((wordOf? scope name).toOption.getD "") := by
      intro name member
      obtain ⟨s, found⟩ := words_of_fillAll? filled name member
      rw [found]
      rfl
    refine ⟨_, words, ?_⟩
    rw [Except.ok.inj (filled.symm.trans (fillAll?_of_words words))]
  · rintro ⟨word, words, rfl⟩
    exact ⟨_, fillAll?_of_words words, rfl⟩

/-- A text that a place leads to stands there as it is. -/
theorem wordOf?_text {s : String} (found : Path.find? scope (Text.trim (String.ofList name)) = .ok (.text s)) :
    wordOf? scope name = .ok s := by
  rw [wordOf?, found]
  rfl

end Template

end ChatFlow
