import Mathlib.Data.List.Basic
import Topiary.Selector.Catalogue.Lemmas

/-!
The parts that tokens are written with: runs of characters, names, function names and quoted values.
A part is read off the front of a text exactly when it is written there and the text behind it
cannot go on with it.
-/

namespace Topiary.Selector

open Topiary.Text

variable {p : Char → Bool} {l rest name cs : List Char} {c : Char}

/-! ## Runs of characters -/

/-- A text does not begin with a character of the class. -/
def Stops (p : Char → Bool) (rest : List Char) : Prop :=
  ∀ c ∈ rest.head?, p c = false

theorem stops_nil : Stops p [] := by
  simp [Stops]

theorem stops_cons : Stops p (c :: rest) ↔ p c = false := by
  simp [Stops]

theorem stops_dropWhile : Stops p (l.dropWhile p) := by
  intro c hc
  have h := List.head?_dropWhile_not p l
  rw [Option.mem_def.mp hc] at h
  simpa using h

theorem takeWhile_append_of_stops (hl : ∀ c ∈ l, p c = true) (hr : Stops p rest) :
    (l ++ rest).takeWhile p = l := by
  rw [List.takeWhile_append_of_pos hl]
  cases rest with
  | nil => simp
  | cons c rest => simp [stops_cons.mp hr]

theorem dropWhile_append_of_stops (hl : ∀ c ∈ l, p c = true) (hr : Stops p rest) :
    (l ++ rest).dropWhile p = rest := by
  rw [List.dropWhile_append_of_pos hl]
  cases rest with
  | nil => simp
  | cons c rest => simp [stops_cons.mp hr]

theorem mem_takeWhile (h : c ∈ l.takeWhile p) : p c = true := by
  exact List.all_eq_true.mp List.all_takeWhile c h

/-- A run ends in front of a character outside its class, wherever that character stands. -/
theorem takeWhile_append_cons (hc : p c = false) :
    (l ++ c :: rest).takeWhile p = l.takeWhile p := by
  induction l with
  | nil => simp [hc]
  | cons a l ih => by_cases ha : p a <;> simp [ha, ih]

theorem dropWhile_append_cons (hc : p c = false) :
    (l ++ c :: rest).dropWhile p = l.dropWhile p ++ c :: rest := by
  induction l with
  | nil => simp [hc]
  | cons a l ih => by_cases ha : p a <;> simp [ha, ih]

/-! ## Names -/

/-- A letter, then letters and digits. -/
structure IsName (name : List Char) : Prop where
  ne_nil : name ≠ []
  letter : ∀ c ∈ name.head?, isLetter c = true
  rest : ∀ c ∈ name, isAlphanumeric c = true

theorem isName_of_splitName (h : splitName cs = some (name, rest)) :
    IsName name ∧ Stops isAlphanumeric rest ∧ cs = name ++ rest := by
  have happ := append_of_splitName h
  cases cs with
  | nil => simp [splitName] at h
  | cons c tail =>
    simp only [splitName] at h
    split at h
    · rename_i hc
      obtain ⟨rfl, rfl⟩ := Prod.mk.inj (Option.some.inj h)
      refine ⟨⟨by simp, by simpa using hc, ?_⟩, stops_dropWhile, happ.1.symm⟩
      intro a ha
      rcases List.mem_cons.mp ha with rfl | ha
      · simp [isAlphanumeric, hc]
      · exact mem_takeWhile ha
    · simp at h

theorem splitName_append (h : IsName name) (hr : Stops isAlphanumeric rest) :
    splitName (name ++ rest) = some (name, rest) := by
  cases name with
  | nil => exact absurd rfl h.ne_nil
  | cons c tail =>
    have hc : isLetter c = true := h.letter c (by simp)
    have htail : ∀ a ∈ tail, isAlphanumeric a = true := fun a ha => h.rest a (by simp [ha])
    rw [List.cons_append, splitName, if_pos hc, takeWhile_append_of_stops htail hr,
      dropWhile_append_of_stops htail hr]

/-- A letter, then at least one more letter, digit or dash, the last of them no dash. -/
structure IsFunction (name : List Char) : Prop where
  letter : ∀ c ∈ name.head?, isLetter c = true
  rest : ∀ c ∈ name, isFunctionChar c = true
  last : ∀ c ∈ name.getLast?, c ≠ '-'
  two_le : 2 ≤ name.length

theorem isFunction_of_splitFunction (h : splitFunction cs = some (name, rest)) :
    IsFunction name ∧ cs = name ++ rest := by
  have happ := append_of_splitFunction h
  refine ⟨?_, happ.1.symm⟩
  cases cs with
  | nil => simp [splitFunction] at h
  | cons c tail =>
    simp only [splitFunction] at h
    split at h
    · rename_i hc
      obtain ⟨rfl, rfl⟩ := Prod.mk.inj (Option.some.inj h)
      simp only [Bool.and_eq_true, Bool.not_eq_eq_eq_not, Bool.not_true] at hc
      have hsub : ∀ a ∈ ((tail.takeWhile isFunctionChar).reverse.dropWhile (· == '-')).reverse,
          isFunctionChar a = true := by
        intro a ha
        rw [List.mem_reverse] at ha
        have := (List.dropWhile_sublist _).subset ha
        exact mem_takeWhile (List.mem_reverse.mp this)
      constructor
      · simpa using hc.1
      · intro a ha
        rcases List.mem_cons.mp ha with rfl | ha
        · simp [isFunctionChar, isAlphanumeric, hc.1]
        · exact hsub a ha
      · intro a ha
        have hne : (tail.takeWhile isFunctionChar).reverse.dropWhile (· == '-') ≠ [] := by
          simpa using hc.2
        rw [List.getLast?_cons, List.getLast?_reverse] at ha
        have hstop := stops_dropWhile (p := (· == '-'))
          (l := (tail.takeWhile isFunctionChar).reverse)
        cases hd : (tail.takeWhile isFunctionChar).reverse.dropWhile (· == '-') with
        | nil => exact absurd hd hne
        | cons b more =>
          rw [hd] at ha hstop
          obtain rfl : b = a := by simpa using ha
          simpa [stops_cons] using hstop
      · have hne : ((tail.takeWhile isFunctionChar).reverse.dropWhile (· == '-')).length ≠ 0 := by
          simpa using hc.2
        simp only [List.length_cons, List.length_reverse]
        omega
    · simp at h

theorem isFunction_of_self (h : splitFunction name = some (name, [])) : IsFunction name :=
  (isFunction_of_splitFunction h).1

theorem splitFunction_append (h : IsFunction name) (hr : Stops isFunctionChar rest) :
    splitFunction (name ++ rest) = some (name, rest) := by
  cases name with
  | nil => simpa using h.two_le
  | cons c tail =>
    have hc : isLetter c = true := h.letter c (by simp)
    have htail : ∀ a ∈ tail, isFunctionChar a = true := fun a ha => h.rest a (by simp [ha])
    have hstop : Stops (· == '-') tail.reverse := by
      intro a ha
      have hlast := h.last a (by
        rw [List.head?_reverse, Option.mem_def] at ha
        rw [List.getLast?_cons, ha]
        rfl)
      simpa using hlast
    have hnone : tail.reverse.takeWhile (· == '-') = [] ∧
        tail.reverse.dropWhile (· == '-') = tail.reverse := by
      cases hrev : tail.reverse with
      | nil => exact ⟨rfl, rfl⟩
      | cons b more =>
        rw [hrev, stops_cons] at hstop
        simp [hstop]
    have hne : tail ≠ [] := by
      rintro rfl
      simpa using h.two_le
    rw [List.cons_append, splitFunction]
    simp only [takeWhile_append_of_stops htail hr, dropWhile_append_of_stops htail hr, hnone.1,
      hnone.2, List.reverse_reverse, hc, Bool.true_and, List.nil_append]
    simp [hne]

/-- Only dashes are left behind a function name of what could go on with it. -/
theorem stops_of_splitFunction (h : splitFunction cs = some (name, rest))
    (hdash : Stops (· == '-') rest) : Stops isFunctionChar rest := by
  cases cs with
  | nil => simp [splitFunction] at h
  | cons c tail =>
    simp only [splitFunction] at h
    split at h
    · obtain ⟨-, rfl⟩ := Prod.mk.inj (Option.some.inj h)
      cases hd : (tail.takeWhile isFunctionChar).reverse.takeWhile (· == '-') with
      | nil =>
        rw [List.nil_append]
        exact stops_dropWhile
      | cons d dashes =>
        have hmem : d ∈ (tail.takeWhile isFunctionChar).reverse.takeWhile (· == '-') := by
          rw [hd]
          simp
        rw [hd, List.cons_append, stops_cons, mem_takeWhile hmem] at hdash
        simp at hdash
    · simp at h

theorem splitFunction_eq_none (hc : isLetter c = false) : splitFunction (c :: rest) = none := by
  simp [splitFunction, hc]

theorem splitCall_append (h : IsFunction name) :
    splitCall (':' :: name ++ '(' :: rest) = some (name, rest) := by
  have hr : Stops isFunctionChar ('(' :: rest) := stops_cons.mpr (by decide)
  rw [List.cons_append, splitCall, splitFunction_append h hr]
  rfl

theorem isFunction_of_splitCall (h : splitCall cs = some (name, rest)) :
    IsFunction name ∧ cs = ':' :: name ++ '(' :: rest := by
  refine ⟨?_, (append_of_splitCall h).symm⟩
  unfold splitCall at h
  split at h
  · split at h
    · rename_i hf
      obtain ⟨rfl, rfl⟩ := Prod.mk.inj (Option.some.inj h)
      exact (isFunction_of_splitFunction hf).1
    · simp at h
  · simp at h

/-! ## Quoted values -/

/-- The first double quote of a text stands right before the given character. -/
def QuoteBefore (c : Char) (cs : List Char) : Prop :=
  ∃ value rest, cs = value ++ '"' :: c :: rest ∧ '"' ∉ value

theorem splitQuoted_append {value : List Char} (h : '"' ∉ value) :
    splitQuoted ('"' :: value ++ '"' :: rest) = some (value, rest) := by
  have hall : ∀ c ∈ value, (c != '"') = true := by
    intro c hc
    rw [bne_iff_ne]
    rintro rfl
    exact h hc
  have hstop : Stops (· != '"') ('"' :: rest) := stops_cons.mpr (by decide)
  rw [List.cons_append, splitQuoted, takeWhile_append_of_stops hall hstop,
    dropWhile_append_of_stops hall hstop]

theorem not_mem_of_splitQuoted {value : List Char} (h : splitQuoted cs = some (value, rest)) :
    '"' ∉ value ∧ cs = '"' :: value ++ '"' :: rest := by
  refine ⟨?_, (append_of_splitQuoted h).symm⟩
  unfold splitQuoted at h
  split at h
  · split at h
    · obtain ⟨rfl, -⟩ := Prod.mk.inj (Option.some.inj h)
      intro hmem
      simpa using mem_takeWhile hmem
    · simp at h
  · simp at h

end Topiary.Selector
