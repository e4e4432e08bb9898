import Topiary.Text.Blank

/-!
Words of a text. What stands on the two sides of a blank is split by itself, so that the words of a
text are its longest runs of characters that are not blank, and words that are joined by spaces are
read back as they were.
-/

namespace Topiary.Text

variable {word text rest xs ys : List Char} {c d : Char}

/-- A run of characters that are not blank. -/
structure IsWord (word : List Char) : Prop where
  ne_nil : word ≠ []
  solid : ∀ c ∈ word, isBlank c = false

/-! ## Splitting at blanks -/

theorem splitBlank_blank (hc : isBlank c = true) : splitBlank (c :: rest) = splitBlank rest := by
  simp [splitBlank, hc]

theorem splitBlank_single (hc : isBlank c = false) : splitBlank [c] = [[c]] := by
  simp [splitBlank, hc]

theorem splitBlank_end (hc : isBlank c = false) (hd : isBlank d = true) :
    splitBlank (c :: d :: rest) = [c] :: splitBlank (d :: rest) := by
  rw [splitBlank.eq_def]
  simp [hc, hd]

theorem splitBlank_inside (hc : isBlank c = false) (hd : isBlank d = false) :
    splitBlank (c :: d :: rest) =
      match splitBlank (d :: rest) with
      | word :: words => (c :: word) :: words
      | [] => [[c]] := by
  rw [splitBlank.eq_def]
  cases hrest : splitBlank (d :: rest) <;> simp [hc, hd, hrest]

/-- The words are what stands between single blanks, less what is empty. -/
theorem splitBlank_eq_filter (cs : List Char) :
    splitBlank cs = (cs.splitOnP isBlank).filter (!·.isEmpty) := by
  induction cs with
  | nil => rfl
  | cons a cs ih =>
    cases ha : isBlank a with
    | true => simp [splitBlank_blank ha, List.splitOnP_cons_eq_if_modifyHead, ha, ih]
    | false =>
      cases cs with
      | nil => simp [splitBlank_single ha, List.splitOnP_cons_eq_if_modifyHead, ha]
      | cons d cs =>
        cases hd : isBlank d with
        | true =>
          rw [splitBlank_end ha hd, ih]
          simp [List.splitOnP_cons_eq_if_modifyHead, ha, hd]
        | false =>
          obtain ⟨first, others, hfirst⟩ :=
            List.exists_cons_of_ne_nil (List.splitOnP_ne_nil isBlank cs)
          rw [splitBlank_inside ha hd, ih]
          simp [List.splitOnP_cons_eq_if_modifyHead, ha, hd, hfirst]

/-- What stands on the two sides of a blank is split by itself. -/
theorem splitBlank_append_blank (hc : isBlank c = true) (xs ys : List Char) :
    splitBlank (xs ++ c :: ys) = splitBlank xs ++ splitBlank ys := by
  simp only [splitBlank_eq_filter]
  rw [List.splitOnP_append_cons xs ys hc, List.filter_append]

theorem splitBlank_word (h : IsWord word) : splitBlank word = [word] := by
  rw [splitBlank_eq_filter, List.splitOnP_eq_singleton h.solid]
  simp [h.ne_nil]

/-! ## The words that stand in a text -/

/-- A word of a text that cannot be made longer: in front of it and behind it is a blank or an end
of the text. -/
structure StandsIn (word text : List Char) : Prop where
  isWord : IsWord word
  bounded : ∃ before behind, text = before ++ word ++ behind ∧
    (∀ c ∈ before.getLast?, isBlank c = true) ∧ ∀ c ∈ behind.head?, isBlank c = true

theorem IsWord.standsIn (h : IsWord word) : StandsIn word word :=
  ⟨h, [], [], by simp, by simp, by simp⟩

theorem StandsIn.append_blank (h : StandsIn word xs) (hc : isBlank c = true) (ys : List Char) :
    StandsIn word (xs ++ c :: ys) := by
  obtain ⟨hword, before, behind, rfl, hbefore, hbehind⟩ := h
  refine ⟨hword, before, behind ++ c :: ys, by simp, hbefore, fun d hd => ?_⟩
  cases behind with
  | nil =>
    obtain rfl : c = d := by simpa using hd
    exact hc
  | cons b behind => exact hbehind d (by simpa using hd)

theorem StandsIn.blank_append (h : StandsIn word ys) (hc : isBlank c = true) (xs : List Char) :
    StandsIn word (xs ++ c :: ys) := by
  obtain ⟨hword, before, behind, rfl, hbefore, hbehind⟩ := h
  refine ⟨hword, xs ++ c :: before, behind, by simp, fun d hd => ?_, hbehind⟩
  rw [List.getLast?_append, List.getLast?_cons, Option.some_or, Option.mem_some] at hd
  cases hlast : before.getLast? with
  | none =>
    rw [hlast] at hd
    exact hd ▸ hc
  | some b =>
    rw [hlast] at hd
    exact hd ▸ hbefore b hlast

theorem splitBlank_append_of_head (h : ∀ c ∈ ys.head?, isBlank c = true) :
    splitBlank (xs ++ ys) = splitBlank xs ++ splitBlank ys := by
  cases ys with
  | nil => simp [splitBlank]
  | cons c ys =>
    have hc : isBlank c = true := h c rfl
    rw [splitBlank_append_blank hc, splitBlank_blank hc]

theorem splitBlank_append_of_getLast (h : ∀ c ∈ xs.getLast?, isBlank c = true) :
    splitBlank (xs ++ ys) = splitBlank xs ++ splitBlank ys := by
  rcases List.eq_nil_or_concat xs with rfl | ⟨front, c, rfl⟩
  · rfl
  · have hc : isBlank c = true := h c (by simp)
    rw [List.concat_eq_append, List.append_assoc, List.singleton_append, splitBlank_append_blank hc,
      splitBlank_append_blank hc]
    simp [splitBlank]

theorem standsIn_of_mem_splitBlank (h : word ∈ splitBlank text) : StandsIn word text := by
  -- On each side of a blank the text is shorter, and a text without blanks is one word.
  induction hlength : text.length using Nat.strongRecOn generalizing text with
  | ind n ih =>
    by_cases hblank : ∃ c ∈ text, isBlank c = true
    · obtain ⟨c, hmem, hc⟩ := hblank
      obtain ⟨xs, ys, rfl⟩ := List.append_of_mem hmem
      rw [splitBlank_append_blank hc] at h
      rw [List.length_append, List.length_cons] at hlength
      rcases List.mem_append.mp h with h | h
      · exact (ih xs.length (by omega) h rfl).append_blank hc ys
      · exact (ih ys.length (by omega) h rfl).blank_append hc xs
    · cases text with
      | nil => simp [splitBlank] at h
      | cons a rest =>
        have hword : IsWord (a :: rest) := by
          refine ⟨by simp, fun c hc => ?_⟩
          rw [Bool.eq_false_iff]
          exact fun hb => hblank ⟨c, hc, hb⟩
        rw [splitBlank_word hword, List.mem_singleton] at h
        exact h ▸ hword.standsIn

/-- The words of a text are the words that stand in it. -/
theorem mem_splitBlank_iff : word ∈ splitBlank text ↔ StandsIn word text := by
  constructor
  · exact standsIn_of_mem_splitBlank
  · rintro ⟨hword, before, behind, rfl, hbefore, hbehind⟩
    rw [splitBlank_append_of_head hbehind, splitBlank_append_of_getLast hbefore,
      splitBlank_word hword]
    simp

theorem mem_words_iff {s name : String} : name ∈ words s ↔ StandsIn name.toList s.toList := by
  rw [words, ← mem_splitBlank_iff, List.mem_map]
  constructor
  · rintro ⟨word, hword, rfl⟩
    rwa [String.toList_ofList]
  · intro h
    exact ⟨name.toList, h, String.ofList_toList⟩

/-- Words with spaces between them are read as these words. -/
theorem words_intercalate {names : List String} (h : ∀ name ∈ names, IsWord name.toList) :
    words (" ".intercalate names) = names := by
  induction names with
  | nil => rfl
  | cons name names ih =>
    have hname := h name (by simp)
    cases names with
    | nil =>
      rw [String.intercalate_singleton, words, splitBlank_word hname]
      simp
    | cons other names =>
      have hrest := ih fun w hw => h w (by simp [hw])
      rw [words] at hrest
      have hlist : (" ".intercalate (name :: other :: names)).toList =
          name.toList ++ ' ' :: (" ".intercalate (other :: names)).toList := by
        rw [String.intercalate_cons_cons, String.toList_append, String.toList_append,
          List.append_assoc]
        rfl
      rw [words, hlist, splitBlank_append_blank (by decide), splitBlank_word hname, List.map_append,
        hrest]
      simp

end Topiary.Text
