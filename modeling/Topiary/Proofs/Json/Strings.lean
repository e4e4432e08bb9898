import Topiary.Json.Codec

/-!
Strings that are written and read again. What is written for a character has the form that the
grammar asks for and is read as that character. So a written string is a literal, and a string read
from its literal is the string, both where any document may stand and where only a string may.
-/

namespace Topiary.Json

variable {c e : Char} {cs rest after : List Char}

/-! ## One character -/

theorem hexValue_digitChar : ∀ n < 16, hexValue (Nat.digitChar n) = some n := by
  decide

theorem digitChar_mem_hexDigits : ∀ n < 16, Nat.digitChar n ∈ hexDigits := by
  decide

theorem mem_escapeLetters_of_shortEscape (h : shortEscape e = some c) : e ∈ escapeLetters := by
  unfold shortEscape at h
  split at h <;> simp_all [escapeLetters]

/-- A character is written with a short escape, with the number that it has, or as it is. -/
theorem writtenChar_cases (c : Char) :
    (∃ e, shortEscape e = some c ∧ writtenChar c = ['\\', e]) ∨
      (c.toNat < 0x20 ∧ writtenChar c =
        ['\\', 'u', '0', '0', Nat.digitChar (c.toNat / 16), Nat.digitChar (c.toNat % 16)]) ∨
      (c ≠ '"' ∧ c ≠ '\\' ∧ ¬ c.toNat < 0x20 ∧ writtenChar c = [c]) := by
  by_cases hshort : c ∈ ['"', '\\', '\x08', '\x0c', '\n', '\r', '\t']
  · left
    simp only [List.mem_cons, List.not_mem_nil, or_false] at hshort
    rcases hshort with rfl | rfl | rfl | rfl | rfl | rfl | rfl <;> exact ⟨_, rfl, rfl⟩
  · right
    simp only [List.mem_cons, List.not_mem_nil, or_false, not_or] at hshort
    obtain ⟨hquote, hslash, hbell, hfeed, hline, hreturn, htab⟩ := hshort
    rw [writtenChar, if_neg hquote, if_neg hslash, if_neg hbell, if_neg hfeed, if_neg hline,
      if_neg hreturn, if_neg htab]
    by_cases hcontrol : c.toNat < 0x20
    · rw [if_pos hcontrol]
      exact Or.inl ⟨hcontrol, rfl⟩
    · rw [if_neg hcontrol]
      exact Or.inr ⟨hquote, hslash, hcontrol, rfl⟩

theorem readEscape_of_shortEscape (h : shortEscape e = some c) :
    readEscape (e :: rest) = .ok (c, rest) := by
  rw [readEscape]
  simp only [h]

/-- A control character has two hexadecimal digits at most. -/
theorem readEscape_control (h : c.toNat < 0x20) :
    readEscape ('u' :: '0' :: '0' :: Nat.digitChar (c.toNat / 16) ::
      Nat.digitChar (c.toNat % 16) :: rest) = .ok (c, rest) := by
  have hhigh := hexValue_digitChar (c.toNat / 16) (by omega)
  have hlow := hexValue_digitChar (c.toNat % 16) (by omega)
  have hzero : hexValue '0' = some 0 := by decide
  have hread : readHex ('0' :: '0' :: Nat.digitChar (c.toNat / 16) ::
      Nat.digitChar (c.toNat % 16) :: rest) = .ok (c.toNat, rest) := by
    rw [readHex, hzero, hhigh, hlow]
    have hsum : ((0 * 16 + 0) * 16 + c.toNat / 16) * 16 + c.toNat % 16 = c.toNat := by omega
    simp only [hsum]
  have hnotSecond : ¬ (0xdc00 ≤ c.toNat) := by omega
  have hnotFirst : ¬ (0xd800 ≤ c.toNat) := by omega
  rw [readEscape]
  simp [shortEscape, hread, bind, Except.bind, hnotSecond, hnotFirst]

/-- What is written for a character is read as the character. -/
theorem readChars_writtenChar (c : Char) (h : readChars rest = .ok (cs, after)) :
    readChars (writtenChar c ++ rest) = .ok (c :: cs, after) := by
  have hescape : ∀ escape, readEscape (escape ++ rest) = .ok (c, rest) →
      readChars ('\\' :: (escape ++ rest)) = .ok (c :: cs, after) := by
    intro escape hread
    rw [readChars]
    simp only [Char.reduceEq, if_false, if_true]
    split
    · rename_i fault hfault
      simp [hread] at hfault
    · rename_i plain tail hplain
      rw [hread, Except.ok.injEq, Prod.mk.injEq] at hplain
      obtain ⟨rfl, rfl⟩ := hplain
      rw [h]
      rfl
  rcases writtenChar_cases c with ⟨e, he, hc⟩ | ⟨hcontrol, hc⟩ | ⟨hquote, hslash, hcontrol, hc⟩
  · rw [hc]
    exact hescape [e] (readEscape_of_shortEscape he)
  · rw [hc]
    exact hescape (_ :: _ :: _ :: _ :: [_]) (readEscape_control hcontrol)
  · rw [hc, List.singleton_append, readChars, if_neg hquote, if_neg hslash, if_neg hcontrol, h]
    rfl

/-- What is written for a character may stand in front of anything between the quotes. -/
theorem stringBody_writtenChar (c : Char) (h : StringBody cs) :
    StringBody (writtenChar c ++ cs) := by
  rcases writtenChar_cases c with ⟨e, he, hc⟩ | ⟨hcontrol, hc⟩ | ⟨hquote, hslash, hcontrol, hc⟩
  · rw [hc]
    exact .short (mem_escapeLetters_of_shortEscape he) h
  · have hzero : '0' ∈ hexDigits := by decide
    have hhigh := digitChar_mem_hexDigits (c.toNat / 16) (by omega)
    have hlow := digitChar_mem_hexDigits (c.toNat % 16) (by omega)
    have hdigits : ∀ d ∈ ['0', '0', Nat.digitChar (c.toNat / 16), Nat.digitChar (c.toNat % 16)],
        d ∈ hexDigits := by
      simp [hzero, hhigh, hlow]
    rw [hc]
    exact .numbered rfl hdigits h
  · rw [hc]
    exact .plain hquote hslash (by omega) h

/-! ## Whole strings -/

/-- The characters between the quotes of a literal, up to the closing one. -/
theorem readChars_written (cs rest : List Char) :
    readChars (cs.flatMap writtenChar ++ '"' :: rest) = .ok (cs, rest) := by
  induction cs with
  | nil =>
    rw [List.flatMap_nil, List.nil_append, readChars, if_pos rfl]
  | cons c cs ih =>
    rw [List.flatMap_cons, List.append_assoc]
    exact readChars_writtenChar c ih

theorem toList_writeText (s : String) :
    (writeText s).toList = '"' :: (s.toList.flatMap writtenChar ++ ['"']) := by
  rw [writeText, String.toList_ofList]
  rfl

theorem stringBody_written (cs : List Char) : StringBody (cs.flatMap writtenChar) := by
  induction cs with
  | nil => exact .nil
  | cons c cs ih =>
    rw [List.flatMap_cons]
    exact stringBody_writtenChar c ih

theorem isLiteral_writeText (s : String) : IsLiteral (writeText s) :=
  ⟨_, stringBody_written s.toList, toList_writeText s⟩

theorem readText_written (s : String) :
    readText (s.toList.flatMap writtenChar ++ ['"']) = .ok (s, []) := by
  rw [readText, readChars_written]
  simp [bind, Except.bind]

/-- A string is read from its literal where only a string may stand. -/
theorem readString_writeText (s : String) : readString (writeText s) = .ok s := by
  have hgap : skipGap (writeText s).toList = (writeText s).toList := by
    rw [toList_writeText]
    rfl
  rw [readString, hgap, toList_writeText]
  simp [readText_written, bind, Except.bind, skipGap]

/-- A string is read from its literal where any document may stand. -/
theorem read_writeText (s : String) : read (writeText s) = .ok (.text s) := by
  have hgap : skipGap (writeText s).toList = (writeText s).toList := by
    rw [toList_writeText]
    rfl
  have hvalue : ∀ fuel depth, readValue (fuel + 1) depth (writeText s).toList =
      .ok (.text s, []) := by
    intro fuel depth
    rw [readValue, hgap, toList_writeText]
    simp [readText_written, bind, Except.bind]
  rw [read, readWithin, hvalue]
  rfl

theorem lawful_codec : codec.Lawful where
  isLiteral_writeText := isLiteral_writeText
  readString_writeText s := by
    simp [codec, readString_writeText, Except.toOption]
  read_writeText s := by
    refine ⟨.text s, ?_, rfl⟩
    simp [codec, read_writeText, Except.toOption]

end Topiary.Json
