import Topiary.Proofs.Text.Words
import Topiary.Proofs.Tree.Settings

/-!
Classes of elements. A class list is kept as the text of the class attribute and is read anew at
every access. What is read are the words of the text, each once, in the order of first mention. A
list that is written out is read again as it was, so that no class is lost between two accesses, and
none appears.
-/

namespace Topiary

open Text

namespace ClassList

variable {l : ClassList} {name other : String} {names : List String}

/-- A class list of words, each listed once. -/
structure Clean (l : ClassList) : Prop where
  words : ∀ name ∈ l.names, IsWord name.toList
  nodup : l.names.Nodup

theorem clean_empty : empty.Clean :=
  ⟨by simp [empty], List.nodup_nil⟩

/-! ## Adding names -/

theorem names_add (hword : IsWord name.toList) :
    (l.add name).names = if name ∈ l.names then l.names else l.names ++ [name] := by
  have hempty : name.isEmpty = false := by
    rw [Bool.eq_false_iff, ne_eq, String.isEmpty_iff]
    rintro rfl
    exact hword.ne_nil rfl
  by_cases hmem : name ∈ l.names <;> simp [add, contains, hempty, hmem]

theorem mem_add (hword : IsWord name.toList) :
    other ∈ (l.add name).names ↔ other ∈ l.names ∨ other = name := by
  rw [names_add hword]
  split
  · rename_i hmem
    constructor
    · exact Or.inl
    · rintro (h | rfl)
      · exact h
      · exact hmem
  · simp

theorem Clean.add (h : l.Clean) (hword : IsWord name.toList) : (l.add name).Clean := by
  refine ⟨fun other hother => ?_, ?_⟩
  · rcases (mem_add hword).mp hother with hother | rfl
    · exact h.words other hother
    · exact hword
  · rw [names_add hword]
    split
    · exact h.nodup
    · rename_i hnot
      rw [← List.concat_eq_append, List.nodup_concat]
      exact ⟨hnot, h.nodup⟩

theorem addAll_concat (l : ClassList) (names : List String) (name : String) :
    l.addAll (names ++ [name]) = (l.addAll names).add name := by
  rw [addAll, List.foldl_append]
  rfl

theorem Clean.addAll (h : l.Clean) (hwords : ∀ name ∈ names, IsWord name.toList) :
    (l.addAll names).Clean := by
  induction names generalizing l with
  | nil => exact h
  | cons name names ih =>
    exact ih (h.add (hwords name (by simp))) fun other hother => hwords other (by simp [hother])

/-- Names that are added one after another come to one list without repetitions, in the order of
first mention. -/
theorem names_addAll (hnodup : l.names.Nodup) (hwords : ∀ name ∈ names, IsWord name.toList) :
    (l.addAll names).names = (l.names ++ names).eraseDups := by
  induction names using List.reverseRecOn with
  | nil => rw [List.append_nil, eraseDups_of_nodup hnodup, addAll, List.foldl_nil]
  | append_singleton names name ih =>
    have hnames := ih fun other hother => hwords other (by simp [hother])
    rw [addAll_concat, names_add (hwords name (by simp)), hnames, ← List.append_assoc,
      eraseDups_concat]
    simp only [List.mem_eraseDups]

theorem mem_addAll (hnodup : l.names.Nodup) (hwords : ∀ name ∈ names, IsWord name.toList) :
    other ∈ (l.addAll names).names ↔ other ∈ l.names ∨ other ∈ names := by
  rw [names_addAll hnodup hwords, List.mem_eraseDups, List.mem_append]

/-! ## Reading and writing -/

theorem isWord_of_mem_words {value : String} (h : name ∈ words value) : IsWord name.toList :=
  (mem_words_iff.mp h).isWord

theorem clean_ofString (value : String) : (ofString value).Clean :=
  clean_empty.addAll fun _ hname => isWord_of_mem_words hname

theorem names_ofString (value : String) : (ofString value).names = (words value).eraseDups :=
  names_addAll clean_empty.nodup fun _ hname => isWord_of_mem_words hname

/-- A list of words without repetitions is read again from its written form. -/
theorem ofString_value (h : l.Clean) : ofString l.value = l := by
  have hnames : (ofString l.value).names = l.names := by
    rw [names_ofString, value, words_intercalate h.words, eraseDups_of_nodup h.nodup]
  cases l
  exact congrArg ClassList.mk hnames

end ClassList

namespace Element

variable {e : Element} {name other value : String} {names : List String}

theorem classList_setAttribute : (e.setAttribute "class" value).classList = .ofString value := by
  rw [classList, attribute?_setAttribute, if_pos rfl]
  rfl

theorem clean_classList : e.classList.Clean :=
  ClassList.clean_ofString _

theorem hasClass_iff : e.hasClass name = true ↔ name ∈ e.classList.names := by
  simp [hasClass, ClassList.contains]

/-- The classes of an element are the words that stand in its class attribute. -/
theorem hasClass_iff_standsIn : e.hasClass name = true ↔
    ∃ text, e.attribute? "class" = some text ∧ StandsIn name.toList text.toList := by
  rw [hasClass_iff, classList, ClassList.names_ofString, List.mem_eraseDups, mem_words_iff]
  cases h : e.attribute? "class" with
  | none =>
    have hnone : ¬ StandsIn name.toList "".toList := by
      rw [← mem_splitBlank_iff]
      exact List.not_mem_nil
    simpa using hnone
  | some text => simp

/-! ## Adding classes -/

/-- A class that is added joins the classes that the element has. -/
theorem classList_addClass (hword : IsWord name.toList) :
    (e.addClass name).classList = e.classList.add name := by
  rw [addClass, classList_setAttribute]
  exact ClassList.ofString_value (clean_classList.add hword)

theorem attribute?_addClass (h : other ≠ "class") :
    (e.addClass name).attribute? other = e.attribute? other := by
  rw [addClass, attribute?_setAttribute, if_neg h]

theorem classList_foldl_addClass (e : Element) (hwords : ∀ name ∈ names, IsWord name.toList) :
    (names.foldl addClass e).classList = e.classList.addAll names := by
  induction names generalizing e with
  | nil => rfl
  | cons name names ih =>
    have hrest := ih (e.addClass name) fun other hother => hwords other (by simp [hother])
    rw [List.foldl_cons, hrest, classList_addClass (hwords name (by simp))]
    rfl

theorem attribute?_foldl_addClass (names : List String) (e : Element) (h : other ≠ "class") :
    (names.foldl addClass e).attribute? other = e.attribute? other := by
  induction names generalizing e with
  | nil => rfl
  | cons name names ih => exact (ih (e.addClass name)).trans (attribute?_addClass h)

/-! ## The plain form of the attribute -/

/-- The element with its class attribute in plain form: every class once, one space between two. -/
def normalizeClass (e : Element) : Element :=
  e.setAttribute "class" e.classList.value

theorem classList_normalizeClass : e.normalizeClass.classList = e.classList := by
  rw [normalizeClass, classList_setAttribute, ClassList.ofString_value clean_classList]

theorem normalizeClass_normalizeClass : e.normalizeClass.normalizeClass = e.normalizeClass := by
  rw [normalizeClass, classList_normalizeClass, normalizeClass, setAttribute, setAttribute,
    Attributes.set_set]

/-- Class lists survive their text. The classes of an element are the words that stand in its class
attribute. A class that is added joins them behind all others, and classes that are added in turn
come to one list without repetitions, in the order of first mention. A list that was read from a
text is read again from its written form, so that an attribute in plain form is left as it is. -/
theorem classes_survive_text (e : Element) (value : String) :
    (∀ other, e.hasClass other = true ↔
      ∃ text, e.attribute? "class" = some text ∧ StandsIn other.toList text.toList) ∧
    (∀ name, IsWord name.toList →
      (∀ other, (e.addClass name).hasClass other = true ↔
        other = name ∨ e.hasClass other = true) ∧
      e.classList.names <+: (e.addClass name).classList.names) ∧
    (∀ names : List String, (∀ name ∈ names, IsWord name.toList) →
      (names.foldl addClass e).classList.names = (e.classList.names ++ names).eraseDups) ∧
    ClassList.ofString (ClassList.ofString value).value = ClassList.ofString value ∧
    e.normalizeClass.normalizeClass = e.normalizeClass := by
  refine ⟨fun other => hasClass_iff_standsIn, fun name hword => ⟨fun other => ?_, ?_⟩,
    fun names hwords => ?_, ?_, normalizeClass_normalizeClass⟩
  · rw [hasClass_iff, hasClass_iff, classList_addClass hword, ClassList.mem_add hword, or_comm]
  · rw [classList_addClass hword, ClassList.names_add hword]
    split
    · exact List.prefix_refl _
    · exact List.prefix_append _ _
  · rw [classList_foldl_addClass e hwords, ClassList.names_addAll clean_classList.nodup hwords]
  · exact ClassList.ofString_value (ClassList.clean_ofString value)

/-- A paragraph whose class attribute has blanks of several kinds and one class twice. -/
def spacedElement : Element :=
  (ofTag "p").setAttribute "class" " b\u3000a\tb "

theorem classes_survive_text_spacedElement :
    IsWord "c".toList ∧
      (∀ other, (spacedElement.addClass "c").hasClass other = true ↔
        other = "c" ∨ spacedElement.hasClass other = true) ∧
      spacedElement.classList.names <+: (spacedElement.addClass "c").classList.names ∧
      (∀ name ∈ ["c", "a"], IsWord name.toList) ∧
      spacedElement.classList.names = ["b", "a"] ∧
      (["c", "a"].foldl addClass spacedElement).classList.names = ["b", "a", "c"] ∧
      (ClassList.ofString " b\u3000a\tb ").value = "b a" ∧
      ClassList.ofString "b a" = ClassList.ofString " b\u3000a\tb " := by
  have hc : IsWord "c".toList := ⟨by decide, by simp [isBlank]⟩
  have hwords : ∀ name ∈ ["c", "a"], IsWord name.toList := by
    intro name hname
    simp only [List.mem_cons, List.not_mem_nil, or_false] at hname
    rcases hname with rfl | rfl
    · exact hc
    · exact ⟨by decide, by simp [isBlank]⟩
  have hnames : spacedElement.classList.names = ["b", "a"] := by decide
  have hvalue : (ClassList.ofString " b\u3000a\tb ").value = "b a" := by decide
  obtain ⟨-, hadd, hall, hread, -⟩ := classes_survive_text spacedElement " b\u3000a\tb "
  rw [hvalue] at hread
  have hrun := hall ["c", "a"] hwords
  rw [hnames] at hrun
  exact ⟨hc, (hadd "c" hc).1, (hadd "c" hc).2, hwords, hnames, hrun.trans (by decide), hvalue,
    hread⟩

end Element

end Topiary
