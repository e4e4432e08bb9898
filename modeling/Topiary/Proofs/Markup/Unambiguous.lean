import Mathlib
import Topiary.Proofs.Markup.Spelling
import Topiary.Proofs.Tree.Mutation

/-!
Spellings are unambiguous. Each kind of part shows in its first characters, and each part ends where
a character stands that it cannot hold; so legible content can be told from its spelling, and two
documents with the same compact text have the same content.
-/

namespace Topiary.Markup

open Topiary.Tree

variable {l l' m r r' : List Char} {parts parts' : List Content} {stop : Char → Prop}
  {code : Char → List Char}

/-! ## Where a piece of text ends -/

/-- Two texts without a certain kind of character end at the same place if such a character, or
nothing, stands behind each. -/
theorem append_inj_of_stop (stop : Char → Prop) (hl : ∀ c ∈ l, ¬ stop c) (hl' : ∀ c ∈ l', ¬ stop c)
    (hr : ∀ c ∈ r.head?, stop c) (hr' : ∀ c ∈ r'.head?, stop c) (h : l ++ r = l' ++ r') :
    l = l' ∧ r = r' := by
  induction l generalizing l' with
  | nil =>
    cases l' with
    | nil => exact ⟨rfl, h⟩
    | cons c l' =>
      rw [List.nil_append] at h
      exact absurd (hr c (by simp [h])) (hl' c (by simp))
  | cons c l ih =>
    cases l' with
    | nil =>
      rw [List.nil_append] at h
      exact absurd (hr' c (by simp [← h])) (hl c (by simp))
    | cons d l' =>
      rw [List.cons_append, List.cons_append, List.cons.injEq] at h
      obtain ⟨rfl, h⟩ := h
      obtain ⟨rfl, hrest⟩ := ih (fun a ha => hl a (by simp [ha]))
        (fun a ha => hl' a (by simp [ha])) h
      exact ⟨rfl, hrest⟩

/-- Between two ends of comments there is an end of a comment. -/
theorem eq_nil_of_comment_end (hm : ¬ ['-', '-', '>'] <:+: m)
    (h : '-' :: '-' :: '>' :: r = m ++ '-' :: '-' :: '>' :: r') : m = [] := by
  rcases m with _ | ⟨a, _ | ⟨b, _ | ⟨c, m⟩⟩⟩
  · rfl
  · simp at h
  · simp at h
  · obtain ⟨rfl, rfl, rfl, -⟩ : '-' = a ∧ '-' = b ∧ '>' = c ∧ r = m ++ '-' :: '-' :: '>' :: r' := by
      simpa using h
    exact absurd ⟨[], m, by simp⟩ hm

/-- A comment ends where its first end stands. -/
theorem append_inj_of_comment_end (hl : ¬ ['-', '-', '>'] <:+: l) (hl' : ¬ ['-', '-', '>'] <:+: l')
    (h : l ++ '-' :: '-' :: '>' :: r = l' ++ '-' :: '-' :: '>' :: r') : l = l' ∧ r = r' := by
  rcases List.append_eq_append_iff.mp h with ⟨m, rfl, hm⟩ | ⟨m, rfl, hm⟩
  · have hnil := eq_nil_of_comment_end
      (fun hend => hl' (hend.trans (List.suffix_append l m).isInfix)) hm
    subst hnil
    simpa using hm
  · have hnil := eq_nil_of_comment_end
      (fun hend => hl (hend.trans (List.suffix_append l' m).isInfix)) hm
    subst hnil
    simpa using hm.symm

/-! ## Escaped characters -/

/-- A way to write characters so that each can be read back in front of any text. What is written
for a character starts with none of the characters that stop the reading. -/
structure Escapes (code : Char → List Char) (stop : Char → Prop) : Prop where
  inj : ∀ c d r r', code c ++ r = code d ++ r' → c = d ∧ r = r'
  start : ∀ c, ∃ d s, code c = d :: s ∧ ¬ stop d

theorem Escapes.flatMap_inj (h : Escapes code stop) (hr : ∀ c ∈ r.head?, stop c)
    (hr' : ∀ c ∈ r'.head?, stop c) (heq : l.flatMap code ++ r = l'.flatMap code ++ r') :
    l = l' ∧ r = r' := by
  induction l generalizing l' with
  | nil =>
    cases l' with
    | nil => exact ⟨rfl, heq⟩
    | cons c l' =>
      obtain ⟨d, s, hcode, hd⟩ := h.start c
      have hhead : r.head? = some d := by simpa [hcode] using congrArg List.head? heq
      exact absurd (hr d hhead) hd
  | cons c l ih =>
    cases l' with
    | nil =>
      obtain ⟨d, s, hcode, hd⟩ := h.start c
      have hhead : r'.head? = some d := by simpa [hcode] using congrArg List.head? heq.symm
      exact absurd (hr' d hhead) hd
    | cons d l' =>
      rw [List.flatMap_cons, List.flatMap_cons, List.append_assoc, List.append_assoc] at heq
      obtain ⟨rfl, htail⟩ := h.inj _ _ _ _ heq
      obtain ⟨rfl, hrest⟩ := ih htail
      exact ⟨rfl, hrest⟩

theorem escapes_textChar : Escapes textChar (· = '<') where
  inj c d r r' h := by
    unfold textChar at h
    split_ifs at h <;> simp only [List.cons_append, List.nil_append, List.cons.injEq] at h <;>
      grind
  start c := by
    unfold textChar
    split_ifs <;> simp_all

theorem escapes_valueChar : Escapes valueChar (· = '"') where
  inj c d r r' h := by
    unfold valueChar at h
    split_ifs at h <;> simp only [List.cons_append, List.nil_append, List.cons.injEq] at h <;>
      grind
  start c := by
    unfold valueChar
    split_ifs <;> simp_all

/-! ## Attributes -/

theorem toList_attributeText (a : Attribute) : (attributeText a).toList =
    ' ' :: (a.name.toList ++ '=' :: '"' :: (a.value.toList.flatMap valueChar ++ ['"'])) := by
  simp [attributeText, escapeValue]

/-- An attribute ends behind the quote that closes its value. -/
theorem attributeText_inj {a b : Attribute} (ha : '=' ∉ a.name.toList) (hb : '=' ∉ b.name.toList)
    (h : (attributeText a).toList ++ r = (attributeText b).toList ++ r') : a = b ∧ r = r' := by
  simp only [toList_attributeText, List.cons_append, List.append_assoc, List.nil_append,
    List.cons.injEq, true_and] at h
  obtain ⟨hname, htail⟩ := append_inj_of_stop (· = '=') (fun c hc heq => ha (heq ▸ hc))
    (fun c hc heq => hb (heq ▸ hc)) (by simp) (by simp) h
  obtain ⟨hvalue, hrest⟩ := escapes_valueChar.flatMap_inj (by simp) (by simp)
    (List.cons.inj (List.cons.inj htail).2).2
  have hnames : a.name = b.name := String.toList_inj.mp hname
  have hvalues : a.value = b.value := String.toList_inj.mp hvalue
  cases a
  cases b
  simp_all

/-- Attributes end where a bracket stands in place of a blank. -/
theorem attributes_inj {as bs : List Attribute} (ha : ∀ a ∈ as, '=' ∉ a.name.toList)
    (hb : ∀ b ∈ bs, '=' ∉ b.name.toList)
    (h : as.flatMap (fun a => (attributeText a).toList) ++ '>' :: r =
      bs.flatMap (fun b => (attributeText b).toList) ++ '>' :: r') : as = bs ∧ r = r' := by
  induction as generalizing bs with
  | nil =>
    cases bs with
    | nil => exact ⟨rfl, (List.cons.inj h).2⟩
    | cons b bs => simp [toList_attributeText] at h
  | cons a as ih =>
    cases bs with
    | nil => simp [toList_attributeText] at h
    | cons b bs =>
      rw [List.flatMap_cons, List.flatMap_cons, List.append_assoc, List.append_assoc] at h
      obtain ⟨rfl, htail⟩ := attributeText_inj (ha a (by simp)) (hb b (by simp)) h
      obtain ⟨rfl, hrest⟩ := ih (fun c hc => ha c (by simp [hc])) (fun c hc => hb c (by simp [hc]))
        htail
      exact ⟨rfl, hrest⟩

/-! ## First characters -/

/-- What the first characters of a text announce. -/
inductive Opening where
  | none
  | text
  | comment
  | doctype
  | element

/-- The end of the text and the end of an element announce no part. -/
def opening : List Char → Opening
  | [] => .none
  | '<' :: '/' :: _ => .none
  | '<' :: '!' :: '-' :: _ => .comment
  | '<' :: '!' :: _ => .doctype
  | '<' :: _ => .element
  | _ :: _ => .text

/-- What the first part of some content announces. -/
def openingOf : List Content → Opening
  | [] => .none
  | .doctype _ :: _ => .doctype
  | .text _ :: _ => .text
  | .comment _ :: _ => .comment
  | .instruction _ _ :: _ => .none
  | .element _ _ _ :: _ => .element

/-- Nothing follows, or the end of an element does. -/
inductive Closes : List Char → Prop where
  | nil : Closes []
  | cons (r : List Char) : Closes ('<' :: '/' :: r)

theorem opening_text {c : Char} (hc : c ≠ '<') : opening (c :: r) = .text := by
  unfold opening
  split <;> simp_all

theorem opening_element {c : Char} (hslash : c ≠ '/') (hmark : c ≠ '!') :
    opening ('<' :: c :: r) = .element := by
  unfold opening
  split <;> grind

/-- Behind the name of an element there is a blank or a bracket. -/
theorem head?_attributes {as : List Attribute} {c : Char}
    (hc : c ∈ (as.flatMap (fun a => (attributeText a).toList) ++ '>' :: r).head?) :
    c = ' ' ∨ c = '>' := by
  cases as with
  | nil => exact Or.inr (by simpa using hc.symm)
  | cons a as => exact Or.inl (by simpa [toList_attributeText] using hc.symm)

theorem Legible.opening_spelling (h : Legible parts) (hr : Closes r) :
    opening (spelling parts ++ r) = openingOf parts := by
  cases h with
  | nil => cases hr <;> rfl
  | doctype _ _ => simp [spelling, Content.spelling, opening, openingOf]
  | comment _ _ => simp [spelling, Content.spelling, opening, openingOf]
  | @text content parts hne _ _ =>
    obtain ⟨c, cs, hcontent⟩ := List.exists_cons_of_ne_nil
      (fun hnil => hne (String.toList_inj.mp hnil) : content.toList ≠ [])
    obtain ⟨d, s, hcode, hd⟩ := escapes_textChar.start c
    rw [spelling, Content.spelling, hcontent, List.flatMap_cons, hcode]
    exact opening_text hd
  | @element name attributes children parts hname _ _ _ _ _ =>
    rw [spelling, Content.spelling]
    cases hlist : name.toList with
    | nil =>
      cases attributes with
      | nil => exact opening_element (by decide) (by decide)
      | cons a as =>
        rw [List.flatMap_cons, toList_attributeText]
        exact opening_element (by decide) (by decide)
    | cons c cs =>
      have hc := hname c (by simp [hlist])
      exact opening_element (by grind) (by grind)

/-! ## Parts -/

theorem doctype_inj {name name' : String} (h : '>' ∉ name.toList) (h' : '>' ∉ name'.toList)
    (heq : (Content.doctype name).spelling ++ r = (Content.doctype name').spelling ++ r') :
    name = name' ∧ r = r' := by
  simp only [Content.spelling, List.cons_append, List.append_assoc, List.nil_append,
    List.cons.injEq, true_and] at heq
  obtain ⟨hnames, htail⟩ := append_inj_of_stop (· = '>')
    (fun c hc hend => h (hend ▸ hc)) (fun c hc hend => h' (hend ▸ hc)) (by simp) (by simp) heq
  exact ⟨String.toList_inj.mp hnames, (List.cons.inj htail).2⟩

theorem text_inj {content content' : String} (hr : ∀ c ∈ r.head?, c = '<')
    (hr' : ∀ c ∈ r'.head?, c = '<')
    (heq : (Content.text content).spelling ++ r = (Content.text content').spelling ++ r') :
    content = content' ∧ r = r' := by
  rw [Content.spelling, Content.spelling] at heq
  obtain ⟨hcontents, hrest⟩ := escapes_textChar.flatMap_inj hr hr' heq
  exact ⟨String.toList_inj.mp hcontents, hrest⟩

theorem comment_inj {content content' : String} (h : ¬ ['-', '-', '>'] <:+: content.toList)
    (h' : ¬ ['-', '-', '>'] <:+: content'.toList)
    (heq : (Content.comment content).spelling ++ r = (Content.comment content').spelling ++ r') :
    content = content' ∧ r = r' := by
  simp only [Content.spelling, List.cons_append, List.append_assoc, List.nil_append,
    List.cons.injEq, true_and] at heq
  obtain ⟨hcontents, hrest⟩ := append_inj_of_comment_end h h' heq
  exact ⟨String.toList_inj.mp hcontents, hrest⟩

theorem tag_inj {name name' : String} {as bs : List Attribute}
    (hname : ∀ c ∈ name.toList, c ∉ [' ', '>', '/', '!'])
    (hname' : ∀ c ∈ name'.toList, c ∉ [' ', '>', '/', '!'])
    (ha : ∀ a ∈ as, '=' ∉ a.name.toList) (hb : ∀ b ∈ bs, '=' ∉ b.name.toList)
    (h : name.toList ++ (as.flatMap (fun a => (attributeText a).toList) ++ '>' :: r) =
      name'.toList ++ (bs.flatMap (fun b => (attributeText b).toList) ++ '>' :: r')) :
    name = name' ∧ as = bs ∧ r = r' := by
  obtain ⟨hnames, htail⟩ := append_inj_of_stop (fun c => c = ' ' ∨ c = '>')
    (fun c hc => by grind) (fun c hc => by grind) (fun c => head?_attributes)
    (fun c => head?_attributes) h
  exact ⟨String.toList_inj.mp hnames, attributes_inj ha hb htail⟩

theorem spelling_element_append (name : String) (as : List Attribute) (below : List Content) :
    spelling (.element name as below :: parts) ++ r =
      '<' :: (name.toList ++ (as.flatMap (fun a => (attributeText a).toList) ++ '>' ::
        ((if name ∈ voidElements then []
          else spelling below ++ '<' :: '/' :: (name.toList ++ ['>'])) ++
            (spelling parts ++ r)))) := by
  simp [spelling, Content.spelling]

/-- Behind the start tag an element can be read back if what is below it can. -/
theorem children_inj {name : String} {below below' : List Content}
    (hvoid : name ∈ voidElements → below = []) (hvoid' : name ∈ voidElements → below' = [])
    (hbelow : ∀ {s s' : List Char}, Closes s → Closes s' →
      spelling below ++ s = spelling below' ++ s' → below = below' ∧ s = s')
    (h : (if name ∈ voidElements then []
        else spelling below ++ '<' :: '/' :: (name.toList ++ ['>'])) ++ r =
      (if name ∈ voidElements then []
        else spelling below' ++ '<' :: '/' :: (name.toList ++ ['>'])) ++ r') :
    below = below' ∧ r = r' := by
  by_cases hv : name ∈ voidElements
  · rw [if_pos hv, if_pos hv] at h
    exact ⟨(hvoid hv).trans (hvoid' hv).symm, h⟩
  · rw [if_neg hv, if_neg hv, List.append_assoc, List.append_assoc] at h
    obtain ⟨hsame, hend⟩ := hbelow (.cons _) (.cons _) h
    exact ⟨hsame, List.append_cancel_left (List.cons.inj (List.cons.inj hend).2).2⟩

/-! ## Reading back -/

/-- Behind a text there is a bracket. -/
theorem Legible.head?_spelling {c : Char} (h : Legible parts) (hr : Closes r)
    (hnext : ∀ next, parts.head? ≠ some (.text next)) (hc : c ∈ (spelling parts ++ r).head?) :
    c = '<' := by
  cases h with
  | nil =>
    cases hr with
    | nil => simp [spelling] at hc
    | cons r => simpa [spelling] using hc.symm
  | text _ _ _ => simp at hnext
  | doctype _ _ | comment _ _ | element _ _ _ _ _ _ =>
    simpa [spelling, Content.spelling] using hc.symm

/-- Two contents with the same spelling start with parts of the same kind. -/
theorem Legible.openingOf_eq (h : Legible parts) (h' : Legible parts') (hr : Closes r)
    (hr' : Closes r') (heq : spelling parts ++ r = spelling parts' ++ r') :
    openingOf parts = openingOf parts' := by
  rw [← h.opening_spelling hr, heq, h'.opening_spelling hr']

/-- Content can be told from its spelling, whatever is behind the end of the element around it. -/
theorem Legible.spelling_append_inj (h : Legible parts) (h' : Legible parts') (hr : Closes r)
    (hr' : Closes r') (heq : spelling parts ++ r = spelling parts' ++ r') :
    parts = parts' ∧ r = r' := by
  -- The parts in front are of the same kind, so only the cases of one kind are left.
  induction h generalizing parts' r r' with
  | nil =>
    have hopening := Legible.nil.openingOf_eq h' hr hr' heq
    cases h' with
    | nil => exact ⟨rfl, heq⟩
    | doctype _ _ | text _ _ _ | comment _ _ | element _ _ _ _ _ _ => cases hopening
  | doctype hname hparts ih =>
    have hopening := (Legible.doctype hname hparts).openingOf_eq h' hr hr' heq
    cases h' with
    | doctype hname' hparts' =>
      rw [spelling, spelling, List.append_assoc, List.append_assoc] at heq
      obtain ⟨rfl, htail⟩ := doctype_inj hname hname' heq
      obtain ⟨rfl, hrest⟩ := ih hparts' hr hr' htail
      exact ⟨rfl, hrest⟩
    | nil | text _ _ _ | comment _ _ | element _ _ _ _ _ _ => cases hopening
  | text hne hnext hparts ih =>
    have hopening := (Legible.text hne hnext hparts).openingOf_eq h' hr hr' heq
    cases h' with
    | text hne' hnext' hparts' =>
      rw [spelling, spelling, List.append_assoc, List.append_assoc] at heq
      obtain ⟨rfl, htail⟩ := text_inj (fun c => hparts.head?_spelling hr hnext)
        (fun c => hparts'.head?_spelling hr' hnext') heq
      obtain ⟨rfl, hrest⟩ := ih hparts' hr hr' htail
      exact ⟨rfl, hrest⟩
    | nil | doctype _ _ | comment _ _ | element _ _ _ _ _ _ => cases hopening
  | comment hend hparts ih =>
    have hopening := (Legible.comment hend hparts).openingOf_eq h' hr hr' heq
    cases h' with
    | comment hend' hparts' =>
      rw [spelling, spelling, List.append_assoc, List.append_assoc] at heq
      obtain ⟨rfl, htail⟩ := comment_inj hend hend' heq
      obtain ⟨rfl, hrest⟩ := ih hparts' hr hr' htail
      exact ⟨rfl, hrest⟩
    | nil | doctype _ _ | text _ _ _ | element _ _ _ _ _ _ => cases hopening
  | element hname ha hraw hvoid hbelow hparts ihbelow ih =>
    have hopening := (Legible.element hname ha hraw hvoid hbelow hparts).openingOf_eq h' hr hr' heq
    cases h' with
    | element hname' ha' hraw' hvoid' hbelow' hparts' =>
      rw [spelling_element_append, spelling_element_append] at heq
      obtain ⟨rfl, rfl, htag⟩ := tag_inj hname hname' ha ha' (List.cons.inj heq).2
      obtain ⟨rfl, htail⟩ := children_inj hvoid hvoid' (ihbelow hbelow') htag
      obtain ⟨rfl, hrest⟩ := ih hparts' hr hr' htail
      exact ⟨rfl, hrest⟩
    | nil | doctype _ _ | text _ _ _ | comment _ _ => cases hopening

/-- Two documents with legible content have the same compact text if and only if they have the same
content. -/
theorem document_compact_eq_iff {d d' : Document}
    (h : d.tree.Comprises (d.tree.children Tree.root) parts)
    (h' : d'.tree.Comprises (d'.tree.children Tree.root) parts') (hl : Legible parts)
    (hl' : Legible parts') : document .compact d = document .compact d' ↔ parts = parts' := by
  rw [← String.toList_inj, toList_document_compact h hl, toList_document_compact h' hl']
  constructor
  · intro heq
    refine (hl.spelling_append_inj hl' .nil .nil ?_).1
    rw [heq]
  · rintro rfl
    rfl

/-- A paragraph whose texts look like markup, and a comment that ends with a dash. -/
def quotingDocument : Document :=
  .ofTree (Tree.ofMutations [.createElement "p", .setAttribute 1 "title" "\">",
    .createText "<b>&lt;", .createComment "-", .append Tree.root 1, .append 1 2,
    .append Tree.root 3])

/-- A paragraph with an element in place of the text. -/
def boldDocument : Document :=
  .ofTree (Tree.ofMutations [.createElement "p", .createElement "b", .append Tree.root 1,
    .append 1 2])

theorem comprises_quotingDocument :
    quotingDocument.tree.Comprises (quotingDocument.tree.children Tree.root)
      [.element "p" [⟨"title", "\">"⟩] [.text "<b>&lt;"], .comment "-"] := by
  have hroot : quotingDocument.tree.children Tree.root = [1, 3] := by cbv
  have hp : quotingDocument.tree.children 1 = [2] := by cbv
  have hdata : quotingDocument.tree.data? 1 =
      some (.element ⟨"p", Attributes.empty.set "title" "\">", none, none⟩) := by cbv
  rw [hroot]
  refine .element hdata ?_ (.comment (by cbv) (by cbv) .nil)
  rw [hp]
  exact .text (by cbv) (by cbv) .nil

theorem comprises_boldDocument :
    boldDocument.tree.Comprises (boldDocument.tree.children Tree.root)
      [.element "p" [] [.element "b" [] []]] := by
  have hroot : boldDocument.tree.children Tree.root = [1] := by cbv
  have hp : boldDocument.tree.children 1 = [2] := by cbv
  have hb : boldDocument.tree.children 2 = [] := by cbv
  have hdata : boldDocument.tree.data? 1 = some (.element ⟨"p", .empty, none, none⟩) := by cbv
  have hdata' : boldDocument.tree.data? 2 = some (.element ⟨"b", .empty, none, none⟩) := by cbv
  rw [hroot]
  refine .element hdata ?_ .nil
  rw [hp]
  refine .element hdata' ?_ .nil
  rw [hb]
  exact .nil

theorem document_compact_eq_iff_quotingDocument :
    let parts := [Content.element "p" [⟨"title", "\">"⟩] [.text "<b>&lt;"], .comment "-"]
    let parts' := [Content.element "p" [] [.element "b" [] []]]
    quotingDocument.tree.Comprises (quotingDocument.tree.children Tree.root) parts ∧
      boldDocument.tree.Comprises (boldDocument.tree.children Tree.root) parts' ∧
      Legible parts ∧ Legible parts' ∧
      (document .compact quotingDocument = document .compact boldDocument ↔ parts = parts') := by
  have hl : Legible [.element "p" [⟨"title", "\">"⟩] [.text "<b>&lt;"], .comment "-"] := by
    refine .element (by simp) (by simp) (by decide) (by decide) ?_ ?_
    · exact .text (by decide) (by simp) .nil
    · exact .comment (by decide) .nil
  have hl' : Legible [.element "p" [] [.element "b" [] []]] := by
    refine .element (by simp) (by simp) (by decide) (by decide) ?_ .nil
    exact .element (by simp) (by simp) (by decide) (by decide) .nil .nil
  exact ⟨comprises_quotingDocument, comprises_boldDocument, hl, hl',
    document_compact_eq_iff comprises_quotingDocument comprises_boldDocument hl hl'⟩

end Topiary.Markup
