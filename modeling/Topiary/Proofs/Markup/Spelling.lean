import Topiary.Markup.Content
import Topiary.Proofs.Markup.Pieces
import Topiary.Proofs.Tree.Finite

/-!
What a tree comes to as content, and how content is spelled. The compact text of a document is the
spelling of its content, whatever places its nodes have.
-/

namespace Topiary

open Markup

namespace Tree

variable {t : Tree} {x : NodeId} {xs : List NodeId} {parts parts' : List Content}

/-- Nodes, with all that is below them, come to these parts. Texts, comments and doctypes have
nothing below them; a document node below another node comes to what is below it. -/
inductive Comprises (t : Tree) : List NodeId → List Content → Prop where
  | nil : Comprises t [] []
  | doctype {x : NodeId} {name : String} {rest : List NodeId} {parts : List Content} :
      t.data? x = some (.doctype name) → t.children x = [] → Comprises t rest parts →
      Comprises t (x :: rest) (.doctype name :: parts)
  | text {x : NodeId} {content : String} {rest : List NodeId} {parts : List Content} :
      t.data? x = some (.text content) → t.children x = [] → Comprises t rest parts →
      Comprises t (x :: rest) (.text content :: parts)
  | comment {x : NodeId} {content : String} {rest : List NodeId} {parts : List Content} :
      t.data? x = some (.comment content) → t.children x = [] → Comprises t rest parts →
      Comprises t (x :: rest) (.comment content :: parts)
  | element {x : NodeId} {e : Element} {rest : List NodeId} {below parts : List Content} :
      t.data? x = some (.element e) → Comprises t (t.children x) below →
      Comprises t rest parts →
      Comprises t (x :: rest) (.element e.tag e.attributes.entries below :: parts)
  | document {x : NodeId} {rest : List NodeId} {below parts : List Content} :
      t.data? x = some .document → Comprises t (t.children x) below → Comprises t rest parts →
      Comprises t (x :: rest) (below ++ parts)

namespace Comprises

/-- Nodes come to one content at most. -/
theorem unique (h : t.Comprises xs parts) (h' : t.Comprises xs parts') : parts = parts' := by
  induction h generalizing parts' with
  | nil =>
    cases h'
    rfl
  | doctype hdata _ _ ih =>
    cases h' with
    | doctype hdata' _ hrest =>
      rw [hdata, Option.some.injEq, NodeData.doctype.injEq] at hdata'
      rw [hdata', ih hrest]
    | text hdata' _ _ | comment hdata' _ _ | element hdata' _ _ | document hdata' _ _ =>
      simp [hdata] at hdata'
  | text hdata _ _ ih =>
    cases h' with
    | text hdata' _ hrest =>
      rw [hdata, Option.some.injEq, NodeData.text.injEq] at hdata'
      rw [hdata', ih hrest]
    | doctype hdata' _ _ | comment hdata' _ _ | element hdata' _ _ | document hdata' _ _ =>
      simp [hdata] at hdata'
  | comment hdata _ _ ih =>
    cases h' with
    | comment hdata' _ hrest =>
      rw [hdata, Option.some.injEq, NodeData.comment.injEq] at hdata'
      rw [hdata', ih hrest]
    | doctype hdata' _ _ | text hdata' _ _ | element hdata' _ _ | document hdata' _ _ =>
      simp [hdata] at hdata'
  | element hdata _ _ ihbelow ih =>
    cases h' with
    | element hdata' hbelow hrest =>
      rw [hdata, Option.some.injEq, NodeData.element.injEq] at hdata'
      rw [hdata', ihbelow hbelow, ih hrest]
    | doctype hdata' _ _ | text hdata' _ _ | comment hdata' _ _ | document hdata' _ _ =>
      simp [hdata] at hdata'
  | document hdata _ _ ihbelow ih =>
    cases h' with
    | document _ hbelow hrest => rw [ihbelow hbelow, ih hrest]
    | doctype hdata' _ _ | text hdata' _ _ | comment hdata' _ _ | element hdata' _ _ =>
      simp [hdata] at hdata'

theorem exists_preorder (h : t.Comprises xs parts) : ∃ l, t.Preorder xs l := by
  induction h with
  | nil => exact ⟨_, .nil⟩
  | doctype _ hnone _ ih | text _ hnone _ ih | comment _ hnone _ ih =>
    obtain ⟨l, hl⟩ := ih
    exact ⟨_, .cons (by rw [hnone]; exact .nil) hl⟩
  | element _ _ _ ihbelow ih | document _ _ _ ihbelow ih =>
    obtain ⟨below, hbelow⟩ := ihbelow
    obtain ⟨l, hl⟩ := ih
    exact ⟨_, .cons hbelow hl⟩

/-- Content is all of finite subtrees: no more levels than the tree has nodes. -/
theorem fits (h : t.Comprises (t.children x) parts) :
    ∀ k ∈ t.children x, t.Fits (t.size + 1) k := by
  intro k hk
  obtain ⟨l, hl⟩ := h.exists_preorder
  obtain ⟨m, hm, -⟩ := hl.exists_of_mem hk
  exact (hm.fits (lt_size_of_mem_children hk)).succ

end Comprises

end Tree

namespace Markup

open Topiary.Tree

variable {t : Tree} {x : NodeId} {xs : List NodeId} {parts parts' : List Content}
  {levels depth : Nat}

/-! ## Spelling -/

mutual

/-- The compact text of a part; an instruction has none. -/
def Content.spelling : Content → List Char
  | .doctype name =>
    '<' :: '!' :: 'D' :: 'O' :: 'C' :: 'T' :: 'Y' :: 'P' :: 'E' :: ' ' :: (name.toList ++ ['>'])
  | .text content => content.toList.flatMap textChar
  | .comment content => '<' :: '!' :: '-' :: '-' :: (content.toList ++ ['-', '-', '>'])
  | .instruction _ _ => []
  | .element name attributes children =>
    '<' :: (name.toList ++ (attributes.flatMap (fun a => (attributeText a).toList) ++ '>' ::
      if name ∈ voidElements then []
      else spelling children ++ ('<' :: '/' :: (name.toList ++ ['>']))))

/-- The compact text of parts one after another. -/
def spelling : List Content → List Char
  | [] => []
  | part :: parts => part.spelling ++ spelling parts

end

theorem spelling_append (parts parts' : List Content) :
    spelling (parts ++ parts') = spelling parts ++ spelling parts' := by
  induction parts with
  | nil => simp [spelling]
  | cons part parts ih => rw [List.cons_append, spelling, spelling, ih, List.append_assoc]

/-- Content whose spelling can be read back. The characters that end a name do not stand in it,
which holds of all names of letters and digits; there are no raw texts, and void elements have no
children; texts are not empty and no text stands right behind another; a comment does not hold the
end of a comment. -/
inductive Legible : List Content → Prop where
  | nil : Legible []
  | doctype {name : String} {parts : List Content} : '>' ∉ name.toList → Legible parts →
      Legible (.doctype name :: parts)
  | text {content : String} {parts : List Content} : content ≠ "" →
      (∀ next, parts.head? ≠ some (.text next)) → Legible parts →
      Legible (.text content :: parts)
  | comment {content : String} {parts : List Content} : ¬ ['-', '-', '>'] <:+: content.toList →
      Legible parts → Legible (.comment content :: parts)
  | element {name : String} {attributes : List Attribute} {children parts : List Content} :
      (∀ c ∈ name.toList, c ∉ [' ', '>', '/', '!']) →
      (∀ a ∈ attributes, '=' ∉ a.name.toList) → name ∉ rawTextElements →
      (name ∈ voidElements → children = []) → Legible children → Legible parts →
      Legible (.element name attributes children :: parts)

namespace Legible

theorem tail {part : Content} (h : Legible (part :: parts)) : Legible parts := by
  cases h with
  | doctype _ h | text _ _ h | comment _ h | element _ _ _ _ _ h => exact h

theorem of_append_left (h : Legible (parts ++ parts')) : Legible parts := by
  induction parts with
  | nil => exact .nil
  | cons part parts ih =>
    cases h with
    | doctype hname h => exact .doctype hname (ih h)
    | text hne hnext h =>
      refine .text hne (fun next hhead => hnext next ?_) (ih h)
      cases parts with
      | nil => simp at hhead
      | cons other parts => simpa using hhead
    | comment hend h => exact .comment hend (ih h)
    | element hname hattributes hraw hvoid hchildren h =>
      exact .element hname hattributes hraw hvoid hchildren (ih h)

theorem of_append_right (h : Legible (parts ++ parts')) : Legible parts' := by
  induction parts with
  | nil => exact h
  | cons part parts ih => exact ih h.tail

end Legible

/-! ## Trees -/

theorem kept_startTag (e : Element) : (startTag e).toList =
    '<' :: (e.tag.toList ++
      (e.attributes.entries.flatMap (fun a => (attributeText a).toList) ++ ['>'])) := by
  simp [startTag, List.flatMap_map]

/-- The compact text of an element that is no raw text is its spelling. -/
theorem kept_pieces_element {e : Element} {below : List Content}
    (hdata : t.data? x = some (.element e)) (hraw : e.tag ∉ rawTextElements)
    (hbelow : ((t.children x).flatMap (pieces t levels (depth + 1))).flatMap Piece.kept =
      spelling below) :
    (pieces t (levels + 1) depth x).flatMap Piece.kept =
      (Content.element e.tag e.attributes.entries below).spelling := by
  have hbreak : (if (t.elementChildren x).isEmpty then [] else
      [Piece.breakLine depth]).flatMap Piece.kept = [] := by
    split <;> rfl
  rw [pieces_element hdata, Content.spelling]
  by_cases hvoid : e.tag ∈ voidElements
  · simp [hvoid, Piece.kept, kept_startTag]
  · simp only [List.contains_iff_mem, hvoid, hraw, ↓reduceIte, List.flatMap_append, hbelow, hbreak]
    simp [Piece.kept, kept_startTag, endTag]

/-- The compact text of nodes that come to legible content is the spelling of the content. -/
theorem kept_pieces (h : t.Comprises xs parts) (hl : Legible parts)
    (hfits : ∀ x ∈ xs, t.Fits levels x) :
    (xs.flatMap (pieces t levels depth)).flatMap Piece.kept = spelling parts := by
  induction h generalizing levels depth with
  | nil => simp [spelling]
  | @doctype x name rest parts hdata _ _ ih =>
    obtain ⟨n, rfl, -⟩ := (hfits x (by simp)).exists_succ
    have hrest : (rest.flatMap (pieces t (n + 1) depth)).flatMap Piece.kept = spelling parts :=
      ih hl.tail fun y hy => hfits y (by simp [hy])
    rw [List.flatMap_cons, List.flatMap_append, hrest, pieces_doctype hdata, spelling]
    simp [Piece.kept, Content.spelling]
  | @text x content rest parts hdata _ _ ih =>
    obtain ⟨n, rfl, -⟩ := (hfits x (by simp)).exists_succ
    have hrest : (rest.flatMap (pieces t (n + 1) depth)).flatMap Piece.kept = spelling parts :=
      ih hl.tail fun y hy => hfits y (by simp [hy])
    rw [List.flatMap_cons, List.flatMap_append, hrest, pieces_text hdata, spelling]
    simp [Piece.kept, Content.spelling, escapeText]
  | @comment x content rest parts hdata _ _ ih =>
    obtain ⟨n, rfl, -⟩ := (hfits x (by simp)).exists_succ
    have hrest : (rest.flatMap (pieces t (n + 1) depth)).flatMap Piece.kept = spelling parts :=
      ih hl.tail fun y hy => hfits y (by simp [hy])
    rw [List.flatMap_cons, List.flatMap_append, hrest, pieces_comment hdata, spelling]
    simp [Piece.kept, Content.spelling]
  | @element x e rest below parts hdata _ _ ihbelow ih =>
    obtain ⟨n, rfl, hkids⟩ := (hfits x (by simp)).exists_succ
    cases hl with
    | element _ _ hraw _ hchildren hl =>
      have hrest : (rest.flatMap (pieces t (n + 1) depth)).flatMap Piece.kept = spelling parts :=
        ih hl fun y hy => hfits y (by simp [hy])
      rw [List.flatMap_cons, List.flatMap_append, hrest, spelling,
        kept_pieces_element hdata hraw (ihbelow hchildren hkids)]
  | @document x rest below parts hdata _ _ ihbelow ih =>
    obtain ⟨n, rfl, hkids⟩ := (hfits x (by simp)).exists_succ
    have hrest : (rest.flatMap (pieces t (n + 1) depth)).flatMap Piece.kept = spelling parts :=
      ih hl.of_append_right fun y hy => hfits y (by simp [hy])
    rw [List.flatMap_cons, List.flatMap_append, hrest, pieces_document hdata, spelling_append,
      ihbelow hl.of_append_left hkids]

/-- The compact text of a document is the spelling of its content. -/
theorem toList_document_compact {d : Document}
    (h : d.tree.Comprises (d.tree.children Tree.root) parts) (hl : Legible parts) :
    (document .compact d).toList = spelling parts := by
  rw [document, inner, toList_write_compact, innerPieces]
  exact kept_pieces h hl h.fits

end Markup

end Topiary
