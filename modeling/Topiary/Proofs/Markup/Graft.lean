import Topiary.Proofs.Markup.Spelling
import Topiary.Proofs.Tree.Consistency
import Topiary.Proofs.Tree.Duplication
import Topiary.Proofs.Tree.Growth
import Topiary.Proofs.Tree.Settings
import Topiary.Proofs.Tree.Traversal

/-!
Grafting parsed content onto a tree. The parts become nodes at the end of the store, numbered in
preorder, and hang below a node behind the children that it has; nothing else changes. A document
that is made of content is this content without instructions and blank texts.
-/

namespace Topiary

open Markup

namespace Markup

variable {part : Content} {parts parts' : List Content}

/-! ## What is kept of content -/

mutual

/-- What a part comes to in a document: instructions and texts that show nothing are left out, tags
are in lower case, and each attribute has the value that is set last. -/
def Content.kept : Content → List Content
  | .doctype name => [.doctype name]
  | .text content => if isBlankText content then [] else [.text content]
  | .comment content => [.comment content]
  | .instruction _ _ => []
  | .element name attributes children =>
    [.element (Text.lower name) (lastSettings attributes) (keptContents children)]

/-- What parts one after another come to. -/
def keptContents : List Content → List Content
  | [] => []
  | part :: parts => part.kept ++ keptContents parts

end

/-- What the node of a part holds; an instruction has no node. -/
def Content.data? : Content → Option NodeData
  | .doctype name => some (.doctype name)
  | .text content => some (.text content)
  | .comment content => some (.comment content)
  | .instruction _ _ => none
  | .element name attributes _ => some (.element ⟨name, .ofEntries attributes, none, none⟩)

/-- The parts inside a part. -/
def Content.inner : Content → List Content
  | .element _ _ children => children
  | _ => []

end Markup

namespace Tree

variable {t t' t1 t2 t3 : Tree} {p x : NodeId} {xs ys kids more : List NodeId} {part : Content}
  {parts parts' : List Content} {data : NodeData} {fresh fresh' : NodeId → List NodeId}
  {P : NodeId → Prop}

/-- Nodes, with all that is below them, are these parts: as many, in this order, and each with its
data and with the parts inside it below it. -/
inductive Embodies (t : Tree) : List NodeId → List Content → Prop where
  | nil : Embodies t [] []
  | cons {x : NodeId} {part : Content} {xs : List NodeId} {parts : List Content} :
      (∃ data, part.data? = some data ∧ t.data? x = some data) →
      Embodies t (t.children x) part.inner → Embodies t xs parts →
      Embodies t (x :: xs) (part :: parts)

namespace Embodies

theorem append (h : t.Embodies xs parts) (h' : t.Embodies ys parts') :
    t.Embodies (xs ++ ys) (parts ++ parts') := by
  induction h with
  | nil => exact h'
  | cons hdata hinner _ _ ih => exact .cons hdata hinner ih

theorem agree (h : t.Embodies xs parts) (ha : t.Agree P t') (hxs : ∀ x ∈ xs, P x) :
    t'.Embodies xs parts := by
  induction h with
  | nil => exact .nil
  | @cons x part xs parts hdata _ _ ihinner ih =>
    have hx := hxs x List.mem_cons_self
    apply Embodies.cons
    · rw [ha.data x hx]
      exact hdata
    · rw [ha.children x hx]
      exact ihinner (ha.closed x hx)
    · exact ih fun y hy => hxs y (List.mem_cons_of_mem _ hy)

/-- Nodes that are parts come to these parts. -/
theorem comprises (h : t.Embodies xs parts) : t.Comprises xs parts := by
  have hleaf : ∀ {x : NodeId}, t.Embodies (t.children x) [] → t.children x = [] := by
    intro x hnone
    generalize t.children x = kids at hnone
    cases hnone
    rfl
  induction h with
  | nil => exact .nil
  | @cons x part xs parts hdata hinner _ ihinner ih =>
    obtain ⟨data, hpart, hx⟩ := hdata
    cases part with
    | instruction target content => cases hpart
    | doctype name =>
      cases hpart
      exact .doctype hx (hleaf hinner) ih
    | text content =>
      cases hpart
      exact .text hx (hleaf hinner) ih
    | comment content =>
      cases hpart
      exact .comment hx (hleaf hinner) ih
    | element name attributes children =>
      cases hpart
      exact .element hx ihinner ih

end Embodies

/-! ## Growing below one node -/

/-- The tree that grows leaves the nodes alone that are new since an earlier one, unless it grows
below one of them. -/
theorem Grown.agree (h : t.Grown fresh t1) (ht : t.Rooted) (h' : t1.Grown fresh' t2)
    (hnone : ∀ x, t.size ≤ x → fresh' x = []) :
    t1.Agree (fun x => t.size ≤ x ∧ x < t1.size) t2 where
  data x hx := h'.data x hx.2
  children x hx := by rw [h'.children x hx.2, hnone x hx.1, List.append_nil]
  closed x hx k hk := by
    refine ⟨?_, (h.rooted.linked.lt_of_mem_children hk).1⟩
    apply Nat.le_of_not_lt
    intro hold
    have hparent : t.parent? k = some x := by
      rw [← h.parent k hold]
      exact h.rooted.linked.mem_children.mp hk
    exact Nat.not_lt_of_le hx.1 (ht.linked.lt_of_parent? hparent).2

/-- Parts have been added to a tree: the new nodes hang below one node, behind the children that it
has, are numbered in preorder and embody the parts. -/
structure Grafted (t : Tree) (p : NodeId) (kids : List NodeId) (parts : List Content) (t' : Tree) :
    Prop where
  grown : t.Grown (fun x => if x = p then kids else []) t'
  preorder : t'.Preorder kids (List.range' t.size (t'.size - t.size))
  embodies : t'.Embodies kids parts

namespace Grafted

theorem refl (ht : t.Rooted) : t.Grafted p [] [] t where
  grown := by
    simp only [ite_self]
    exact (Intact.refl t).grown ht
  preorder := by
    rw [Nat.sub_self]
    exact .nil
  embodies := .nil

theorem lt_of_mem (h : t.Grafted p kids parts t') (hp : p < t.size) (hx : x ∈ kids) :
    t.size ≤ x ∧ x < t'.size := by
  constructor
  · exact h.grown.new p x (by rw [if_pos rfl]; exact hx)
  · have hparent := h.grown.parent?_fresh hp (m := x) (by rw [if_pos rfl]; exact hx)
    exact (h.grown.rooted.linked.lt_of_parent? hparent).1

/-- More parts below the same node. -/
theorem append (h : t.Grafted p kids parts t1) (ht : t.Rooted) (hp : p < t.size)
    (h' : t1.Grafted p more parts' t2) : t.Grafted p (kids ++ more) (parts ++ parts') t2 := by
  have hagree : t1.Agree (fun x => t.size ≤ x ∧ x < t1.size) t2 := by
    apply h.grown.agree ht h'.grown
    intro x hx
    rw [if_neg (Nat.ne_of_gt (Nat.lt_of_lt_of_le hp hx))]
  have hkids : ∀ x ∈ kids, t.size ≤ x ∧ x < t1.size := fun x hx => h.lt_of_mem hp hx
  constructor
  · have hboth := h.grown.trans h'.grown
    have hfresh : (fun x => (if x = p then kids else []) ++ if x = p then more else []) =
        fun x => if x = p then kids ++ more else [] := by
      funext x
      by_cases hx : x = p <;> simp [hx]
    rwa [hfresh] at hboth
  · have hnumbers : List.range' t.size (t2.size - t.size) =
        List.range' t.size (t1.size - t.size) ++ List.range' t1.size (t2.size - t1.size) := by
      have hle := h.grown.size_le
      have hle' := h'.grown.size_le
      have hsum : t2.size - t.size = (t1.size - t.size) + (t2.size - t1.size) := by omega
      have hstart : t.size + (t1.size - t.size) = t1.size := by omega
      rw [hsum, ← List.range'_append_1, hstart]
    rw [hnumbers]
    exact (h.preorder.agree hagree hkids).append h'.preorder
  · exact (h.embodies.agree hagree hkids).append h'.embodies

end Grafted

/-! ## One node -/

/-- Make a node and hang it behind the children of another. -/
def plant (t : Tree) (p : NodeId) (data : NodeData) : Tree :=
  (t.push data).1.append p t.size

/-- The one new node is the last child of `p` and holds the data, and nothing is below it. -/
structure Planted (t : Tree) (p : NodeId) (data : NodeData) (t' : Tree) : Prop where
  grown : t.Grown (fun x => if x = p then [t.size] else []) t'
  size : t'.size = t.size + 1
  data : t'.data? t.size = some data
  bare : t'.children t.size = []

theorem planted_plant (ht : t.Rooted) (hp : p < t.size) (data : NodeData) :
    t.Planted p data (t.plant p data) := by
  have hpush : t.Intact (t.push data).1 := .push ht.linked data
  have hrooted : (t.push data).1.Rooted := ht.push data
  have hlt : t.size < (t.push data).1.size := by simp
  have hp' : p < (t.push data).1.size := Nat.lt_trans hp hlt
  have hfree : (t.push data).1.parent? t.size = none := by
    rw [parent?_push, parent?, get?_eq_none_iff.mpr (Nat.le_refl _)]
    rfl
  constructor
  · apply hpush.grown_appendAll (l := [t.size]) hrooted hp (List.nodup_singleton _)
    intro m hm
    rw [List.mem_singleton.mp hm]
    exact ⟨Nat.le_refl _, hlt, hfree⟩
  · rw [plant, size_append, size_push]
  · rw [plant, data?_append, data?_push, if_pos rfl]
  · rw [plant, hrooted.linked.children_append_of_free hp' hlt hfree, if_neg (Nat.ne_of_gt hp),
      ht.linked.children_push, ht.linked.children_eq_nil (Nat.le_refl _)]

/-- A node that is hung below another and gets the parts inside a part below it is this part. -/
theorem Planted.grafted (h : t.Planted p data t1) (hdata : part.data? = some data)
    (hg : t1.Grafted t.size kids part.inner t2) : t.Grafted p [t.size] [part] t2 := by
  have hlt : t.size < t1.size := by
    rw [h.size]
    exact Nat.lt_succ_self _
  have hkids : t2.children t.size = kids := by
    rw [hg.grown.children t.size hlt, h.bare, List.nil_append, if_pos rfl]
  constructor
  · refine ⟨hg.grown.rooted, Nat.le_trans h.grown.size_le hg.grown.size_le, ?_, ?_, ?_, h.grown.new⟩
    · intro x hx
      rw [hg.grown.data x (Nat.lt_trans hx hlt), h.grown.data x hx]
    · intro x hx
      rw [hg.grown.parent x (Nat.lt_trans hx hlt), h.grown.parent x hx]
    · intro x hx
      rw [hg.grown.children x (Nat.lt_trans hx hlt), if_neg (Nat.ne_of_lt hx), List.append_nil,
        h.grown.children x hx]
  · have hsize : t2.size - t.size = (t2.size - t1.size) + 1 := by
      have hle := hg.grown.size_le
      have hsucc := h.size
      omega
    rw [hsize, List.range'_succ, ← h.size]
    apply Preorder.single
    rw [hkids]
    exact hg.preorder
  · refine .cons ⟨data, hdata, ?_⟩ ?_ .nil
    · rw [hg.grown.data t.size hlt, h.data]
    · rw [hkids]
      exact hg.embodies

/-- A part with nothing inside is one node. -/
theorem grafted_plant (ht : t.Rooted) (hp : p < t.size) (hdata : part.data? = some data)
    (hinner : part.inner = []) : t.Grafted p [t.size] [part] (t.plant p data) := by
  have hplanted := planted_plant ht hp data
  apply hplanted.grafted hdata
  rw [hinner]
  exact .refl hplanted.grown.rooted

/-! ## Elements -/

theorem setAttribute_push (e : Element) (name value : String) :
    (t.push (.element e)).1.setAttribute t.size name value =
      (t.push (.element (e.setAttribute name value))).1 := by
  have hmodify : ∀ (nodes : Array Node) (node : Node) (f : Node → Node),
      (nodes.push node).modify nodes.size f = nodes.push (f node) := by
    intro nodes node f
    apply Array.ext_getElem?
    intro i
    rw [Array.getElem?_modify, Array.getElem?_push, Array.getElem?_push]
    by_cases hi : i = nodes.size
    · simp [hi]
    · simp [hi, Ne.symm hi]
  exact congrArg Tree.mk (hmodify _ _ _)

/-- An element that gets its attributes one after another once it is in the store is the element
that has them from the start. -/
theorem foldl_setAttribute_push (l : List Attribute) (e : Element) :
    l.foldl (fun t' a => t'.setAttribute t.size a.name a.value) (t.push (.element e)).1 =
      (t.push (.element (l.foldl (fun e a => e.setAttribute a.name a.value) e))).1 := by
  induction l generalizing e with
  | nil => rfl
  | cons a l ih =>
    rw [List.foldl_cons, setAttribute_push]
    exact ih _

theorem foldl_setAttribute_ofTag (l : List Attribute) (tag : String) :
    l.foldl (fun e a => e.setAttribute a.name a.value) (Element.ofTag tag) =
      ⟨Text.lower tag, Attributes.ofEntries (lastSettings l), none, none⟩ := by
  have hfold : ∀ e : Element, l.foldl (fun e a => e.setAttribute a.name a.value) e =
      { e with attributes :=
        l.foldl (fun attributes a => attributes.set a.name a.value) e.attributes } := by
    induction l with
    | nil => exact fun _ => rfl
    | cons a l ih => exact fun e => ih _
  rw [hfold, ← Attributes.ofSettings_eq]
  rfl

/-! ## Content -/

theorem addContent_element (name : String) (attributes : List Attribute)
    (children : List Content) : addContent t p (.element name attributes children) =
      addContents
        (t.plant p
          (.element ⟨Text.lower name, Attributes.ofEntries (lastSettings attributes), none, none⟩))
        t.size children := by
  rw [plant, ← foldl_setAttribute_ofTag, ← foldl_setAttribute_push]
  rfl

mutual

/-- Adding a part grafts what is kept of it. -/
theorem grafted_addContent (part : Content) {t : Tree} {p : NodeId} (ht : t.Rooted)
    (hp : p < t.size) : ∃ kids, t.Grafted p kids part.kept (addContent t p part) := by
  match part with
  | .doctype name => exact ⟨_, grafted_plant ht hp rfl rfl⟩
  | .comment content => exact ⟨_, grafted_plant ht hp rfl rfl⟩
  | .instruction _ _ => exact ⟨_, .refl ht⟩
  | .text content =>
    rw [addContent, Content.kept]
    split
    · exact ⟨_, .refl ht⟩
    · exact ⟨_, grafted_plant ht hp rfl rfl⟩
  | .element name attributes children =>
    have hplanted := planted_plant ht hp
      (.element ⟨Text.lower name, Attributes.ofEntries (lastSettings attributes), none, none⟩)
    have hlt : t.size <
        (t.plant p (.element
          ⟨Text.lower name, Attributes.ofEntries (lastSettings attributes), none, none⟩)).size := by
      rw [hplanted.size]
      exact Nat.lt_succ_self _
    obtain ⟨kids, hkids⟩ := grafted_addContents children hplanted.grown.rooted hlt
    rw [addContent_element]
    have hpart : (Content.element (Text.lower name) (lastSettings attributes)
        (keptContents children)).inner = keptContents children := rfl
    rw [← hpart] at hkids
    exact ⟨_, hplanted.grafted rfl hkids⟩

/-- Adding parts one after another grafts what is kept of them. -/
theorem grafted_addContents (parts : List Content) {t : Tree} {p : NodeId} (ht : t.Rooted)
    (hp : p < t.size) : ∃ kids, t.Grafted p kids (keptContents parts) (addContents t p parts) := by
  match parts with
  | [] => exact ⟨_, .refl ht⟩
  | part :: parts =>
    obtain ⟨kids, hkids⟩ := grafted_addContent part ht hp
    obtain ⟨more, hmore⟩ := grafted_addContents parts hkids.grown.rooted
      (Nat.lt_of_lt_of_le hp hkids.grown.size_le)
    exact ⟨_, hkids.append ht hp hmore⟩

end

end Tree

namespace Markup

open Topiary.Tree

theorem grafted_documentOfContent (parts : List Content) :
    let t := (documentOfContent parts).tree
    Tree.empty.Grafted root (t.children root) (keptContents parts) t := by
  intro t
  obtain ⟨kids, hkids⟩ := grafted_addContents parts rooted_empty rooted_empty.size_pos
  have hchildren : t.children root = kids := by
    have hgrown := hkids.grown.children root rooted_empty.size_pos
    rwa [if_pos rfl] at hgrown
  rw [hchildren]
  exact hkids

/-- The compact text of a document that is made of content spells what is kept of the content. -/
theorem toList_document_documentOfContent (hl : Legible (keptContents parts)) :
    (document .compact (documentOfContent parts)).toList = spelling (keptContents parts) :=
  toList_document_compact (grafted_documentOfContent parts).embodies.comprises hl

/-- The document that is made of content is this content without instructions and blank texts, with
tags in lower case and every attribute set once. Its links are consistent, every node is connected,
and the nodes below the document node are numbered from 1 on in preorder. -/
theorem documentOfContent_faithful (parts : List Content) :
    let t := (documentOfContent parts).tree
    t.data? root = some .document ∧ t.parent? root = none ∧
      t.Embodies (t.children root) (keptContents parts) ∧ t.Consistent ∧
      (∀ x < t.size, t.isConnected x = true) ∧
      t.Preorder (t.children root) (List.range' 1 (t.size - 1)) := by
  intro t
  have hgrafted := grafted_documentOfContent parts
  have hrooted : t.Rooted := hgrafted.grown.rooted
  have hpre : t.Preorder (t.children root) (List.range' 1 (t.size - 1)) := hgrafted.preorder
  refine ⟨hrooted.data, hrooted.parent, hgrafted.embodies, hrooted.linked.consistent, ?_, hpre⟩
  intro x hx
  rw [hrooted.isConnected_iff_mem_descendants, hrooted.preorder_descendants.unique hpre,
    List.mem_range'_1]
  have hsize := hrooted.size_pos
  change 0 < t.size at hsize
  change x = 0 ∨ _
  omega

/-- A doctype, a paragraph and the comment in it; the blanks in front of the comment have no
node. -/
theorem documentOfContent_faithful_paragraph :
    let t := (documentOfContent [.doctype "html", .element "P" [] [.text " ", .comment "c"]]).tree
    t.size = 4 ∧ t.isConnected 3 = true ∧ t.Preorder (t.children root) [1, 2, 3] := by
  obtain ⟨-, -, -, -, hconnected, hpre⟩ :=
    documentOfContent_faithful [.doctype "html", .element "P" [] [.text " ", .comment "c"]]
  exact ⟨by decide, hconnected 3 (by decide), hpre⟩

/-- A name that is set twice is listed once. -/
example : keptContents [.instruction "xml" "",
    .element "P" [⟨"id", "a"⟩, ⟨"lang", "en"⟩, ⟨"id", "b"⟩] [.text " ", .comment "c"]] =
      [.element "p" [⟨"id", "b"⟩, ⟨"lang", "en"⟩] [.comment "c"]] := by
  cbv

end Markup

end Topiary
