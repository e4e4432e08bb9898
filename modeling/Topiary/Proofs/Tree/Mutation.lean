import Topiary.Proofs.Tree.Copy
import Topiary.Tree.Document

/-!
Histories of a tree. A tree is reachable if operations have led to it from the bare document and
none of them has hung the document node below some node. Whatever the operations and the places
they are given, the links stay consistent.
-/

namespace Topiary.Tree

variable {t : Tree} {p c x : NodeId}

/-- An operation that changes a tree. -/
inductive Mutation where
  | createElement (tag : String)
  | createText (content : String)
  | createComment (content : String)
  | createDoctype (name : String)
  | append (parent child : NodeId)
  | detach (id : NodeId)
  | removeChildren (id : NodeId)
  | cloneDeep (id : NodeId)
  | setTextContent (id : NodeId) (content : String)
  | setId (id : NodeId) (value : String)
  | addClass (id : NodeId) (name : String)
  | setAttribute (id : NodeId) (name value : String)
  | setRepeatIndex (id : NodeId) (index : Nat)
  | setCorrelation (id : NodeId) (mark : Correlation)
deriving Repr, DecidableEq

namespace Mutation

def apply (t : Tree) : Mutation → Tree
  | createElement tag => (t.createElement tag).1
  | createText content => (t.createText content).1
  | createComment content => (t.createComment content).1
  | createDoctype name => (t.createDoctype name).1
  | append parent child => t.append parent child
  | detach id => t.detach id
  | removeChildren id => t.removeChildren id
  | cloneDeep id => (t.cloneDeep id).1
  | setTextContent id content => t.setTextContent id content
  | setId id value => t.setId id value
  | addClass id name => t.addClass id name
  | setAttribute id name value => t.setAttribute id name value
  | setRepeatIndex id index => t.setRepeatIndex id index
  | setCorrelation id mark => t.setCorrelation id mark

/-- The operation does not hang the document node below a node. -/
def SparesRoot : Mutation → Prop
  | append _ child => child ≠ root
  | _ => True

end Mutation

/-- The tree that operations lead to from the bare document. -/
def ofMutations (ms : List Mutation) : Tree :=
  ms.foldl Mutation.apply .empty

/-- Operations that never append the document node lead to the tree. -/
def Reachable (t : Tree) : Prop :=
  ∃ ms : List Mutation, (∀ m ∈ ms, m.SparesRoot) ∧ ofMutations ms = t

theorem reachable_empty : Tree.empty.Reachable :=
  ⟨[], by simp, rfl⟩

theorem reachable_skeleton : Document.skeleton.tree.Reachable :=
  ⟨[.createElement "html", .createElement "head", .createElement "body", .append root 1,
    .append 1 2, .append 1 3], by simp [Mutation.SparesRoot, root], rfl⟩

theorem Reachable.apply (h : t.Reachable) (m : Mutation) (hm : m.SparesRoot) :
    (m.apply t).Reachable := by
  obtain ⟨ms, hms, rfl⟩ := h
  refine ⟨ms ++ [m], ?_, by simp [ofMutations]⟩
  intro m' hm'
  rcases List.mem_append.mp hm' with hm' | hm'
  · exact hms m' hm'
  · rw [List.mem_singleton.mp hm']
    exact hm

/-! ## Links stay consistent -/

theorem keepsLinks_modifyElement (f : Element → Element) : KeepsLinks fun n =>
    match n.data with
    | .element e => { n with data := .element (f e) }
    | _ => n := by
  constructor <;> intro n <;> cases n.data <;> rfl

theorem Linked.modifyElement (h : t.Linked) (f : Element → Element) :
    (t.modifyElement c f).Linked :=
  h.modify (keepsLinks_modifyElement f)

theorem parent?_modifyElement (f : Element → Element) :
    (t.modifyElement c f).parent? x = t.parent? x :=
  link_modify_of_eq _ _ (keepsLinks_modifyElement f).parent

theorem Linked.children_modifyElement (h : t.Linked) (f : Element → Element) :
    (t.modifyElement c f).children x = t.children x :=
  h.children_modify (keepsLinks_modifyElement f)

theorem size_modifyElement (f : Element → Element) : (t.modifyElement c f).size = t.size :=
  size_modify _

theorem element?_modifyElement (f : Element → Element) :
    (t.modifyElement c f).element? x =
      if x = c then (t.element? x).map f else t.element? x := by
  rw [element?, element?, Tree.modifyElement, get?_modify]
  by_cases hx : x = c
  · rw [if_pos hx, if_pos hx]
    cases t.get? x with
    | none => rfl
    | some node =>
      simp only [Option.map_some, Option.bind_some, Node.element?]
      cases hd : node.data <;> simp [hd]
  · simp [hx]

/-- Changing an element changes no other node, and nothing that is no element. -/
theorem data?_modifyElement (f : Element → Element) (hx : x = c → t.element? x = none) :
    (t.modifyElement c f).data? x = t.data? x := by
  rw [data?, data?, Tree.modifyElement, get?_modify]
  by_cases hxc : x = c
  · rw [if_pos hxc]
    have hnone := hx hxc
    rw [element?] at hnone
    cases hg : t.get? x with
    | none => rfl
    | some node =>
      rw [hg, Option.bind_some, Node.element?] at hnone
      simp only [Option.map_some]
      cases hd : node.data <;> simp_all
  · simp [hxc]

/-- The links agree and the document node stands on top. -/
structure Rooted (t : Tree) : Prop where
  linked : t.Linked
  parent : t.parent? root = none
  data : t.data? root = some .document

namespace Rooted

theorem size_pos (h : t.Rooted) : root < t.size :=
  data?_isSome_iff.mp (by rw [h.data]; rfl)

theorem element?_root (h : t.Rooted) : t.element? root = none := by
  rw [element?_eq, h.data]
  rfl

theorem intact {t' : Tree} (h : t.Rooted) (hl : t'.Linked) (hi : t.Intact t') : t'.Rooted where
  linked := hl
  parent := (hi.parent root h.size_pos).trans h.parent
  data := (hi.data root h.size_pos).trans h.data

theorem push (h : t.Rooted) (data : NodeData) : (t.push data).1.Rooted :=
  h.intact (h.linked.push data) (.push h.linked data)

theorem detach (h : t.Rooted) : (t.detach c).Rooted where
  linked := h.linked.detach
  parent := by
    rw [LinkedBy.parent?_detach h.linked, h.parent]
    exact ite_self none
  data := by rw [data?_detach, h.data]

theorem append (h : t.Rooted) (hc : c ≠ root) : (t.append p c).Rooted := by
  refine ⟨h.linked.append, ?_, by rw [data?_append, h.data]⟩
  by_cases hlt : p < t.size ∧ c < t.size
  · rw [h.linked.parent?_append hlt.1 hlt.2, if_neg (Ne.symm hc), h.parent]
  · rw [Tree.append, if_pos (by grind), h.parent]

theorem modifyElement (h : t.Rooted) (f : Element → Element) : (t.modifyElement c f).Rooted where
  linked := h.linked.modifyElement f
  parent := by rw [parent?_modifyElement, h.parent]
  data := by rw [data?_modifyElement f fun _ => h.element?_root, h.data]

theorem detachFirst (h : t.Rooted) (count : Nat) : (t.detachFirst c count).Rooted := by
  induction count generalizing t with
  | zero => exact h
  | succ count ih =>
    rw [Tree.detachFirst]
    split
    · exact h
    · exact ih h.detach

theorem cloneDeep (h : t.Rooted) : (t.cloneDeep c).1.Rooted := by
  by_cases hc : c < t.size
  · obtain ⟨t', ht', hcopied, -⟩ := copied_cloneDeep h.linked hc
    rw [ht']
    exact h.intact hcopied.linked hcopied.intact
  · have hnone : t.get? c = none := get?_eq_none_iff.mpr (Nat.not_lt.mp hc)
    rw [Tree.cloneDeep, cloneWithin.eq_def, hnone]
    exact h

theorem setTextContent (h : t.Rooted) (content : String) : (t.setTextContent c content).Rooted := by
  rw [Tree.setTextContent]
  split
  · rename_i old hold
    have hkeep : KeepsLinks fun n => { n with data := .text content } := by
      constructor <;> exact fun _ => rfl
    refine ⟨h.linked.modify hkeep, ?_, ?_⟩
    · exact (link_modify_of_eq _ _ hkeep.parent).trans h.parent
    · have hne : root ≠ c := by
        rintro rfl
        have hdata := h.data
        rw [data?, hold] at hdata
        cases hdata
      rw [data?, get?_modify, if_neg hne]
      exact h.data
  · have hbare : (t.removeChildren c).Rooted := h.detachFirst _
    split
    · exact hbare
    · exact (hbare.push _).append (Nat.ne_of_gt hbare.size_pos)

theorem apply (h : t.Rooted) {m : Mutation} (hm : m.SparesRoot) : (m.apply t).Rooted := by
  cases m with
  | createElement tag => exact h.push _
  | createText content => exact h.push _
  | createComment content => exact h.push _
  | createDoctype name => exact h.push _
  | append parent child => exact h.append hm
  | detach id => exact h.detach
  | removeChildren id => exact h.detachFirst _
  | cloneDeep id => exact h.cloneDeep
  | setTextContent id content => exact h.setTextContent content
  | setId id value => exact h.modifyElement _
  | addClass id name => exact h.modifyElement _
  | setAttribute id name value => exact h.modifyElement _
  | setRepeatIndex id index => exact h.modifyElement _
  | setCorrelation id mark => exact h.modifyElement _

theorem foldl (h : t.Rooted) {ms : List Mutation} (hms : ∀ m ∈ ms, m.SparesRoot) :
    (ms.foldl Mutation.apply t).Rooted := by
  induction ms generalizing t with
  | nil => exact h
  | cons m ms ih =>
    exact ih (h.apply (hms m (by simp))) fun m' hm' => hms m' (by simp [hm'])

end Rooted

theorem rooted_empty : Tree.empty.Rooted :=
  ⟨linked_empty, rfl, rfl⟩

theorem Reachable.rooted (h : t.Reachable) : t.Rooted := by
  obtain ⟨ms, hms, rfl⟩ := h
  exact rooted_empty.foldl hms

end Topiary.Tree
