import Topiary.Proofs.Markup.Pieces
import Topiary.Proofs.Synthesis.Settlement

/-!
Settling in any order. Two ways to answer the same fetches may make text nodes at different places
and may fill elements that the other way has already cut off. What is written of the document does
not show it: from the document node down, both trees have the same children, and where an answered
element is met both have the same text.
-/

namespace Topiary

namespace Markup

open Topiary.Tree

variable {t t' : Tree} {m n depth : Nat} {x y : NodeId} {content : String}

/-- Two nodes, each in a tree of its own and read down to a number of levels, of which the same is
written. -/
structure Alike (t : Tree) (m : Nat) (t' : Tree) (n : Nat) (x y : NodeId) : Prop where
  pieces : ∀ depth, pieces t m depth x = pieces t' n depth y
  isElement : t.isElement x = t'.isElement y
  ownText : t.ownText x = t'.ownText y

theorem innerPieces_root (ht : t.Rooted) :
    innerPieces t root = pieces t (t.size + 2) 0 root :=
  (pieces_document ht.data).symm

theorem alike_text (h : t.data? x = some (.text content)) (h' : t'.data? y = some (.text content)) :
    Alike t (m + 1) t' (n + 1) x y := by
  have hdata : t.data? x = t'.data? y := h.trans h'.symm
  refine ⟨fun depth => ?_, isElement_of_data? hdata, ownText_of_data? hdata⟩
  rw [pieces_text h, pieces_text h']

theorem flatMap_pieces_eq {l l' : List NodeId} (h : List.Forall₂ (Alike t m t' n) l l')
    (depth : Nat) : l.flatMap (pieces t m depth) = l'.flatMap (pieces t' n depth) := by
  induction h with
  | nil => rfl
  | cons hhead _ ih => rw [List.flatMap_cons, List.flatMap_cons, hhead.pieces, ih]

theorem map_ownText_eq {l l' : List NodeId} (h : List.Forall₂ (Alike t m t' n) l l') :
    l.map (fun k => Piece.text (t.ownText k)) = l'.map fun k => Piece.text (t'.ownText k) := by
  induction h with
  | nil => rfl
  | cons hhead _ ih => rw [List.map_cons, List.map_cons, hhead.ownText, ih]

theorem isEmpty_filter_isElement_eq {l l' : List NodeId}
    (h : List.Forall₂ (Alike t m t' n) l l') :
    (l.filter t.isElement).isEmpty = (l'.filter t'.isElement).isEmpty := by
  induction h with
  | nil => rfl
  | cons hhead _ ih =>
    rw [List.filter_cons, List.filter_cons, hhead.isElement]
    split
    · rfl
    · exact ih

/-- What is written of a node is made of its own data and of what is written of its children. -/
theorem Alike.node (hdata : t.data? x = t'.data? y)
    (hkids : List.Forall₂ (Alike t m t' n) (t.children x) (t'.children y)) :
    Alike t (m + 1) t' (n + 1) x y := by
  refine ⟨fun depth => ?_, isElement_of_data? hdata, ownText_of_data? hdata⟩
  have hbelow := flatMap_pieces_eq hkids
  cases hnode : t.get? x with
  | none =>
    have hnode' : t'.get? y = none := by
      rw [Tree.data?, Tree.data?, hnode] at hdata
      exact Option.map_eq_none_iff.mp hdata.symm
    unfold Markup.pieces
    simp only [hnode, hnode']
  | some node =>
    have hsome : t'.data? y = some node.data := by
      rw [← hdata, Tree.data?, hnode, Option.map_some]
    obtain ⟨node', hnode', hdata'⟩ := Option.map_eq_some_iff.mp hsome
    unfold Markup.pieces
    simp only [hnode, hnode', hdata', elementChildren, hbelow, map_ownText_eq hkids,
      isEmpty_filter_isElement_eq hkids]
    cases node.data <;> rfl

end Markup

namespace Synthesis

open Topiary.Tree Topiary.Markup

variable {t t1 t2 : Tree} {b b1 b2 : Binder} {entries order : List (Correlation × Pending)}
  {r1 r2 report : SettleReport} {x : NodeId}

/-! ## The same text -/

/-- From an exposed node down, two trees that the same answers have settled are written alike. -/
theorem Settled.alike (h1 : Settled t entries t1) (h2 : Settled t entries t2) (ht : t.Rooted)
    {m n : Nat} {l : List NodeId} (hl : t.Lineage x l) (hx : Exposed t entries x)
    (hm : t.size < m + l.length) (hn : t.size < n + l.length) : Alike t1 m t2 n x x := by
  induction m generalizing n x l with
  | zero =>
    have hlength := hl.length_lt ht
    omega
  | succ m ih =>
    have hlength := hl.length_lt ht
    obtain ⟨n, rfl⟩ : ∃ k, n = k + 1 := Nat.exists_eq_succ_of_ne_zero (by omega)
    have hlt := hl.lt_size ht
    refine .node ((h1.data x hlt).trans (h2.data x hlt).symm) ?_
    by_cases hanswered : Answered t entries x
    · obtain ⟨document, hdocument⟩ := hanswered
      obtain ⟨k1, -, hkids1, htext1⟩ := h1.text x document hx hdocument
      obtain ⟨k2, -, hkids2, htext2⟩ := h2.text x document hx hdocument
      obtain ⟨m, rfl⟩ : ∃ k, m = k + 1 := Nat.exists_eq_succ_of_ne_zero (by omega)
      obtain ⟨n, rfl⟩ : ∃ k, n = k + 1 := Nat.exists_eq_succ_of_ne_zero (by omega)
      rw [hkids1, hkids2]
      exact .cons (alike_text htext1 htext2) .nil
    · rw [h1.kept x hanswered, h2.kept x hanswered, List.forall₂_same]
      intro k hk
      have hparent := ht.linked.mem_children.mp hk
      exact ih (.child hparent hl) ((exposed_child_iff ht hparent).mpr ⟨hx, hanswered⟩)
        (by rw [List.length_cons]; omega) (by rw [List.length_cons]; omega)

theorem Settled.document_eq (h1 : Settled t entries t1) (h2 : Settled t entries t2)
    (ht : t.Rooted) (d : Document) (style : Style) :
    Markup.document style { d with tree := t1 } = Markup.document style { d with tree := t2 } := by
  have halike : Alike t1 (t1.size + 2) t2 (t2.size + 2) root root :=
    h1.alike h2 ht .root (exposed_root ht)
      (Nat.lt_of_le_of_lt h1.size_le (by simp))
      (Nat.lt_of_le_of_lt h2.size_le (by simp))
  have hinner : innerPieces t1 root = innerPieces t2 root := by
    rw [innerPieces_root h1.rooted, innerPieces_root h2.rooted, halike.pieces]
  simp only [Markup.document, Markup.inner, hinner]

/-! ## The counts -/

/-- The fetch brings a document. -/
def Fetch.succeeds : Fetch → Bool
  | .value _ => true
  | .failed => false
  | .stalled => false

/-- Every answer counts once, as a success or as a failure. -/
theorem counts_settleOne (state : Tree × SettleReport) (entry : Correlation × Pending) :
    (settleOne state entry).2.resolved =
        state.2.resolved + (if entry.2.fetch.succeeds then 1 else 0) ∧
      (settleOne state entry).2.failed =
        state.2.failed + (if entry.2.fetch.succeeds then 0 else 1) := by
  unfold settleOne
  cases entry.2.fetch <;> exact ⟨rfl, rfl⟩

theorem counts_foldl (state : Tree × SettleReport) (order : List (Correlation × Pending)) :
    (order.foldl settleOne state).2.resolved =
        state.2.resolved + order.countP (fun entry => entry.2.fetch.succeeds) ∧
      (order.foldl settleOne state).2.failed =
        state.2.failed + order.countP fun entry => !entry.2.fetch.succeeds := by
  induction order generalizing state with
  | nil => exact ⟨rfl, rfl⟩
  | cons entry order ih =>
    obtain ⟨hresolved, hfailed⟩ := counts_settleOne state entry
    obtain ⟨hresolved', hfailed'⟩ := ih (settleOne state entry)
    rw [List.foldl_cons, hresolved', hfailed', hresolved, hfailed, List.countP_cons,
      List.countP_cons]
    cases entry.2.fetch.succeeds
    · simp only [Bool.false_eq_true, if_false, Bool.not_false, if_true]
      omega
    · simp only [if_true, Bool.not_true, Bool.false_eq_true, if_false]
      omega

theorem Binder.Settles.counts (h : b.Settles t report b1 t1) :
    report.resolved = b.pending.countP (fun entry => entry.2.fetch.succeeds) ∧
      report.failed = b.pending.countP fun entry => !entry.2.fetch.succeeds := by
  obtain ⟨order, hperm, hrun⟩ := settling_iff.mp h.run
  have hcounts := counts_foldl (t, ⟨0, 0, 0⟩) order
  rw [hrun, Nat.zero_add, Nat.zero_add, hperm.countP_eq, hperm.countP_eq] at hcounts
  exact hcounts

/-! ## Confluence -/

/-- Two ways to settle give documents that are written alike, and they report the same numbers of
fetches that succeeded and that failed. -/
theorem Binder.settles_confluent (d : Document) (ht : d.tree.Reachable)
    (hmarks : (b.pending.map Prod.fst).Nodup) (h1 : b.Settles d.tree r1 b1 t1)
    (h2 : b.Settles d.tree r2 b2 t2) :
    (∀ style, Markup.document style { d with tree := t1 } =
        Markup.document style { d with tree := t2 }) ∧
      r1.resolved = r2.resolved ∧ r1.failed = r2.failed ∧
      r1.resolved + r1.failed = b.pending.length ∧
      b1.pending = [] ∧ b2.pending = [] := by
  obtain ⟨hresolved, hfailed⟩ := h1.counts
  obtain ⟨hresolved', hfailed'⟩ := h2.counts
  refine ⟨fun style => ?_, hresolved.trans hresolved'.symm, hfailed.trans hfailed'.symm, ?_, ?_, ?_⟩
  · exact (h1.settled ht.rooted hmarks).document_eq (h2.settled ht.rooted hmarks) ht.rooted d style
  · rw [hresolved, hfailed, List.length_eq_countP_add_countP fun entry => entry.2.fetch.succeeds]
    simp
  · rw [h1.binder]
  · rw [h2.binder]

/-- The outer element first, and nothing is left of the inner one; or the inner one first, and its
text is lost. -/
theorem Binder.settles_confluent_waitingTree :
    let d := Document.ofTree waitingTree
    let b : Binder :=
      ⟨3, [(⟨1⟩, ⟨"a", .value (.number (.integer 1))⟩), (⟨2⟩, ⟨"b", .value .null⟩)]⟩
    ∃ t1 t2, b.Settles d.tree ⟨2, 0, 1⟩ ⟨3, []⟩ t1 ∧ b.Settles d.tree ⟨2, 0, 2⟩ ⟨3, []⟩ t2 ∧
      Markup.document .compact { d with tree := t1 } = "<body><div>1</div></body>" ∧
      ∀ style, Markup.document style { d with tree := t1 } =
        Markup.document style { d with tree := t2 } := by
  intro d b
  let order := b.pending.reverse
  have hreport : (b.settle waitingTree).1 = ⟨2, 0, 1⟩ := by cbv
  have hreport' : (settleAll waitingTree order).2 = ⟨2, 0, 2⟩ := by cbv
  have hfirst : b.Settles waitingTree ⟨2, 0, 1⟩ ⟨3, []⟩ (b.settle waitingTree).2.2 :=
    hreport ▸ b.settles_settle waitingTree
  have hsecond : b.Settles waitingTree ⟨2, 0, 2⟩ ⟨3, []⟩ (settleAll waitingTree order).1 :=
    hreport' ▸ ⟨settling_iff.mpr ⟨order, List.reverse_perm _, rfl⟩, rfl⟩
  exact ⟨_, _, hfirst, hsecond, by cbv,
    (Binder.settles_confluent d reachable_waitingTree (by decide) hfirst hsecond).1⟩

end Synthesis

end Topiary
