import Topiary.Proofs.Synthesis.Templates
import Topiary.Proofs.Tree.Measure

/-!
Attaching copies. Every parent gets as many copies of the template as the group asks for, behind the
children that it has. The store grows by the copies and by what they hold, and by nothing else.
-/

namespace Topiary.Tree

variable {t t' : Tree} {c x y : NodeId}

/-- Nodes whose children hold the same have elements among them or not alike. -/
theorem isElement_of_held (h : t'.held y = t.held x)
    (hx : ∀ k ∈ t.children x, t.isElement k = false) :
    ∀ k ∈ t'.children y, t'.isElement k = false := by
  intro k hk
  have hdata : t'.data? k ∈ t.held x := h ▸ List.mem_map_of_mem hk
  obtain ⟨k', hk', hsame⟩ := List.mem_map.mp hdata
  have hnot := hx k' hk'
  rw [isElement, element?_eq, hsame] at hnot
  rw [isElement, element?_eq]
  exact hnot

end Topiary.Tree

namespace Topiary.Synthesis

open Topiary.Tree Topiary.Selector

variable {t t' : Tree} {e : Element} {template p : NodeId} {parents : List NodeId}
  {count index : Nat} {load : List (Option NodeData)} {w : Walk}

/-- What a template holds after a payload was put on it. -/
def Payload.held : Payload → List (Option NodeData)
  | .literal text => if text.isEmpty then [] else [some (.text text)]
  | _ => []

/-- The mark that a payload puts on a template. -/
def Payload.mark? (b : Binder) : Payload → Option Correlation
  | .absent | .literal _ => none
  | .pending _ => some ⟨b.next⟩

namespace Walk

/-- Putting content on a template leaves a template, which is marked if the content is pending. -/
theorem template_bind (h : Template t w.tree e) (hbare : w.tree.children t.size = [])
    (hunmarked : e.correlation = none) (payload : Payload) :
    Template t (w.bind t.size payload).tree { e with correlation := payload.mark? w.binder } ∧
      (w.bind t.size payload).context = w.context := by
  have hsame : { e with correlation := none } = e := by rw [← hunmarked]
  cases payload with
  | absent =>
    rw [Payload.mark?, hsame]
    exact ⟨h, rfl⟩
  | literal text =>
    rw [Payload.mark?, hsame]
    exact ⟨h.setTextContent hbare text, rfl⟩
  | pending content => exact ⟨h.modifyElement _, rfl⟩

theorem held_bind (h : Template t w.tree e) (hbare : w.tree.children t.size = [])
    (payload : Payload) : (w.bind t.size payload).tree.held t.size = payload.held ∧
      (w.bind t.size payload).tree.size = w.tree.size + payload.held.length := by
  have hnone : w.tree.held t.size = [] := by
    rw [Tree.held, hbare]
    rfl
  cases payload with
  | absent => exact ⟨hnone, rfl⟩
  | pending content =>
    exact ⟨(h.leaf.held_modifyElement h.rooted.linked _).trans hnone, size_modifyElement _⟩
  | literal text =>
    cases hempty : text.isEmpty with
    | true =>
      have hsame : w.tree.setTextContent t.size text = w.tree := by
        have hdata : (w.tree.get? t.size).map Node.data = some (.element e) := h.leaf.data
        rw [Tree.setTextContent, hdata]
        simp only [removeChildren_of_nil h.rooted.linked hbare, hempty, if_true]
      have hheld : (Payload.literal text).held = [] := by simp [Payload.held, hempty]
      rw [hheld]
      exact ⟨(congrArg (fun t' => Tree.held t' t.size) hsame).trans hnone,
        congrArg Tree.size hsame⟩
    | false =>
      have hreplaced := h.rooted.replaced_setTextContent h.leaf.isElement hempty
      have hheld : (Payload.literal text).held = [some (.text text)] := by
        simp [Payload.held, hempty]
      rw [hheld]
      refine ⟨?_, hreplaced.size⟩
      change (w.tree.setTextContent t.size text).held t.size = _
      rw [Tree.held, hreplaced.children, if_pos rfl, List.map_singleton, hreplaced.text]

theorem copy_eq (ht : t.Rooted) (h : t.Leaf template e) (index : Nat) :
    ∃ t', copy template t index = (t', some t.size) ∧
      Template t t' { e with repeatIndex := some index } ∧ t'.held t.size = t.held template ∧
        t'.size = t.size + (1 + (t.held template).length) := by
  obtain ⟨t1, hclone, hcopied, hkids, hbare⟩ := copied_cloneDeep ht.linked h.lt_size
  have hleaf : t1.Leaf t.size e := by
    refine ⟨hcopied.data.trans h.data, fun k hk => ⟨?_, ?_⟩⟩
    · exact isElement_of_held hkids (fun k hk => (h.childless k hk).1) k hk
    · exact hbare (fun k hk => (h.childless k hk).2) k hk
  have htemplate : Template t t1 e :=
    ⟨ht.intact hcopied.linked hcopied.intact, hcopied.intact, hcopied.parent, hleaf⟩
  have hsize : t1.size = t.size + (1 + (t.children template).length) := by
    rw [← h.size_cloneDeep ht.linked, hclone]
  refine ⟨t1.setRepeatIndex t.size index, by rw [copy, hclone], htemplate.modifyElement _, ?_, ?_⟩
  · exact (hleaf.held_modifyElement hcopied.linked _).trans hkids
  · rw [Tree.held, List.length_map, ← hsize]
    exact size_modifyElement _

/-- Copies of an element and of what it holds at the end of the store, counted from 0, which hang
nowhere yet. -/
structure Copies (t t' : Tree) (e : Element) (load : List (Option NodeData)) (count : Nat)
    (made : List NodeId) : Prop where
  rooted : t'.Rooted
  intact : t.Intact t'
  length : made.length = count
  nodup : made.Nodup
  free : ∀ m ∈ made, t.size ≤ m ∧ m < t'.size ∧ t'.parent? m = none
  leaf : ∀ (i : Nat) m, made[i]? = some m → t'.Leaf m { e with repeatIndex := some i }
  held : ∀ m ∈ made, t'.held m = load
  size : t'.size = t.size + count * (1 + load.length)

theorem copies_succ : copies template (count + 1) t =
    match copy template (copies template count t).1 count with
    | (t', some node) => (t', (copies template count t).2 ++ [node])
    | (t', none) => (t', (copies template count t).2) := by
  rw [copies, List.range_succ, List.foldl_append]
  rfl

theorem Copies.step {t1 t2 : Tree} {made : List NodeId} (h : Copies t t1 e load count made)
    (hcopy : Template t1 t2 { e with repeatIndex := some count }) (hheld : t2.held t1.size = load)
    (hsize : t2.size = t1.size + (1 + load.length)) :
    Copies t t2 e load (count + 1) (made ++ [t1.size]) where
  rooted := hcopy.rooted
  intact := h.intact.trans hcopy.intact
  length := by simp [h.length]
  nodup := by
    rw [List.nodup_append]
    refine ⟨h.nodup, List.nodup_singleton _, ?_⟩
    intro a ha b hb
    rw [List.mem_singleton.mp hb]
    exact Nat.ne_of_lt (h.free a ha).2.1
  free := by
    intro m hm
    rcases List.mem_append.mp hm with hm | hm
    · obtain ⟨hge, hlt, hparent⟩ := h.free m hm
      exact ⟨hge, Nat.lt_of_lt_of_le hlt hcopy.intact.size_le,
        (hcopy.intact.parent m hlt).trans hparent⟩
    · obtain rfl := List.mem_singleton.mp hm
      exact ⟨h.intact.size_le, hcopy.leaf.lt_size, hcopy.free⟩
  leaf := by
    intro i m hm
    rw [List.getElem?_append] at hm
    split at hm
    · exact (h.leaf i m hm).intact h.rooted hcopy.intact hcopy.rooted
    · rename_i hi
      rw [List.getElem?_singleton] at hm
      split at hm
      · rename_i hlast
        obtain rfl := Option.some.inj hm
        obtain rfl : i = count := by
          rw [h.length] at hi hlast
          omega
        exact hcopy.leaf
      · simp at hm
  held := by
    intro m hm
    rcases List.mem_append.mp hm with hm | hm
    · rw [← h.held m hm]
      exact (hcopy.intact.grown hcopy.rooted).held h.rooted.linked (h.free m hm).2.1 rfl
    · rw [List.mem_singleton.mp hm, hheld]
  size := by rw [hsize, h.size, Nat.add_mul, Nat.one_mul, Nat.add_assoc]

theorem copies_spec (ht : t.Rooted) (h : t.Leaf template e) (count : Nat) :
    ∃ t' made, copies template count t = (t', made) ∧
      Copies t t' e (t.held template) count made := by
  induction count with
  | zero =>
    exact ⟨t, [], rfl, ht, .refl t, rfl, List.nodup_nil, by simp, by simp, by simp, by simp⟩
  | succ count ih =>
    obtain ⟨t1, made, hcopies, hmade⟩ := ih
    have hsame : t1.held template = t.held template :=
      (hmade.intact.grown hmade.rooted).held ht.linked h.lt_size rfl
    obtain ⟨t2, hcopy, htemplate, hheld, hsize⟩ :=
      copy_eq hmade.rooted (h.intact ht hmade.intact hmade.rooted) count
    rw [hsame] at hheld hsize
    refine ⟨t2, made ++ [t1.size], ?_, hmade.step htemplate hheld hsize⟩
    rw [copies_succ, hcopies]
    simp only [hcopy]

/-- Every parent has got its own copies, counted from 0, and no other node has got any. -/
structure Attached (t t' : Tree) (e : Element) (count : Nat) (parents : List NodeId)
    (fresh : NodeId → List NodeId) : Prop where
  grown : t.Grown fresh t'
  length : ∀ p ∈ parents, (fresh p).length = count
  others : ∀ p, p ∉ parents → fresh p = []
  leaf : ∀ p (i : Nat) m, (fresh p)[i]? = some m → t'.Leaf m { e with repeatIndex := some i }

theorem Attached.exists_leaf {fresh : NodeId → List NodeId} {m : NodeId}
    (h : Attached t t' e count parents fresh) (hm : m ∈ fresh p) : ∃ e', t'.Leaf m e' := by
  obtain ⟨i, hi⟩ := List.getElem?_of_mem hm
  exact ⟨_, h.leaf p i m hi⟩

theorem Attached.fresh_eq_nil {fresh : NodeId → List NodeId}
    (h : Attached t t' e count parents fresh) (helement : ∀ p ∈ parents, t.isElement p = true)
    (p : NodeId) (hp : t.isElement p = false) : fresh p = [] := by
  refine h.others p fun hmem => ?_
  rw [helement p hmem] at hp
  simp at hp

/-- The copies below the parents hold what the template holds, and the store has grown by them and
by what they hold. -/
structure Counted (t t' : Tree) (e : Element) (load : List (Option NodeData)) (count : Nat)
    (parents : List NodeId) (fresh : NodeId → List NodeId) : Prop extends
    Attached t t' e count parents fresh where
  held : ∀ p, ∀ m ∈ fresh p, t'.held m = load
  size : t'.size = t.size + parents.length * count * (1 + load.length)

/-- Attach copies to one parent, behind those that were made before. -/
def attachTo (template : NodeId) (count : Nat) (state : Tree × List NodeId) (parent : NodeId) :
    Tree × List NodeId :=
  let (t, fresh) := copies template count state.1
  (t.appendAll parent fresh, state.2 ++ fresh)

theorem attach_eq : attach template count parents t =
    parents.foldl (attachTo template count) (t, []) := rfl

theorem Counted.one (ht : t.Rooted) (h : t.Leaf template e) (hp : t.isElement p = true)
    (count : Nat) (made : List NodeId) :
    ∃ t' l, attachTo template count (t, made) p = (t', made ++ l) ∧
      Counted t t' e (t.held template) count [p] fun x => if x = p then l else [] := by
  obtain ⟨t1, l, hcopies, hl⟩ := copies_spec ht h count
  have hlt := lt_size_of_isElement hp
  have hgrown := hl.intact.grown_appendAll hl.rooted hlt hl.nodup hl.free
  have hroot : ∀ m ∈ l, m ≠ root ∧ m < t1.size ∧ t1.parent? m = none := by
    intro m hm
    refine ⟨?_, (hl.free m hm).2⟩
    rintro rfl
    exact Nat.not_lt_of_le (hl.free root hm).1 ht.size_pos
  obtain ⟨-, hsize, hdata, -, hchildren⟩ :=
    hl.rooted.appendAll (Nat.lt_of_lt_of_le hlt hl.intact.size_le) hl.nodup hroot
  have hne : ∀ m ∈ l, m ≠ p := fun m hm => Nat.ne_of_gt (Nat.lt_of_lt_of_le hlt (hl.free m hm).1)
  refine ⟨_, l, by rw [attachTo, hcopies], ⟨hgrown, ?_, ?_, ?_⟩, ?_, ?_⟩
  · intro q hq
    rw [List.mem_singleton.mp hq, if_pos rfl, hl.length]
  · intro q hq
    rw [if_neg fun hqp => hq (by rw [hqp]; exact List.mem_singleton_self p)]
  · intro q i m hm
    by_cases hq : q = p
    · rw [if_pos hq] at hm
      have hleaf := hl.leaf i m hm
      refine ⟨(hdata m).trans hleaf.data, fun k hk => ?_⟩
      rw [hchildren, if_neg (hne m (List.mem_of_getElem? hm)), List.append_nil] at hk
      obtain ⟨hnot, hbare⟩ := hleaf.childless k hk
      have hkp : k ≠ p := by
        rintro rfl
        rw [isElement_eq (hl.intact.data k hlt), hp] at hnot
        simp at hnot
      rw [isElement_eq (hdata k), hchildren, if_neg hkp, List.append_nil]
      exact ⟨hnot, hbare⟩
    · simp [hq] at hm
  · intro q m hm
    by_cases hq : q = p
    · rw [if_pos hq] at hm
      rw [← hl.held m hm, Tree.held, Tree.held, hchildren, if_neg (hne m hm), List.append_nil]
      exact List.map_congr_left fun k _ => hdata k
    · simp [hq] at hm
  · rw [hsize, hl.size, List.length_singleton, Nat.one_mul]

/-- What hangs below the first parent is in the tree already when the others get theirs. -/
theorem Attached.not_mem {fresh : NodeId → List NodeId} {m : NodeId}
    (h : Attached t t' e count [p] fresh) (helement : ∀ q ∈ parents, t.isElement q = true)
    (hm : m ∈ fresh p) : m ∉ parents := fun hmem =>
  Nat.not_lt_of_le (h.grown.new p m hm) (lt_size_of_isElement (helement m hmem))

theorem Attached.cons {t1 t2 : Tree} {fresh more : NodeId → List NodeId}
    (hone : Attached t t1 e count [p] fresh) (hrest : Attached t1 t2 e count parents more)
    (hp : p ∉ parents) (helement : ∀ q ∈ parents, t.isElement q = true) :
    Attached t t2 e count (p :: parents) fun x => fresh x ++ more x where
  grown := hone.grown.trans hrest.grown
  length := by
    intro q hq
    rcases List.mem_cons.mp hq with rfl | hq
    · rw [hrest.others q hp, List.append_nil, hone.length q (by simp)]
    · have hqp : q ∉ [p] := by
        rw [List.mem_singleton]
        exact ne_of_mem_of_not_mem hq hp
      rw [hone.others q hqp, List.nil_append, hrest.length q hq]
  others := by
    intro q hq
    rw [List.mem_cons, not_or] at hq
    rw [hone.others q (by simp [hq.1]), hrest.others q hq.2]
    rfl
  leaf := by
    intro q i m hm
    by_cases hq : q = p
    · rw [hq, hrest.others p hp, List.append_nil] at hm
      have hnot : m ∉ parents := hone.not_mem helement (List.mem_of_getElem? hm)
      refine (hone.leaf p i m hm).grown hone.grown.rooted hrest.grown (hrest.others m hnot) ?_
      exact hrest.fresh_eq_nil fun q hq => hone.grown.isElement (helement q hq)
    · rw [hone.others q (by simp [hq]), List.nil_append] at hm
      exact hrest.leaf q i m hm

theorem Counted.cons {t1 t2 : Tree} {fresh more : NodeId → List NodeId}
    (hone : Counted t t1 e load count [p] fresh) (hrest : Counted t1 t2 e load count parents more)
    (hp : p ∉ parents) (helement : ∀ q ∈ parents, t.isElement q = true) :
    Counted t t2 e load count (p :: parents) fun x => fresh x ++ more x where
  toAttached := hone.toAttached.cons hrest.toAttached hp helement
  held := by
    intro q m hm
    rcases List.mem_append.mp hm with hm | hm
    · obtain rfl : q = p := by
        by_contra hq
        rw [hone.others q (by simp [hq])] at hm
        simp at hm
      obtain ⟨e', hleaf⟩ := hone.exists_leaf hm
      rw [← hone.held q m hm]
      exact hrest.grown.held hone.grown.rooted.linked hleaf.lt_size
        (hrest.others m (hone.not_mem helement hm))
    · exact hrest.held q m hm
  size := by
    rw [hrest.size, hone.size, List.length_singleton, List.length_cons, Nat.add_mul, Nat.add_mul,
      Nat.add_assoc, Nat.add_comm (1 * count * _)]

theorem attach_spec (ht : t.Rooted) (h : t.Leaf template e) (hnodup : parents.Nodup)
    (helement : ∀ p ∈ parents, t.isElement p = true) (hnot : template ∉ parents) (count : Nat) :
    ∃ t' fresh, attach template count parents t = (t', parents.flatMap fresh) ∧
      Counted t t' e (t.held template) count parents fresh := by
  suffices hmain : ∀ made, ∃ t' fresh,
      parents.foldl (attachTo template count) (t, made) = (t', made ++ parents.flatMap fresh) ∧
        Counted t t' e (t.held template) count parents fresh by
    simpa [attach_eq] using hmain []
  induction parents generalizing t with
  | nil =>
    intro made
    exact ⟨t, fun _ => [], by simp, ⟨(Intact.refl t).grown ht, by simp, fun _ _ => rfl, by simp⟩,
      by simp, by simp⟩
  | cons p parents ih =>
    intro made
    obtain ⟨hp, hnodup⟩ := List.nodup_cons.mp hnodup
    rw [List.mem_cons, not_or] at hnot
    obtain ⟨t1, l, hto, hone⟩ := Counted.one ht h (helement p (by simp)) count made
    have hnone := hone.others template (by simp [hnot.1])
    have hleaf : t1.Leaf template e := by
      refine h.grown ht hone.grown hnone ?_
      exact hone.fresh_eq_nil fun q hq => by
        rw [List.mem_singleton.mp hq]
        exact helement p (by simp)
    obtain ⟨t2, more, hfold, hrest⟩ := ih hone.grown.rooted hleaf hnodup
      (fun q hq => hone.grown.isElement (helement q (by simp [hq]))) hnot.2 (made ++ l)
    rw [hone.grown.held ht.linked h.lt_size hnone] at hrest
    refine ⟨t2, _, ?_, hone.cons hrest hp fun q hq => helement q (by simp [hq])⟩
    rw [List.foldl_cons, hto, hfold, List.append_assoc, List.flatMap_cons]
    rw [if_pos rfl, hrest.others p hp, List.append_nil]
    congr 3
    refine List.flatMap_congr fun q hq => ?_
    rw [if_neg (ne_of_mem_of_not_mem hq hp), List.nil_append]

end Walk

end Topiary.Synthesis
