import Topiary.Proofs.Query.Chains
import Topiary.Proofs.Synthesis.Steps

/-!
Walks along chains. After the first compound the walk goes round by round: it takes a joint, where
it looks again for what it has or leaves its context alone, and then the compound behind the joint.
-/

namespace Topiary.Synthesis

open Topiary.Tree Topiary.Selector Topiary.Query

variable {limits : Limits} {payload : Payload} {s : Sequence} {text : String} {g head : Group}
  {links : List (Token × Group)} {link : Token × Group} {t t' : Tree} {b b' : Binder}
  {report : Report} {w w' : Walk} {j : Nat} {full : Query.Complex}

namespace Walk

/-- The context is what matches the selector up to a compound. -/
def Finds (w : Walk) (full : Query.Complex) (j : Nat) : Prop :=
  ∀ x, x ∈ w.context ↔ w.tree.Connected x ∧ matchesFrom w.tree full j x = true

theorem joint_ok (hchain : IsChain s head links) (hs : Sequence.parse text = .ok s)
    (hw : w.Sound) (hj : links[j]? = some link)
    (h : w.step limits payload (s.upTo (2 * j + 1)) (.combinator link.1) = .ok w') :
    w'.tree = w.tree ∧ ((jointOf link.1 ≠ .descendant ∧ w'.context = w.context) ∨
      (jointOf link.1 = .descendant ∧ w'.Finds (complexOf head links) j)) := by
  obtain ⟨hlt, -⟩ := List.getElem?_eq_some_iff.mp hj
  obtain ⟨found, hfound, hiff⟩ :=
    hchain.query_compound hs (Nat.le_of_lt hlt) (t := w.tree) hw.rooted
  obtain ⟨hsame, hrefused⟩ := hchain.query_joint hs hj (t := w.tree)
  by_cases hjoint : jointOf link.1 = .descendant
  · have hquery := (hsame hjoint).trans hfound
    rcases step_ok hw h with ⟨cause, herror, -⟩ | ⟨x, xs, hok, rfl⟩ | ⟨hnil, -, rfl⟩ |
      ⟨-, other, hitem, -⟩
    · rw [hquery] at herror
      simp at herror
    · obtain rfl := Except.ok.inj (hquery.symm.trans hok)
      exact ⟨rfl, Or.inr ⟨hjoint, hiff⟩⟩
    · obtain rfl := Except.ok.inj (hquery.symm.trans hnil)
      exact ⟨rfl, Or.inr ⟨hjoint, hiff⟩⟩
    · simp at hitem
  · obtain ⟨cause, hquery⟩ := hrefused hjoint
    rcases step_ok hw h with ⟨-, -, rfl⟩ | ⟨x, xs, hok, -⟩ | ⟨hnil, -⟩ | ⟨hnil, -⟩
    · exact ⟨rfl, Or.inl ⟨hjoint, rfl⟩⟩
    · rw [hquery] at hok
      simp at hok
    · rw [hquery] at hnil
      simp at hnil
    · rw [hquery] at hnil
      simp at hnil

/-- A joint leaves the tree alone, and a context of all matches as well. -/
theorem Finds.joint (h : w.Finds (complexOf head links) j) (hchain : IsChain s head links)
    (hs : Sequence.parse text = .ok s) (hw : w.Sound) (hj : links[j]? = some link)
    (hjoint : w.step limits payload (s.upTo (2 * j + 1)) (.combinator link.1) = .ok w') :
    w'.Sound ∧ w'.tree = w.tree ∧ w'.Finds (complexOf head links) j := by
  obtain ⟨htree, ⟨-, hcontext⟩ | ⟨-, hfinds⟩⟩ := joint_ok hchain hs hw hj hjoint
  · refine ⟨(hw.step hjoint).1, htree, fun x => ?_⟩
    rw [hcontext, htree]
    exact h x
  · exact ⟨(hw.step hjoint).1, htree, hfinds⟩

theorem compound_ok (hchain : IsChain s head links) (hs : Sequence.parse text = .ok s)
    (hw : w.Sound) (hj : j ≤ links.length)
    (h : w.step limits payload (s.upTo (2 * j)) (.compound g) = .ok w') :
    (w'.tree = w.tree ∧ w'.context ≠ [] ∧ w'.Finds (complexOf head links) j) ∨
      ((∀ x, w.tree.Connected x → matchesFrom w.tree (complexOf head links) j x = false) ∧
        ∃ blueprint mark fresh, Built limits g w w' blueprint mark fresh) := by
  obtain ⟨found, hfound, hiff⟩ := hchain.query_compound hs hj (t := w.tree) hw.rooted
  rcases step_ok hw h with ⟨cause, herror, -⟩ | ⟨x, xs, hok, rfl⟩ | ⟨-, ⟨token, hitem⟩, -⟩ |
    ⟨hnil, other, hitem, blueprint, mark, fresh, hbuilt⟩
  · rw [hfound] at herror
    simp at herror
  · obtain rfl := Except.ok.inj (hfound.symm.trans hok)
    exact Or.inl ⟨rfl, List.cons_ne_nil x xs, hiff⟩
  · simp at hitem
  · obtain rfl := Except.ok.inj (hfound.symm.trans hnil)
    obtain rfl := Item.compound.inj hitem
    refine Or.inr ⟨fun x hx => ?_, blueprint, mark, fresh, hbuilt.toBuilt⟩
    have hnot := (hiff x).not.mp (by simp)
    simpa [hx] using hnot

/-- What every round preserves holds after the last one. -/
theorem run_rounds {P : Nat → Walk → Prop}
    (hround : ∀ j link own w w1 w2, links[j]? = some link → P j w →
      w.step limits .absent (s.upTo (2 * j + 1)) (.combinator link.1) = .ok w1 →
      w1.step limits own (s.upTo (2 * (j + 1))) (.compound link.2) = .ok w2 → P (j + 1) w2)
    (hj : j ≤ links.length) (hP : P j w)
    (hrun : run limits payload s (2 * j + 1) w
      ((links.drop j).flatMap fun link => [.combinator link.1, .compound link.2]) = (w', none)) :
    P links.length w' := by
  generalize hrest : links.drop j = rest at hrun
  induction rest generalizing j w with
  | nil =>
    obtain rfl : j = links.length := Nat.le_antisymm hj (List.drop_eq_nil_iff.mp hrest)
    obtain rfl : w = w' := (Prod.mk.inj hrun).1
    exact hP
  | cons link rest ih =>
    have hget : links[j]? = some link := by
      rw [← List.head?_drop, hrest]
      rfl
    have hnext : links.drop (j + 1) = rest := by
      rw [← List.tail_drop, hrest]
      rfl
    rw [List.flatMap_cons] at hrun
    obtain ⟨w1, hjoint, hrun⟩ := run_cons hrun
    obtain ⟨w2, hcompound, hrun⟩ := run_cons hrun
    have hP2 := hround j link _ w w1 w2 hget hP hjoint hcompound
    exact ih (List.getElem?_eq_some_iff.mp hget).1 hP2 hnext hrun

/-- A chain whose first compound matches nothing has no anchor; all else goes by rounds. -/
theorem materialize_rounds {P : Nat → Walk → Prop} (ht : t.Rooted)
    (hchain : IsChain s head links) (hs : Sequence.parse text = .ok s)
    (hstart : ∀ w, w.Sound → w.tree = t → w.context ≠ [] → w.Finds (complexOf head links) 0 → P 0 w)
    (hround : ∀ j link own w w1 w2, links[j]? = some link → P j w →
      w.step limits .absent (s.upTo (2 * j + 1)) (.combinator link.1) = .ok w1 →
      w1.step limits own (s.upTo (2 * (j + 1))) (.compound link.2) = .ok w2 → P (j + 1) w2)
    (h : materialize limits s payload t b = (.ok report, t', b')) :
    ∃ w, w.tree = t' ∧ P links.length w := by
  obtain ⟨w', hrun, -, htree⟩ := materialize_ok h
  rw [hchain.items, chainItems] at hrun
  obtain ⟨w1, hstep, hrun⟩ := run_cons hrun
  have hsound := sound_start (t := t) (b := b) ht
  refine ⟨w', htree, run_rounds hround (Nat.zero_le _) ?_ hrun⟩
  rcases compound_ok hchain hs hsound (j := 0) (Nat.zero_le _) hstep with
    ⟨hsame, hne, hfinds⟩ | ⟨-, blueprint, mark, fresh, hbuilt⟩
  · exact hstart w1 (hsound.step hstep).1 hsame hne hfinds
  · exact absurd rfl hbuilt.anchored

end Walk

end Topiary.Synthesis
