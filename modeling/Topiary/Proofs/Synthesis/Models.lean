import Mathlib
import Topiary.Proofs.Synthesis.Likeness

/-!
Models of groups. A tag with ids, classes and exact values asks nothing of what is around an
element. So the element that is built from such a group satisfies it wherever it stands, if any
element at all does; and a group that it does not satisfy is satisfied by none.
-/

namespace Topiary.Synthesis

open Topiary.Tree Topiary.Selector Topiary.Query

variable {t t' : Tree} {x : NodeId} {b : Blueprint} {g : Group} {s : Sequence} {text : String}
  {l : SelectorList}

/-! ## Building as a history -/

theorem reachable_foldl {α : Type} (mutation : α → Mutation)
    (hspares : ∀ a, (mutation a).SparesRoot) (items : List α) (ht : t.Reachable) :
    (items.foldl (fun t a => (mutation a).apply t) t).Reachable := by
  induction items generalizing t with
  | nil => exact ht
  | cons a items ih => exact ih (ht.apply (mutation a) (hspares a))

/-- Building an element is a history of its own. -/
theorem reachable_build (ht : t.Reachable) (b : Blueprint) : (b.build t).1.Reachable := by
  have hmade : (t.createElement b.tag).1.Reachable := ht.apply (.createElement b.tag) trivial
  have hlisted : ∀ {t' : Tree}, t'.Reachable →
      (b.attributes.entries.foldl (fun t' a => t'.setAttribute t.size a.name a.value)
        (b.classes.names.foldl (fun t' name => t'.addClass t.size name) t')).Reachable := by
    intro t' ht'
    apply reachable_foldl (fun (a : Attribute) => .setAttribute t.size a.name a.value)
    · exact fun _ => trivial
    · exact reachable_foldl (fun name => .addClass t.size name) (fun _ => trivial) _ ht'
  obtain ⟨tag, id, classes, attributes, multiplier, skipped⟩ := b
  cases id with
  | none => exact hlisted hmade
  | some id => exact hlisted (hmade.apply (.setId t.size id) trivial)

/-! ## Groups that ask for attributes alone -/

theorem ofGroup_of_ofTag {p : Kind → Prop} (hg : OfTag p g) : ∃ b, Blueprint.ofGroup g = .ok b := by
  obtain ⟨name, source, rest, htokens, -⟩ := hg
  exact ⟨rest.foldl Blueprint.add (.ofTag name), by rw [Blueprint.ofGroup, htokens]⟩

/-- No token of the group counts the siblings of an element. -/
theorem not_builds_position {token : Token} (hg : OfTag IsPlain g) (htoken : token ∈ g.tokens)
    (p : Position) : ¬ Builds token.kind (.position p) := by
  obtain ⟨name, source, rest, htokens, hplain⟩ := hg
  obtain ⟨kind, text⟩ := token
  intro hbuilds
  cases hbuilds with
  | copies hk he ho =>
    rw [htokens] at htoken
    rcases List.mem_cons.mp htoken with heq | hrest
    · simp at heq
    · exact hplain _ hrest

/-- Wherever an element like the built one stands, it satisfies a workable group. -/
theorem Workable.holds_anywhere (h : Workable g) (hg : OfTag IsPlain g)
    (hb : Blueprint.ofGroup g = .ok b) (hx : t.element? x = some b.element) :
    Query.compoundHolds t (compoundOf g) x = true := by
  apply h.compoundHolds hb hx rfl rfl
  intro token htoken k hbuilds
  exact absurd hbuilds (not_builds_position hg htoken _)

/-- The built element below the document node is a connected match. -/
theorem Workable.satisfiable (h : Workable g) (hg : OfTag IsPlain g)
    (hb : Blueprint.ofGroup g = .ok b) (hs : Sequence.parse text = .ok s)
    (hmem : .compound g ∈ s.items) : Satisfiable g := by
  obtain ⟨-, -, -, -, -, -, -, hcompiles⟩ := (hg.mono fun _ => IsPlain.isBuildable).compile
  have hempty := reachable_empty.rooted
  obtain ⟨-, htemplate, -⟩ := Template.build hempty b
  have hne : Tree.empty.size ≠ root := Nat.ne_of_gt hempty.size_pos
  have hreachable := (reachable_build reachable_empty b).apply (.append root Tree.empty.size) hne
  have helement : ((b.build .empty).1.append root Tree.empty.size).element? Tree.empty.size =
      some b.element := by
    rw [element?_congr data?_append]
    exact htemplate.leaf.element?
  have hconnected : ((b.build .empty).1.append root Tree.empty.size).Connected Tree.empty.size := by
    apply connected_root.child
    rw [htemplate.rooted.linked.parent?_append htemplate.rooted.size_pos htemplate.leaf.lt_size,
      if_pos rfl]
  have hfound : Tree.empty.size ∈ SelectorList.select ⟨[complexOf g []]⟩
      ((b.build .empty).1.append root Tree.empty.size) :=
    (mem_select hreachable.rooted).mpr
      ⟨hconnected, matches_group.mpr (h.holds_anywhere hg hb helement)⟩
  obtain ⟨y, ys, hfound⟩ := List.exists_cons_of_ne_nil (List.ne_nil_of_mem hfound)
  refine ⟨_, y, ys, hreachable, ?_⟩
  rw [query_of_parse (parse_group hcompiles hs hmem), ← hfound]
  rfl

/-- What is built from a tag with ids, classes and exact values matches the source of the group if
and only if something does, be it any element of any tree or one that a query finds. -/
theorem build_matches_iff (ht : t.Reachable) (hs : Sequence.parse text = .ok s)
    (hmem : .compound g ∈ s.items) (hg : OfTag IsPlain g) :
    ∃ b l, Blueprint.ofGroup g = .ok b ∧ SelectorList.parse g.source = .ok l ∧
      (l.matches (b.build t).1 (b.build t).2 = true ↔
        ∃ (t' : Tree) (x : NodeId), t'.Reachable ∧ l.matches t' x = true) ∧
      (l.matches (b.build t).1 (b.build t).2 = true ↔
        ∃ (t' : Tree) (x : NodeId) (xs : List NodeId),
          t'.Reachable ∧ t'.query g.source = .ok (x :: xs)) := by
  have hbuildable := hg.mono fun _ => IsPlain.isBuildable
  obtain ⟨-, -, -, -, -, -, -, hcompiles⟩ := hbuildable.compile
  obtain ⟨b, hb⟩ := ofGroup_of_ofTag hg
  have hparse := parse_group hcompiles hs hmem
  have hworkable : ∀ {t' x}, SelectorList.matches ⟨[complexOf g []]⟩ t' x = true → Workable g :=
    fun hmatch => workable_of_holds (matches_group.mp hmatch) hbuildable hs hmem
  obtain ⟨hplace, htemplate, -⟩ := Template.build ht.rooted b
  have hbuilt : Workable g →
      SelectorList.matches ⟨[complexOf g []]⟩ (b.build t).1 (b.build t).2 = true := by
    intro h
    rw [hplace]
    exact matches_group.mpr (h.holds_anywhere hg hb htemplate.leaf.element?)
  refine ⟨b, _, hb, hparse, ⟨?_, ?_⟩, ⟨?_, ?_⟩⟩
  · exact fun hmatch => ⟨_, _, reachable_build ht b, hmatch⟩
  · rintro ⟨t', x, -, hmatch⟩
    exact hbuilt (hworkable hmatch)
  · exact fun hmatch => (hworkable hmatch).satisfiable hg hb hs hmem
  · intro hsatisfiable
    exact hbuilt (Satisfiable.workable hsatisfiable hbuildable hs hmem)

/-- `p#a.b[class="c b"]`, where the value says more than the class. -/
def classedGroup : Group :=
  ⟨[⟨.tag "p", "p"⟩, ⟨.id "a", "#a"⟩, ⟨.className "b", ".b"⟩,
    ⟨.attrValue "class" .equals "c b", "[class=\"c b\"]"⟩]⟩

/-- `p#a#b`, which nothing satisfies, since an element has one id. -/
def twoIdsGroup : Group :=
  ⟨[⟨.tag "p", "p"⟩, ⟨.id "a", "#a"⟩, ⟨.id "b", "#b"⟩]⟩

theorem build_matches_iff_groups : ∃ s : Sequence, Document.skeleton.tree.Reachable ∧
    Sequence.parse "p#a.b[class=\"c b\"] p#a#b" = .ok s ∧
    .compound classedGroup ∈ s.items ∧ .compound twoIdsGroup ∈ s.items ∧
    OfTag IsPlain classedGroup ∧ OfTag IsPlain twoIdsGroup ∧
    (∃ (t' : Tree) (x : NodeId) (xs : List NodeId),
      t'.Reachable ∧ t'.query classedGroup.source = .ok (x :: xs)) ∧
    ¬ ∃ (t' : Tree) (x : NodeId) (xs : List NodeId),
      t'.Reachable ∧ t'.query twoIdsGroup.source = .ok (x :: xs) := by
  have hs : Sequence.parse "p#a.b[class=\"c b\"] p#a#b" = .ok ⟨[.compound classedGroup,
      .combinator ⟨.descendant, " "⟩, .compound twoIdsGroup]⟩ := by cbv
  have hclassed : OfTag IsPlain classedGroup := ⟨_, _, _, rfl, by simp [IsPlain]⟩
  have htwoIds : OfTag IsPlain twoIdsGroup := ⟨_, _, _, rfl, by simp [IsPlain]⟩
  obtain ⟨b, l, hb, hl, -, hiff⟩ := build_matches_iff reachable_skeleton hs (by simp) hclassed
  obtain ⟨b', l', hb', hl', -, hiff'⟩ := build_matches_iff reachable_skeleton hs (by simp) htwoIds
  have hblueprint : Blueprint.ofGroup classedGroup =
      .ok ⟨"p", some "a", ⟨["b"]⟩, Attributes.empty.set "class" "c b", none, []⟩ := by cbv
  have hlist : SelectorList.parse classedGroup.source = .ok ⟨[⟨[⟨some "p", false,
      [.test (.id "a"), .test (.className "b"), .test (.attrValue "class" .equals "c b")]⟩],
      []⟩]⟩ := by cbv
  have hblueprint' : Blueprint.ofGroup twoIdsGroup =
      .ok ⟨"p", some "b", ⟨[]⟩, .empty, none, []⟩ := by cbv
  have hlist' : SelectorList.parse twoIdsGroup.source = .ok ⟨[⟨[⟨some "p", false,
      [.test (.id "a"), .test (.id "b")]⟩], []⟩]⟩ := by cbv
  obtain rfl := Except.ok.inj (hb.symm.trans hblueprint)
  obtain rfl := Except.ok.inj (hl.symm.trans hlist)
  obtain rfl := Except.ok.inj (hb'.symm.trans hblueprint')
  obtain rfl := Except.ok.inj (hl'.symm.trans hlist')
  refine ⟨_, reachable_skeleton, hs, by simp, by simp, hclassed, htwoIds, hiff.mp (by cbv), ?_⟩
  rw [← hiff', Bool.not_eq_true]
  cbv

end Topiary.Synthesis
