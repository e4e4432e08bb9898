import Topiary.Proofs.Selector.Grouping
import Topiary.Proofs.Synthesis.Accounts
import Topiary.Proofs.Synthesis.Failures
import Topiary.Proofs.Synthesis.Fulfilment

/-!
Tokens that describe nothing. A blueprint sets them aside, and the report of a rule lists them, but
the text up to their compound still asks for them, so a compound that was built need not match. That
does no harm in front of `>`, where the walk keeps to its copies; in front of a blank the walk looks
again for what it has, and where it finds nothing it cannot go on.
-/

namespace Topiary.Synthesis

open Topiary.Tree Topiary.Selector Topiary.Query
open Topiary.Sheet (Rule)

variable {limits : Limits} {payload : Payload} {s : Sequence} {text upTo : String}
  {items rest : List Item} {item : Item} {g head : Group} {links : List (Token × Group)}
  {link : Token × Group} {t t' : Tree} {b b' : Binder} {report : Report} {w w' w1 : Walk}
  {index j k n : Nat} {token : Token} {tokens : List Token} {blueprint : Blueprint}
  {failure : Option SynthesisError} {error : SynthesisError} {name source : String}

/-! ## What a blueprint sets aside -/

/-- Whether a token says what an element looks like. -/
def describes (token : Token) : Bool :=
  match token.kind with
  | .id _ | .className _ | .attrValue _ .equals _ => true
  | _ => false

/-- The tokens that have no part in a blueprint: they describe nothing, and they are not the first
repeat directive, which may have been `seen` already. -/
def idleTokens (seen : Bool) : List Token → List Token
  | [] => []
  | token :: tokens =>
    if describes token then idleTokens seen tokens
    else if !seen && token.multiplier.isSome then idleTokens true tokens
    else token :: idleTokens seen tokens

namespace Blueprint

/-- A token that describes something has no part in what is repeated or set aside. -/
theorem add_of_describes (h : describes token = true) (b : Blueprint) :
    token.multiplier = none ∧ (b.add token).multiplier = b.multiplier ∧
      (b.add token).skipped = b.skipped ∧
      ∀ (first : Option Int) (skipped : List String),
        add { b with multiplier := first, skipped := skipped } token =
          { b.add token with multiplier := first, skipped := skipped } := by
  obtain ⟨kind, source⟩ := token
  cases kind with
  | id name => exact ⟨rfl, rfl, rfl, fun _ _ => rfl⟩
  | className name => exact ⟨rfl, rfl, rfl, fun _ _ => rfl⟩
  | attrValue name relation value =>
    cases relation with
    | equals => exact ⟨rfl, rfl, rfl, fun _ _ => rfl⟩
    | _ => simp [describes] at h
  | _ => simp [describes] at h

theorem add_of_not_describes (h : describes token = false) (b : Blueprint) :
    b.add token = if !b.multiplier.isSome && token.multiplier.isSome then
      { b with multiplier := token.multiplier } else b.skip token := by
  obtain ⟨kind, source⟩ := token
  cases kind with
  | id name => simp [describes] at h
  | className name => simp [describes] at h
  | attrValue name relation value =>
    cases relation with
    | equals => simp [describes] at h
    | _ => simp [add, Token.multiplier]
  | equationCall e =>
    cases hfirst : b.multiplier <;> cases hown : e.multiplier <;>
      simp [add, Token.multiplier, hfirst, hown]
  | _ => simp [add, Token.multiplier]

theorem foldl_of_describes (h : ∀ token ∈ tokens, describes token = true) (b : Blueprint)
    (first : Option Int) (skipped : List String) :
    tokens.foldl add { b with multiplier := first, skipped := skipped } =
      { tokens.foldl add b with multiplier := first, skipped := skipped } := by
  induction tokens generalizing b with
  | nil => rfl
  | cons token tokens ih =>
    obtain ⟨-, -, -, hadd⟩ := add_of_describes (h token (by simp)) b
    rw [List.foldl_cons, List.foldl_cons, hadd]
    exact ih (fun a ha => h a (by simp [ha])) (b.add token)

/-- Only the tokens that describe something and the first repeat directive have a part in a
blueprint; the others are set aside. -/
theorem foldl_add (tokens : List Token) (b : Blueprint) : tokens.foldl add b =
    { (tokens.filter describes).foldl add b with
      multiplier := b.multiplier.or (tokens.findSome? Token.multiplier)
      skipped := b.skipped ++ (idleTokens b.multiplier.isSome tokens).map Token.source } := by
  induction tokens generalizing b with
  | nil => simp [idleTokens]
  | cons token tokens ih =>
    have hfilter : ∀ a ∈ tokens.filter describes, describes a = true := fun a ha =>
      (List.mem_filter.mp ha).2
    rw [List.foldl_cons, ih, idleTokens]
    cases hdescribes : describes token with
    | true =>
      obtain ⟨hnone, hmultiplier, hskipped, -⟩ := add_of_describes hdescribes b
      rw [List.filter_cons_of_pos hdescribes, List.foldl_cons, List.findSome?_cons, hnone,
        hmultiplier, hskipped]
      rfl
    | false =>
      have hadd := add_of_not_describes hdescribes b
      rw [List.filter_cons_of_neg (by simp [hdescribes])]
      cases hfirst : !b.multiplier.isSome && token.multiplier.isSome with
      | true =>
        obtain ⟨hnone, hsome⟩ : b.multiplier = none ∧ token.multiplier.isSome = true := by
          simpa using hfirst
        obtain ⟨count, hcount⟩ := Option.isSome_iff_exists.mp hsome
        have hfold := foldl_of_describes hfilter b (some count) b.skipped
        rw [hfirst, if_pos rfl, hcount] at hadd
        rw [hadd, hfold, List.findSome?_cons, hcount, hnone]
        rfl
      | false =>
        have hfold := foldl_of_describes hfilter b b.multiplier (b.skipped ++ [token.source])
        have hlater : b.multiplier.or ((token :: tokens).findSome? Token.multiplier) =
            b.multiplier.or (tokens.findSome? Token.multiplier) := by
          cases hseen : b.multiplier with
          | some count => rfl
          | none =>
            have hnone : token.multiplier = none := by simpa [hseen] using hfirst
            rw [List.findSome?_cons, hnone]
        rw [hfirst, if_neg Bool.false_ne_true] at hadd
        rw [hadd, skip, hfold, hlater]
        simp

/-- The blueprint of a group that starts with a tag. -/
theorem ofGroup_eq (h : g.tokens = ⟨.tag name, source⟩ :: tokens) :
    ofGroup g = .ok { (tokens.filter describes).foldl add (ofTag name) with
      multiplier := tokens.findSome? Token.multiplier
      skipped := (idleTokens false tokens).map Token.source } := by
  rw [ofGroup, h]
  simp only [foldl_add tokens]
  rfl

end Blueprint

/-! ## Compounds that are a query -/

/-- A tag, followed by tokens that the query language has a filter for. -/
def Supported (g : Group) : Prop :=
  ∃ name source rest, g.tokens = ⟨.tag name, source⟩ :: rest ∧
    ∀ token ∈ rest, ∃ filter, filterOf token = .ok filter

theorem addToken_of_filterOf {filter : Query.Filter} (h : filterOf token = .ok filter)
    (c : Compound Query.Filter) :
    token.isStructural = false ∧ addToken filterOf c token = .ok (c.addTest filter) := by
  obtain ⟨kind, source⟩ := token
  have hadd : ∀ test : Except Unsupported Query.Filter, test = .ok filter →
      test.map c.addTest = .ok (c.addTest filter) := by
    rintro _ rfl
    rfl
  cases kind with
  | id name => exact ⟨rfl, hadd _ h⟩
  | className name => exact ⟨rfl, hadd _ h⟩
  | attrPresence name => exact ⟨rfl, hadd _ h⟩
  | attrValue name relation value => exact ⟨rfl, hadd _ h⟩
  | pseudoClass name => exact ⟨rfl, hadd _ h⟩
  | equationCall e => exact ⟨rfl, hadd _ h⟩
  | call function argument => exact ⟨rfl, hadd _ h⟩
  | quotedCall function argument => exact ⟨rfl, hadd _ h⟩
  | _ => simp [filterOf, Kind.writtenFunction?, testOf, Except.map] at h

theorem exists_addTokens (h : ∀ token ∈ tokens, ∃ filter, filterOf token = .ok filter)
    (c : Compound Query.Filter) : ∃ c', addTokens c tokens = .ok c' := by
  induction tokens generalizing c with
  | nil => exact ⟨c, rfl⟩
  | cons token tokens ih =>
    obtain ⟨filter, hfilter⟩ := h token (by simp)
    rw [addTokens, (addToken_of_filterOf hfilter c).2]
    exact ih (fun a ha => h a (by simp [ha])) (c.addTest filter)

theorem Supported.compiles (h : Supported g) : Compiles g := by
  obtain ⟨name, source, rest, htokens, hrest⟩ := h
  obtain ⟨c, hc⟩ := exists_addTokens hrest { Compound.blank with tag := some (Text.lower name) }
  have hwrites : addTokens .blank g.tokens = .ok c := by
    rw [htokens]
    exact hc
  refine ⟨by simp [htokens], fun token htoken => ?_, by rw [compoundOf, hwrites]⟩
  rw [htokens] at htoken
  rcases List.mem_cons.mp htoken with rfl | htoken
  · rfl
  · obtain ⟨filter, hfilter⟩ := hrest token htoken
    exact (addToken_of_filterOf hfilter .blank).1

/-! ## What a report lists -/

/-- The texts without effect in a compound that is built: its idle tokens, and a repeat directive
outside the limits. -/
def idleNotes (limits : Limits) (g : Group) : List String :=
  (idleTokens false g.tokens.tail).map Token.source ++
    (Walk.multiplier limits (g.tokens.tail.findSome? Token.multiplier)).2

/-- What an item adds to the texts without effect. -/
def notes (limits : Limits) : Item → Outcome → List String
  | .compound g, .synthesized _ => idleNotes limits g
  | _, _ => []

namespace Walk

theorem skipped_prepare (limits : Limits) (payload : Payload) (blueprint : Blueprint) :
    (w.prepare limits payload blueprint).report.skipped = w.report.skipped ++
      (blueprint.skipped ++ (multiplier limits blueprint.multiplier).2) := by
  cases payload <;> simp [prepare, bind, skip]

theorem skipped_synthesize (h : w.synthesize limits payload upTo g = .ok w') :
    w'.report.skipped = w.report.skipped ++ idleNotes limits g := by
  obtain ⟨-, blueprint, hblueprint, rfl⟩ := exists_blueprint h
  have hskipped := skipped_prepare (w := w) limits payload blueprint
  obtain ⟨name, source, tokens, htokens⟩ :
      ∃ name source tokens, g.tokens = ⟨.tag name, source⟩ :: tokens := by
    rw [Blueprint.ofGroup] at hblueprint
    split at hblueprint
    · exact ⟨_, _, _, ‹_›⟩
    · simp at hblueprint
  obtain rfl := Except.ok.inj ((Blueprint.ofGroup_eq htokens).symm.trans hblueprint)
  rw [idleNotes, htokens]
  exact hskipped

/-- A step adds to the texts without effect only if it builds something. -/
theorem step_noted (h : w.step limits payload upTo item = .ok w') :
    ∃ outcome, w'.report.steps = w.report.steps ++ [⟨upTo, outcome⟩] ∧
      w'.report.skipped = w.report.skipped ++ notes limits item outcome := by
  rcases step_cases limits upTo item w with ⟨context, outcome, hidle, hstep⟩ |
    ⟨-, g, rfl, hstep⟩ <;> rw [hstep] at h
  · obtain rfl := Except.ok.inj h
    refine ⟨outcome, rfl, ?_⟩
    rcases hidle with hidle | ⟨rfl, -⟩
    · cases outcome <;> cases item <;> first | exact (List.append_nil _).symm | exact hidle.elim
    · cases item <;> exact (List.append_nil _).symm
  · exact ⟨_, (report_synthesize h).1, skipped_synthesize h⟩

theorem run_noted (h : run limits payload s index w items = (w', none)) :
    ∃ steps, w'.report.steps = w.report.steps ++ steps ∧
      w'.report.skipped = w.report.skipped ++
        (items.zip steps).flatMap fun entry => notes limits entry.1 entry.2.outcome := by
  induction items generalizing w index with
  | nil =>
    obtain ⟨rfl, -⟩ := Prod.mk.inj h
    exact ⟨[], by simp, by simp⟩
  | cons item items ih =>
    obtain ⟨w1, hstep, hrun⟩ := run_cons h
    obtain ⟨outcome, hsteps, hskipped⟩ := step_noted hstep
    obtain ⟨steps, hsteps', hskipped'⟩ := ih hrun
    refine ⟨⟨s.upTo index, outcome⟩ :: steps, ?_, ?_⟩
    · rw [hsteps', hsteps, List.append_assoc, List.singleton_append]
    · rw [hskipped', hskipped, List.append_assoc, List.zip_cons_cons, List.flatMap_cons]

/-! ## Selectors cut short -/

/-- A walk looks at its selector only through the texts up to its items. -/
theorem run_congr {s' : Sequence}
    (h : ∀ i < items.length, s'.upTo (index + i) = s.upTo (index + i)) (w : Walk) :
    run limits payload s' index w items = run limits payload s index w items := by
  induction items generalizing w index with
  | nil => rfl
  | cons item items ih =>
    have hfirst : s'.upTo index = s.upTo index := h 0 (by simp)
    have hrest : ∀ i < items.length, s'.upTo (index + 1 + i) = s.upTo (index + 1 + i) := by
      intro i hi
      rw [Nat.add_assoc, Nat.add_comm 1 i]
      exact h (i + 1) (by simpa using hi)
    rw [run, run, hfirst]
    simp only [ih hrest]

end Walk

theorem upTo_take (hj : j < n) : (⟨s.items.take n⟩ : Sequence).upTo j = s.upTo j := by
  rw [Sequence.upTo, Sequence.upTo, List.take_take, Nat.min_eq_left hj]

/-- A selector cut behind an item is walked as the whole selector is up to there. -/
theorem materialize_take_iff :
    (∃ report, materialize limits ⟨s.items.take n⟩ payload t b = (.ok report, t', b')) ↔
      ∃ w, Walk.run limits payload s 0 ⟨t, b, [], .empty⟩ (s.items.take n) = (w, none) ∧
        w.tree = t' ∧ w.binder = b' := by
  have hsame : ∀ i < (s.items.take n).length,
      (⟨s.items.take n⟩ : Sequence).upTo (0 + i) = s.upTo (0 + i) := by
    intro i hi
    rw [List.length_take] at hi
    exact upTo_take (by omega)
  rw [materialize, Walk.run_congr hsame]
  cases Walk.run limits payload s 0 ⟨t, b, [], .empty⟩ (s.items.take n) with
  | mk w failure => cases failure <;> simp

/-! ## Rounds that cannot go on -/

/-- The compounds up to place `k` can be made true, but then the text up to there matches nothing,
and what follows is a blank. -/
structure Loses (limits : Limits) (s : Sequence) (links : List (Token × Group)) (t : Tree)
    (b : Binder) (k : Nat) (link : Token × Group) (t' : Tree) (b' : Binder) : Prop where
  place : links[k]? = some link
  blank : link.1.kind = .descendant
  made : ∃ report, materialize limits ⟨s.items.take (2 * k + 1)⟩ .absent t b = (.ok report, t', b')
  lost : t'.query (s.upTo (2 * k)) = .ok []

/-- A text without matches has none either when it goes on. -/
theorem query_eq_nil_of_le (hchain : IsChain s head links) (hs : Sequence.parse text = .ok s)
    (ht : t.Rooted) (hle : k ≤ j) (hj : j ≤ links.length)
    (h : t.query (s.upTo (2 * k)) = .ok []) : t.query (s.upTo (2 * j)) = .ok [] := by
  rw [hchain.query_eq_nil_iff hs (Nat.le_trans hle hj) ht] at h
  refine (hchain.query_eq_nil_iff hs hj ht).mpr fun x hx => ?_
  by_contra hmatch
  obtain ⟨y, hy, hfound⟩ := exists_matchesFrom_of_le ht hx (by simpa using hmatch) hle
  rw [h y hy] at hfound
  simp at hfound

theorem jointOf_eq_descendant_iff (hkind : token.kind = .child ∨ token.kind = .descendant) :
    jointOf token = .descendant ↔ token.kind = .descendant := by
  rw [jointOf]
  rcases hkind with hkind | hkind <;> simp [hkind, combinatorOf?]

namespace Walk

theorem step_combinator (limits : Limits) (payload : Payload) (upTo : String) (token : Token)
    (w : Walk) : ∃ w', w.step limits payload upTo (.combinator token) = .ok w' := by
  have hmet : ∀ g, Item.combinator token = .compound g → w.tree.query upTo ≠ .ok [] := by simp
  obtain ⟨context, outcome, hstep, -⟩ := step_of_met limits payload hmet
  exact ⟨_, hstep⟩

theorem Built.context_ne_nil {mark : Option Correlation} {fresh : NodeId → List NodeId}
    (h : Built limits g w w' blueprint mark fresh) : w'.context ≠ [] := by
  have hlength := h.length_context
  have hpositive := Nat.mul_pos (List.length_pos_iff.mpr h.anchored)
    (one_le_multiplier limits blueprint.multiplier)
  rw [← hlength] at hpositive
  exact List.ne_nil_of_length_pos hpositive

theorem Finds.context_eq_nil_iff (h : w.Finds (complexOf head links) j)
    (hchain : IsChain s head links) (hs : Sequence.parse text = .ok s) (hw : w.Sound)
    (hj : j ≤ links.length) : w.context = [] ↔ w.tree.query (s.upTo (2 * j)) = .ok [] := by
  rw [hchain.query_eq_nil_iff hs hj hw.rooted, List.eq_nil_iff_forall_not_mem]
  refine forall_congr' fun x => ?_
  rw [h x, not_and, Bool.not_eq_true]

/-- Where there is somewhere to attach copies, a compound that starts with a tag is no hindrance. -/
theorem compound_of_context (limits : Limits) (payload : Payload) (hchain : IsChain s head links)
    (hs : Sequence.parse text = .ok s) (hw : w.Sound) (hj : j ≤ links.length) (hg : Supported g)
    (hne : w.context ≠ []) :
    ∃ w', w.step limits payload (s.upTo (2 * j)) (.compound g) = .ok w' ∧ w'.Sound ∧
      w'.context ≠ [] := by
  obtain ⟨found, hfound, -⟩ := hchain.query_compound hs hj (t := w.tree) hw.rooted
  obtain ⟨w', hstep⟩ :
      ∃ w', w.step limits payload (s.upTo (2 * j)) (.compound g) = .ok w' := by
    obtain ⟨name, source, rest, htokens, -⟩ := hg
    cases found with
    | cons x xs => exact ⟨_, step_of_found limits payload _ hfound⟩
    | nil =>
      rw [step_of_missing limits payload g hfound, synthesize_eq, if_neg (by simpa using hne),
        Blueprint.ofGroup_eq htokens]
      exact ⟨_, rfl⟩
  refine ⟨w', hstep, (hw.step hstep).1, ?_⟩
  rcases compound_ok hchain hs hw hj hstep with ⟨-, hne', -⟩ | ⟨-, blueprint, mark, fresh, hbuilt⟩
  · exact hne'
  · exact hbuilt.context_ne_nil

/-- A compound that matches nothing has no anchor where the context is empty. -/
theorem compound_of_nil (hquery : w.tree.query upTo = .ok []) (hnil : w.context = []) :
    w.step limits payload upTo (.compound g) = .error (.anchor g.source) := by
  rw [step_of_missing limits payload g hquery, synthesize_eq, hnil]
  rfl

end Walk

/-! ## Chains that start with a match -/

/-- A chain of supported compounds along `>` and blanks, whose first compound matches something. -/
structure Rising (s : Sequence) (text : String) (head : Group) (links : List (Token × Group))
    (t : Tree) : Prop where
  rooted : t.Rooted
  parsed : Sequence.parse text = .ok s
  chain : IsChain s head links
  kinds : ∀ link ∈ links, link.1.kind = .child ∨ link.1.kind = .descendant
  groups : ∀ link ∈ links, Supported link.2
  first : ∃ x xs, t.query (s.upTo 0) = .ok (x :: xs)

theorem chainItems_append (head : Group) (links more : List (Token × Group)) :
    chainItems head (links ++ more) = chainItems head links ++
      more.flatMap fun link => [.combinator link.1, .compound link.2] := by
  rw [chainItems, chainItems, List.flatMap_append, List.cons_append]

theorem chainItems_split (head : Group) (hk : links[k]? = some link) :
    ∃ rest, chainItems head links = chainItems head (links.take k) ++
      ([.combinator link.1, .compound link.2] ++ rest) := by
  obtain ⟨hlt, hlink⟩ := List.getElem?_eq_some_iff.mp hk
  have hdrop : links.drop k = link :: links.drop (k + 1) := by
    rw [List.drop_eq_getElem_cons hlt, hlink]
  refine ⟨(links.drop (k + 1)).flatMap fun link => [.combinator link.1, .compound link.2], ?_⟩
  conv_lhs => rw [← List.take_append_drop k links, hdrop, chainItems_append, List.flatMap_cons]

theorem length_chainItems_take (hj : j ≤ links.length) :
    (chainItems head (links.take j)).length = 2 * j + 1 := by
  simp [chainItems, List.length_flatMap, hj, Nat.mul_comm]

namespace Rising

theorem of_items (ht : t.Rooted) (hs : Sequence.parse text = .ok s)
    (hitems : s.items = chainItems head links)
    (hkinds : ∀ link ∈ links, link.1.kind = .child ∨ link.1.kind = .descendant)
    (hgroups : ∀ g ∈ head :: links.map Prod.snd, Supported g) {x : NodeId} {xs : List NodeId}
    (hfirst : t.query (s.upTo 0) = .ok (x :: xs)) : Rising s text head links t := by
  refine ⟨ht, hs, ⟨hitems, fun link hlink => ?_, fun g hg => (hgroups g hg).compiles⟩, hkinds,
    fun link hlink => ?_, x, xs, hfirst⟩
  · exact (isDownward_jointOf (hkinds link hlink)).1
  · exact hgroups link.2 (List.mem_cons_of_mem _ (List.mem_map_of_mem hlink))

/-- From a context that is not empty a round goes on to one that is not empty, unless it starts with
a blank behind a text without matches. -/
theorem round (h : Rising s text head links t) (hj : links[j]? = some link) (hw : w.Sound)
    (hne : w.context ≠ [])
    (hrun : Walk.run limits payload s (2 * j + 1) w [.combinator link.1, .compound link.2] =
      (w', failure)) :
    (failure = none ∧ w'.Sound ∧ w'.context ≠ [] ∧
        (link.1.kind = .descendant → w.tree.query (s.upTo (2 * j)) ≠ .ok [])) ∨
      failure = some (.anchor link.2.source) ∧ w'.tree = w.tree ∧ w'.binder = w.binder ∧
        link.1.kind = .descendant ∧ w.tree.query (s.upTo (2 * j)) = .ok [] := by
  have hkind := h.kinds link (List.mem_of_getElem? hj)
  have hlt : j + 1 ≤ links.length := (List.getElem?_eq_some_iff.mp hj).1
  obtain ⟨w1, hjoint⟩ := Walk.step_combinator limits .absent (s.upTo (2 * j + 1)) link.1 w
  have hw1 := (hw.step hjoint).1
  have hbinder := Walk.binder_step hjoint
  obtain ⟨htree, hcontext⟩ := Walk.joint_ok h.chain h.parsed hw hj hjoint
  rw [jointOf_eq_descendant_iff hkind, ne_eq, jointOf_eq_descendant_iff hkind] at hcontext
  have hrest : Walk.run limits payload s (2 * j + 1) w [.combinator link.1, .compound link.2] =
      Walk.run limits payload s (2 * (j + 1)) w1 [.compound link.2] := by
    rw [Walk.run]
    simp only [List.isEmpty_cons, Bool.false_eq_true, if_false, hjoint]
    rfl
  rw [hrest, Walk.run] at hrun
  simp only [List.isEmpty_nil, if_true] at hrun
  have hlost : link.1.kind = .descendant →
      (w1.context = [] ↔ w.tree.query (s.upTo (2 * j)) = .ok []) := by
    intro hblank
    obtain ⟨-, hfinds⟩ := hcontext.resolve_left fun h => h.1 hblank
    rw [← htree]
    exact hfinds.context_eq_nil_iff h.chain h.parsed hw1 (Nat.le_of_succ_le hlt)
  by_cases hnil : w1.context = []
  · -- the blank has found nothing, so one compound further nothing matches either
    have hblank : link.1.kind = .descendant :=
      (hcontext.resolve_left fun h => hne (h.2.symm.trans hnil)).1
    have hnone := (hlost hblank).mp hnil
    have hnext : w1.tree.query (s.upTo (2 * (j + 1))) = .ok [] := by
      rw [← htree] at hnone
      exact query_eq_nil_of_le h.chain h.parsed hw1.rooted (Nat.le_succ j) hlt hnone
    rw [Walk.compound_of_nil hnext hnil] at hrun
    obtain ⟨rfl, rfl⟩ := Prod.mk.inj hrun
    exact Or.inr ⟨rfl, htree, hbinder, hblank, hnone⟩
  · obtain ⟨w2, hstep, hsound, hne2⟩ := Walk.compound_of_context limits payload
      h.chain h.parsed hw1 hlt (h.groups link (List.mem_of_getElem? hj)) hnil
    simp only [hstep, Walk.run] at hrun
    obtain ⟨rfl, rfl⟩ := Prod.mk.inj hrun
    exact Or.inl ⟨rfl, hsound, hne2, fun hblank hnone => hnil ((hlost hblank).mpr hnone)⟩

/-- A walk comes through to a compound with a context that is not empty, or it has lost its matches
behind an earlier one. -/
theorem run_upTo (h : Rising s text head links t) (hj : j ≤ links.length)
    (hrun : Walk.run limits payload s 0 ⟨t, b, [], .empty⟩ (chainItems head (links.take j)) =
      (w', failure)) :
    (failure = none ∧ w'.Sound ∧ w'.context ≠ []) ∨
      ∃ k link, failure = some (.anchor link.2.source) ∧
        Loses limits s links t b k link w'.tree w'.binder := by
  induction j generalizing payload w' failure with
  | zero =>
    obtain ⟨x, xs, hquery⟩ := h.first
    have hstep : Walk.step limits payload (s.upTo 0) (.compound head) ⟨t, b, [], .empty⟩ =
        .ok (Walk.goOn ⟨t, b, [], .empty⟩ (x :: xs) [⟨s.upTo 0, .matched (xs.length + 1)⟩]) :=
      Walk.step_of_found limits payload _ hquery
    have hsound := ((Walk.sound_start h.rooted).step hstep).1
    rw [List.take_zero, chainItems, List.flatMap_nil, Walk.run] at hrun
    simp only [List.isEmpty_nil, if_true, hstep, Walk.run] at hrun
    obtain ⟨rfl, rfl⟩ := Prod.mk.inj hrun
    exact Or.inl ⟨rfl, hsound, List.cons_ne_nil x xs⟩
  | succ j ih =>
    obtain ⟨link, hlink⟩ : ∃ link, links[j]? = some link := ⟨_, List.getElem?_eq_getElem hj⟩
    rw [List.take_add_one, hlink, Option.toList_some, chainItems_append, List.flatMap_singleton,
      Walk.run_append (List.cons_ne_nil _ _), Nat.zero_add,
      length_chainItems_take (Nat.le_of_succ_le hj)] at hrun
    cases hbefore : Walk.run limits .absent s 0 ⟨t, b, [], .empty⟩
      (chainItems head (links.take j)) with
    | mk w before =>
      rw [hbefore] at hrun
      rcases ih (Nat.le_of_succ_le hj) hbefore with ⟨rfl, hsound, hne⟩ | ⟨k, earlier, rfl, hloses⟩
      · rcases h.round hlink hsound hne hrun with ⟨rfl, hsound', hne', -⟩ |
          ⟨rfl, htree, hbinder, hblank, hlost⟩
        · exact Or.inl ⟨rfl, hsound', hne'⟩
        · refine Or.inr ⟨j, link, rfl, hlink, hblank, ?_, by rw [htree]; exact hlost⟩
          rw [materialize_take_iff, h.chain.items, take_chainItems, htree, hbinder]
          exact ⟨w, hbefore, rfl, rfl⟩
      · obtain ⟨rfl, rfl⟩ := Prod.mk.inj hrun
        exact Or.inr ⟨k, earlier, rfl, hloses⟩

/-- Behind a compound that has lost its matches a blank leaves nowhere to attach the next one. -/
theorem materialize_of_loses (h : Rising s text head links t)
    (hloses : Loses limits s links t b k link t' b') (payload : Payload) :
    materialize limits s payload t b = (.error (.anchor link.2.source), t', b') := by
  obtain ⟨hlink, hblank, hmade, hlost⟩ := hloses
  have hk : k < links.length := (List.getElem?_eq_some_iff.mp hlink).1
  rw [materialize_take_iff, h.chain.items, take_chainItems] at hmade
  obtain ⟨w, hbefore, rfl, rfl⟩ := hmade
  obtain ⟨hsound, hne⟩ : w.Sound ∧ w.context ≠ [] := by
    rcases h.run_upTo (Nat.le_of_lt hk) hbefore with ⟨-, hsound, hne⟩ | ⟨_, _, hnone, -⟩
    · exact ⟨hsound, hne⟩
    · simp at hnone
  have hround : ∀ own, ∃ w', Walk.run limits own s (2 * k + 1) w
      [.combinator link.1, .compound link.2] = (w', some (.anchor link.2.source)) ∧
        w'.tree = w.tree ∧ w'.binder = w.binder := by
    intro own
    cases hrun : Walk.run limits own s (2 * k + 1) w [.combinator link.1, .compound link.2] with
    | mk w' failure =>
      rcases h.round hlink hsound hne hrun with ⟨-, -, -, hmet⟩ | ⟨rfl, htree, hbinder, -, -⟩
      · exact absurd hlost (hmet hblank)
      · exact ⟨w', rfl, htree, hbinder⟩
  obtain ⟨w', hrun, htree, hbinder⟩ : ∃ w', Walk.run limits payload s 0 ⟨t, b, [], .empty⟩ s.items =
      (w', some (.anchor link.2.source)) ∧ w'.tree = w.tree ∧ w'.binder = w.binder := by
    obtain ⟨rest, hrest⟩ := chainItems_split head hlink
    rw [h.chain.items, hrest, Walk.run_append (by simp), hbefore,
      length_chainItems_take (Nat.le_of_lt hk), Nat.zero_add]
    -- only the last round of a selector has the content
    cases rest with
    | nil => exact hround payload
    | cons item items =>
      obtain ⟨w', hrun, hkept⟩ := hround .absent
      refine ⟨w', ?_, hkept⟩
      simp only [Walk.run_append (List.cons_ne_nil item items), hrun]
  rw [materialize, hrun, ← htree, ← hbinder]

theorem materialize_iff (h : Rising s text head links t) :
    materialize limits s payload t b = (.error error, t', b') ↔
      ∃ k link, error = .anchor link.2.source ∧ Loses limits s links t b k link t' b' := by
  constructor
  · intro hfails
    cases hrun : Walk.run limits payload s 0 ⟨t, b, [], .empty⟩ s.items with
    | mk w failure =>
      have hall := hrun
      rw [h.chain.items, ← List.take_length (l := links)] at hall
      rw [materialize, hrun] at hfails
      rcases h.run_upTo (Nat.le_refl _) hall with ⟨rfl, -, -⟩ | ⟨k, link, rfl, hloses⟩
      · simp at hfails
      · obtain ⟨hcause, hstate⟩ := Prod.mk.inj hfails
        obtain ⟨rfl, rfl⟩ := Prod.mk.inj hstate
        exact ⟨k, link, (Except.error.inj hcause).symm, hloses⟩
  · rintro ⟨k, link, rfl, hloses⟩
    exact h.materialize_of_loses hloses payload

end Rising

/-! ## What can be lost -/

/-- What a blueprint carries out is there once it is built. So where matches are lost, some group up
to there has a token that no blueprint carries out, or asks for what no element is. -/
theorem Loses.exists_not_buildable (h : Loses limits s links t b k link t' b') (ht : t.Rooted)
    (hs : Sequence.parse text = .ok s) (hitems : s.items = chainItems head links)
    (hkinds : ∀ link ∈ links, link.1.kind = .child ∨ link.1.kind = .descendant) :
    ∃ g ∈ head :: (links.take k).map Prod.snd, ¬ (OfTag IsBuildable g ∧ Satisfiable g) := by
  by_contra hnone
  have hgroups : ∀ g ∈ head :: (links.take k).map Prod.snd,
      OfTag IsBuildable g ∧ Satisfiable g := by
    intro g hg
    by_contra hnot
    exact hnone ⟨g, hg, hnot⟩
  obtain ⟨report, hmade⟩ := h.made
  have hparse : Sequence.parse (Rule.mk (s.upTo (2 * k)) none).selector =
      .ok ⟨s.items.take (2 * k + 1)⟩ := Sequence.parse_upTo hs (2 * k)
  have hbefore : (⟨s.items.take (2 * k + 1)⟩ : Sequence).items =
      chainItems head (links.take k) := by
    rw [hitems, take_chainItems]
  obtain ⟨e, rfl, rfl⟩ : ∃ e : Engine, e.settings.limits = limits ∧ e.binder = b :=
    ⟨⟨⟨limits.maxMultiplier, 0, 0, "", none⟩, .ofAnswers fun _ => .failed, b⟩, rfl, rfl⟩
  have happlied : e.applyRule t ⟨s.upTo (2 * k), none⟩ =
      (.ok report, { e with binder := b' }, t') :=
    (Engine.applyRule_ok_iff hparse).mpr ⟨hmade, rfl, rfl⟩
  obtain ⟨-, -, x, xs, hquery : t'.query (s.upTo (2 * k)) = .ok (x :: xs)⟩ :=
    Engine.query_applyRule ht hparse hbefore
      (fun link hlink => hkinds link (List.mem_of_mem_take hlink)) hgroups happlied
  rw [h.lost] at hquery
  simp at hquery

/-! ## Rules with tokens that are set aside -/

theorem skipped_of_materialize (h : materialize limits s payload t b = (.ok report, t', b')) :
    report.skipped =
      (s.items.zip report.steps).flatMap fun entry => notes limits entry.1 entry.2.outcome := by
  obtain ⟨w, hrun, rfl, -⟩ := materialize_ok h
  obtain ⟨steps, hsteps, hskipped⟩ := Walk.run_noted hrun
  rw [hskipped, hsteps]
  rfl

/-- A chain along `>` and blanks whose first compound matches something is made true, unless a blank
follows a compound that was made true and does not match: then there is nothing to attach the next
compound to, and some compound up to there asks for more than a blueprint carries out. What has no
part in a blueprint is listed in the report, compound by compound. -/
theorem materialize_ok_iff (ht : t.Reachable) (hs : Sequence.parse text = .ok s)
    (hitems : s.items = chainItems head links)
    (hkinds : ∀ link ∈ links, link.1.kind = .child ∨ link.1.kind = .descendant)
    (hgroups : ∀ g ∈ head :: links.map Prod.snd, Supported g) {x : NodeId} {xs : List NodeId}
    (hfirst : t.query (s.upTo 0) = .ok (x :: xs)) (limits : Limits) (payload : Payload)
    (b : Binder) :
    ((∃ report t' b', materialize limits s payload t b = (.ok report, t', b')) ↔
        ∀ k link t' b', ¬ Loses limits s links t b k link t' b') ∧
      (∀ error t' b', materialize limits s payload t b = (.error error, t', b') ↔
        ∃ k link, error = .anchor link.2.source ∧ Loses limits s links t b k link t' b') ∧
      (∀ k link t' b', Loses limits s links t b k link t' b' →
        ∃ g ∈ head :: (links.take k).map Prod.snd, ¬ (OfTag IsBuildable g ∧ Satisfiable g)) ∧
      (∀ report t' b', materialize limits s payload t b = (.ok report, t', b') →
        report.skipped = (s.items.zip report.steps).flatMap fun entry =>
          notes limits entry.1 entry.2.outcome) ∧
      ∀ g ∈ head :: links.map Prod.snd, ∃ name source tokens,
        g.tokens = ⟨.tag name, source⟩ :: tokens ∧
          Blueprint.ofGroup g = .ok
            { (tokens.filter describes).foldl Blueprint.add (.ofTag name) with
              multiplier := tokens.findSome? Token.multiplier
              skipped := (idleTokens false tokens).map Token.source } := by
  have hrising := Rising.of_items ht.rooted hs hitems hkinds hgroups hfirst
  refine ⟨?_, fun error t' b' => hrising.materialize_iff, fun k link t' b' hloses =>
    hloses.exists_not_buildable ht.rooted hs hitems hkinds, fun report t' b' h =>
    skipped_of_materialize h, fun g hg => ?_⟩
  · constructor
    · rintro ⟨report, t', b', hok⟩ k link t1 b1 hloses
      rw [hrising.materialize_of_loses hloses payload] at hok
      simp at hok
    · intro hnever
      rcases hmade : materialize limits s payload t b with ⟨error | report, t', b'⟩
      · obtain ⟨k, link, -, hloses⟩ := hrising.materialize_iff.mp hmade
        exact absurd hloses (hnever k link t' b')
      · exact ⟨report, t', b', rfl⟩
  · obtain ⟨name, source, tokens, htokens, -⟩ := hgroups g hg
    exact ⟨name, source, tokens, htokens, Blueprint.ofGroup_eq htokens⟩

theorem supported_of_tag (name source : String) : Supported ⟨[⟨.tag name, source⟩]⟩ :=
  ⟨name, source, [], rfl, by simp⟩

theorem supported_of_pseudoClass {test : Test} {state : String}
    (h : keywordTest? state = some test) (name source colon : String) :
    Supported ⟨[⟨.tag name, source⟩, ⟨.pseudoClass state, colon⟩]⟩ := by
  refine ⟨name, source, _, rfl, fun token htoken => ⟨.test test, ?_⟩⟩
  obtain rfl := List.mem_singleton.mp htoken
  simp [filterOf, Kind.writtenFunction?, testOf, h, Except.map]

/-- The group `body`, which a bare document matches. -/
def anchorGroup : Group := ⟨[⟨.tag "body", "body"⟩]⟩

/-- What follows `body` in the selector `body p:first-child a:hover`. -/
def firstLinks : List (Token × Group) :=
  [(⟨.descendant, " "⟩, ⟨[⟨.tag "p", "p"⟩, ⟨.pseudoClass "first-child", ":first-child"⟩]⟩),
    (⟨.descendant, " "⟩, ⟨[⟨.tag "a", "a"⟩, ⟨.pseudoClass "hover", ":hover"⟩]⟩)]

theorem supported_firstLinks : ∀ g ∈ anchorGroup :: firstLinks.map Prod.snd, Supported g := by
  have hfirst : keywordTest? "first-child" = some .firstChild := by decide
  have hhover : keywordTest? "hover" = some .never := by decide
  have hp := supported_of_pseudoClass hfirst "p" "p" ":first-child"
  have ha := supported_of_pseudoClass hhover "a" "a" ":hover"
  have hbody := supported_of_tag "body" "body"
  simp [firstLinks, anchorGroup, hp, ha, hbody]

/-- What comes of `body p:first-child a:hover` in a bare document. -/
def firstMade : Except SynthesisError Report × Tree × Binder :=
  materialize ⟨9⟩ ⟨chainItems anchorGroup firstLinks⟩ .absent Document.skeleton.tree .empty

theorem materialize_ok_iff_skeleton :
    Sequence.parse "body p:first-child a:hover" = .ok ⟨chainItems anchorGroup firstLinks⟩ ∧
      (∃ report t' b', firstMade = (.ok report, t', b') ∧
        report.skipped = [":first-child", ":hover"]) ∧
      ∀ k link t' b', ¬ Loses ⟨9⟩ ⟨chainItems anchorGroup firstLinks⟩ firstLinks
        Document.skeleton.tree .empty k link t' b' := by
  have hs : Sequence.parse "body p:first-child a:hover" =
      .ok ⟨chainItems anchorGroup firstLinks⟩ := by cbv
  have hquery : Document.skeleton.tree.query
      ((⟨chainItems anchorGroup firstLinks⟩ : Sequence).upTo 0) = .ok [3] := by cbv
  obtain ⟨hok, -, -, hskipped, -⟩ := materialize_ok_iff reachable_skeleton hs rfl (by decide)
    supported_firstLinks hquery ⟨9⟩ .absent .empty
  have hmade : firstMade.1 = .ok ⟨[⟨"body", .matched 1⟩, ⟨"body ", .matched 1⟩,
      ⟨"body p:first-child", .synthesized 1⟩, ⟨"body p:first-child ", .matched 1⟩,
      ⟨"body p:first-child a:hover", .synthesized 1⟩], 2, [":first-child", ":hover"], none,
      false⟩ := by cbv
  obtain ⟨t', b', hfirst⟩ := exists_of_fst hmade
  exact ⟨hs, ⟨_, t', b', hfirst, hskipped _ t' b' hfirst⟩, hok.mp ⟨_, t', b', hfirst⟩⟩

/-- What follows `body` in the selector `body p:hover a`. -/
def hoverLinks : List (Token × Group) :=
  [(⟨.descendant, " "⟩, ⟨[⟨.tag "p", "p"⟩, ⟨.pseudoClass "hover", ":hover"⟩]⟩),
    (⟨.descendant, " "⟩, ⟨[⟨.tag "a", "a"⟩]⟩)]

/-- The `p` that is built is hovered over by nobody, so the blank behind it finds nothing. -/
theorem not_materialize_ok_of_hover :
    ¬ ∀ {t : Tree} {text : String} {s : Sequence} {head : Group} {links : List (Token × Group)}
      {x : NodeId} {xs : List NodeId} (limits : Limits) (payload : Payload) (b : Binder),
      t.Reachable → Sequence.parse text = .ok s → s.items = chainItems head links →
      (∀ link ∈ links, link.1.kind = .child ∨ link.1.kind = .descendant) →
      (∀ g ∈ head :: links.map Prod.snd, Supported g) →
      t.query (s.upTo 0) = .ok (x :: xs) →
        ∃ report t' b', materialize limits s payload t b = (.ok report, t', b') := by
  intro hall
  have hs : Sequence.parse "body p:hover a" = .ok ⟨chainItems anchorGroup hoverLinks⟩ := by cbv
  have hquery : Document.skeleton.tree.query
      ((⟨chainItems anchorGroup hoverLinks⟩ : Sequence).upTo 0) = .ok [3] := by cbv
  have hgroups : ∀ g ∈ anchorGroup :: hoverLinks.map Prod.snd, Supported g := by
    have hhover : keywordTest? "hover" = some .never := by decide
    have hp := supported_of_pseudoClass hhover "p" "p" ":hover"
    have ha := supported_of_tag "a" "a"
    have hbody := supported_of_tag "body" "body"
    simp [hoverLinks, anchorGroup, hp, ha, hbody]
  obtain ⟨report, t', b', hok⟩ :=
    hall ⟨9⟩ .absent .empty reachable_skeleton hs rfl (by decide) hgroups hquery
  have hfails : (materialize ⟨9⟩ ⟨chainItems anchorGroup hoverLinks⟩ .absent
      Document.skeleton.tree .empty).1 = .error (.anchor "a") := by cbv
  rw [hok] at hfails
  simp at hfails

end Topiary.Synthesis
