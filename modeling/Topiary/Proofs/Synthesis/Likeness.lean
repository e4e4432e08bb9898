import Topiary.Proofs.Query.Chains
import Topiary.Proofs.Query.Positions
import Topiary.Proofs.Synthesis.Templates
import Topiary.Proofs.Tree.Classes

/-!
Blueprints and the compounds they are made from. An element that is built from a group passes every
test of the group that any element at all can pass together with the others.
-/

namespace Topiary.Synthesis

open Topiary.Tree Topiary.Selector Topiary.Query Topiary.Text

variable {kind : Kind} {test : Test} {tests : List Test} {token : Token} {x e : Element}
  {b : Blueprint} {t : Tree} {m : NodeId} {k : Int} {equation : Equation}

/-! ## Tokens that a blueprint carries out -/

/-- A repeat directive that writes how many copies it wants, at least one. -/
def RepeatsWritten (equation : Equation) : Prop :=
  equation.offset ≠ "" ∧ ∃ k : Int, 1 ≤ k ∧ equation.multiplier = some k

/-- What an attribute can say: an id, a class or an exact value. -/
def IsPlain : Kind → Prop
  | .id _ | .className _ | .attrValue _ .equals _ => True
  | _ => False

/-- What a blueprint can carry out: attributes, and repeat directives. -/
def IsBuildable : Kind → Prop
  | .equationCall equation => RepeatsWritten equation
  | kind => IsPlain kind

theorem IsPlain.isBuildable (h : IsPlain kind) : IsBuildable kind := by
  cases kind <;> first | exact h | exact h.elim

/-- The test of a token that a blueprint carries out. -/
inductive Builds : Kind → Test → Prop where
  | id (name : String) : Builds (.id name) (.id name)
  | className (name : String) : Builds (.className name) (.className name)
  | value (name value : String) :
      Builds (.attrValue name .equals value) (.attrValue name .equals value)
  | copies {equation : Equation} {k : Int} (hk : 1 ≤ k) (he : equation.multiplier = some k)
      (ho : equation.offset ≠ "") :
      Builds (.equationCall equation) (.position ⟨-1, k, false, true⟩)

theorem exists_builds (h : IsBuildable kind) : ∃ test, Builds kind test := by
  cases kind with
  | id name => exact ⟨_, .id name⟩
  | className name => exact ⟨_, .className name⟩
  | attrValue name relation value =>
    cases relation with
    | equals => exact ⟨_, .value name value⟩
    | _ => exact h.elim
  | equationCall equation =>
    obtain ⟨ho, k, hk, he⟩ := h
    exact ⟨_, .copies hk he ho⟩
  | _ => exact h.elim

theorem testOf_copies {source : String} (he : equation.multiplier = some k)
    (ho : equation.offset ≠ "") :
    filterOf ⟨.equationCall equation, source⟩ = .ok (.test (.position ⟨-1, k, false, true⟩)) := by
  rw [Equation.multiplier] at he
  split at he
  · rename_i hshape
    obtain ⟨hfunction, hsymbol, hscalar⟩ := hshape
    have hsign : ∃ sign, equation.offsetSign = some sign := by
      rw [Equation.signedOffset] at he
      cases hsign : equation.offsetSign with
      | none => simp [hsign] at he
      | some sign => exact ⟨sign, rfl⟩
    obtain ⟨sign, hsign⟩ := hsign
    have haffine : equation.affine = some (-1, k) := by
      simp [Equation.affine, hsymbol, hsign, hscalar, he, ho]
    simp [filterOf, Kind.writtenFunction?, testOf, positionFunction?, hfunction, haffine,
      Except.map]
  · simp at he

theorem filterOf_of_builds (h : Builds token.kind test) : filterOf token = .ok (.test test) := by
  obtain ⟨kind, source⟩ := token
  cases h with
  | id name => rfl
  | className name => rfl
  | value name value => rfl
  | copies hk he ho => exact testOf_copies he ho

/-- The token that stands for a place from the end is a repeat directive. -/
theorem Builds.multiplier_eq (h : Builds token.kind (.position ⟨-1, k, false, true⟩)) :
    1 ≤ k ∧ token.multiplier = some k := by
  obtain ⟨kind, source⟩ := token
  cases h with
  | copies hk he ho => exact ⟨hk, he⟩

theorem isStructural_of_builds (h : Builds kind test) : kind.isStructural = false := by
  cases h <;> rfl

theorem addToken_of_builds (h : Builds token.kind test) (c : Compound Query.Filter) :
    addToken filterOf c token = .ok (c.addTest (.test test)) := by
  have hfilter := filterOf_of_builds h
  rw [addToken]
  split
  · rename_i hkind
    rw [hkind] at h
    cases h
  · rename_i hkind
    rw [hkind] at h
    cases h
  · rw [hfilter]
    rfl

/-- A tag, followed by tokens of certain kinds. -/
def OfTag (p : Kind → Prop) (g : Group) : Prop :=
  ∃ name source rest, g.tokens = ⟨.tag name, source⟩ :: rest ∧ ∀ token ∈ rest, p token.kind

theorem OfTag.mono {p q : Kind → Prop} {g : Group} (h : OfTag p g) (hpq : ∀ kind, p kind → q kind) :
    OfTag q g := by
  obtain ⟨name, source, rest, htokens, hrest⟩ := h
  exact ⟨name, source, rest, htokens, fun token htoken => hpq _ (hrest token htoken)⟩

theorem addTokens_of_builds {rest : List Token}
    (h : List.Forall₂ (fun token test => Builds token.kind test) rest tests)
    (c : Compound Query.Filter) :
    addTokens c rest = .ok { c with tests := c.tests ++ tests.map .test } := by
  induction h generalizing c with
  | nil => simp [addTokens]
  | @cons token test rest tests hbuilds hrest ih =>
    rw [addTokens, addToken_of_builds hbuilds]
    simp only
    rw [ih]
    simp [Compound.addTest]

theorem exists_builds_of_mem {rest : List Token}
    (h : List.Forall₂ (fun token test => Builds token.kind test) rest tests)
    (htest : test ∈ tests) : ∃ token ∈ rest, Builds token.kind test := by
  induction h with
  | nil => simp at htest
  | @cons token other rest tests hbuilds hrest ih =>
    rcases List.mem_cons.mp htest with rfl | htest
    · exact ⟨token, by simp, hbuilds⟩
    · obtain ⟨found, hfound, hother⟩ := ih htest
      exact ⟨found, by simp [hfound], hother⟩

/-- The tests that a group of buildable tokens stands for. -/
theorem OfTag.compile {g : Group} (h : OfTag IsBuildable g) :
    ∃ name source rest tests, g.tokens = ⟨.tag name, source⟩ :: rest ∧
      List.Forall₂ (fun token test => Builds token.kind test) rest tests ∧
      compoundOf g = ⟨some (lower name), false, tests.map .test⟩ ∧ Compiles g := by
  obtain ⟨name, source, rest, htokens, hrest⟩ := h
  have htests : ∃ tests,
      List.Forall₂ (fun token test => Builds (Token.kind token) test) rest tests := by
    clear htokens
    induction rest with
    | nil => exact ⟨[], .nil⟩
    | cons token rest ih =>
      obtain ⟨test, htest⟩ := exists_builds (hrest token (by simp))
      obtain ⟨tests, htests⟩ := ih fun a ha => hrest a (by simp [ha])
      exact ⟨test :: tests, .cons htest htests⟩
  obtain ⟨tests, htests⟩ := htests
  have hadd : addTokens .blank g.tokens = .ok ⟨some (lower name), false, tests.map .test⟩ := by
    rw [htokens, addTokens]
    have htag : addToken filterOf .blank ⟨.tag name, source⟩ =
        .ok ⟨some (lower name), false, []⟩ := rfl
    simp only [htag]
    rw [addTokens_of_builds htests]
    rfl
  have hcompound : compoundOf g = ⟨some (lower name), false, tests.map .test⟩ := by
    rw [compoundOf, hadd]
  refine ⟨name, source, rest, tests, htokens, htests, hcompound, ?_, ?_, ?_⟩
  · simp [htokens]
  · intro token htoken
    rw [htokens] at htoken
    rcases List.mem_cons.mp htoken with rfl | htoken
    · rfl
    · obtain ⟨test, htest⟩ := exists_builds (hrest token htoken)
      exact isStructural_of_builds htest
  · rw [hadd, hcompound]

/-! ## What a test asks of the element -/

/-- The element passes the test, as far as the test looks at its attributes. -/
def Suits (e : Element) : Test → Prop
  | .id name => e.attribute? "id" = some name
  | .className name => name ∈ e.classList.names
  | .attrValue name relation value => relationHolds relation (e.attribute? name) value = true
  | _ => True

theorem Suits.congr {e' : Element} (h : Suits e test) (hsame : e'.attributes = e.attributes) :
    Suits e' test := by
  cases test with
  | id name => simpa [Suits, Element.attribute?, hsame] using h
  | className name => simpa [Suits, Element.classList, Element.attribute?, hsame] using h
  | attrValue name relation value => simpa [Suits, Element.attribute?, hsame] using h
  | _ => trivial

theorem suits_of_holds (he : t.element? m = some e) (h : test.holds t m = true) :
    Suits e test := by
  cases test with
  | id name => simpa [Test.holds, Tree.attribute?, he, Suits] using h
  | className name => simpa [Test.holds, he, Element.hasClass_iff, Suits] using h
  | attrValue name relation value => simpa [Test.holds, Tree.attribute?, he, Suits] using h
  | _ => trivial

theorem holds_of_suits (he : t.element? m = some e) (hplain : IsPlain kind)
    (hbuilds : Builds kind test) (h : Suits e test) : test.holds t m = true := by
  cases hbuilds with
  | id name => simpa [Test.holds, Tree.attribute?, he, Suits] using h
  | className name => simpa [Test.holds, he, Element.hasClass_iff, Suits] using h
  | value name value => simpa [Test.holds, Tree.attribute?, he, Suits] using h
  | copies => exact hplain.elim

theorem relationHolds_equals {actual : Option String} {value : String} :
    relationHolds .equals actual value = true ↔ actual = some value := by
  cases actual <;> simp [relationHolds]

/-! ## Blueprints in the making -/

/-- The blueprint takes from tokens only what they ask, and the element agrees with all of it. -/
structure Takes (x : Element) (tests : List Test) (b : Blueprint) : Prop where
  id : ∀ value, b.id = some value → x.attribute? "id" = some value
  attributes : ∀ a ∈ b.attributes.entries, x.attribute? a.name = some a.value
  classes : b.classes.Clean
  named : ∀ name, .id name ∈ tests → b.id.isSome
  listed : ∀ name, .className name ∈ tests → name ∈ b.classes.names
  valued : ∀ name relation value, .attrValue name relation value ∈ tests →
    name ∈ b.attributes.entries.map Attribute.name

theorem takes_ofTag (x : Element) (tag : String) : Takes x [] (Blueprint.ofTag tag) where
  id := by simp [Blueprint.ofTag]
  attributes := by simp [Blueprint.ofTag, Attributes.empty]
  classes := ClassList.clean_empty
  named := by simp
  listed := by simp
  valued := by simp

theorem add_copies (b : Blueprint) (equation : Equation) (source : String) :
    ∃ multiplier skipped, b.add ⟨.equationCall equation, source⟩ =
      { b with multiplier := multiplier, skipped := skipped } := by
  rw [Blueprint.add]
  simp only
  split
  · exact ⟨_, _, rfl⟩
  · exact ⟨_, _, rfl⟩

theorem Takes.add (h : Takes x tests b) (hbuilds : Builds token.kind test) (hx : Suits x test)
    (hword : ∀ name, token.kind = .className name → IsWord name.toList) :
    Takes x (tests ++ [test]) (b.add token) := by
  obtain ⟨kind, source⟩ := token
  simp only at hbuilds hword
  cases hbuilds with
  | id name =>
    refine ⟨fun value hvalue => ?_, h.attributes, h.classes, fun _ _ => rfl, ?_, ?_⟩
    · obtain rfl := Option.some.inj hvalue
      exact hx
    · exact fun other hother => h.listed other (by simpa using hother)
    · exact fun n r v hnrv => h.valued n r v (by simpa using hnrv)
  | className name =>
    have hname := hword name rfl
    refine ⟨h.id, h.attributes, h.classes.add hname, ?_, ?_, ?_⟩
    · exact fun other hother => h.named other (by simpa using hother)
    · intro other hother
      rcases List.mem_append.mp hother with hother | hother
      · exact (ClassList.mem_add hname).mpr (Or.inl (h.listed other hother))
      · exact (ClassList.mem_add hname).mpr (Or.inr (by simpa using hother))
    · exact fun n r v hnrv => h.valued n r v (by simpa using hnrv)
  | value name value =>
    refine ⟨h.id, fun a ha => ?_, h.classes, ?_, ?_, ?_⟩
    · rcases Attributes.mem_set ha with ha | rfl
      · exact h.attributes a ha
      · exact relationHolds_equals.mp hx
    · exact fun other hother => h.named other (by simpa using hother)
    · exact fun other hother => h.listed other (by simpa using hother)
    · intro n r v hnrv
      refine Attributes.mem_names_set.mpr ?_
      rcases List.mem_append.mp hnrv with hnrv | hnrv
      · exact Or.inl (h.valued n r v hnrv)
      · simp only [List.mem_singleton, Test.attrValue.injEq] at hnrv
        exact Or.inr hnrv.1
  | copies hk he ho =>
    obtain ⟨multiplier, skipped, hadd⟩ := add_copies b _ source
    rw [hadd]
    refine ⟨h.id, h.attributes, h.classes, ?_, ?_, ?_⟩
    · exact fun other hother => h.named other (by simpa using hother)
    · exact fun other hother => h.listed other (by simpa using hother)
    · exact fun n r v hnrv => h.valued n r v (by simpa using hnrv)

theorem Takes.foldl {rest : List Token} {more : List Test} (h : Takes x tests b)
    (hbuilds : List.Forall₂ (fun token test => Builds token.kind test) rest more)
    (hx : ∀ test ∈ more, Suits x test)
    (hword : ∀ token ∈ rest, ∀ name, token.kind = .className name → IsWord name.toList) :
    Takes x (tests ++ more) (rest.foldl Blueprint.add b) := by
  induction hbuilds generalizing b tests with
  | nil => simpa using h
  | @cons token test rest more hbuilds hrest ih =>
    have hadd := h.add hbuilds (hx test (by simp)) (hword token (by simp))
    have hall := ih hadd (fun a ha => hx a (by simp [ha])) fun a ha => hword a (by simp [ha])
    simpa using hall

/-! ## The element of a blueprint -/

theorem attribute?_foldl_set (l : List Attribute) (e : Element) (name : String) :
    (∃ a ∈ l, a.name = name ∧
      (l.foldl (fun e a => e.setAttribute a.name a.value) e).attribute? name = some a.value) ∨
    (name ∉ l.map Attribute.name ∧
      (l.foldl (fun e a => e.setAttribute a.name a.value) e).attribute? name =
        e.attribute? name) := by
  induction l generalizing e with
  | nil => exact Or.inr ⟨by simp, rfl⟩
  | cons a l ih =>
    rcases ih (e.setAttribute a.name a.value) with ⟨a', ha', hname, hvalue⟩ | ⟨hnot, hvalue⟩
    · exact Or.inl ⟨a', by simp [ha'], hname, hvalue⟩
    · by_cases hname : name = a.name
      · refine Or.inl ⟨a, by simp, hname.symm, hvalue.trans ?_⟩
        rw [Element.attribute?_setAttribute, if_pos hname]
      · refine Or.inr ⟨by simpa [hname] using hnot, hvalue.trans ?_⟩
        rw [Element.attribute?_setAttribute, if_neg hname]

/-- An element with the attributes of a blueprint passes what the blueprint has taken from. -/
theorem Takes.suits (h : Takes x tests b) (hx : ∀ test ∈ tests, Suits x test)
    (htest : test ∈ tests) (hbuilds : Builds kind test) : Suits b.element test := by
  have hclasses := Element.classList_foldl_addClass b.named h.classes.words
  have hlast := attribute?_foldl_set b.attributes.entries
    (b.classes.names.foldl Element.addClass b.named)
  rw [← Blueprint.element] at hlast
  cases hbuilds with
  | id name =>
    obtain ⟨value, hvalue⟩ := Option.isSome_iff_exists.mp (h.named name htest)
    have hxname : x.attribute? "id" = some name := hx _ htest
    obtain rfl : value = name := Option.some.inj ((h.id value hvalue).symm.trans hxname)
    rcases hlast "id" with ⟨a, ha, hname, hattr⟩ | ⟨-, hattr⟩
    · have hagree := h.attributes a ha
      rw [hname, hxname] at hagree
      exact hattr.trans hagree.symm
    · refine hattr.trans ((Element.attribute?_foldl_addClass _ _ (by decide)).trans ?_)
      rw [Blueprint.named, hvalue]
      exact (Element.attribute?_setAttribute).trans (if_pos rfl)
  | className name =>
    rcases hlast "class" with ⟨a, ha, hname, hattr⟩ | ⟨-, hattr⟩
    · have hsame : b.element.attribute? "class" = x.attribute? "class" := by
        rw [hattr, ← hname, h.attributes a ha]
      have hxclass : name ∈ x.classList.names := hx _ htest
      rw [Suits, Element.classList, hsame]
      exact hxclass
    · rw [Suits, Element.classList, hattr, ← Element.classList, hclasses,
        ClassList.mem_addAll Element.clean_classList.nodup h.classes.words]
      exact Or.inr (h.listed name htest)
  | value name value =>
    rcases hlast name with ⟨a, ha, rfl, hattr⟩ | ⟨hnot, -⟩
    · have hxvalue := relationHolds_equals.mp (hx _ htest)
      rw [h.attributes a ha] at hxvalue
      exact relationHolds_equals.mpr (hattr.trans hxvalue)
    · exact absurd (h.valued name _ value htest) hnot
  | copies => trivial

/-! ## Groups -/

theorem tag_foldl_addClass (names : List String) (e : Element) :
    (names.foldl Element.addClass e).tag = e.tag := by
  induction names generalizing e with
  | nil => rfl
  | cons name names ih => exact ih (e.addClass name)

theorem tag_foldl_set (l : List Attribute) (e : Element) :
    (l.foldl (fun e a => e.setAttribute a.name a.value) e).tag = e.tag := by
  induction l generalizing e with
  | nil => rfl
  | cons a l ih => exact ih (e.setAttribute a.name a.value)

theorem Blueprint.tag_element (b : Blueprint) : b.element.tag = lower b.tag := by
  rw [Blueprint.element, tag_foldl_set, tag_foldl_addClass, Blueprint.named]
  split <;> rfl

theorem Blueprint.tag_add (b : Blueprint) (token : Token) : (b.add token).tag = b.tag := by
  rw [Blueprint.add]
  split <;> try rfl
  split <;> rfl

theorem Blueprint.tag_foldl (tokens : List Token) (b : Blueprint) :
    (tokens.foldl Blueprint.add b).tag = b.tag := by
  induction tokens generalizing b with
  | nil => rfl
  | cons token tokens ih => exact (ih (b.add token)).trans (b.tag_add token)

theorem isBlank_of_isAlphanumeric {c : Char} (h : isAlphanumeric c = true) : isBlank c = false := by
  simp only [isAlphanumeric, isLetter, isDigit, Bool.or_eq_true, Bool.and_eq_true,
    decide_eq_true_eq, Char.le_def, UInt32.le_iff_toNat_le] at h
  have hn : c.toNat = c.val.toNat := rfl
  have hbounds : (48 ≤ c.toNat ∧ c.toNat ≤ 57) ∨ (65 ≤ c.toNat ∧ c.toNat ≤ 90) ∨
      (97 ≤ c.toNat ∧ c.toNat ≤ 122) := by
    rw [hn]
    simp at h
    omega
  simp only [isBlank, Bool.or_eq_false_iff, Bool.and_eq_false_iff, decide_eq_false_iff_not,
    beq_eq_false_iff_ne]
  omega

/-- The name of a class token is a word. -/
theorem isWord_of_lexeme {name : String} {source : List Char}
    (h : Lexeme (.className name) source) : IsWord name.toList := by
  cases h with
  | className h =>
    rw [String.toList_ofList]
    exact ⟨h.ne_nil, fun c hc => isBlank_of_isAlphanumeric (h.rest c hc)⟩

theorem holds_of_builds (he : t.element? m = some e) (hbuilds : Builds kind test)
    (hplace : ∀ k, test = .position ⟨-1, k, false, true⟩ → (placeOf t m false true).1 ≤ k)
    (h : Suits e test) : test.holds t m = true := by
  cases hbuilds with
  | id name =>
    have hplain : IsPlain (.id name) := trivial
    exact holds_of_suits he hplain (.id name) h
  | className name =>
    have hplain : IsPlain (.className name) := trivial
    exact holds_of_suits he hplain (.className name) h
  | value name value =>
    have hplain : IsPlain (.attrValue name .equals value) := trivial
    exact holds_of_suits he hplain (.value name value) h
  | copies hk he' ho =>
    rw [Test.holds]
    exact (Position.selects_iff_le rfl).mpr (hplace _ rfl)

/-- A group that some element of some tree satisfies. -/
def Satisfiable (g : Group) : Prop :=
  ∃ t x xs, Tree.Reachable t ∧ t.query g.source = .ok (x :: xs)

/-- A group of buildable tokens, cut from some text, that some element satisfies. -/
structure Workable (g : Group) : Prop where
  ofTag : OfTag IsBuildable g
  lexeme : ∀ token ∈ g.tokens, Lexeme token.kind token.source.toList
  satisfied : ∃ t x, compoundHolds t (compoundOf g) x = true

/-- The source of a group is compiled to the compound of the group and nothing else. -/
theorem parse_group {g : Group} {s : Sequence} {text : String} (hg : Compiles g)
    (hs : Sequence.parse text = .ok s) (hmem : .compound g ∈ s.items) :
    SelectorList.parse g.source = .ok ⟨[complexOf g []]⟩ := by
  have htokens := Sequence.tokenize_group hs hmem hg.node
  have hchain : SelectorList.ofTokens (chainTokens g []) = .ok ⟨[complexOf g []]⟩ :=
    ofTokens_chain (by simp) (by simpa using hg)
  rw [chainTokens, List.flatMap_nil, List.append_nil] at hchain
  rw [SelectorList.parse, htokens]
  exact hchain

theorem matches_group {g : Group} : SelectorList.matches ⟨[complexOf g []]⟩ t m = true ↔
    compoundHolds t (compoundOf g) m = true := by
  have hzero : matchesFrom t (complexOf g []) 0 m = compoundHolds t (compoundOf g) m := rfl
  simp only [SelectorList.matches, List.any_cons, List.any_nil, Bool.or_false, Bool.and_eq_true]
  constructor
  · exact fun h => hzero ▸ h.2
  · intro h
    exact ⟨isElement_of_matchesFrom (hzero.trans h), hzero.trans h⟩

theorem workable_of_holds {g : Group} {s : Sequence} {text : String}
    (h : compoundHolds t (compoundOf g) m = true) (hg : OfTag IsBuildable g)
    (hs : Sequence.parse text = .ok s) (hmem : .compound g ∈ s.items) : Workable g where
  ofTag := hg
  lexeme := fun _ htoken => (wellCut_of_tokenize (Sequence.tokenize_of_parse hs)).lexeme
    (List.mem_flatMap.mpr ⟨_, hmem, htoken⟩)
  satisfied := ⟨t, m, h⟩

theorem Satisfiable.workable {g : Group} {s : Sequence} {text : String} (h : Satisfiable g)
    (hg : OfTag IsBuildable g) (hs : Sequence.parse text = .ok s) (hmem : .compound g ∈ s.items) :
    Workable g := by
  obtain ⟨-, -, -, -, -, -, -, hcompiles⟩ := hg.compile
  obtain ⟨t, x, xs, ht, hquery⟩ := h
  rw [query_of_parse (parse_group hcompiles hs hmem)] at hquery
  have hx : x ∈ SelectorList.select ⟨[complexOf g []]⟩ t := by
    rw [Except.ok.inj hquery]
    exact List.mem_cons_self
  exact workable_of_holds (matches_group.mp ((mem_select ht.rooted).mp hx).2) hg hs hmem

/-- What is built from a workable group satisfies it, provided no more elements follow it than its
repeat directives allow. -/
theorem Workable.compoundHolds {g : Group} (h : Workable g) {b : Blueprint}
    (hb : Blueprint.ofGroup g = .ok b) (he : t.element? m = some e)
    (htag : e.tag = b.element.tag) (hattributes : e.attributes = b.element.attributes)
    (hplace : ∀ token ∈ g.tokens, ∀ k, Builds token.kind (.position ⟨-1, k, false, true⟩) →
      (placeOf t m false true).1 ≤ k) : compoundHolds t (compoundOf g) m = true := by
  obtain ⟨name, source, rest, tests, htokens, htests, hcompound, -⟩ := h.ofTag.compile
  obtain ⟨t0, y, hholds⟩ := h.satisfied
  rw [hcompound] at hholds ⊢
  unfold Query.compoundHolds Compound.holds at hholds ⊢
  split at hholds
  · simp at hholds
  · rename_i x hx
    simp only [Bool.and_eq_true, List.all_eq_true, List.mem_map] at hholds
    have hsuits : ∀ test ∈ tests, Suits x test := fun test htest =>
      suits_of_holds hx (hholds.2 (.test test) ⟨test, htest, rfl⟩)
    have hfold : b = rest.foldl Blueprint.add (Blueprint.ofTag name) := by
      rw [Blueprint.ofGroup, htokens] at hb
      exact (Except.ok.inj hb).symm
    have htakes : Takes x tests b := by
      have hall := (takes_ofTag x name).foldl htests hsuits fun token htoken other hkind =>
        isWord_of_lexeme (hkind ▸ h.lexeme token (by simp [htokens, htoken]))
      rw [hfold]
      simpa using hall
    rw [he]
    simp only [Bool.and_eq_true, List.all_eq_true, List.mem_map]
    refine ⟨?_, ?_⟩
    · rw [htag, Blueprint.tag_element, hfold, Blueprint.tag_foldl]
      simp [Blueprint.ofTag]
    · rintro filter ⟨test, htest, rfl⟩
      obtain ⟨token, htoken, hbuilds⟩ := exists_builds_of_mem htests htest
      refine holds_of_builds he hbuilds (fun k hk => ?_)
        ((htakes.suits hsuits htest hbuilds).congr hattributes)
      exact hplace token (by simp [htokens, htoken]) k (hk ▸ hbuilds)

end Topiary.Synthesis
