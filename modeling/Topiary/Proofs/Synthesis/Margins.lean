import Topiary.Proofs.Query.Outlines
import Topiary.Proofs.Synthesis.Contents
import Topiary.Proofs.Synthesis.Skips

/-!
Rules with blanks at their margins. They are walked as the rules without them, step by step. Only
mere blanks at the end make a difference: they are an item of their own, and so the content of the
rule, which is for the last item, is not bound.
-/

namespace Topiary.Selector

theorem Token.outline_outline (t : Token) : t.outline.outline = t.outline := by
  rw [outline, isStructural_outline]
  split
  · rename_i hstructural
    rw [kind_outline, outline, if_pos hstructural]
  · rfl

theorem Item.tokens_outline (item : Item) :
    item.outline.tokens.map Token.outline = item.tokens.map Token.outline := by
  cases item with
  | compound g => rfl
  | combinator token => exact congrArg (fun token => [token]) token.outline_outline

end Topiary.Selector

namespace Topiary.Synthesis

open Topiary.Tree Topiary.Selector Topiary.Query Topiary.Text

variable {limits : Limits} {payload : Payload} {s s' : Sequence} {items items' : List Item}
  {item : Item} {upTo upTo' : String} {g : Group} {t : Tree} {w w' : Walk} {index : Nat}
  {text text' : String}

namespace Walk

/-! ## Walks over one outline -/

/-- A walk without its record of steps. -/
def mute (w : Walk) : Walk :=
  { w with report := { w.report with steps := [] } }

theorem synthesize_mute (limits : Limits) (payload : Payload) (upTo upTo' : String) (g : Group)
    (w : Walk) : (w.synthesize limits payload upTo g).map mute =
      (w.mute.synthesize limits payload upTo' g).map mute := by
  rw [synthesize_eq, synthesize_eq]
  have hcontext : w.mute.context = w.context := rfl
  rw [hcontext]
  split
  · rfl
  · cases Blueprint.ofGroup g with
    | error error => rfl
    | ok blueprint => cases payload <;> rfl

/-- A step depends on the text of its combinator only in what it records. -/
theorem step_mute (h : (w.tree.query upTo).toOption = (w.tree.query upTo').toOption) :
    (w.step limits payload upTo item).map mute =
      (w.mute.step limits payload upTo' item.outline).map mute := by
  have htree : w.mute.tree = w.tree := rfl
  unfold step
  rw [htree]
  cases hquery : w.tree.query upTo with
  | error cause =>
    rw [hquery] at h
    cases hquery' : w.tree.query upTo' with
    | error cause' => rfl
    | ok found => simp [hquery', Except.toOption] at h
  | ok found =>
    rw [hquery] at h
    cases hquery' : w.tree.query upTo' with
    | error cause' => simp [hquery', Except.toOption] at h
    | ok found' =>
      obtain rfl : found = found' := by simpa [hquery', Except.toOption] using h
      cases found with
      | cons first others => rfl
      | nil =>
        cases item with
        | combinator token => rfl
        | compound g => exact w.synthesize_mute limits payload upTo upTo' g

/-- Walks along items of one outline go the same way, if they look for the same. -/
theorem run_mute
    (hqueries : ∀ i < items.length, ∀ t : Tree, (t.query (s.upTo (index + i))).toOption =
      (t.query (s'.upTo (index + i))).toOption)
    (houtline : items.map Item.outline = items'.map Item.outline) (hw : w.mute = w'.mute) :
    (run limits payload s index w items).1.mute = (run limits payload s' index w' items').1.mute ∧
      (run limits payload s index w items).2 = (run limits payload s' index w' items').2 := by
  induction items generalizing items' w w' index with
  | nil =>
    obtain rfl : items' = [] := by simpa using houtline.symm
    exact ⟨hw, rfl⟩
  | cons item items ih =>
    cases items' with
    | nil => simp at houtline
    | cons item' items' =>
      obtain ⟨hitem, hitems⟩ := List.cons.inj houtline
      have hempty : items'.isEmpty = items.isEmpty := by
        rw [← List.isEmpty_map, ← hitems, List.isEmpty_map]
      have hfirst : ∀ t : Tree, (t.query (s.upTo index)).toOption =
          (t.query (s'.upTo index)).toOption := hqueries 0 (by simp)
      have hstep : ∀ payload, (w.step limits payload (s.upTo index) item).map mute =
          (w'.step limits payload (s'.upTo index) item').map mute := by
        intro payload
        calc (w.step limits payload (s.upTo index) item).map mute
            = (w.mute.step limits payload (s'.upTo index) item.outline).map mute :=
              step_mute (hfirst w.tree)
          _ = (w'.mute.step limits payload (s'.upTo index) item'.outline).map mute := by
              rw [hw, hitem]
          _ = (w'.step limits payload (s'.upTo index) item').map mute := (step_mute rfl).symm
      have hrest : ∀ i < items.length, ∀ t : Tree,
          (t.query (s.upTo (index + 1 + i))).toOption =
            (t.query (s'.upTo (index + 1 + i))).toOption := by
        intro i hi t
        have hquery := hqueries (i + 1) (by simpa using hi) t
        rwa [← Nat.add_assoc, Nat.add_right_comm] at hquery
      have hown := hstep (if items.isEmpty then payload else .absent)
      rw [run, run, hempty]
      generalize (if items.isEmpty then payload else Payload.absent) = own at hown
      cases hnext : w.step limits own (s.upTo index) item with
      | error error =>
        cases hnext' : w'.step limits own (s'.upTo index) item' with
        | error error' =>
          rw [hnext, hnext'] at hown
          obtain rfl := Except.error.inj hown
          exact ⟨hw, rfl⟩
        | ok w1 =>
          rw [hnext, hnext'] at hown
          simp [Except.map] at hown
      | ok w1 =>
        cases hnext' : w'.step limits own (s'.upTo index) item' with
        | error error' =>
          rw [hnext, hnext'] at hown
          simp [Except.map] at hown
        | ok w1' =>
          rw [hnext, hnext'] at hown
          exact ih hrest hitems (Except.ok.inj hown)

/-- Two texts whose items have one outline up to a place are asked for the same up to there. -/
theorem query_upTo_congr (hs : Sequence.parse text = .ok s) (hs' : Sequence.parse text' = .ok s')
    (h : (s.items.take (index + 1)).map Item.outline =
      (s'.items.take (index + 1)).map Item.outline) (t : Tree) :
    (t.query (s.upTo index)).toOption = (t.query (s'.upTo index)).toOption := by
  have htokens : ∀ s : Sequence, (s.tokensUpTo index).map Token.outline =
      ((s.items.take (index + 1)).map Item.outline).flatMap
        fun item => item.tokens.map Token.outline := by
    intro s
    rw [Sequence.tokensUpTo, List.map_flatMap, List.flatMap_map]
    exact List.flatMap_congr fun item _ => item.tokens_outline.symm
  apply query_congr (Sequence.tokenize_upTo hs index) (Sequence.tokenize_upTo hs' index)
  rw [htokens, htokens, h]

/-! ## Content at the end of a walk -/

/-- What a walk leaves behind, apart from its steps and from where it stands. -/
def comesTo (r : Walk × Option SynthesisError) : Walk × Option SynthesisError :=
  ({ r.1.mute with context := [] }, r.2)

theorem comesTo_congr {r r' : Walk × Option SynthesisError} (h : r.1.mute = r'.1.mute)
    (hfailure : r.2 = r'.2) : comesTo r = comesTo r' := by
  rw [comesTo, comesTo, h, hfailure]

/-- Texts whose items start with one outline come to the same up to there. -/
theorem comesTo_run_outline (limits : Limits) (payload : Payload)
    (hs : Sequence.parse text = .ok s) (hs' : Sequence.parse text' = .ok s')
    {body body' tail tail' : List Item} (hitems : s.items = body ++ tail)
    (hitems' : s'.items = body' ++ tail') (h : body.map Item.outline = body'.map Item.outline)
    (w : Walk) : comesTo (run limits payload s 0 w body) =
      comesTo (run limits payload s' 0 w body') := by
  have hlength : body.length = body'.length := by simpa using congrArg List.length h
  have hqueries : ∀ i < body.length, ∀ t : Tree,
      (t.query (s.upTo (0 + i))).toOption = (t.query (s'.upTo (0 + i))).toOption := by
    intro i hi t
    rw [Nat.zero_add]
    apply query_upTo_congr hs hs'
    rw [hitems, hitems', List.take_append_of_le_length hi,
      List.take_append_of_le_length (hlength ▸ hi), List.map_take, List.map_take, h]
  obtain ⟨hmute, hfailure⟩ := run_mute hqueries h rfl
  exact comesTo_congr hmute hfailure

/-- Combinators at the end come to nothing, and the content of the rule is lost on them. -/
theorem comesTo_run_append {tail : List Item} (hne : tail ≠ [])
    (htail : ∀ item ∈ tail, ∃ token, item = .combinator token) (w : Walk) :
    comesTo (run limits payload s index w (items ++ tail)) =
      comesTo (run limits .absent s index w items) := by
  rw [run_append hne]
  cases hrun : run limits .absent s index w items with
  | mk w1 failure =>
    cases failure with
    | some error => rfl
    | none =>
      have hmet : ∀ j g, tail[j]? = some (.compound g) →
          w1.tree.query (s.upTo (index + items.length + j)) ≠ .ok [] := by
        intro j g hj
        obtain ⟨token, heq⟩ := htail _ (List.mem_of_getElem? hj)
        simp at heq
      obtain ⟨context, steps, hrest, -⟩ := run_of_met limits payload hmet
      simp only [hrest]
      rfl

/-- Two ways to end a walk that differ in the content only. -/
structure SameButContent (r r' : Walk × Option SynthesisError) : Prop where
  failure : r.2 = r'.2
  created : r.1.report.created = r'.1.report.created
  skipped : r.1.report.skipped = r'.1.report.skipped
  content : (r.2 = none → r.1.report.contentBound = r'.1.report.contentBound) → r = r'

namespace SameButContent

variable {r r' : Walk × Option SynthesisError}

theorem refl (r : Walk × Option SynthesisError) : SameButContent r r :=
  ⟨rfl, rfl, rfl, fun _ => rfl⟩

theorem symm (h : SameButContent r r') : SameButContent r' r where
  failure := h.failure.symm
  created := h.created.symm
  skipped := h.skipped.symm
  content hbound := (h.content fun hnone => (hbound (h.failure ▸ hnone)).symm).symm

end SameButContent

/-- What a synthesis builds does not depend on its content, apart from the content itself. -/
theorem synthesize_absent (hw : w.Sound) (hunbound : w.report.contentBound = false)
    (limits : Limits) (payload : Payload) (upTo : String) (g : Group) :
    (∃ error, w.synthesize limits payload upTo g = .error error ∧
      w.synthesize limits .absent upTo g = .error error) ∨
    ∃ w1 w0, w.synthesize limits payload upTo g = .ok w1 ∧
      w.synthesize limits .absent upTo g = .ok w0 ∧
      SameButContent (comesTo (w1, none)) (comesTo (w0, none)) := by
  by_cases hempty : w.context.isEmpty = true
  · refine Or.inl ⟨.anchor g.source, ?_, ?_⟩ <;> rw [synthesize_eq, if_pos hempty]
  cases hblueprint : Blueprint.ofGroup g with
  | error error =>
    refine Or.inl ⟨error, ?_, ?_⟩ <;> rw [synthesize_eq, if_neg hempty, hblueprint]
  | ok blueprint =>
    have hsynthesize : ∀ payload, w.synthesize limits payload upTo g =
        .ok ((w.prepare limits payload blueprint).spread upTo (blueprint.build w.tree).2
          (multiplier limits blueprint.multiplier).1) := fun payload => by
      rw [synthesize_eq, if_neg hempty, hblueprint]
    have hcreated : ∀ {payload w1}, w.synthesize limits payload upTo g = .ok w1 →
        w1.report.created = w.report.created +
          w.context.length * (multiplier limits blueprint.multiplier).1 := by
      intro payload w1 h
      obtain ⟨blueprint', fresh, haccounted⟩ := synthesize_ok hw h
      obtain rfl := Except.ok.inj (hblueprint.symm.trans haccounted.described)
      rw [(report_synthesize h).2.1, haccounted.length_context]
    refine Or.inr ⟨_, _, hsynthesize payload, hsynthesize .absent, rfl, ?_, ?_, fun hbound => ?_⟩
    · exact (hcreated (hsynthesize payload)).trans (hcreated (hsynthesize .absent)).symm
    · exact (skipped_synthesize (hsynthesize payload)).trans
        (skipped_synthesize (hsynthesize .absent)).symm
    · have hpayload := (report_synthesize (hsynthesize payload)).2.2
      have habsent := (report_synthesize (hsynthesize .absent)).2.2
      have hnone : payload.isAbsent = true := by
        have hsame := hpayload.symm.trans ((hbound rfl).trans habsent)
        rw [hunbound] at hsame
        simpa [Payload.isAbsent] using hsame
      cases payload with
      | absent => rfl
      | literal text => simp [Payload.isAbsent] at hnone
      | pending content => simp [Payload.isAbsent] at hnone

/-- What a step does does not depend on its content, apart from the content itself. -/
theorem step_absent (hw : w.Sound) (hunbound : w.report.contentBound = false)
    (limits : Limits) (payload : Payload) (upTo : String) (item : Item) :
    (∃ error, w.step limits payload upTo item = .error error ∧
      w.step limits .absent upTo item = .error error) ∨
    ∃ w1 w0, w.step limits payload upTo item = .ok w1 ∧
      w.step limits .absent upTo item = .ok w0 ∧
      SameButContent (comesTo (w1, none)) (comesTo (w0, none)) := by
  rcases step_cases limits upTo item w with ⟨context, outcome, -, hstep⟩ | ⟨-, g, -, hstep⟩
  · exact Or.inr ⟨_, _, hstep payload, hstep .absent, .refl _⟩
  · rw [hstep, hstep]
    exact synthesize_absent hw hunbound limits payload upTo g

/-- The same is true of a whole walk. -/
theorem run_absent (hw : w.Sound) (hunbound : w.report.contentBound = false) (limits : Limits)
    (payload : Payload) (s : Sequence) (index : Nat) (items : List Item) :
    SameButContent (comesTo (run limits payload s index w items))
      (comesTo (run limits .absent s index w items)) := by
  rcases List.eq_nil_or_concat items with rfl | ⟨first, last, rfl⟩
  · exact .refl _
  rw [List.concat_eq_append, run_append (List.cons_ne_nil last []),
    run_append (List.cons_ne_nil last [])]
  cases hrun : run limits .absent s index w first with
  | mk w1 failure =>
    cases failure with
    | some error => exact .refl _
    | none =>
      have hw1 := (hw.run hrun).1
      have hunbound1 := (run_unfilled hw hrun).2.trans hunbound
      simp only [run, List.isEmpty_nil, if_true]
      rcases step_absent hw1 hunbound1 limits payload (s.upTo (index + first.length)) last with
        ⟨error, hstep, hstep'⟩ | ⟨w2, w2', hstep, hstep', hsame⟩
      · rw [hstep, hstep']
        exact .refl _
      · rw [hstep, hstep']
        exact hsame

/-- A text comes to what the trimmed text comes to, with its content or, if it ends idle,
without. -/
theorem comesTo_run_trim {s₀ : Sequence} {text₀ : String} (hs : Sequence.parse text = .ok s)
    (hs₀ : Sequence.parse text₀ = .ok s₀) (htrim : text₀.toList = trimBy isAsciiBlank text.toList)
    (limits : Limits) (payload : Payload) (w : Walk) :
    comesTo (run limits payload s 0 w s.items) =
      comesTo (run limits (if endsIdle text.toList then .absent else payload) s₀ 0 w s₀.items) := by
  have hcore : coreOf? text.toList = coreOf? text₀.toList := by rw [htrim, coreOf?_trimBy]
  rcases Sequence.parse_of_coreOf? hcore with ⟨cause, cause', hcause, -⟩ |
    ⟨s1, s2, body, body', tail, tail', hs1, hs2, hitems, hitems', hbody, htail, hidle, hidle'⟩
  · rw [hs] at hcause
    simp at hcause
  obtain rfl := Except.ok.inj (hs1.symm.trans hs)
  obtain rfl := Except.ok.inj (hs2.symm.trans hs₀)
  obtain rfl : tail' = [] := by
    rw [htrim, endsIdle_trimBy] at hidle'
    simpa using hidle'
  have hsame := fun payload => comesTo_run_outline limits payload hs hs₀ hitems hitems' hbody w
  rw [hitems, hitems', List.append_nil]
  cases hends : endsIdle text.toList with
  | false =>
    obtain rfl : tail = [] := by simpa [hends] using hidle
    rw [List.append_nil]
    exact hsame payload
  | true =>
    rw [comesTo_run_append (hidle.mp hends) htail w]
    exact hsame .absent

end Walk

/-! ## Rules -/

open Walk (comesTo SameButContent)

/-- Whether an applied rule has bound its content. -/
def bindsContent : Except RuleError Report → Bool
  | .ok report => report.contentBound
  | .error _ => false

/-- Two outcomes of a rule that differ in the content at most: both fail, for the same cause unless
the texts cannot be read, or both report the same elements and the same texts without effect. -/
inductive SameCount : Except RuleError Report → Except RuleError Report → Prop where
  | unread (cause cause' : SelectorError) :
      SameCount (.error (.selector cause)) (.error (.selector cause'))
  | failed (error : SynthesisError) :
      SameCount (.error (.synthesis error)) (.error (.synthesis error))
  | applied {report report' : Report} (created : report.created = report'.created)
      (skipped : report.skipped = report'.skipped) : SameCount (.ok report) (.ok report')

namespace Engine

variable {e : Engine} {content : Option String} {r r' : Walk × Option SynthesisError}

/-- What comes of a rule whose walk ends in this way. -/
def conclude (e : Engine) (content : Option String) (r : Walk × Option SynthesisError) :
    Except RuleError Report × Engine × Tree :=
  (match r.2 with
    | none => .ok r.1.report
    | some error => .error (.synthesis error),
    { e with fetcher := (decodeContent e.fetcher content).2, binder := r.1.binder }, r.1.tree)

theorem applyRule_eq_conclude (hs : Sequence.parse text = .ok s) :
    e.applyRule t ⟨text, content⟩ = e.conclude content (Walk.run e.settings.limits
      (decodeContent e.fetcher content).1 s 0 ⟨t, e.binder, [], .empty⟩ s.items) := by
  rw [applyRule, hs]
  simp only [materialize]
  generalize Walk.run e.settings.limits (decodeContent e.fetcher content).1 s 0
    ⟨t, e.binder, [], .empty⟩ s.items = r
  obtain ⟨w, failure⟩ := r
  cases failure <;> rfl

theorem bindsContent_conclude : bindsContent (e.conclude content r).1 =
    ((comesTo r).2.isNone && (comesTo r).1.report.contentBound) := by
  obtain ⟨w, failure⟩ := r
  cases failure <;> rfl

theorem sameCount_conclude (e : Engine) (content : Option String)
    (h : SameButContent (comesTo r) (comesTo r')) :
    SameCount (e.conclude content r).1 (e.conclude content r').1 ∧
      (bindsContent (e.conclude content r).1 = bindsContent (e.conclude content r').1 →
        (e.conclude content r).2 = (e.conclude content r').2) := by
  have hstate : comesTo r = comesTo r' → (e.conclude content r).2 = (e.conclude content r').2 := by
    intro hsame
    have htree : r.1.tree = r'.1.tree := congrArg (fun r => r.1.tree) hsame
    have hbinder : r.1.binder = r'.1.binder := congrArg (fun r => r.1.binder) hsame
    rw [conclude, conclude, htree, hbinder]
  obtain ⟨w, failure⟩ := r
  obtain ⟨w', failure'⟩ := r'
  obtain rfl : failure = failure' := h.failure
  cases failure with
  | some error =>
    refine ⟨.failed error, fun _ => hstate (h.content fun hnone => ?_)⟩
    simp [comesTo] at hnone
  | none => exact ⟨.applied h.created h.skipped, fun hbound => hstate (h.content fun _ => hbound)⟩

/-- The walk over the items of a selector. -/
def walk (e : Engine) (t : Tree) (payload : Payload) (s : Sequence) :
    Walk × Option SynthesisError :=
  Walk.run e.settings.limits payload s 0 ⟨t, e.binder, [], .empty⟩ s.items

/-- A rule comes to what the trimmed rule comes to, with its content or, if it ends idle,
without. -/
theorem applyRule_trim {text₀ : String} (e : Engine) (t : Tree) (content : Option String)
    (htrim : text₀.toList = trimBy isAsciiBlank text.toList) :
    (∃ cause cause₀, Sequence.parse text = .error cause ∧ Sequence.parse text₀ = .error cause₀) ∨
    ∃ s₀ r, Sequence.parse text₀ = .ok s₀ ∧
      e.applyRule t ⟨text, content⟩ = e.conclude content r ∧
      comesTo r = comesTo (e.walk t
        (if endsIdle text.toList then .absent else (decodeContent e.fetcher content).1) s₀) := by
  have hcore : coreOf? text.toList = coreOf? text₀.toList := by rw [htrim, coreOf?_trimBy]
  rcases Sequence.parse_of_coreOf? hcore with hunread | ⟨s, s₀, -, -, -, -, hs, hs₀, -⟩
  · exact Or.inl hunread
  · exact Or.inr ⟨s₀, _, hs₀, applyRule_eq_conclude hs,
      Walk.comesTo_run_trim hs hs₀ htrim _ _ _⟩

/-- Content makes no difference to a walk but for the content itself. -/
theorem sameButContent_walk (ht : t.Rooted) (payload : Payload) (s : Sequence) (idle idle' : Bool) :
    SameButContent (comesTo (e.walk t (if idle then .absent else payload) s))
      (comesTo (e.walk t (if idle' then .absent else payload) s)) := by
  have habsent : SameButContent (comesTo (e.walk t payload s)) (comesTo (e.walk t .absent s)) :=
    Walk.run_absent (Walk.sound_start ht) rfl _ _ _ _ _
  cases idle <;> cases idle'
  · exact .refl _
  · exact habsent
  · exact habsent.symm
  · exact .refl _

theorem bindsContent_conclude_walk (content : Option String) (ht : t.Rooted) (payload : Payload)
    (s : Sequence) (idle : Bool)
    (h : comesTo r = comesTo (e.walk t (if idle then .absent else payload) s)) :
    bindsContent (e.conclude content r).1 =
      (!idle && bindsContent (e.conclude content (e.walk t payload s)).1) := by
  rw [bindsContent_conclude, bindsContent_conclude, h]
  cases idle with
  | false => rfl
  | true =>
    have hunbound : (e.walk t .absent s).1.report.contentBound = false :=
      (Walk.run_unfilled (Walk.sound_start ht) rfl).2
    have hreport : (comesTo (e.walk t .absent s)).1.report.contentBound = false := hunbound
    rw [if_pos rfl, hreport, Bool.and_false, Bool.not_true, Bool.false_and]

/-- Blanks at the margins of a rule's selector change nothing but whether the content is bound, and
with it the tree and the binder. They change that exactly if one of the texts ends in mere blanks,
the other does not, and there is content to bind. -/
theorem applyRule_margins (ht : t.Reachable)
    (h : trimBy isAsciiBlank text.toList = trimBy isAsciiBlank text'.toList) :
    let r := e.applyRule t ⟨text, content⟩
    let r' := e.applyRule t ⟨text', content⟩
    let trimmed := e.applyRule t ⟨String.ofList (trimBy isAsciiBlank text.toList), content⟩
    SameCount r.1 r'.1 ∧
      (bindsContent r.1 = bindsContent r'.1 ↔
        endsIdle text.toList = endsIdle text'.toList ∨ bindsContent trimmed.1 = false) ∧
      (bindsContent r.1 = bindsContent r'.1 → r.2 = r'.2) := by
  intro r r' trimmed
  have htrim := String.toList_ofList (l := trimBy isAsciiBlank text.toList)
  have htrim' := htrim.trans h
  rcases e.applyRule_trim t content htrim with ⟨cause, cause₀, hs, hs₀⟩ | ⟨s₀, w, hs₀, hr, hw⟩
  · rcases e.applyRule_trim t content htrim' with ⟨cause', -, hs', -⟩ | ⟨s₀, -, hs₀', -⟩
    · have hr : r = (.error (.selector cause), e, t) := by simp only [r, applyRule, hs]
      have hr' : r' = (.error (.selector cause'), e, t) := by simp only [r', applyRule, hs']
      have htrimmed : bindsContent trimmed.1 = false := by
        simp only [trimmed, applyRule, hs₀, bindsContent]
      rw [hr, hr']
      exact ⟨.unread cause cause', ⟨fun _ => Or.inr htrimmed, fun _ => rfl⟩, fun _ => rfl⟩
    · rw [hs₀] at hs₀'
      simp at hs₀'
  · rcases e.applyRule_trim t content htrim' with ⟨-, cause₀, -, hs₀'⟩ | ⟨s₀', w', hs₀', hr', hw'⟩
    · rw [hs₀] at hs₀'
      simp at hs₀'
    · obtain rfl := Except.ok.inj (hs₀.symm.trans hs₀')
      have hsame : SameButContent (comesTo w) (comesTo w') := by
        rw [hw, hw']
        exact sameButContent_walk ht.rooted _ s₀ _ _
      obtain ⟨hcount, hstate⟩ := sameCount_conclude e content hsame
      have htrimmed : trimmed =
          e.conclude content (e.walk t (decodeContent e.fetcher content).1 s₀) :=
        applyRule_eq_conclude hs₀
      have hbound := bindsContent_conclude_walk content ht.rooted _ s₀ _ hw
      have hbound' := bindsContent_conclude_walk content ht.rooted _ s₀ _ hw'
      rw [← htrimmed] at hbound hbound'
      simp only [r, r', hr, hr']
      refine ⟨hcount, ?_, hstate⟩
      rw [hbound, hbound']
      cases endsIdle text.toList <;> cases endsIdle text'.toList <;> simp

/-- What comes of a rule with content on the bare document. -/
def filled (selector : String) : Except RuleError Report × Engine × Tree :=
  (Engine.new .default (.ofAnswers fun _ => .failed)).applyRule Document.skeleton.tree
    ⟨selector, some "\"x\""⟩

theorem applyRule_margins_skeleton :
    Document.skeleton.tree.Reachable ∧
      trimBy isAsciiBlank "body p ".toList = trimBy isAsciiBlank "\n body p".toList ∧
      SameCount (filled "body p ").1 (filled "\n body p").1 ∧
      bindsContent (filled "body p ").1 = false ∧ bindsContent (filled "\n body p").1 = true ∧
      endsIdle "body p ".toList ≠ endsIdle "\n body p".toList := by
  have hmargins : trimBy isAsciiBlank "body p ".toList =
      trimBy isAsciiBlank "\n body p".toList := by decide
  have hlost : bindsContent (filled "body p ").1 = false := by cbv
  have hbound : bindsContent (filled "\n body p").1 = true := by cbv
  obtain ⟨hcount, hiff, -⟩ : SameCount (filled "body p ").1 (filled "\n body p").1 ∧ _ :=
    applyRule_margins reachable_skeleton hmargins
  refine ⟨reachable_skeleton, hmargins, hcount, hlost, hbound, fun hidle => ?_⟩
  have hsame : bindsContent (filled "body p ").1 = bindsContent (filled "\n body p").1 :=
    hiff.mpr (Or.inl hidle)
  rw [hlost, hbound] at hsame
  exact Bool.false_ne_true hsame

/-- The blank behind the `p` is taken for the last item, and the content is lost. -/
theorem not_applyRule_margins_of_idle :
    ¬ ∀ (d : Document) (e : Engine) (text text' : String) (content : Option String),
      d.tree.Reachable → trimBy isAsciiBlank text.toList = trimBy isAsciiBlank text'.toList →
      let r := e.applyRule d.tree ⟨text, content⟩
      let r' := e.applyRule d.tree ⟨text', content⟩
      SameCount r.1 r'.1 ∧ bindsContent r.1 = bindsContent r'.1 ∧
        Markup.document .compact { d with tree := r.2.2 } =
          Markup.document .compact { d with tree := r'.2.2 } := by
  intro hall
  obtain ⟨-, -, hwritten⟩ := hall Document.skeleton
    (Engine.new .default (.ofAnswers fun _ => .failed)) "body p " "body p" (some "\"x\"")
    reachable_skeleton (by decide)
  have hlost : Markup.document .compact
      { Document.skeleton with tree := (filled "body p ").2.2 } =
      "<html><head></head><body><p></p></body></html>" := by cbv
  have hbound : Markup.document .compact
      { Document.skeleton with tree := (filled "body p").2.2 } =
      "<html><head></head><body><p>x</p></body></html>" := by cbv
  have hsame := hlost.symm.trans (hwritten.trans hbound)
  simp at hsame

end Engine

end Topiary.Synthesis
