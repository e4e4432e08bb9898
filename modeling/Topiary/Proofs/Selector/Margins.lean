import Mathlib
import Topiary.Proofs.Selector.Grouping

/-!
Blanks at the margins of a text. A text with one blank more at its front or at its end can be read
exactly if the text itself can. It is then read as the same tokens, but for the blanks that a
combinator takes and for blanks that stand alone; alone they are set aside at the front, and at the
end they are a combinator with nothing behind it.
-/

namespace Topiary.Selector

open Topiary.Text

variable {kind : Kind} {token : Token} {tokens first last behind : List Token}
  {items : List Item} {source rest cs cs' l u v name : List Char} {b c : Char}
  {text text' : String} {s s' : Sequence}

/-! ## Outlines -/

/-- A token without the text it was read from, unless it restricts a node. -/
def Token.outline (t : Token) : Token :=
  if t.isStructural then ⟨t.kind, ""⟩ else t

theorem Token.kind_outline (t : Token) : t.outline.kind = t.kind := by
  rw [outline]
  split <;> rfl

theorem Token.isStructural_outline (t : Token) : t.outline.isStructural = t.isStructural := by
  rw [isStructural, kind_outline, isStructural]

/-- Mere blanks. -/
def idle : Token := ⟨.descendant, ""⟩

theorem Token.outline_eq_idle_iff : token.outline = idle ↔ token.kind = .descendant := by
  constructor
  · intro h
    rw [← token.kind_outline, h]
    rfl
  · intro h
    rw [outline, isStructural, h]
    rfl

/-- What is left of the tokens of a text if blanks at its margins do not count. -/
def core (tokens : List Token) : List Token :=
  ((keep true tokens).map Token.outline).rdropWhile (· == idle)

theorem keep_outline (atStart : Bool) (tokens : List Token) :
    (keep atStart tokens).map Token.outline = keep atStart (tokens.map Token.outline) := by
  induction tokens generalizing atStart with
  | nil => rfl
  | cons token tokens ih =>
    rw [List.map_cons, keep, keep, token.kind_outline]
    split
    · exact ih atStart
    · rw [List.map_cons, ih]

theorem core_congr (h : first.map Token.outline = last.map Token.outline) :
    core first = core last := by
  rw [core, core, keep_outline, keep_outline, h]

/-- A token at the end is kept or not, but it changes nothing in front of it. -/
theorem keep_concat (atStart : Bool) (tokens : List Token) (token : Token) :
    keep atStart (tokens ++ [token]) = keep atStart tokens ∨
      keep atStart (tokens ++ [token]) = keep atStart tokens ++ [token] := by
  induction tokens generalizing atStart with
  | nil =>
    cases hdrop : token.kind == .descendant && atStart with
    | true => exact Or.inl (by simp [keep, hdrop])
    | false => exact Or.inr (keep_cons_of_ne hdrop)
  | cons other tokens ih =>
    rw [List.cons_append, keep, keep]
    split
    · exact ih atStart
    · rcases ih (other.kind == .separator) with h | h
      · exact Or.inl (by rw [h])
      · exact Or.inr (by rw [h, List.cons_append])

theorem core_concat_idle (h : token.kind = .descendant) :
    core (tokens ++ [token]) = core tokens := by
  rw [core, core]
  rcases keep_concat true tokens token with hkeep | hkeep
  · rw [hkeep]
  · rw [hkeep, List.map_append, List.map_singleton, Token.outline_eq_idle_iff.mpr h]
    exact List.rdropWhile_concat_pos _ _ _ (beq_self_eq_true _)

theorem core_cons_idle (h : token.kind = .descendant) : core (token :: tokens) = core tokens := by
  have hkeep : keep true (token :: tokens) = keep true tokens := by
    rw [keep, h]
    rfl
  rw [core, core, hkeep]

/-! ## Blanks at the margins of a token -/

/-- Whether the tokens of a kind take the blanks around them. -/
def Kind.takesBlanks : Kind → Bool
  | .child | .descendant | .nextAdjacent | .nextSibling => true
  | _ => false

theorem isStructural_of_takesBlanks (h : kind.takesBlanks = true) : kind.isStructural = true := by
  cases kind <;> first | rfl | simp [Kind.takesBlanks] at h

theorem IsBlanks.cons (hb : isAsciiBlank b = true) (hu : IsBlanks u) : IsBlanks (b :: u) := by
  intro c hc
  rcases List.mem_cons.mp hc with rfl | hc
  · exact hb
  · exact hu c hc

theorem IsBlanks.concat (hb : isAsciiBlank b = true) (hu : IsBlanks u) : IsBlanks (u ++ [b]) := by
  intro c hc
  rcases List.mem_append.mp hc with hc | hc
  · exact hu c hc
  · rw [List.mem_singleton.mp hc]
    exact hb

theorem isBlanks_of_subset (hu : IsBlanks u) (h : v ⊆ u) : IsBlanks v :=
  fun c hc => hu c (h hc)

/-- What a blank is not. -/
theorem of_isAsciiBlank (hb : isAsciiBlank b = true) : isFunctionChar b = false ∧
    isMark b = false ∧ b ∉ ['(', ')', '"'] := by
  simp only [isAsciiBlank, Bool.or_eq_true, beq_iff_eq] at hb
  rcases hb with (((rfl | rfl) | rfl) | rfl) | rfl <;> decide

/-- What the characters of names are not. -/
theorem of_isFunctionChar (hc : isFunctionChar c = true) :
    isAsciiBlank c = false ∧ isMark c = false ∧ c ≠ ',' := by
  refine ⟨?_, ?_, ?_⟩
  · rw [Bool.eq_false_iff]
    intro hblank
    rw [(of_isAsciiBlank hblank).1] at hc
    exact Bool.false_ne_true hc
  · rw [Bool.eq_false_iff]
    intro hmark
    simp only [isMark, Bool.or_eq_true, beq_iff_eq] at hmark
    rcases hmark with (rfl | rfl) | rfl <;> exact absurd hc (by decide)
  · rintro rfl
    exact absurd hc (by decide)

theorem IsName.isFunctionChar (h : IsName name) (hc : c ∈ name) : isFunctionChar c = true := by
  rw [Selector.isFunctionChar, h.rest c hc, Bool.true_or]

namespace Lexeme

/-- A token that takes blanks is nothing but blanks, or it is blank around one mark. -/
theorem blanks_or_mark (h : Lexeme kind source) (hkind : kind.takesBlanks = true) :
    (kind = .descendant ∧ IsBlanks source ∧ source ≠ []) ∨
    ∃ u m v, source = u ++ m :: v ∧ isMark m = true ∧ IsBlanks u ∧ IsBlanks v ∧
      ∀ {u v}, IsBlanks u → IsBlanks v → Lexeme kind (u ++ m :: v) := by
  cases h with
  | descendant hu hne => exact Or.inl ⟨rfl, hu, hne⟩
  | child hu hv => exact Or.inr ⟨_, _, _, rfl, rfl, hu, hv, .child⟩
  | nextAdjacent hu hv => exact Or.inr ⟨_, _, _, rfl, rfl, hu, hv, .nextAdjacent⟩
  | nextSibling hu hv => exact Or.inr ⟨_, _, _, rfl, rfl, hu, hv, .nextSibling⟩
  | _ => simp [Kind.takesBlanks] at hkind

theorem cons_blank (h : Lexeme kind source) (hkind : kind.takesBlanks = true)
    (hb : isAsciiBlank b = true) : Lexeme kind (b :: source) := by
  rcases h.blanks_or_mark hkind with ⟨rfl, hu, -⟩ | ⟨u, m, v, rfl, -, hu, hv, hall⟩
  · exact .descendant (hu.cons hb) (List.cons_ne_nil _ _)
  · exact hall (hu.cons hb) hv

theorem concat_blank (h : Lexeme kind source) (hkind : kind.takesBlanks = true)
    (hb : isAsciiBlank b = true) : Lexeme kind (source ++ [b]) := by
  rcases h.blanks_or_mark hkind with ⟨rfl, hu, -⟩ | ⟨u, m, v, rfl, -, hu, hv, hall⟩
  · exact .descendant (hu.concat hb) (by simp)
  · rw [List.append_assoc]
    exact hall hu (hv.concat hb)

/-- What other tokens begin with. -/
theorem of_cons (h : Lexeme kind (c :: source)) (hkind : kind.takesBlanks = false) :
    isAsciiBlank c = false ∧ isMark c = false := by
  generalize hsource : c :: source = all at h
  cases h with
  | tag h =>
    have hmem : c ∈ all := by simp [← hsource]
    obtain ⟨hblank, hmark, -⟩ := of_isFunctionChar (h.isFunctionChar hmem)
    exact ⟨hblank, hmark⟩
  | child | descendant | nextAdjacent | nextSibling => simp [Kind.takesBlanks] at hkind
  | _ =>
    obtain ⟨rfl, -⟩ := List.cons.inj hsource
    decide

/-- What other tokens end in; only a separator is a comma. -/
theorem of_concat (h : Lexeme kind (source ++ [c])) (hkind : kind.takesBlanks = false) :
    isAsciiBlank c = false ∧ isMark c = false ∧ (c = ',' ↔ kind = .separator) := by
  generalize hsource : source ++ [c] = all at h
  have hlast : all.getLast? = some c := by rw [← hsource, List.getLast?_concat]
  have hmem : c ∈ all := List.mem_of_getLast? hlast
  cases h with
  | tag h => simpa using of_isFunctionChar (h.isFunctionChar hmem)
  | id h | className h =>
    rcases List.mem_cons.mp hmem with rfl | hmem
    · simp; decide
    · simpa using of_isFunctionChar (h.isFunctionChar hmem)
  | pseudoClass h =>
    rcases List.mem_cons.mp hmem with rfl | hmem
    · simp; decide
    · simpa using of_isFunctionChar (h.rest c hmem)
  | pseudoElement h =>
    rcases List.mem_cons.mp hmem with rfl | hmem
    · simp; decide
    · rcases List.mem_cons.mp hmem with rfl | hmem
      · simp; decide
      · simpa using of_isFunctionChar (h.rest c hmem)
  | universal | separator =>
    obtain rfl := Option.some.inj hlast
    simp; decide
  | child | descendant | nextAdjacent | nextSibling => simp [Kind.takesBlanks] at hkind
  | _ =>
    rw [List.getLast?_append] at hlast
    obtain rfl := Option.some.inj hlast
    simp; decide

/-- Only combinators begin with a blank, and a combinator does without it. -/
theorem of_cons_blank (h : Lexeme kind (b :: source)) (hb : isAsciiBlank b = true) :
    kind.takesBlanks = true ∧ (source = [] ∨ Lexeme kind source) := by
  have hkind : kind.takesBlanks = true := by
    rw [← Bool.not_eq_false]
    intro hkind
    rw [(h.of_cons hkind).1] at hb
    exact Bool.false_ne_true hb
  refine ⟨hkind, ?_⟩
  rcases h.blanks_or_mark hkind with ⟨rfl, hu, -⟩ | ⟨u, m, v, hsource, hmark, hu, hv, hall⟩
  · by_cases hnil : source = []
    · exact Or.inl hnil
    · exact Or.inr (.descendant (isBlanks_of_subset hu (List.subset_cons_self _ _)) hnil)
  · cases u with
    | nil =>
      rw [← (List.cons.inj hsource).1, (of_isAsciiBlank hb).2.1] at hmark
      exact absurd hmark Bool.false_ne_true
    | cons a u =>
      obtain ⟨rfl, rfl⟩ := List.cons.inj hsource
      exact Or.inr (hall (isBlanks_of_subset hu (List.subset_cons_self _ _)) hv)

/-- Only combinators end in a blank, and a combinator does without it. -/
theorem of_concat_blank (h : Lexeme kind (source ++ [b])) (hb : isAsciiBlank b = true) :
    kind.takesBlanks = true ∧ (source = [] ∨ Lexeme kind source) := by
  have hkind : kind.takesBlanks = true := by
    rw [← Bool.not_eq_false]
    intro hkind
    rw [(h.of_concat hkind).1] at hb
    exact Bool.false_ne_true hb
  refine ⟨hkind, ?_⟩
  rcases h.blanks_or_mark hkind with ⟨rfl, hu, -⟩ | ⟨u, m, v, hsource, hmark, hu, hv, hall⟩
  · by_cases hnil : source = []
    · exact Or.inl hnil
    · exact Or.inr (.descendant (isBlanks_of_subset hu (List.subset_append_left _ _)) hnil)
  · rcases List.eq_nil_or_concat v with rfl | ⟨v, a, rfl⟩
    · obtain ⟨-, hlast⟩ := List.append_inj' hsource rfl
      rw [← List.singleton_inj.mp hlast, (of_isAsciiBlank hb).2.1] at hmark
      exact absurd hmark Bool.false_ne_true
    · rw [List.concat_eq_append, ← List.cons_append, ← List.append_assoc] at hsource
      obtain ⟨rfl, -⟩ := List.append_inj' hsource rfl
      refine Or.inr (hall hu (isBlanks_of_subset hv ?_))
      rw [List.concat_eq_append]
      exact List.subset_append_left _ _

end Lexeme

/-! ## Another text behind a token that takes no blanks -/

/-- A text that may stand behind every token that takes no blanks instead of another: it begins with
a blank, a mark or a comma, or it is empty, and its first quote ends a call only if that of the
other does. -/
structure Relieves (cs' cs : List Char) : Prop where
  head : ∀ c ∈ cs'.head?, isAsciiBlank c = true ∨ isMark c = true ∨ c = ','
  quote : QuoteBefore ')' cs' → QuoteBefore ')' cs

namespace Relieves

/-- Neither names nor calls go on with the text. -/
theorem stops (h : Relieves cs' cs) :
    Stops isFunctionChar cs' ∧ Stops (· == '(') cs' ∧ cs'.head? ≠ some ')' := by
  have hnot : ∀ c ∈ cs'.head?, isFunctionChar c = false ∧ c ≠ '(' ∧ c ≠ ')' := by
    intro c hc
    rcases h.head c hc with hblank | hmark | rfl
    · obtain ⟨hfunction, -, hne⟩ := of_isAsciiBlank hblank
      simp only [List.mem_cons, List.not_mem_nil, or_false, not_or] at hne
      exact ⟨hfunction, hne.1, hne.2.1⟩
    · simp only [isMark, Bool.or_eq_true, beq_iff_eq] at hmark
      rcases hmark with (rfl | rfl) | rfl <;> decide
    · decide
  refine ⟨fun c hc => (hnot c hc).1, fun c hc => ?_, fun hc => (hnot _ hc).2.2 rfl⟩
  exact beq_eq_false_iff_ne.mpr (hnot c hc).2.1

theorem append_quote (h : Relieves cs' cs) (l : List Char) :
    QuoteBefore ')' (l ++ cs') → QuoteBefore ')' (l ++ cs) := by
  induction l with
  | nil => exact h.quote
  | cons a l ih =>
    rw [List.cons_append, List.cons_append, quoteBefore_cons, quoteBefore_cons]
    split
    · cases l with
      | nil => exact fun hc => absurd hc h.stops.2.2
      | cons b l => exact id
    · exact ih

theorem replaces (h : Relieves cs' cs) (hne : l ≠ []) : Replaces (l ++ cs') (l ++ cs) where
  head := by
    intro c hc
    rw [List.head?_append_of_ne_nil _ hne] at hc ⊢
    exact hc
  quote := h.append_quote l

theorem boundary (h : Relieves cs' cs) (hkind : kind.takesBlanks = false)
    (hb : Boundary kind cs) : Boundary kind cs' := by
  obtain ⟨hfunction, hcall, -⟩ := h.stops
  have hname : Stops isAlphanumeric cs' := fun c hc => (Bool.or_eq_false_iff.mp (hfunction c hc)).1
  cases kind with
  | tag | id | className => exact hname
  | pseudoElement => exact hfunction
  | pseudoClass => exact ⟨hfunction, hcall⟩
  | call function argument =>
    intro inner hinner hquote
    have happend := h.append_quote (inner ++ [')'])
    simp only [List.append_assoc, List.singleton_append] at happend
    exact hb inner hinner (happend hquote)
  | child | descendant | nextAdjacent | nextSibling => cases hkind
  | _ => trivial

end Relieves

theorem IsBlanks.not_quote (hu : IsBlanks u) : '"' ∉ u :=
  fun hmem => absurd (hu _ hmem) (by decide)

/-- What begins with blanks or a mark may change in front of a text, unless it holds a quote. -/
theorem relieves_append (hne : l ≠ [])
    (hhead : ∀ c ∈ l.head?, isAsciiBlank c = true ∨ isMark c = true ∨ c = ',') (hl : '"' ∉ l)
    (hv : '"' ∉ v) (cs : List Char) : Relieves (l ++ cs) (v ++ cs) where
  head := by
    rw [List.head?_append_of_ne_nil _ hne]
    exact hhead
  quote := by
    rw [quoteBefore_append hl, quoteBefore_append hv]
    exact id

/-- The last token of the list takes no blanks. -/
def EndsSolid (tokens : List Token) : Prop :=
  ∀ token ∈ tokens.getLast?, token.kind.takesBlanks = false

/-- The end of a list may be exchanged behind a token that takes no blanks. -/
theorem WellCut.relieve (h : WellCut (first ++ tokens)) (hsolid : EndsSolid first)
    (hbehind : WellCut behind) (hrelieves : Relieves (spell behind) (spell tokens)) :
    WellCut (first ++ behind) := by
  rcases List.eq_nil_or_concat first with rfl | ⟨first, token, rfl⟩
  · exact hbehind
  rw [List.concat_eq_append] at h hsolid ⊢
  rw [List.append_assoc] at h ⊢
  have hkind : token.kind.takesBlanks = false := hsolid token (by simp)
  obtain ⟨hlexeme, hboundary, -⟩ := h.right
  refine h.exchange ⟨hlexeme, hrelieves.boundary hkind hboundary, hbehind⟩ ?_
  rw [List.singleton_append, List.singleton_append, spell_cons, spell_cons]
  exact hrelieves.replaces hlexeme.ne_nil

/-! ## Blanks at the margins of a list -/

theorem relieves_blank (hb : isAsciiBlank b = true) : Relieves [b] [] := by
  have hblanks : IsBlanks [b] := by simpa [IsBlanks] using hb
  apply relieves_append (List.cons_ne_nil b []) _ hblanks.not_quote List.not_mem_nil []
  intro c hc
  obtain rfl := Option.some.inj hc
  exact Or.inl hb

/-- A blank behind a text does not change how the text begins, nor where its first quote stands. -/
theorem replaces_concat (hb : isAsciiBlank b = true) (hne : rest ≠ []) :
    Replaces (rest ++ [b]) rest := by
  have hreplaces := (relieves_blank hb).replaces hne
  rwa [List.append_nil] at hreplaces

theorem outline_respell (h : token.kind.takesBlanks = true) (source : String) :
    (⟨token.kind, source⟩ : Token).outline = token.outline := by
  have hstructural := isStructural_of_takesBlanks h
  simp [Token.outline, Token.isStructural, hstructural]

/-- A blank alone at the end of a text is one token. -/
theorem wellCut_blank (hb : isAsciiBlank b = true) :
    WellCut [⟨.descendant, String.ofList [b]⟩] := by
  refine ⟨?_, ⟨stops_nil, stops_nil⟩, trivial⟩
  rw [String.toList_ofList]
  exact .descendant (by simpa [IsBlanks] using hb) (by simp)

/-- A text can go on with a blank. -/
theorem WellCut.exists_concat (h : WellCut tokens) (hb : isAsciiBlank b = true) :
    ∃ tokens', WellCut tokens' ∧ spell tokens' = spell tokens ++ [b] ∧
      core tokens' = core tokens := by
  rcases List.eq_nil_or_concat tokens with rfl | ⟨first, token, rfl⟩
  · refine ⟨_, wellCut_blank hb, ?_, ?_⟩
    · rw [spell_cons, String.toList_ofList]
      rfl
    · exact core_cons_idle rfl
  rw [List.concat_eq_append] at h ⊢
  obtain ⟨hlexeme, hboundary, -⟩ := h.right
  have hspell : spell [token] = token.source.toList := by simp [spell]
  have hne : token.source.toList ≠ [] := hlexeme.ne_nil
  cases hkind : token.kind.takesBlanks with
  | true =>
    -- the last token takes the blank
    have hlexeme' := hlexeme.concat_blank hkind hb
    refine ⟨first ++ [⟨token.kind, String.ofList (token.source.toList ++ [b])⟩], ?_, ?_, ?_⟩
    · refine h.exchange ⟨?_, hboundary, trivial⟩ ?_
      · rwa [String.toList_ofList]
      · rw [spell_cons, String.toList_ofList, hspell]
        simpa [spell] using replaces_concat hb hne
    · simp [spell]
    · apply core_congr
      rw [List.map_append, List.map_append, List.map_singleton, List.map_singleton,
        outline_respell hkind]
  | false =>
    -- the blank is a token of its own
    refine ⟨first ++ [token] ++ [⟨.descendant, String.ofList [b]⟩], ?_, ?_, ?_⟩
    · have hwell : WellCut (first ++ [token] ++ []) := by rwa [List.append_nil]
      apply hwell.relieve _ (wellCut_blank hb)
      · simpa [spell] using relieves_blank hb
      · simpa [EndsSolid] using hkind
    · simp [spell]
    · exact core_concat_idle rfl

/-- A blank at the end of a text can be taken away. -/
theorem WellCut.of_concat (h : WellCut tokens) (hspell : spell tokens = cs ++ [b])
    (hb : isAsciiBlank b = true) : ∃ tokens', WellCut tokens' ∧ spell tokens' = cs := by
  rcases List.eq_nil_or_concat tokens with rfl | ⟨first, token, rfl⟩
  · simp [spell] at hspell
  rw [List.concat_eq_append] at h hspell
  obtain ⟨hlexeme, hboundary, -⟩ := h.right
  rw [spell_append] at hspell
  obtain ⟨source, last, hsource⟩ :=
    (List.eq_nil_or_concat token.source.toList).resolve_left hlexeme.ne_nil
  have htoken : spell [token] = source ++ [last] := by simp [spell, hsource]
  rw [htoken, ← List.append_assoc] at hspell
  obtain ⟨rfl, hlast⟩ := List.append_inj' hspell rfl
  obtain rfl := List.singleton_inj.mp hlast
  rw [hsource, List.concat_eq_append] at hlexeme
  obtain ⟨hkind, rfl | hshorter⟩ := hlexeme.of_concat_blank hb
  · exact ⟨first, h.of_append, by simp⟩
  · refine ⟨first ++ [⟨token.kind, String.ofList source⟩], h.exchange ⟨?_, hboundary, trivial⟩ ?_,
      by simp [spell]⟩
    · rwa [String.toList_ofList]
    · rw [htoken]
      simpa [spell] using replaces_self_append source [last]

/-- A text can start with a blank. -/
theorem WellCut.exists_cons (h : WellCut tokens) (hb : isAsciiBlank b = true) :
    ∃ tokens', WellCut tokens' ∧ spell tokens' = b :: spell tokens ∧
      core tokens' = core tokens := by
  cases tokens with
  | nil => exact ⟨_, wellCut_blank hb, by simp [spell], core_cons_idle rfl⟩
  | cons token tokens =>
    obtain ⟨hlexeme, hboundary, hrest⟩ := h
    cases hkind : token.kind.takesBlanks with
    | true =>
      have hlexeme' := hlexeme.cons_blank hkind hb
      refine ⟨⟨token.kind, String.ofList (b :: token.source.toList)⟩ :: tokens,
        ⟨?_, hboundary, hrest⟩, by simp [spell], ?_⟩
      · rwa [String.toList_ofList]
      · apply core_congr
        rw [List.map_cons, List.map_cons, outline_respell hkind]
    | false =>
      refine ⟨⟨.descendant, String.ofList [b]⟩ :: token :: tokens,
        ⟨(wellCut_blank hb).1, ?_, hlexeme, hboundary, hrest⟩, by simp [spell],
        core_cons_idle rfl⟩
      obtain ⟨c, source, -, hfirst, hspell⟩ := WellCut.exists_first ⟨hlexeme, hboundary, hrest⟩
      obtain ⟨hblank, hmark⟩ := hfirst.of_cons hkind
      rw [hspell]
      exact ⟨stops_cons.mpr hblank, stops_cons.mpr hmark⟩

/-- A blank at the start of a text can be taken away. -/
theorem WellCut.of_cons (h : WellCut tokens) (hspell : spell tokens = b :: cs)
    (hb : isAsciiBlank b = true) : ∃ tokens', WellCut tokens' ∧ spell tokens' = cs := by
  cases tokens with
  | nil => simp [spell] at hspell
  | cons token tokens =>
    obtain ⟨c, source, -, hlexeme, hfirst⟩ := h.exists_first
    obtain ⟨-, hboundary, hrest⟩ := h
    rw [hfirst] at hspell
    obtain ⟨rfl, rfl⟩ := List.cons.inj hspell
    obtain ⟨-, rfl | hshorter⟩ := hlexeme.of_cons_blank hb
    · exact ⟨tokens, hrest, rfl⟩
    · refine ⟨⟨token.kind, String.ofList source⟩ :: tokens, ⟨?_, hboundary, hrest⟩, by simp [spell]⟩
      rwa [String.toList_ofList]

/-! ## What a text comes to -/

/-- The tokens that a text is read as, apart from blanks at its margins. -/
def coreOf? (cs : List Char) : Option (List Token) :=
  (cutAll cs).toOption.map core

/-- A longer text is read as a shorter one if each has tokens where the other has. -/
theorem coreOf?_congr {cs' : List Char}
    (hlonger : ∀ tokens, WellCut tokens → spell tokens = cs →
      ∃ tokens', WellCut tokens' ∧ spell tokens' = cs' ∧ core tokens' = core tokens)
    (hshorter : ∀ tokens, WellCut tokens → spell tokens = cs' →
      ∃ tokens', WellCut tokens' ∧ spell tokens' = cs) : coreOf? cs' = coreOf? cs := by
  rw [coreOf?, coreOf?]
  cases hcut : cutAll cs with
  | ok tokens =>
    obtain ⟨hwell, hspell⟩ := wellCut_of_cutAll hcut
    obtain ⟨tokens', hwell', rfl, hcore⟩ := hlonger tokens hwell hspell
    rw [cutAll_spell hwell']
    exact congrArg some hcore
  | error remaining =>
    cases hcut' : cutAll cs' with
    | error remaining' => rfl
    | ok tokens' =>
      obtain ⟨hwell', hspell'⟩ := wellCut_of_cutAll hcut'
      obtain ⟨tokens, hwell, rfl⟩ := hshorter tokens' hwell' hspell'
      rw [cutAll_spell hwell] at hcut
      simp at hcut

theorem coreOf?_concat (hb : isAsciiBlank b = true) : coreOf? (cs ++ [b]) = coreOf? cs := by
  apply coreOf?_congr
  · rintro tokens h rfl
    exact h.exists_concat hb
  · intro tokens h hspell
    exact h.of_concat hspell hb

theorem coreOf?_cons (hb : isAsciiBlank b = true) : coreOf? (b :: cs) = coreOf? cs := by
  apply coreOf?_congr
  · rintro tokens h rfl
    exact h.exists_cons hb
  · intro tokens h hspell
    exact h.of_cons hspell hb

theorem coreOf?_append_blanks (hv : IsBlanks v) : coreOf? (cs ++ v) = coreOf? cs := by
  induction v using List.reverseRecOn with
  | nil => rw [List.append_nil]
  | append_singleton v b ih =>
    rw [← List.append_assoc, coreOf?_concat (hv b (by simp))]
    exact ih (isBlanks_of_subset hv (List.subset_append_left _ _))

theorem coreOf?_blanks_append (hu : IsBlanks u) : coreOf? (u ++ cs) = coreOf? cs := by
  induction u with
  | nil => rfl
  | cons b u ih =>
    rw [List.cons_append, coreOf?_cons (hu b (by simp))]
    exact ih (isBlanks_of_subset hu (List.subset_cons_self _ _))

/-- A text consists of its margins and what is left when it is trimmed. -/
theorem exists_trimBy (p : Char → Bool) (cs : List Char) :
    ∃ u v, cs = u ++ trimBy p cs ++ v ∧ (∀ c ∈ u, p c = true) ∧ ∀ c ∈ v, p c = true := by
  have htail : cs.dropWhile p = trimBy p cs ++ ((cs.dropWhile p).reverse.takeWhile p).reverse := by
    rw [trimBy, ← List.reverse_append, List.takeWhile_append_dropWhile, List.reverse_reverse]
  refine ⟨cs.takeWhile p, ((cs.dropWhile p).reverse.takeWhile p).reverse, ?_, ?_, ?_⟩
  · rw [List.append_assoc, ← htail, List.takeWhile_append_dropWhile]
  · exact fun c hc => mem_takeWhile hc
  · exact fun c hc => mem_takeWhile (List.mem_reverse.mp hc)

/-- Blanks at the margins of a text do not matter for what it is read as. -/
theorem coreOf?_trimBy (cs : List Char) : coreOf? (trimBy isAsciiBlank cs) = coreOf? cs := by
  obtain ⟨u, v, hcs, hu, hv⟩ := exists_trimBy isAsciiBlank cs
  conv_rhs => rw [hcs]
  rw [coreOf?_append_blanks hv, coreOf?_blanks_append hu]

/-! ## Texts that end idle -/

theorem getLast?_trimBy {p : Char → Bool} (hc : p c = false) (hv : ∀ a ∈ v, p a = true) :
    (trimBy p (u ++ c :: v)).getLast? = some c := by
  have hv' : ∀ a ∈ v.reverse, p a = true := fun a ha => hv a (List.mem_reverse.mp ha)
  rw [trimBy, dropWhile_append_cons hc, List.reverse_append, List.reverse_cons, List.append_assoc,
    List.singleton_append, dropWhile_append_of_stops hv' (stops_cons.mpr hc), List.reverse_cons,
    List.getLast?_concat]

theorem trimBy_of_forall {p : Char → Bool} (h : ∀ c ∈ cs, p c = true) : trimBy p cs = [] := by
  have hnil : cs.dropWhile p = [] := List.dropWhile_eq_nil_iff.mpr h
  rw [trimBy, hnil]
  rfl

/-- Whether a text ends in a blank that no combinator takes and that is not set aside. -/
def endsIdle (cs : List Char) : Bool :=
  cs.getLast?.any isAsciiBlank &&
    (trimBy isAsciiBlank cs).getLast?.any fun c => !isMark c && c != ','

/-- A trimmed text does not end idle. -/
theorem endsIdle_trimBy (cs : List Char) : endsIdle (trimBy isAsciiBlank cs) = false := by
  have hlast : (trimBy isAsciiBlank cs).getLast?.any isAsciiBlank = false := by
    rw [trimBy, List.getLast?_reverse, Option.any_eq_false_iff_get]
    intro hsome
    exact stops_dropWhile _ (Option.get_mem hsome)
  rw [endsIdle, hlast, Bool.false_and]

theorem stops_of_boundary (h : Boundary kind rest) (hkind : kind.takesBlanks = true) :
    Stops isAsciiBlank rest := by
  cases kind with
  | child | nextAdjacent | nextSibling => exact h
  | descendant => exact h.1
  | _ => simp [Kind.takesBlanks] at hkind

/-- Blanks behind other tokens are an item unless a comma stands in front of them. -/
theorem WellCut.endsIdle_iff_of_idle (h : WellCut (first ++ [token]))
    (hidle : token.kind = .descendant) : endsIdle (spell (first ++ [token])) = true ↔
      ∃ last, (Selector.keep true (first ++ [token])).getLast? = some last ∧
        last.kind = .descendant := by
  have hlexeme := h.right.1
  have hne := hlexeme.ne_nil
  rw [hidle] at hlexeme
  have hblanks : IsBlanks token.source.toList := hlexeme.isBlanks
  have htoken : spell [token] = token.source.toList := by simp [spell]
  rw [spell_append, htoken]
  rcases List.eq_nil_or_concat first with rfl | ⟨first, before, rfl⟩
  · have hkeep : Selector.keep true [token] = [] := by simp [Selector.keep, hidle]
    have hspell : spell [] = [] := rfl
    rw [List.nil_append, hkeep, hspell, List.nil_append, endsIdle, trimBy_of_forall hblanks]
    simp
  rw [List.concat_eq_append] at h ⊢
  rw [List.append_assoc] at h
  obtain ⟨hbefore, hboundary, -⟩ := h.right
  -- a combinator would have taken the blanks
  obtain ⟨more, b, hmore⟩ := (List.eq_nil_or_concat token.source.toList).resolve_left hne
  rw [List.concat_eq_append] at hmore
  have hkind : before.kind.takesBlanks = false := by
    rw [Bool.eq_false_iff]
    intro htakes
    have hstop : Stops isAsciiBlank (spell [token]) := stops_of_boundary hboundary htakes
    obtain ⟨d, rest, hd⟩ := List.exists_cons_of_ne_nil hne
    rw [htoken, hd, stops_cons, hblanks d (by simp [hd])] at hstop
    simp at hstop
  obtain ⟨source, c, hsource⟩ :=
    (List.eq_nil_or_concat before.source.toList).resolve_left hbefore.ne_nil
  rw [List.concat_eq_append] at hsource
  rw [hsource] at hbefore
  obtain ⟨hblank, hmark, hcomma⟩ := hbefore.of_concat hkind
  have hspell : spell (first ++ [before]) ++ token.source.toList =
      (spell first ++ source) ++ c :: token.source.toList := by
    simp [spell, hsource]
  have hlast : (spell (first ++ [before]) ++ token.source.toList).getLast? = some b := by
    rw [hmore, ← List.append_assoc, List.getLast?_concat]
  have hb : isAsciiBlank b = true := hblanks b (by simp [hmore])
  have hnot : before.kind ≠ .descendant := fun heq => by simp [heq, Kind.takesBlanks] at hkind
  have hkeep : Selector.keep true (first ++ [before] ++ [token]) =
      Selector.keep true first ++ before :: Selector.keep (before.kind == .separator) [token] := by
    rw [List.append_assoc]
    exact keep_append_cons hnot true first [token]
  rw [hkeep, endsIdle, hlast, hspell, getLast?_trimBy hblank hblanks]
  cases hsep : before.kind == .separator with
  | true =>
    obtain rfl := hcomma.mpr (by simpa using hsep)
    simp [Selector.keep, hidle, hnot]
  | false =>
    have hc : c ≠ ',' := fun heq => by simp [hcomma.mp heq] at hsep
    simp [Selector.keep, hidle, hb, hmark, hc]

theorem WellCut.endsIdle_iff (h : WellCut tokens) : endsIdle (spell tokens) = true ↔
    ∃ last, (Selector.keep true tokens).getLast? = some last ∧ last.kind = .descendant := by
  rcases List.eq_nil_or_concat tokens with rfl | ⟨first, token, rfl⟩
  · simp [endsIdle, spell, Selector.keep]
  rw [List.concat_eq_append] at h ⊢
  by_cases hidle : token.kind = .descendant
  · exact h.endsIdle_iff_of_idle hidle
  have hkept : Selector.keep true (first ++ [token]) = Selector.keep true first ++ [token] :=
    keep_append_cons hidle true first []
  have hlexeme := h.right.1
  have htoken : spell [token] = token.source.toList := by simp [spell]
  rw [hkept, List.getLast?_concat, spell_append, htoken]
  refine iff_of_false ?_ (by simp [hidle])
  cases hkind : token.kind.takesBlanks with
  | true =>
    obtain ⟨u, m, v, hsource, hmark, -, hv, -⟩ :=
      (hlexeme.blanks_or_mark hkind).resolve_left fun hblanks => hidle hblanks.1
    have hm : isAsciiBlank m = false := by
      rw [Bool.eq_false_iff]
      intro hblank
      rw [(of_isAsciiBlank hblank).2.1] at hmark
      exact Bool.false_ne_true hmark
    rw [hsource, endsIdle, ← List.append_assoc, getLast?_trimBy hm hv]
    simp [hmark]
  | false =>
    obtain ⟨source, c, hsource⟩ :=
      (List.eq_nil_or_concat token.source.toList).resolve_left hlexeme.ne_nil
    rw [List.concat_eq_append] at hsource
    rw [hsource] at hlexeme
    have hblank := (hlexeme.of_concat hkind).1
    rw [hsource, endsIdle, ← List.append_assoc, List.getLast?_concat]
    simp [hblank]

/-! ## Items -/

/-- An item without the text of its combinator. -/
def Item.outline : Item → Item
  | .compound g => .compound g
  | .combinator token => .combinator token.outline

theorem groupFrom_outline (pending tokens : List Token) :
    (groupFrom pending tokens).map Item.outline = groupFrom pending (tokens.map Token.outline) := by
  have hflush : ∀ pending, (flush pending).map Item.outline = flush pending := by
    intro pending
    cases pending <;> rfl
  induction tokens generalizing pending with
  | nil => exact hflush pending
  | cons token tokens ih =>
    rw [List.map_cons, groupFrom, groupFrom, token.isStructural_outline]
    split
    · rw [List.map_append, hflush, List.map_cons, ih]
      rfl
    · rename_i hnode
      have hsame : token.outline = token := if_neg hnode
      rw [ih, hsame]

theorem groupFrom_concat (h : token.isStructural = true) (pending tokens : List Token) :
    groupFrom pending (tokens ++ [token]) = groupFrom pending tokens ++ [.combinator token] := by
  induction tokens generalizing pending with
  | nil => simp [groupFrom, h, flush]
  | cons other tokens ih =>
    rw [List.cons_append, groupFrom, groupFrom]
    split
    · rw [ih, List.append_assoc, List.cons_append]
    · exact ih _

theorem exists_replicate_rdropWhile (tokens : List Token) :
    ∃ idles, tokens = tokens.rdropWhile (· == idle) ++ List.replicate idles idle := by
  induction tokens using List.reverseRecOn with
  | nil => exact ⟨0, rfl⟩
  | append_singleton tokens token ih =>
    by_cases hidle : token = idle
    · obtain ⟨idles, hrest⟩ := ih
      refine ⟨idles + 1, ?_⟩
      rw [List.rdropWhile_concat_pos _ _ _ (by simp [hidle]), List.replicate_succ',
        ← List.append_assoc, ← hrest, hidle]
    · refine ⟨0, ?_⟩
      rw [List.rdropWhile_concat_neg _ _ _ (by simpa using hidle)]
      simp

theorem groupFrom_replicate (tokens : List Token) (idles : Nat) :
    groupFrom [] (tokens ++ List.replicate idles idle) =
      groupFrom [] tokens ++ List.replicate idles (.combinator idle) := by
  induction idles with
  | zero => simp
  | succ idles ih =>
    rw [List.replicate_succ', List.replicate_succ', ← List.append_assoc, groupFrom_concat rfl, ih,
      List.append_assoc]

/-- The core of a text does not end in mere blanks. -/
theorem core_ne_concat (tokens first : List Token) : core tokens ≠ first ++ [idle] := by
  intro heq
  have hagain : (core tokens).rdropWhile (· == idle) = core tokens := List.rdropWhile_idempotent _ _
  rw [heq, List.rdropWhile_concat_pos (· == idle) first idle rfl] at hagain
  have hle := (List.rdropWhile_prefix (· == idle) first).length_le
  rw [hagain, List.length_append, List.length_singleton] at hle
  omega

namespace Sequence

/-- The items of a text are those of its core, and behind them mere blanks if it ends idle. -/
theorem exists_core (h : parse text = .ok s) : ∃ tokens body tail,
    coreOf? text.toList = some tokens ∧ s.items = body ++ tail ∧
    body.map Item.outline = groupFrom [] tokens ∧
    (∀ item ∈ tail, ∃ token, item = .combinator token) ∧
    (endsIdle text.toList = true ↔ tail ≠ []) := by
  obtain ⟨all, hcut, hkeep⟩ := exists_cutAll_of_tokenize (tokenize_of_parse h)
  obtain ⟨hwell, hspell⟩ := wellCut_of_cutAll hcut
  obtain ⟨idles, hidles⟩ := exists_replicate_rdropWhile ((keep true all).map Token.outline)
  have hitems : s.items = groupFrom [] (keep true all) := by
    rw [parse, tokenize_of_cutAll hcut] at h
    rw [← Except.ok.inj h]
    rfl
  have houtline : s.items.map Item.outline =
      groupFrom [] (core all) ++ List.replicate idles (.combinator idle) := by
    rw [hitems, groupFrom_outline, hidles]
    exact groupFrom_replicate _ _
  obtain ⟨body, tail, hsplit, hbody, htail⟩ := List.map_eq_append_iff.mp houtline
  refine ⟨core all, body, tail, by rw [coreOf?, hcut]; rfl, hsplit, hbody, ?_, ?_⟩
  · intro item hitem
    have hmem : item.outline ∈ tail.map Item.outline := List.mem_map_of_mem hitem
    rw [htail] at hmem
    cases item with
    | compound g => simp [Item.outline] at hmem
    | combinator token => exact ⟨token, rfl⟩
  · have hlast : endsIdle text.toList = true ↔
        ((keep true all).map Token.outline).getLast? = some idle := by
      simp only [← hspell, hwell.endsIdle_iff, List.getLast?_map, Option.map_eq_some_iff,
        Token.outline_eq_idle_iff]
    rw [hlast, hidles, ne_eq, ← List.map_eq_nil_iff (f := Item.outline), htail]
    cases idles with
    | zero =>
      simp only [List.replicate_zero, List.append_nil, not_true_eq_false, iff_false]
      intro hidle
      obtain ⟨first, hfirst⟩ := List.getLast?_eq_some_iff.mp hidle
      exact core_ne_concat all first hfirst
    | succ idles =>
      rw [List.replicate_succ', ← List.append_assoc, List.getLast?_concat]
      simp

theorem coreOf?_eq_none_iff :
    coreOf? text.toList = none ↔ ∃ cause, parse text = .error cause := by
  rw [coreOf?, parse, tokenize, tokenizeWithElided]
  cases cutAll text.toList with
  | ok tokens => simp [Except.toOption, Except.map]
  | error remaining => simp [Except.toOption, Except.map]

/-- Texts of one core have the same items, but for the blanks that their combinators take and for
mere blanks at the end. -/
theorem parse_of_coreOf? (hcore : coreOf? text.toList = coreOf? text'.toList) :
    (∃ cause cause', parse text = .error cause ∧ parse text' = .error cause') ∨
    ∃ s s' body body' tail tail', parse text = .ok s ∧ parse text' = .ok s' ∧
      s.items = body ++ tail ∧ s'.items = body' ++ tail' ∧
      body.map Item.outline = body'.map Item.outline ∧
      (∀ item ∈ tail, ∃ token, item = .combinator token) ∧
      (endsIdle text.toList = true ↔ tail ≠ []) ∧ (endsIdle text'.toList = true ↔ tail' ≠ []) := by
  cases hs : parse text with
  | error cause =>
    have hnone := coreOf?_eq_none_iff.mpr ⟨cause, hs⟩
    rw [hcore] at hnone
    obtain ⟨cause', hcause'⟩ := coreOf?_eq_none_iff.mp hnone
    exact Or.inl ⟨cause, cause', rfl, hcause'⟩
  | ok s =>
    obtain ⟨tokens, body, tail, htokens, hitems, hbody, htail, hidle⟩ := exists_core hs
    cases hs' : parse text' with
    | error cause =>
      rw [hcore, coreOf?_eq_none_iff.mpr ⟨cause, hs'⟩] at htokens
      simp at htokens
    | ok s' =>
      obtain ⟨tokens', body', tail', htokens', hitems', hbody', -, hidle'⟩ := exists_core hs'
      rw [hcore, htokens'] at htokens
      obtain rfl := Option.some.inj htokens
      exact Or.inr ⟨s, s', body, body', tail, tail', rfl, rfl, hitems, hitems',
        hbody.trans hbody'.symm, htail, hidle, hidle'⟩

end Sequence

end Topiary.Selector
