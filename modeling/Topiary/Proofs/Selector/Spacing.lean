import Topiary.Proofs.Selector.Margins

/-!
Blanks around delimiters. A combinator takes the blanks around its mark, and blanks beside a comma
are tokens of their own that mean nothing. Both may be written anew with other blanks, and the text
is cut at the same places.
-/

namespace Topiary.Selector

open Topiary.Text

variable {kind : Kind} {token : Token} {tokens first rest behind : List Token} {delimiter c : Char}
  {u v u' v' before after cs cs' l : List Char}

instance (u : List Char) : Decidable (IsBlanks u) :=
  decidable_of_iff (u.all isAsciiBlank = true) List.all_eq_true

/-! ## Gaps -/

/-- The delimiter that a token of the kind is written with. -/
inductive Delimits : Kind → Char → Prop where
  | child : Delimits .child '>'
  | nextAdjacent : Delimits .nextAdjacent '+'
  | nextSibling : Delimits .nextSibling '~'
  | separator : Delimits .separator ','

/-- The token of blanks that stand alone, if there are any. -/
def blankTokens (u : List Char) : List Token :=
  if u = [] then [] else [⟨.descendant, String.ofList u⟩]

theorem spell_blankTokens (u : List Char) : spell (blankTokens u) = u := by
  rw [blankTokens]
  split
  · rename_i hnil
    rw [hnil]
    rfl
  · rw [spell_cons, String.toList_ofList]
    exact List.append_nil u

theorem wellCut_blankTokens (hu : IsBlanks u) (hrest : WellCut rest)
    (hblank : Stops isAsciiBlank (spell rest)) (hmark : Stops isMark (spell rest)) :
    WellCut (blankTokens u ++ rest) := by
  rw [blankTokens]
  split
  · exact hrest
  · rename_i hne
    refine ⟨?_, ⟨hblank, hmark⟩, hrest⟩
    rw [String.toList_ofList]
    exact .descendant hu hne

/-- The tokens of a delimiter with blanks on both sides. Beside a comma they stand alone. -/
def gap (kind : Kind) (delimiter : Char) (u v : List Char) : List Token :=
  if kind = .separator then
    blankTokens u ++ ⟨.separator, String.ofList [delimiter]⟩ :: blankTokens v
  else [⟨kind, String.ofList (u ++ delimiter :: v)⟩]

theorem spell_gap (u v : List Char) : spell (gap kind delimiter u v) = u ++ delimiter :: v := by
  rw [gap]
  split
  · rw [spell_append, spell_cons, spell_blankTokens, spell_blankTokens, String.toList_ofList]
    rfl
  · rw [spell_cons, String.toList_ofList]
    exact List.append_nil _

theorem wellCut_gap (hdelim : Delimits kind delimiter) (hu : IsBlanks u) (hv : IsBlanks v)
    (hrest : WellCut rest) (hblank : Stops isAsciiBlank (spell rest))
    (hmark : Stops isMark (spell rest)) : WellCut (gap kind delimiter u v ++ rest) := by
  cases hdelim with
  | separator =>
    rw [gap, if_pos rfl, List.append_assoc, List.cons_append]
    have hcomma : WellCut (⟨.separator, String.ofList [',']⟩ :: (blankTokens v ++ rest)) :=
      ⟨.separator, trivial, wellCut_blankTokens hv hrest hblank hmark⟩
    apply wellCut_blankTokens hu hcomma
    · rw [spell_cons]
      exact stops_cons.mpr rfl
    · rw [spell_cons]
      exact stops_cons.mpr rfl
  | child =>
    refine ⟨?_, hblank, hrest⟩
    rw [String.toList_ofList]
    exact .child hu hv
  | nextAdjacent =>
    refine ⟨?_, hblank, hrest⟩
    rw [String.toList_ofList]
    exact .nextAdjacent hu hv
  | nextSibling =>
    refine ⟨?_, hblank, hrest⟩
    rw [String.toList_ofList]
    exact .nextSibling hu hv

theorem Delimits.head (h : Delimits kind delimiter) :
    isMark delimiter = true ∨ delimiter = ',' := by
  cases h <;> decide

theorem Delimits.not_quote (hdelim : Delimits kind delimiter) (hu : IsBlanks u) (hv : IsBlanks v) :
    '"' ∉ u ++ delimiter :: v := by
  rw [List.mem_append, List.mem_cons, not_or, not_or]
  refine ⟨hu.not_quote, ?_, hv.not_quote⟩
  rintro rfl
  exact absurd hdelim.head (by decide)

/-- The blanks around a delimiter may be written anew behind every token that takes no blanks. -/
theorem relieves_gap (hdelim : Delimits kind delimiter) (hu : IsBlanks u) (hv : IsBlanks v)
    (hu' : IsBlanks u') (hv' : IsBlanks v') (cs : List Char) :
    Relieves (u' ++ delimiter :: v' ++ cs) (u ++ delimiter :: v ++ cs) := by
  apply relieves_append (by simp) _ (hdelim.not_quote hu' hv') (hdelim.not_quote hu hv)
  intro c hc
  cases u' with
  | nil =>
    obtain rfl := Option.some.inj hc
    exact Or.inr hdelim.head
  | cons b u' =>
    obtain rfl := Option.some.inj hc
    exact Or.inl (hu' _ List.mem_cons_self)

/-- A list that is cut around a gap: the blanks on both sides of the delimiter are all that there
are, and what follows begins with no mark. -/
structure GapAt (kind : Kind) (delimiter : Char) (first : List Token) (u v : List Char)
    (rest : List Token) : Prop where
  wellCut : WellCut (first ++ (gap kind delimiter u v ++ rest))
  delimits : Delimits kind delimiter
  left : IsBlanks u
  right : IsBlanks v
  solid : EndsSolid first
  blank : Stops isAsciiBlank (spell rest)
  mark : Stops isMark (spell rest)

/-- Other blanks around the delimiter leave the list well cut. -/
theorem GapAt.respace (h : GapAt kind delimiter first u v rest) (hu' : IsBlanks u')
    (hv' : IsBlanks v') : GapAt kind delimiter first u' v' rest := by
  have hrest : WellCut rest := by
    have hwell := h.wellCut
    rw [← List.append_assoc] at hwell
    exact hwell.right
  refine { h with wellCut := ?_, left := hu', right := hv' }
  apply h.wellCut.relieve h.solid (wellCut_gap h.delimits hu' hv' hrest h.blank h.mark)
  rw [spell_append, spell_append, spell_gap, spell_gap]
  exact relieves_gap h.delimits h.left h.right hu' hv' _

/-! ## Gaps of a text -/

def Kind.isDelimiter : Kind → Bool
  | .child | .nextAdjacent | .nextSibling | .separator => true
  | _ => false

theorem Delimits.isDelimiter (h : Delimits kind delimiter) : kind.isDelimiter = true := by
  cases h <;> rfl

/-- A delimiter that is no comma is a mark, and its token takes blanks. -/
theorem Delimits.isMark (h : Delimits kind delimiter) (hsep : kind ≠ .separator) :
    isMark delimiter = true ∧ kind.takesBlanks = true := by
  cases h with
  | separator => exact absurd rfl hsep
  | _ => exact ⟨rfl, rfl⟩

/-- Only blanks take blanks and are no delimiter. -/
theorem takesBlanks_eq_false (hdelim : kind.isDelimiter = false) (hidle : kind ≠ .descendant) :
    kind.takesBlanks = false := by
  cases kind with
  | descendant => exact absurd rfl hidle
  | child | nextAdjacent | nextSibling => cases hdelim
  | _ => rfl

/-- In front of blanks that stand alone no token takes blanks. -/
theorem WellCut.endsSolid (h : WellCut (first ++ token :: rest))
    (hidle : token.kind = .descendant) : EndsSolid first := by
  intro other hother
  obtain ⟨front, rfl⟩ := List.getLast?_eq_some_iff.mp hother
  rw [List.append_assoc, List.singleton_append] at h
  obtain ⟨-, hboundary, hrest⟩ := h.right
  obtain ⟨b, source, -, hlexeme, hspell⟩ := WellCut.exists_first hrest
  rw [hidle] at hlexeme
  have hb : isAsciiBlank b = true := hlexeme.isBlanks b List.mem_cons_self
  cases hkind : other.kind.takesBlanks with
  | false => rfl
  | true =>
    have hstops := stops_of_boundary hboundary hkind
    rw [hspell, stops_cons, hb] at hstops
    cases hstops

theorem WellCut.stops_blank (h : WellCut tokens)
    (hhead : ∀ token ∈ tokens.head?, token.kind.takesBlanks = false) :
    Stops isAsciiBlank (spell tokens) :=
  h.stops_spell fun token htoken _ _ hlexeme => (hlexeme.of_cons (hhead token htoken)).1

theorem WellCut.stops_mark (h : WellCut tokens)
    (hhead : ∀ token ∈ tokens.head?, token.kind.isDelimiter = false) :
    Stops isMark (spell tokens) := by
  apply h.stops_spell
  intro token htoken c source hlexeme
  by_cases hidle : token.kind = .descendant
  · rw [hidle] at hlexeme
    exact (of_isAsciiBlank (hlexeme.isBlanks c List.mem_cons_self)).2.1
  · exact (hlexeme.of_cons (takesBlanks_eq_false (hhead token htoken) hidle)).2

theorem blankTokens_source (hidle : token.kind = .descendant) (hne : token.source.toList ≠ []) :
    blankTokens token.source.toList = [token] := by
  rw [blankTokens, if_neg hne, String.ofList_toList, ← hidle]

/-- The blanks in front of a list. -/
theorem WellCut.exists_blanks_append (h : WellCut tokens)
    (hhead : ∀ token ∈ tokens.head?, token.kind.isDelimiter = false) :
    ∃ v rest, tokens = blankTokens v ++ rest ∧ IsBlanks v ∧ Stops isAsciiBlank (spell rest) ∧
      Stops isMark (spell rest) := by
  by_cases hidle : ∃ token ∈ tokens.head?, token.kind = .descendant
  · obtain ⟨token, htoken, hkind⟩ := hidle
    obtain ⟨rest, rfl⟩ := List.head?_eq_some_iff.mp htoken
    obtain ⟨hlexeme, hboundary, -⟩ := h
    rw [hkind] at hlexeme hboundary
    refine ⟨token.source.toList, rest, ?_, hlexeme.isBlanks, hboundary.1, hboundary.2⟩
    rw [blankTokens_source hkind hlexeme.ne_nil, List.singleton_append]
  · refine ⟨[], tokens, rfl, by simp [IsBlanks], h.stops_blank ?_, h.stops_mark hhead⟩
    intro token htoken
    exact takesBlanks_eq_false (hhead token htoken) fun hkind => hidle ⟨token, htoken, hkind⟩

/-- The blanks at the end of a list. -/
theorem WellCut.exists_append_blanks (h : WellCut (first ++ tokens))
    (hlast : ∀ token ∈ first.getLast?, token.kind.isDelimiter = false) :
    ∃ front u, first = front ++ blankTokens u ∧ IsBlanks u ∧ EndsSolid front := by
  by_cases hidle : ∃ token ∈ first.getLast?, token.kind = .descendant
  · obtain ⟨token, htoken, hkind⟩ := hidle
    obtain ⟨front, rfl⟩ := List.getLast?_eq_some_iff.mp htoken
    rw [List.append_assoc, List.singleton_append] at h
    obtain ⟨hlexeme, -, -⟩ := h.right
    rw [hkind] at hlexeme
    refine ⟨front, token.source.toList, ?_, hlexeme.isBlanks, h.endsSolid hkind⟩
    rw [blankTokens_source hkind hlexeme.ne_nil]
  · refine ⟨first, [], (List.append_nil first).symm, by simp [IsBlanks], ?_⟩
    intro token htoken
    exact takesBlanks_eq_false (hlast token htoken) fun hkind => hidle ⟨token, htoken, hkind⟩

/-- Around a separator stand the blanks in front of it and those behind it. -/
theorem WellCut.exists_gapAt_separator (h : WellCut (first ++ token :: rest))
    (hsep : token.kind = .separator)
    (hlast : ∀ other ∈ first.getLast?, other.kind.isDelimiter = false)
    (hhead : ∀ other ∈ rest.head?, other.kind.isDelimiter = false) :
    ∃ front u v behind, GapAt .separator ',' front u v behind ∧
      first ++ token :: rest = front ++ (gap .separator ',' u v ++ behind) ∧
      spell first = spell front ++ u ∧ spell rest = v ++ spell behind := by
  obtain ⟨kind, source⟩ := token
  obtain rfl : kind = .separator := hsep
  obtain ⟨hlexeme, -, hrest⟩ := h.right
  have hcomma : source.toList = [','] := hlexeme.separator_eq
  obtain ⟨front, u, rfl, hu, hsolid⟩ := h.exists_append_blanks hlast
  obtain ⟨v, behind, rfl, hv, hblank, hmark⟩ := hrest.exists_blanks_append hhead
  have htokens : front ++ blankTokens u ++ ⟨.separator, source⟩ :: (blankTokens v ++ behind) =
      front ++ (gap .separator ',' u v ++ behind) := by
    rw [gap, if_pos rfl, ← hcomma, String.ofList_toList]
    simp
  refine ⟨front, u, v, behind, ⟨?_, .separator, hu, hv, hsolid, hblank, hmark⟩, htokens, ?_, ?_⟩
  · rw [← htokens]
    exact h
  · rw [spell_append, spell_blankTokens]
  · rw [spell_append, spell_blankTokens]

/-- A combinator with a mark is a gap, and blanks in front of it belong to it. -/
theorem WellCut.gapAt_mark (h : WellCut (first ++ token :: rest))
    (hdelim : Delimits token.kind delimiter) (hsep : token.kind ≠ .separator)
    (hu : IsBlanks u) (hv : IsBlanks v) (hsource : token.source.toList = u ++ delimiter :: v)
    (hlast : ∀ other ∈ first.getLast?, other.kind.isDelimiter = false)
    (hhead : ∀ other ∈ rest.head?, other.kind.isDelimiter = false) :
    GapAt token.kind delimiter first u v rest ∧
      first ++ token :: rest = first ++ (gap token.kind delimiter u v ++ rest) := by
  obtain ⟨hmark, htakes⟩ := hdelim.isMark hsep
  obtain ⟨-, hboundary, hrest⟩ := h.right
  have hgap : gap token.kind delimiter u v = [token] := by
    rw [gap, if_neg hsep, ← hsource, String.ofList_toList]
  have hnot : ∀ other ∈ first.getLast?, other.kind ≠ .descendant := by
    intro other hother hidle
    obtain ⟨front, rfl⟩ := List.getLast?_eq_some_iff.mp hother
    rw [List.append_assoc, List.singleton_append] at h
    obtain ⟨-, hstops, -⟩ := h.right
    -- blanks alone end neither in front of a blank nor in front of a mark
    rw [hidle, spell_cons, hsource] at hstops
    cases u with
    | nil =>
      have hfalse := stops_cons.mp hstops.2
      rw [hmark] at hfalse
      cases hfalse
    | cons b u =>
      have hfalse := stops_cons.mp hstops.1
      rw [hu b List.mem_cons_self] at hfalse
      cases hfalse
  have hsolid : EndsSolid first := fun other hother =>
    takesBlanks_eq_false (hlast other hother) (hnot other hother)
  have htokens : first ++ token :: rest = first ++ (gap token.kind delimiter u v ++ rest) := by
    rw [hgap, List.singleton_append]
  exact ⟨⟨htokens ▸ h, hdelim, hu, hv, hsolid, stops_of_boundary hboundary htakes,
    hrest.stops_mark hhead⟩, htokens⟩

/-- The character is the delimiter of a token, with what stands before it and behind it. -/
def DelimiterAt (before : List Char) (delimiter : Char) (after : List Char) : Prop :=
  ∃ first token rest u v, cutAll (before ++ delimiter :: after) = .ok (first ++ token :: rest) ∧
    Delimits token.kind delimiter ∧ IsBlanks u ∧ IsBlanks v ∧
    token.source.toList = u ++ delimiter :: v ∧ before = spell first ++ u

/-- No two delimiters stand side by side. -/
def DelimitersApart (tokens : List Token) : Prop :=
  ∀ first token token' rest, tokens = first ++ token :: token' :: rest →
    token.kind.isDelimiter = false ∨ token'.kind.isDelimiter = false

/-- Around a delimiter a list has a gap, if no two delimiters stand side by side. -/
theorem DelimiterAt.exists_gapAt (h : DelimiterAt before delimiter after)
    (hcut : cutAll (before ++ delimiter :: after) = .ok tokens) (happart : DelimitersApart tokens) :
    ∃ kind first u v rest, GapAt kind delimiter first u v rest ∧
      tokens = first ++ (gap kind delimiter u v ++ rest) ∧ before = spell first ++ u ∧
      after = v ++ spell rest := by
  obtain ⟨first, token, rest, u, v, hcut', hdelim, hu, hv, hsource, hbefore⟩ := h
  obtain rfl := Except.ok.inj (hcut.symm.trans hcut')
  obtain ⟨hwell, hspell⟩ := wellCut_of_cutAll hcut
  have hafter : after = v ++ spell rest := by
    rw [spell_append, spell_cons, hsource, hbefore] at hspell
    simpa using hspell.symm
  have hlast : ∀ other ∈ first.getLast?, other.kind.isDelimiter = false := by
    intro other hother
    obtain ⟨front, rfl⟩ := List.getLast?_eq_some_iff.mp hother
    have hsides := happart front other token rest (by simp)
    exact hsides.resolve_right fun hnot => by simp [hdelim.isDelimiter] at hnot
  have hhead : ∀ other ∈ rest.head?, other.kind.isDelimiter = false := by
    intro other hother
    obtain ⟨rest', rfl⟩ := List.head?_eq_some_iff.mp hother
    have hsides := happart first token other rest' rfl
    exact hsides.resolve_left fun hnot => by simp [hdelim.isDelimiter] at hnot
  by_cases hsep : token.kind = .separator
  · -- a comma takes no blanks, so those beside it are tokens of their own
    have hcomma := hwell.right.1
    rw [hsep] at hcomma hdelim
    cases hdelim
    have hsides : u = [] ∧ v = [] := by
      rw [hcomma.separator_eq] at hsource
      cases u with
      | nil => exact ⟨rfl, (List.cons.inj hsource).2.symm⟩
      | cons b u => simp at hsource
    obtain ⟨front, u', v', behind, hgap, htokens, hfirst, hrest⟩ :=
      hwell.exists_gapAt_separator hsep hlast hhead
    refine ⟨.separator, front, u', v', behind, hgap, htokens, ?_, ?_⟩
    · rw [hbefore, hsides.1, List.append_nil, hfirst]
    · rw [hafter, hsides.2, List.nil_append, hrest]
  · obtain ⟨hgap, htokens⟩ := hwell.gapAt_mark hdelim hsep hu hv hsource hlast hhead
    exact ⟨token.kind, first, u, v, rest, hgap, htokens, hbefore, hafter⟩

/-! ## Other blanks in a text -/

/-- The blanks are a token of their own in a text, with what stands before and behind. -/
def BlanksAt (before blanks after : List Char) : Prop :=
  ∃ first token rest, cutAll (before ++ blanks ++ after) = .ok (first ++ token :: rest) ∧
    token.kind = .descendant ∧ before = spell first ∧ blanks = token.source.toList

/-- Two texts differ in blanks that mean nothing: in those at the ends, in those beside a delimiter,
or in how many blanks, and which ones, are a combinator. -/
inductive Respaced : List Char → List Char → Prop where
  | ends {u v u' v' : List Char} (cs : List Char) (hu : IsBlanks u) (hv : IsBlanks v)
      (hu' : IsBlanks u') (hv' : IsBlanks v') : Respaced (u ++ cs ++ v) (u' ++ cs ++ v')
  | beside {before u v after u' v' : List Char} {delimiter : Char}
      (hdelim : DelimiterAt (before ++ u) delimiter (v ++ after)) (hu : IsBlanks u)
      (hv : IsBlanks v) (hu' : IsBlanks u') (hv' : IsBlanks v') :
      Respaced (before ++ u ++ delimiter :: (v ++ after))
        (before ++ u' ++ delimiter :: (v' ++ after))
  | run {before u after u' : List Char} (hrun : BlanksAt before u after) (hu' : IsBlanks u')
      (hne : u' ≠ []) : Respaced (before ++ u ++ after) (before ++ u' ++ after)

theorem IsBlanks.append (hu : IsBlanks u) (hv : IsBlanks v) : IsBlanks (u ++ v) := by
  intro c hc
  rcases List.mem_append.mp hc with hc | hc
  · exact hu c hc
  · exact hv c hc

theorem WellCut.getLast?_spell (h : WellCut first) (hsolid : EndsSolid first) :
    ∀ c ∈ (spell first).getLast?, isAsciiBlank c = false := by
  intro c hc
  rcases List.eq_nil_or_concat first with rfl | ⟨front, token, rfl⟩
  · cases hc
  rw [List.concat_eq_append] at h hsolid hc
  obtain ⟨hlexeme, -, -⟩ := h.right
  obtain ⟨source, d, hsource⟩ :=
    (List.eq_nil_or_concat token.source.toList).resolve_left hlexeme.ne_nil
  rw [List.concat_eq_append] at hsource
  have hspell : spell (front ++ [token]) = spell front ++ source ++ [d] := by
    simp [spell, hsource]
  rw [hspell, List.getLast?_concat] at hc
  obtain rfl := Option.some.inj hc
  rw [hsource] at hlexeme
  exact (hlexeme.of_concat (hsolid token (by simp))).1

/-- Blanks at the end of a text do not reach into a part that does not end in a blank. -/
theorem exists_suffix_of_blanks (hu : IsBlanks u) (hl : ∀ c ∈ l.getLast?, isAsciiBlank c = false)
    (heq : before ++ u = l ++ v) : ∃ w, v = w ++ u ∧ before = l ++ w := by
  rcases List.append_eq_append_iff.mp heq with ⟨w, hl', hu'⟩ | ⟨w, hbefore, hv⟩
  · rcases List.eq_nil_or_concat w with rfl | ⟨w, c, rfl⟩
    · exact ⟨[], hu'.symm, by rw [hl', List.append_nil, List.append_nil]⟩
    · rw [List.concat_eq_append] at hl' hu'
      have hblank : isAsciiBlank c = true := hu c (by simp [hu'])
      rw [hl c (by simp [hl'])] at hblank
      cases hblank
  · exact ⟨w, hv, hbefore⟩

/-- Blanks at the front of a text do not reach into a part that does not begin with a blank. -/
theorem exists_prefix_of_blanks (hv : IsBlanks v) (hl : Stops isAsciiBlank l)
    (heq : v ++ after = u ++ l) : ∃ w, u = v ++ w ∧ after = w ++ l := by
  rcases List.append_eq_append_iff.mp heq with ⟨w, hu, hafter⟩ | ⟨w, hv', hl'⟩
  · exact ⟨w, hu, hafter⟩
  · cases w with
    | nil => exact ⟨[], by rw [hv', List.append_nil, List.append_nil], hl'.symm⟩
    | cons c w =>
      have hblank : isAsciiBlank c = true := hv c (by simp [hv'])
      rw [hl', List.cons_append, stops_cons, hblank] at hl
      cases hl

/-- Token lists of texts that differ in blanks that mean nothing: they have one core, or they have
the same gap with other blanks. -/
inductive Alike : List Token → List Token → Prop where
  | core {tokens tokens' : List Token} (h : core tokens' = core tokens) : Alike tokens tokens'
  | gap {kind : Kind} {delimiter : Char} (first rest : List Token)
      (hdelim : Delimits kind delimiter) (u v u' v' : List Char) :
      Alike (first ++ (gap kind delimiter u v ++ rest))
        (first ++ (gap kind delimiter u' v' ++ rest))

theorem exists_alike_of_ends (cs : List Char) (hu : IsBlanks u) (hv : IsBlanks v)
    (hu' : IsBlanks u') (hv' : IsBlanks v') (hcut : cutAll (u ++ cs ++ v) = .ok tokens) :
    ∃ tokens', cutAll (u' ++ cs ++ v') = .ok tokens' ∧ Alike tokens tokens' := by
  have hsame : coreOf? (u' ++ cs ++ v') = coreOf? (u ++ cs ++ v) := by
    rw [coreOf?_append_blanks hv', coreOf?_append_blanks hv, coreOf?_blanks_append hu',
      coreOf?_blanks_append hu]
  rw [coreOf?, coreOf?, hcut] at hsame
  cases hcut' : cutAll (u' ++ cs ++ v') with
  | error remaining =>
    rw [hcut'] at hsame
    cases hsame
  | ok tokens' =>
    rw [hcut'] at hsame
    exact ⟨tokens', rfl, .core (Option.some.inj hsame)⟩

theorem exists_alike_of_beside (hdelim : DelimiterAt (before ++ u) delimiter (v ++ after))
    (hu : IsBlanks u) (hv : IsBlanks v) (hu' : IsBlanks u') (hv' : IsBlanks v')
    (hcut : cutAll (before ++ u ++ delimiter :: (v ++ after)) = .ok tokens)
    (happart : DelimitersApart tokens) :
    ∃ tokens', cutAll (before ++ u' ++ delimiter :: (v' ++ after)) = .ok tokens' ∧
      Alike tokens tokens' := by
  obtain ⟨kind, first, u₁, v₁, rest, hgap, rfl, hbefore, hafter⟩ := hdelim.exists_gapAt hcut happart
  -- the blanks at hand are a part of those of the gap
  have hfirst := hgap.wellCut.of_append.getLast?_spell hgap.solid
  obtain ⟨w, rfl, rfl⟩ := exists_suffix_of_blanks hu hfirst hbefore
  obtain ⟨w', rfl, rfl⟩ := exists_prefix_of_blanks hv hgap.blank hafter
  have hleft : IsBlanks (w ++ u') :=
    (isBlanks_of_subset hgap.left (List.subset_append_left _ _)).append hu'
  have hright : IsBlanks (v' ++ w') :=
    hv'.append (isBlanks_of_subset hgap.right (List.subset_append_right _ _))
  have hspell : spell first ++ w ++ u' ++ delimiter :: (v' ++ (w' ++ spell rest)) =
      spell (first ++ (gap kind delimiter (w ++ u') (v' ++ w') ++ rest)) := by
    rw [spell_append, spell_append, spell_gap]
    simp
  refine ⟨_, ?_, .gap first rest hgap.delimits _ _ (w ++ u') (v' ++ w')⟩
  rw [hspell]
  exact cutAll_spell (hgap.respace hleft hright).wellCut

theorem exists_alike_of_run (hrun : BlanksAt before u after) (hu' : IsBlanks u') (hne : u' ≠ [])
    (hcut : cutAll (before ++ u ++ after) = .ok tokens) :
    ∃ tokens', cutAll (before ++ u' ++ after) = .ok tokens' ∧ Alike tokens tokens' := by
  obtain ⟨first, token, rest, hcut', hidle, rfl, rfl⟩ := hrun
  obtain rfl := Except.ok.inj (hcut.symm.trans hcut')
  obtain ⟨hwell, hspell⟩ := wellCut_of_cutAll hcut
  obtain ⟨hlexeme, hboundary, hrest⟩ := hwell.right
  rw [hidle] at hlexeme hboundary
  have hafter : after = spell rest := by
    rw [spell_append, spell_cons] at hspell
    simpa using hspell.symm
  have hwell' : WellCut (first ++ ⟨.descendant, String.ofList u'⟩ :: rest) := by
    apply hwell.relieve (hwell.endsSolid hidle)
    · refine ⟨?_, hboundary, hrest⟩
      rw [String.toList_ofList]
      exact .descendant hu' hne
    · rw [spell_cons, spell_cons, String.toList_ofList]
      apply relieves_append hne _ hu'.not_quote hlexeme.isBlanks.not_quote
      exact fun c hc => Or.inl (hu' c (List.mem_of_mem_head? hc))
  have hspell' : spell (first ++ ⟨.descendant, String.ofList u'⟩ :: rest) =
      spell first ++ u' ++ after := by
    rw [spell_append, spell_cons, String.toList_ofList, hafter, List.append_assoc]
  refine ⟨_, hspell' ▸ cutAll_spell hwell', .core (core_congr ?_)⟩
  have houtline : (⟨.descendant, String.ofList u'⟩ : Token).outline = token.outline := by
    rw [Token.outline_eq_idle_iff.mpr hidle]
    rfl
  rw [List.map_append, List.map_append, List.map_cons, List.map_cons, houtline]

/-- A text with other blanks is cut into tokens like those of the text. -/
theorem Respaced.exists_alike (h : Respaced cs cs') (hcut : cutAll cs = .ok tokens)
    (happart : DelimitersApart tokens) :
    ∃ tokens', cutAll cs' = .ok tokens' ∧ Alike tokens tokens' := by
  cases h with
  | ends cs hu hv hu' hv' => exact exists_alike_of_ends cs hu hv hu' hv' hcut
  | beside hdelim hu hv hu' hv' => exact exists_alike_of_beside hdelim hu hv hu' hv' hcut happart
  | run hrun hu' hne => exact exists_alike_of_run hrun hu' hne hcut

end Topiary.Selector
