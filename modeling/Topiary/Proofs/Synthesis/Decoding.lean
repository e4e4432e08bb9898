import Mathlib.Data.List.TakeWhile
import Topiary.Proofs.Json.Strings
import Topiary.Proofs.Selector.Lexeme
import Topiary.Synthesis.Content

/-!
Decoding what is encoded, whatever lawful codec reads and writes the JSON. The literal of a text is
decoded to the text; `url(…)` around a literal, or around an address that stands for itself, is
decoded to a fetch of the address. Blanks around a value do not matter, and nothing is asked for
unless it is what the content waits for.
-/

namespace Topiary.Synthesis

open Topiary.Text
open Topiary.Selector (IsBlanks Stops stops_cons takeWhile_append_of_stops
  dropWhile_append_of_stops)

variable {δ : Type} {p : Char → Bool} {u v w w' cs rest address literal after : List Char}
  {raw url s : String} {argument : UrlArgument}

/-! ## Trimmed texts -/

/-- What is trimmed off a text may be longer or shorter. -/
theorem trimBy_append_append (hu : ∀ c ∈ u, p c = true) (hv : ∀ c ∈ v, p c = true) :
    trimBy p (u ++ cs ++ v) = trimBy p cs := by
  have hv' : ∀ c ∈ v.reverse, p c = true := fun c hc => hv c (List.mem_reverse.mp hc)
  rw [trimBy, trimBy, List.append_assoc, List.dropWhile_append_of_pos hu, List.dropWhile_append]
  by_cases hcs : (cs.dropWhile p).isEmpty
  · rw [if_pos hcs, List.isEmpty_iff.mp hcs, List.dropWhile_eq_nil_iff.mpr hv]
  · rw [if_neg hcs, List.reverse_append, List.dropWhile_append_of_pos hv']

theorem trimBy_eq_self (hcs : Stops p cs) (hlast : ∀ c ∈ cs.getLast?, p c = false) :
    trimBy p cs = cs := by
  have hrev : Stops p cs.reverse := by
    intro c hc
    rw [List.head?_reverse] at hc
    exact hlast c hc
  have hdrop : ∀ {l : List Char}, Stops p l → l.dropWhile p = l := fun hl =>
    dropWhile_append_of_stops (l := []) (by simp) hl
  rw [trimBy, hdrop hcs, hdrop hrev, List.reverse_reverse]

/-- A text that starts and ends with other characters than blanks is trimmed already. -/
theorem trim_eq_self {c d : Char} (h : raw.toList = c :: (cs ++ [d])) (hc : isBlank c = false)
    (hd : isBlank d = false) : trim raw = raw := by
  rw [trim, trimBy_eq_self, String.ofList_toList]
  · rw [h]
    exact stops_cons.mpr hc
  · rw [h, ← List.cons_append, List.getLast?_concat]
    intro e he
    obtain rfl := Option.some.inj he
    exact hd

/-! ## Literals -/

theorem splitLiteral_cons {c : Char} (hquote : c ≠ '"') (hslash : c ≠ '\\') :
    splitLiteral (c :: rest) =
      (splitLiteral rest).map fun (literal, rest) => (c :: literal, rest) := by
  rw [splitLiteral]
  · exact hquote
  · exact fun h _ => hslash h
  · exact fun _ _ h _ => hslash h

theorem splitLiteral_append (hcs : ∀ c ∈ cs, c ≠ '"' ∧ c ≠ '\\')
    (h : splitLiteral rest = some (literal, after)) :
    splitLiteral (cs ++ rest) = some (cs ++ literal, after) := by
  induction cs with
  | nil => exact h
  | cons c cs ih =>
    obtain ⟨hquote, hslash⟩ := hcs c List.mem_cons_self
    have htail := ih fun d hd => hcs d (List.mem_cons_of_mem c hd)
    rw [List.cons_append, splitLiteral_cons hquote hslash, htail]
    rfl

/-- A literal ends at its own closing quote: every other quote stands behind a backslash, and no
backslash stands in front of a line feed. -/
theorem splitLiteral_stringBody (h : Json.StringBody cs) (rest : List Char) :
    splitLiteral (cs ++ '"' :: rest) = some (cs ++ ['"'], rest) := by
  induction h with
  | nil => rfl
  | plain hquote hslash _ _ ih =>
    rw [List.cons_append, splitLiteral_cons hquote hslash, ih]
    rfl
  | @short e body he _ ih =>
    have hne : e ≠ '\n' := ne_of_mem_of_not_mem he (by decide)
    rw [List.cons_append, List.cons_append, splitLiteral, if_neg hne, ih]
    rfl
  | @numbered digits body _ hdigits _ ih =>
    have hplain : ∀ d ∈ digits, d ≠ '"' ∧ d ≠ '\\' := fun d hd =>
      ⟨ne_of_mem_of_not_mem (hdigits d hd) (by decide),
        ne_of_mem_of_not_mem (hdigits d hd) (by decide)⟩
    have hsplit := splitLiteral_append hplain ih
    rw [List.cons_append, List.cons_append, List.append_assoc, splitLiteral,
      if_neg (by decide), hsplit, ← List.append_assoc]
    rfl

/-! ## Arguments -/

/-- The characters of a function `url(…)`. -/
def urlChars (inside : List Char) : List Char :=
  'u' :: 'r' :: 'l' :: '(' :: (inside ++ [')'])

theorem closes_blanks (hw : IsBlanks w) : closes (w ++ [')']) = true := by
  rw [closes, dropWhile_append_of_stops hw (stops_cons.mpr (by decide))]
  rfl

theorem urlArgument?_quoted (hw : IsBlanks w) (hw' : IsBlanks w') (h : Json.StringBody cs) :
    urlArgument? (urlChars (w ++ '"' :: (cs ++ '"' :: w'))) =
      some (.quoted ('"' :: (cs ++ ['"']))) := by
  have hsplit := splitLiteral_stringBody h (w' ++ [')'])
  rw [urlChars, urlArgument?, List.append_assoc, List.cons_append, List.append_assoc,
    List.cons_append, dropWhile_append_of_stops hw (stops_cons.mpr (by decide))]
  simp only
  rw [hsplit]
  simp only
  rw [if_pos (closes_blanks hw')]

theorem stops_isBareChar (hw : IsBlanks w) : Stops isBareChar (w ++ [')']) := by
  cases w with
  | nil => exact stops_cons.mpr (by decide)
  | cons b w =>
    apply stops_cons.mpr
    rw [isBareChar, hw b List.mem_cons_self]
    rfl

theorem urlArgument?_bare (hw : IsBlanks w) (hw' : IsBlanks w') (hne : address ≠ [])
    (hbare : ∀ c ∈ address, isBareChar c = true) :
    urlArgument? (urlChars (w ++ (address ++ w'))) = some (.bare address) := by
  have hstops := stops_isBareChar hw'
  obtain ⟨c, tail, rfl⟩ := List.exists_cons_of_ne_nil hne
  have hc := hbare c List.mem_cons_self
  simp only [isBareChar, Bool.and_eq_true, Bool.not_eq_true', bne_iff_ne, ne_eq] at hc
  obtain ⟨⟨⟨⟨hblank, hquote⟩, -⟩, -⟩, -⟩ := hc
  have hstart : Stops isAsciiBlank ((c :: tail) ++ (w' ++ [')'])) := stops_cons.mpr hblank
  have htake := takeWhile_append_of_stops hbare hstops
  have hdrop := dropWhile_append_of_stops hbare hstops
  rw [urlChars, urlArgument?, List.append_assoc, List.append_assoc,
    dropWhile_append_of_stops hw hstart]
  split
  · rename_i heq
    exact absurd (List.cons.inj heq).1 hquote
  · rw [htake, hdrop, closes_blanks hw']
    rfl

/-! ## Values -/

/-- What asking for an address comes to. -/
def Fetcher.await (fetcher : Fetcher) (url : String) : Payload × Fetcher :=
  (.pending ⟨url, fetcher.answer url⟩, { fetcher with asked := fetcher.asked ++ [url] })

theorem decodeContentWith_of_address (codec : Json.Codec δ) (fetcher : Fetcher)
    (hargument : urlArgument? (trim raw).toList = some argument)
    (haddress : argument.address? codec = some url) :
    decodeContentWith codec fetcher (some raw) = fetcher.await url := by
  have hne : trim raw ≠ "" := by
    intro hempty
    rw [hempty] at hargument
    exact Option.some_ne_none argument hargument.symm
  rw [decodeContentWith]
  simp only [if_neg hne, hargument, haddress]
  rfl

theorem trim_of_urlChars (h : raw.toList = urlChars cs) : trim raw = raw := by
  have hchars : raw.toList = 'u' :: (('r' :: 'l' :: '(' :: cs) ++ [')']) := h
  exact trim_eq_self hchars rfl rfl

theorem trim_of_isLiteral (h : Json.IsLiteral raw) : trim raw = raw := by
  obtain ⟨body, -, hchars⟩ := h
  exact trim_eq_self hchars rfl rfl

/-- A value is read without the blanks around it. -/
theorem decodeContentWith_congr (codec : Json.Codec δ) (fetcher : Fetcher) {raw' : String}
    (h : trim raw = trim raw') :
    decodeContentWith codec fetcher (some raw) = decodeContentWith codec fetcher (some raw') := by
  rw [decodeContentWith, decodeContentWith, h]

theorem decodeContentWith_writeText {codec : Json.Codec δ} (hcodec : codec.Lawful)
    (fetcher : Fetcher) (s : String) :
    decodeContentWith codec fetcher (some (codec.writeText s)) = (.literal s, fetcher) := by
  have hliteral := hcodec.isLiteral_writeText s
  have htrim := trim_of_isLiteral hliteral
  obtain ⟨body, -, hchars⟩ := hliteral
  obtain ⟨document, hread, htext⟩ := hcodec.read_writeText s
  have hnone : urlArgument? (codec.writeText s).toList = none := by
    rw [hchars]
    rfl
  have hne : codec.writeText s ≠ "" := by
    intro hempty
    rw [hempty] at hchars
    exact absurd hchars (by simp)
  rw [decodeContentWith]
  simp only [htrim, if_neg hne, hnone, hread, literalText, htext, Option.getD_some]

theorem decodeContentWith_url_writeText {codec : Json.Codec δ} (hcodec : codec.Lawful)
    (fetcher : Fetcher) (hw : IsBlanks w) (hw' : IsBlanks w')
    (hraw : raw.toList = urlChars (w ++ ((codec.writeText s).toList ++ w'))) :
    decodeContentWith codec fetcher (some raw) = fetcher.await s := by
  obtain ⟨body, hbody, hchars⟩ := hcodec.isLiteral_writeText s
  have hargument : urlArgument? (trim raw).toList =
      some (.quoted (codec.writeText s).toList) := by
    rw [trim_of_urlChars hraw, hraw, hchars, List.cons_append, List.append_assoc]
    exact urlArgument?_quoted hw hw' hbody
  apply decodeContentWith_of_address codec fetcher hargument
  rw [UrlArgument.address?, String.ofList_toList, hcodec.readString_writeText]

theorem decodeContentWith_url_bare (codec : Json.Codec δ) (fetcher : Fetcher) (hw : IsBlanks w)
    (hw' : IsBlanks w') (hne : s ≠ "") (hbare : ∀ c ∈ s.toList, isBareChar c = true)
    (hraw : raw.toList = urlChars (w ++ (s.toList ++ w'))) :
    decodeContentWith codec fetcher (some raw) = fetcher.await s := by
  have hargument : urlArgument? (trim raw).toList = some (.bare s.toList) := by
    rw [trim_of_urlChars hraw, hraw]
    apply urlArgument?_bare hw hw' _ hbare
    rwa [ne_eq, String.toList_eq_nil_iff]
  apply decodeContentWith_of_address codec fetcher hargument
  rw [UrlArgument.address?, String.ofList_toList]

/-- Nothing is asked for but the address that the content waits for, and this address once. -/
theorem asked_decodeContentWith (codec : Json.Codec δ) (fetcher : Fetcher) (raw : Option String) :
    (∃ url, decodeContentWith codec fetcher raw = fetcher.await url) ∨
      ∃ payload, (∀ pending, payload ≠ .pending pending) ∧
        decodeContentWith codec fetcher raw = (payload, fetcher) := by
  fun_cases decodeContentWith codec fetcher raw with
  | case1 => exact Or.inr ⟨.absent, by simp, rfl⟩
  | case2 raw trimmed hempty => exact Or.inr ⟨.absent, by simp, rfl⟩
  | case3 raw trimmed hne argument hargument hnone => exact Or.inr ⟨.absent, by simp, rfl⟩
  | case4 raw trimmed hne argument hargument url haddress fetch asking hask =>
    obtain ⟨rfl, rfl⟩ := Prod.mk.inj hask
    exact Or.inl ⟨url, rfl⟩
  | case5 raw trimmed hne hnone document hread => exact Or.inr ⟨.literal _, by simp, rfl⟩
  | case6 raw trimmed hne hnone hread => exact Or.inr ⟨.absent, by simp, rfl⟩

/-- Whatever reads and writes JSON: if it is lawful, the literal of a text is decoded to the text,
and nothing is asked for, and inside `url(…)`, with any blanks on both sides, the literal of an
address is decoded to a fetch of the address. An address that needs no quotes may stand there as it
is. Blanks around a value make no difference. Whatever the value is, an address is asked for once if
the content waits for it, and otherwise none is asked for. -/
theorem decodeContentWith_inverts (codec : Json.Codec δ) (fetcher : Fetcher) :
    (codec.Lawful →
      (∀ s, decodeContentWith codec fetcher (some (codec.writeText s)) = (.literal s, fetcher)) ∧
        ∀ s w w' : String, IsBlanks w.toList → IsBlanks w'.toList →
          decodeContentWith codec fetcher
              (some ("url(" ++ w ++ codec.writeText s ++ w' ++ ")")) =
            fetcher.await s) ∧
      (∀ s w w' : String, IsBlanks w.toList → IsBlanks w'.toList → s ≠ "" →
        (∀ c ∈ s.toList, isAsciiBlank c = false ∧ c ∉ ['"', '\x27', '(', ')']) →
        decodeContentWith codec fetcher (some ("url(" ++ w ++ s ++ w' ++ ")")) =
          fetcher.await s) ∧
      (∀ raw v v' : String, (∀ c ∈ v.toList, isBlank c = true) →
        (∀ c ∈ v'.toList, isBlank c = true) →
        decodeContentWith codec fetcher (some (v ++ raw ++ v')) =
          decodeContentWith codec fetcher (some raw)) ∧
      ∀ raw,
        (∀ pending, (decodeContentWith codec fetcher raw).1 = .pending pending →
          decodeContentWith codec fetcher raw = fetcher.await pending.url) ∧
        ((∀ pending, (decodeContentWith codec fetcher raw).1 ≠ .pending pending) →
          (decodeContentWith codec fetcher raw).2 = fetcher) := by
  have hurl : ∀ w s w' : String, ("url(" ++ w ++ s ++ w' ++ ")").toList =
      urlChars (w.toList ++ (s.toList ++ w'.toList)) := by
    intro w s w'
    simp only [urlChars, String.toList_append, List.append_assoc]
    rfl
  refine ⟨?_, ?_, ?_, ?_⟩
  · intro hcodec
    constructor
    · exact decodeContentWith_writeText hcodec fetcher
    · intro s w w' hw hw'
      exact decodeContentWith_url_writeText hcodec fetcher hw hw' (hurl w (codec.writeText s) w')
  · intro s w w' hw hw' hne hs
    apply decodeContentWith_url_bare codec fetcher hw hw' hne _ (hurl w s w')
    intro c hc
    obtain ⟨hblank, hmarks⟩ := hs c hc
    simp only [List.mem_cons, List.not_mem_nil, or_false, not_or] at hmarks
    simp [isBareChar, hblank, hmarks]
  · intro raw v v' hv hv'
    apply decodeContentWith_congr
    rw [trim, trim, String.toList_append, String.toList_append, trimBy_append_append hv hv']
  · intro raw
    rcases asked_decodeContentWith codec fetcher raw with ⟨url, h⟩ | ⟨payload, hpayload, h⟩
    · rw [h]
      constructor
      · intro pending hpending
        obtain rfl := Payload.pending.inj hpending
        rfl
      · intro hnone
        exact absurd rfl (hnone _)
    · rw [h]
      exact ⟨fun pending hpending => absurd hpending (hpayload pending), fun _ => rfl⟩

/-- By the reader and the writer of this library: a text with a quote, a backslash and a control
character, an address with blanks inside quotes and more blanks at the margins, and a bare one. -/
theorem decodeContentWith_inverts_codec :
    let fetcher := Fetcher.ofAnswers fun _ => .stalled
    let raw := "url(" ++ " " ++ Json.writeText "a b" ++ "\t" ++ ")"
    Json.codec.Lawful ∧
    decodeContent fetcher (some (Json.writeText "\"\\\x01")) = (.literal "\"\\\x01", fetcher) ∧
    (IsBlanks " ".toList ∧ IsBlanks "\t".toList ∧
      decodeContent fetcher (some raw) = fetcher.await "a b") ∧
    (decodeContent fetcher (some ("\t" ++ raw ++ " ")) = decodeContent fetcher (some raw)) ∧
    decodeContent fetcher (some ("url(" ++ " " ++ "a" ++ "\t" ++ ")")) = fetcher.await "a" ∧
    ((decodeContent fetcher (some "null")).2 = fetcher) := by
  have hspace : IsBlanks " ".toList := by
    intro c hc
    obtain rfl := List.mem_singleton.mp hc
    rfl
  have htab : IsBlanks "\t".toList := by
    intro c hc
    obtain rfl := List.mem_singleton.mp hc
    rfl
  have hbare : ∀ c ∈ "a".toList, isAsciiBlank c = false ∧ c ∉ ['"', '\x27', '(', ')'] := by
    intro c hc
    obtain rfl := List.mem_singleton.mp hc
    decide
  obtain ⟨hencoded, hstands, hmargins, hasked⟩ :=
    decodeContentWith_inverts Json.codec (Fetcher.ofAnswers fun _ => .stalled)
  obtain ⟨hliteral, hurl⟩ := hencoded Json.lawful_codec
  refine ⟨Json.lawful_codec, hliteral "\"\\\x01", ⟨hspace, htab, hurl "a b" " " "\t" hspace htab⟩,
    ?_, hstands "a" " " "\t" hspace htab (by decide) hbare, ?_⟩
  · apply hmargins _ "\t" " "
    · exact fun c hc => isBlank_of_isAsciiBlank (htab c hc)
    · exact fun c hc => isBlank_of_isAsciiBlank (hspace c hc)
  · apply (hasked (some "null")).2
    intro pending hpending
    have hnull : (decodeContent (Fetcher.ofAnswers fun _ => .stalled) (some "null")).1 =
        .literal "null" := by cbv
    rw [decodeContent] at hnull
    rw [hnull] at hpending
    exact Payload.noConfusion hpending

end Topiary.Synthesis
