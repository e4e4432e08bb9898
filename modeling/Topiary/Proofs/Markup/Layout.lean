import Mathlib
import Topiary.Proofs.Markup.Pieces
import Topiary.Text.Blank

/-!
The indented form. It is the compact form with line breaks put in, each followed by copies of the
indent, so that both say the same once white space is taken out.
-/

namespace Topiary.Markup

variable {indent a a' b b' : List Char}

/-- The second text is the first with line breaks put in, each followed by copies of the indent. -/
inductive Laid (indent : List Char) : List Char → List Char → Prop where
  | nil : Laid indent [] []
  | keep {a b : List Char} (c : Char) : Laid indent a b → Laid indent (c :: a) (c :: b)
  | line {a b : List Char} (depth : Nat) : Laid indent a b →
      Laid indent a ('\n' :: (List.replicate depth indent).flatten ++ b)

namespace Laid

theorem refl (a : List Char) : Laid indent a a := by
  induction a with
  | nil => exact .nil
  | cons c a ih => exact .keep c ih

theorem append (h : Laid indent a b) (h' : Laid indent a' b') :
    Laid indent (a ++ a') (b ++ b') := by
  induction h with
  | nil => exact h'
  | keep c _ ih => exact .keep c ih
  | line depth _ ih =>
    rw [List.append_assoc]
    exact .line depth ih

/-- A line break and its indent come from nothing. -/
theorem single (depth : Nat) :
    Laid indent [] ('\n' :: (List.replicate depth indent).flatten) := by
  simpa using line depth (nil : Laid indent [] [])

theorem sublist (h : Laid indent a b) : a.Sublist b := by
  induction h with
  | nil => exact List.Sublist.slnil
  | keep c _ ih => exact ih.cons_cons c
  | line depth _ ih => exact ih.trans (List.sublist_append_right _ _)

/-- Where the indent is blank, so is all that is put in. -/
theorem filter_eq {blank : Char → Bool} (h : Laid indent a b) (hline : blank '\n' = true)
    (hindent : ∀ c ∈ indent, blank c = true) :
    b.filter (fun c => !blank c) = a.filter fun c => !blank c := by
  induction h with
  | nil => rfl
  | keep c _ ih => rw [List.filter_cons, List.filter_cons, ih]
  | line depth _ ih =>
    have hcopies : (List.replicate depth indent).flatten.filter (fun c => !blank c) = [] := by
      rw [List.filter_eq_nil_iff]
      intro c hc
      obtain ⟨copy, hcopy, hc⟩ := List.mem_flatten.mp hc
      rw [List.eq_of_mem_replicate hcopy] at hc
      simp [hindent c hc]
    rw [List.filter_append, List.filter_cons_of_neg (by simp [hline]), hcopies, ih,
      List.nil_append]

end Laid

/-! ## Writing -/

variable {output output' : String}

/-- One piece more: a text is added to both forms, a line break to the indented form at most. -/
theorem Laid.add {indent : String} (h : Laid indent.toList output.toList output'.toList)
    (piece : Piece) :
    Laid indent.toList (Style.compact.add output piece).toList
      ((Style.indented indent).add output' piece).toList := by
  cases piece with
  | text content =>
    rw [Style.add, Style.add, String.toList_append, String.toList_append]
    exact h.append (refl _)
  | breakLine depth =>
    rw [Style.add, Style.add]
    split
    · exact h
    · have hline := h.append (single depth)
      simpa [List.flatMap_replicate] using hline

/-- Whatever pieces are written, the forms differ by line breaks and indents alone. -/
theorem laid_write (indent : String) (ps : List Piece) :
    Laid indent.toList (Style.compact.write ps).toList
      ((Style.indented indent).write ps).toList := by
  have hall : ∀ output output' : String, Laid indent.toList output.toList output'.toList →
      Laid indent.toList (ps.foldl Style.compact.add output).toList
        (ps.foldl (Style.indented indent).add output').toList := by
    induction ps with
    | nil => exact fun _ _ h => h
    | cons piece ps ih => exact fun _ _ h => ih _ _ (h.add piece)
  exact hall "" "" .nil

theorem laid_document (d : Document) (indent : String) :
    Laid indent.toList (document .compact d).toList (document (.indented indent) d).toList := by
  have hline := (laid_write indent (innerPieces d.tree Tree.root)).append (Laid.single 0)
  simpa [document, inner] using hline

/-- The indented form of a document is its compact form with line breaks put in, each followed by
copies of the indent; so the compact form is a subsequence of it, and with a blank indent the two
are the same once the blanks are taken out. -/
theorem document_indented (d : Document) (indent : String) :
    Laid indent.toList (document .compact d).toList (document (.indented indent) d).toList ∧
      (document .compact d).toList.Sublist (document (.indented indent) d).toList ∧
      ((∀ c ∈ indent.toList, Text.isBlank c = true) →
        (document (.indented indent) d).toList.filter (fun c => !Text.isBlank c) =
          (document .compact d).toList.filter fun c => !Text.isBlank c) := by
  have hlaid := laid_document d indent
  exact ⟨hlaid, hlaid.sublist, hlaid.filter_eq (by decide)⟩

theorem document_indented_skeleton :
    (∀ c ∈ "  ".toList, Text.isBlank c = true) ∧
      document .compact .skeleton = "<html><head></head><body></body></html>" ∧
      document .pretty .skeleton = "<html>\n  <head></head>\n  <body></body>\n</html>\n" ∧
      Laid "  ".toList (document .compact .skeleton).toList (document .pretty .skeleton).toList ∧
      (document .compact .skeleton).toList.Sublist (document .pretty .skeleton).toList ∧
      (document .pretty .skeleton).toList.filter (fun c => !Text.isBlank c) =
        (document .compact .skeleton).toList.filter fun c => !Text.isBlank c := by
  have hblank : ∀ c ∈ "  ".toList, Text.isBlank c = true := by simp [Text.isBlank]
  obtain ⟨hlaid, hsublist, hfilter⟩ := document_indented .skeleton "  "
  exact ⟨hblank, by cbv, by cbv, hlaid, hsublist, hfilter hblank⟩

end Topiary.Markup
