import Topiary.Markup.Render
import Topiary.Proofs.Tree.Children

/-!
The pieces of a node. What is written of a node depends on its own data and on the pieces of its
children; the compact text is made of the texts among the pieces and of nothing else.
-/

namespace Topiary.Markup

open Topiary.Tree

variable {t t' : Tree} {levels depth : Nat} {x y : NodeId} {content name : String} {e : Element}

theorem ownText_eq (t : Tree) (x : NodeId) :
    t.ownText x = match t.data? x with
      | some (.text content) => content
      | _ => "" :=
  rfl

theorem isElement_of_data? (h : t.data? x = t'.data? y) : t.isElement x = t'.isElement y := by
  rw [Tree.isElement, Tree.isElement, element?_eq, element?_eq, h]

theorem ownText_of_data? (h : t.data? x = t'.data? y) : t.ownText x = t'.ownText y := by
  rw [ownText_eq, ownText_eq, h]

/-! ## Nodes -/

theorem pieces_text (h : t.data? x = some (.text content)) :
    pieces t (levels + 1) depth x = [.text (escapeText content)] := by
  obtain ⟨node, hnode, hdata⟩ := Option.map_eq_some_iff.mp h
  unfold pieces
  simp only [hnode, hdata]

theorem pieces_comment (h : t.data? x = some (.comment content)) :
    pieces t (levels + 1) depth x =
      [.breakLine depth, .text ("<!--" ++ content ++ "-->")] := by
  obtain ⟨node, hnode, hdata⟩ := Option.map_eq_some_iff.mp h
  unfold pieces
  simp only [hnode, hdata]

theorem pieces_doctype (h : t.data? x = some (.doctype name)) :
    pieces t (levels + 1) depth x = [.text ("<!DOCTYPE " ++ name ++ ">")] := by
  obtain ⟨node, hnode, hdata⟩ := Option.map_eq_some_iff.mp h
  unfold pieces
  simp only [hnode, hdata]

theorem pieces_document (h : t.data? x = some .document) :
    pieces t (levels + 1) depth x = (t.children x).flatMap (pieces t levels depth) := by
  obtain ⟨node, hnode, hdata⟩ := Option.map_eq_some_iff.mp h
  unfold pieces
  simp only [hnode, hdata]

theorem pieces_element (h : t.data? x = some (.element e)) :
    pieces t (levels + 1) depth x =
      [.breakLine depth, .text (startTag e)] ++
        if voidElements.contains e.tag then []
        else
          (if rawTextElements.contains e.tag then
              (t.children x).map fun child => .text (t.ownText child)
            else
              (t.children x).flatMap (pieces t levels (depth + 1)) ++
                if (t.elementChildren x).isEmpty then [] else [.breakLine depth]) ++
            [.text (endTag e)] := by
  obtain ⟨node, hnode, hdata⟩ := Option.map_eq_some_iff.mp h
  rw [pieces.eq_def]
  simp only [hnode, hdata]

/-! ## Texts -/

/-- What a piece adds to the compact text. -/
def Piece.kept : Piece → List Char
  | .text content => content.toList
  | .breakLine _ => []

theorem toList_foldl_add (output : String) (ps : List Piece) :
    (ps.foldl Style.compact.add output).toList = output.toList ++ ps.flatMap Piece.kept := by
  induction ps generalizing output with
  | nil => simp
  | cons p ps ih =>
    rw [List.foldl_cons, ih, List.flatMap_cons]
    cases p <;> simp [Style.add, Piece.kept]

theorem toList_write_compact (ps : List Piece) :
    (Style.compact.write ps).toList = ps.flatMap Piece.kept := by
  simp [Style.write, toList_foldl_add]

end Topiary.Markup
