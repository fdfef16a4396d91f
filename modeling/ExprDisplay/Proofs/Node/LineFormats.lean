import ExprDisplay.Node.Drawing
import ExprDisplay.Node.Outline
import ExprDisplay.Proofs.Node.Levels
import ExprDisplay.Proofs.Text.Lines

/-!
Drawings and outlines read back. A line of a drawing starts with a guide of two
characters a level and a connector, which no icon looks like; a line of an outline starts
with two spaces a level. Either way a line gives the level of its node and what it shows
of it, whatever characters the label has.

Main statement: the drawing of a tree determines its shape, its labels and its kinds, as
far as kinds have icons of their own, and its outline the shape and the labels.
-/

set_option autoImplicit false

namespace ExprDisplay.Node

/-! ### Drawings -/

/-- The level of a line and what comes after guide and connector. -/
def unguide : List Char → Nat × List Char
  | c :: d :: cs =>
    if c = ' ' ∨ c = '│' then ((unguide cs).1 + 1, (unguide cs).2)
    else if c = '├' ∨ c = '└' then (1, cs.drop 1)
    else (0, c :: d :: cs)
  | cs => (0, cs)

/-- Characters that a caption never starts with, so that the guide ends before it. -/
def guideMarks : List Char := [' ', '│', '├', '└', '\n']

theorem icon_eq (kind : Option Kind) : ∃ c, (icon kind).toList = [c] ∧ c ∉ guideMarks := by
  rcases kind with _ | kind
  · exact ⟨_, rfl, by decide⟩
  · cases kind <;> exact ⟨_, rfl, by decide⟩

/-- The kind whose icon this is. -/
def kindOfIcon (mark : String) : Option Kind := Kind.all.find? fun kind => icon (some kind) == mark

theorem kindOfIcon_icon (kind : Option Kind) :
    kindOfIcon (icon kind) = some (kind.getD .extension) := by
  rcases kind with _ | kind
  · decide
  · cases kind <;> decide

/-- What a line of a drawing says about a node. -/
def captionChars (o : DrawingOptions) (n : Node) : List Char :=
  (caption o n.kind n.label n.literal).toList

theorem captionChars_eq (o : DrawingOptions) (n : Node) :
    ∃ more, captionChars o n = (icon n.kind).toList ++ ' ' :: more := by
  unfold captionChars caption
  dsimp only
  split <;> simp

theorem unguide_caption (o : DrawingOptions) (n : Node) :
    unguide (captionChars o n) = (0, captionChars o n) := by
  obtain ⟨more, whole⟩ := captionChars_eq o n
  obtain ⟨c, mark, apart⟩ := icon_eq n.kind
  simp only [guideMarks, List.mem_cons, not_or] at apart
  simp [whole, mark, unguide, apart]

theorem unguide_connector (last : Bool) (cs : List Char) :
    unguide ((connector last).toList ++ cs) = (1, cs) := by
  cases last <;> rfl

/-- A guide of `k` levels. -/
def Guide (k : Nat) (guide : String) : Prop :=
  ∀ cs, unguide (guide.toList ++ cs) = ((unguide cs).1 + k, (unguide cs).2)

theorem Guide.extend {k : Nat} {guide : String} (steps : Guide k guide) (last : Bool) :
    Guide (k + 1) (extendGuide guide last) := by
  intro cs
  have unit : unguide ((if last then "  " else "│ ").toList ++ cs) =
      ((unguide cs).1 + 1, (unguide cs).2) := by
    cases last <;> rfl
  rw [extendGuide, String.toList_append, List.append_assoc, steps, unit]
  simp only [Nat.add_assoc, Nat.add_comm 1]

mutual

theorem unguide_branchLines (o : DrawingOptions) {k : Nat} {guide : String} (steps : Guide k guide)
    (last : Bool) : (n : Node) →
    (branchLines o guide last n).map (fun line => unguide line.toList) =
      (n.levels (k + 1)).map (shown (captionChars o))
  | ⟨kind, label, literal, children⟩ => by
    have line : unguide (guide ++ connector last ++ caption o kind label literal).toList =
        (k + 1, captionChars o ⟨kind, label, literal, children⟩) := by
      rw [String.toList_append, String.toList_append, List.append_assoc, steps, unguide_connector,
        Nat.add_comm]
      rfl
    rw [branchLines, levels, List.map_cons, List.map_cons, line,
      unguide_forestLines o (steps.extend last) children]
    rfl

theorem unguide_forestLines (o : DrawingOptions) {k : Nat} {guide : String}
    (steps : Guide k guide) : (ns : List Node) →
    (forestLines o guide ns).map (fun line => unguide line.toList) =
      (forestLevels (k + 1) ns).map (shown (captionChars o))
  | [] => rfl
  | n :: ns => by
    rw [forestLines, forestLevels, List.map_append, List.map_append,
      unguide_branchLines o steps ns.isEmpty n, unguide_forestLines o steps ns]

end

/-- The lines of a drawing, read one by one. -/
theorem unguide_drawingLines (o : DrawingOptions) (t : Node) :
    (t.drawingLines o).map (fun line => unguide line.toList) =
      (t.levels 0).map (shown (captionChars o)) := by
  have start : Guide 0 "" := fun _ => rfl
  rw [drawingLines, levels_eq, List.map_cons, List.map_cons, unguide_forestLines o start]
  congr 1
  exact unguide_caption o t

mutual

/-- Guides and connectors have no line ends, so that a line has those of its caption. -/
theorem count_branchLines (o : DrawingOptions) {guide : String} (clean : guide.toList.count '\n' = 0)
    (last : Bool) : (n : Node) →
    (branchLines o guide last n).map (fun line => line.toList.count '\n') =
      n.preorder.map fun m => (captionChars o m).count '\n'
  | ⟨kind, label, literal, children⟩ => by
    have joint : (connector last).toList.count '\n' = 0 := by cases last <;> decide
    have wider : (extendGuide guide last).toList.count '\n' = 0 := by
      rw [extendGuide, String.toList_append, List.count_append, clean, Nat.zero_add]
      cases last <;> decide
    have line : (guide ++ connector last ++ caption o kind label literal).toList.count '\n' =
        (captionChars o ⟨kind, label, literal, children⟩).count '\n' := by
      simp only [String.toList_append, List.count_append, clean, joint, Nat.zero_add]
      rfl
    rw [branchLines, preorder, List.map_cons, List.map_cons, line, count_forestLines o wider children]

theorem count_forestLines (o : DrawingOptions) {guide : String}
    (clean : guide.toList.count '\n' = 0) : (ns : List Node) →
    (forestLines o guide ns).map (fun line => line.toList.count '\n') =
      (forestPreorder ns).map fun m => (captionChars o m).count '\n'
  | [] => rfl
  | n :: ns => by
    rw [forestLines, forestPreorder, List.map_append, List.map_append,
      count_branchLines o clean ns.isEmpty n, count_forestLines o clean ns]

end

/-- The line ends inside the lines of a drawing. -/
theorem count_drawingLines (o : DrawingOptions) (t : Node) :
    (t.drawingLines o).map (fun line => line.toList.count '\n') =
      t.preorder.map fun n => (captionChars o n).count '\n' := by
  obtain ⟨kind, label, literal, children⟩ := t
  rw [drawingLines, preorder, List.map_cons, List.map_cons, count_forestLines o (by decide)]
  rfl

theorem single_drawingLines_iff {o : DrawingOptions} {t : Node} :
    (∀ line ∈ t.drawingLines o, '\n' ∉ line.toList) ↔ ∀ n ∈ t.preorder, '\n' ∉ captionChars o n := by
  have lineEnds := count_drawingLines o t
  simp only [← List.count_eq_zero]
  rw [← List.forall_mem_map (f := fun line : String => line.toList.count '\n') (P := (· = 0)),
    lineEnds, List.forall_mem_map]

theorem single_drawingLines {o : DrawingOptions} {t : Node}
    (captions : ∀ m ∈ t.preorder, '\n' ∉ captionChars o m) :
    ∀ line ∈ t.drawingLines o, '\n' ∉ line.toList :=
  single_drawingLines_iff.mpr captions

theorem captionChars_default (n : Node) :
    captionChars .default n = (icon n.kind).toList ++ ' ' :: n.label.toList := by
  simp [captionChars, caption, DrawingOptions.default, truncate]

theorem single_caption {n : Node} (single : '\n' ∉ n.label.toList) :
    '\n' ∉ captionChars .default n := by
  obtain ⟨c, mark, apart⟩ := icon_eq n.kind
  have other : '\n' ≠ c := by
    rintro rfl
    exact apart (by decide)
  simp [captionChars_default, mark, single, other]

/-- A caption shows the label whole and the kind by its icon. -/
theorem data_of_caption {n n' : Node} (same : captionChars .default n = captionChars .default n') :
    (n.label, n.kind.getD .extension) = (n'.label, n'.kind.getD .extension) := by
  obtain ⟨c, mark, -⟩ := icon_eq n.kind
  obtain ⟨c', mark', -⟩ := icon_eq n'.kind
  simp only [captionChars_default, mark, mark', List.cons_append, List.nil_append,
    List.cons.injEq, true_and] at same
  have icons : icon n.kind = icon n'.kind := by
    rw [← String.toList_inj, mark, mark', same.1]
  have kinds := congrArg kindOfIcon icons
  rw [kindOfIcon_icon, kindOfIcon_icon] at kinds
  rw [String.toList_inj.mp same.2, Option.some.inj kinds]

/-! ### Outlines -/

mutual

theorem outlineLinesAt_eq (level : Nat) : (n : Node) →
    outlineLinesAt level n = (n.levels level).map fun entry => indent entry.1 ++ entry.2.label
  | ⟨kind, label, literal, children⟩ => by
    rw [outlineLinesAt, levels, List.map_cons, forestOutline_eq (level + 1) children]

theorem forestOutline_eq (level : Nat) : (ns : List Node) →
    forestOutline level ns =
      (forestLevels level ns).map fun entry => indent entry.1 ++ entry.2.label
  | [] => rfl
  | n :: ns => by
    rw [forestOutline, forestLevels, List.map_append, outlineLinesAt_eq level n,
      forestOutline_eq level ns]

end

/-- The level of a line and what comes after its spaces. -/
def unindent (cs : List Char) : Nat × List Char :=
  ((cs.takeWhile (· == ' ')).length / 2, cs.dropWhile (· == ' '))

theorem unindent_indent (level : Nat) {label : List Char} (flush : label.head? ≠ some ' ') :
    unindent ((indent level).toList ++ label) = (level, label) := by
  have spaces : ∀ c ∈ List.replicate (2 * level) ' ', (c == ' ') = true := by
    simp [List.mem_replicate]
  have none : label.takeWhile (· == ' ') = [] ∧ label.dropWhile (· == ' ') = label := by
    cases label with
    | nil => exact ⟨rfl, rfl⟩
    | cons c cs =>
      have other : c ≠ ' ' := fun space => flush (congrArg some space)
      simp [other]
  rw [indent, String.toList_ofList, unindent, List.takeWhile_append_of_pos spaces,
    List.dropWhile_append_of_pos spaces, none.1, none.2]
  simp

theorem unindent_outlineLines {t : Node}
    (flush : ∀ n ∈ t.preorder, n.label.toList.head? ≠ some ' ') :
    t.outlineLines.map (fun line => unindent line.toList) =
      (t.levels 0).map (shown fun n => n.label.toList) := by
  rw [outlineLines, outlineLinesAt_eq, List.map_map]
  apply List.map_congr_left
  intro entry listed
  rw [Function.comp_apply, String.toList_append,
    unindent_indent entry.1 (flush entry.2 (mem_preorder_of_mem_levels listed))]
  rfl

theorem single_outlineLines_iff {t : Node} :
    (∀ line ∈ t.outlineLines, '\n' ∉ line.toList) ↔ ∀ n ∈ t.preorder, '\n' ∉ n.label.toList := by
  rw [outlineLines, outlineLinesAt_eq, ← map_snd_levels 0, List.forall_mem_map, List.forall_mem_map]
  simp [indent, List.mem_replicate]

theorem single_outlineLines {t : Node} (single : ∀ n ∈ t.preorder, '\n' ∉ n.label.toList) :
    ∀ line ∈ t.outlineLines, '\n' ∉ line.toList :=
  single_outlineLines_iff.mpr single

/-- Trees with single-line labels that have the same drawing have the same shape, with the
same labels and, but for extensions and nodes without a kind, the same kinds. If no label
starts with a space either, trees with the same outline have the same shape and labels. -/
theorem sameAt_of_texts {t t' : Node} (single : ∀ n ∈ t.preorder, '\n' ∉ n.label.toList)
    (single' : ∀ n ∈ t'.preorder, '\n' ∉ n.label.toList) :
    (t.drawing .default = t'.drawing .default →
      SameAt (fun n => (n.label, n.kind.getD .extension)) t t') ∧
    ((∀ n ∈ t.preorder, n.label.toList.head? ≠ some ' ') →
      (∀ n ∈ t'.preorder, n.label.toList.head? ≠ some ' ') →
      t.outline = t'.outline → SameAt Node.label t t') := by
  refine ⟨fun same => ?_, fun flush flush' same => ?_⟩
  · have lines := lines_inj (single_drawingLines fun n member => single_caption (single n member))
      (single_drawingLines fun n member => single_caption (single' n member)) same
    have captions : SameAt (captionChars .default) t t' := by
      apply sameAt_of_levels
      rw [← unguide_drawingLines, ← unguide_drawingLines, lines]
    exact captions.imp fun _ _ => data_of_caption
  · have lines := lines_inj (single_outlineLines single) (single_outlineLines single') same
    have labels : SameAt (fun n => n.label.toList) t t' := by
      apply sameAt_of_levels
      rw [← unindent_outlineLines flush, ← unindent_outlineLines flush', lines]
    exact labels.imp fun _ _ => String.toList_inj.mp

/-- Labels may look like guides. Neither literals nor an extension in place of a node
without a kind show. -/
theorem sameAt_of_texts_guides :
    let t : Node := ⟨some .block, "├─ ○ a", none,
      [⟨none, "", none, [.leaf "└─ "]⟩, ⟨some .unary, "│ b", some "x", []⟩]⟩
    let t' : Node := ⟨some .block, "├─ ○ a", some "y",
      [⟨some .extension, "", none, [.leaf "└─ "]⟩, ⟨some .unary, "│ b", none, []⟩]⟩
    t.drawing .default = t'.drawing .default ∧ t.outline = t'.outline ∧
      SameAt (fun n => (n.label, n.kind.getD .extension)) t t' ∧ SameAt Node.label t t' := by
  intro t t'
  have drawings : t.drawing .default = t'.drawing .default := by decide
  have outlines : t.outline = t'.outline := by decide
  have single : ∀ n ∈ t.preorder, '\n' ∉ n.label.toList := by decide
  have single' : ∀ n ∈ t'.preorder, '\n' ∉ n.label.toList := by decide
  obtain ⟨drawn, outlined⟩ := sameAt_of_texts single single'
  exact ⟨drawings, outlines, drawn drawings, outlined (by decide) (by decide) outlines⟩

end ExprDisplay.Node
