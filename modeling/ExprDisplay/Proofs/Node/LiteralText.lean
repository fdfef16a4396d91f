import ExprDisplay.Proofs.Expr.LastLevel
import ExprDisplay.Proofs.Node.Standing

/-!
The literal text of the nodes of a display tree. Every node that is assembled from an
expression carries the expression's text, but the text of a construction is written
from the construction itself and not from the expression around it. Its arguments have
all levels of text that way, one level more than they have in the expression's text.

Main statement: what the literal text at each position is, and that it is the text of
the expression there exactly where the additional level of a construction shows nothing
else than the text has.
-/

set_option autoImplicit false

namespace ExprDisplay

namespace Expr

/-- Levels of nesting that the literal text of a node shows. -/
def literalLevels (e : Expr) : Nat := if e.kind = .new then textLevels + 1 else textLevels

/-- What a construction shows on the level where its text ends reads as the ellipsis
that its text has there. -/
def TextFits (e : Expr) : Prop :=
  e.kind = .new → ∀ c ∈ e.printedAt textLevels, c.textWithin 1 = ellipsis

theorem literalText_eq_textWithin (e : Expr) : e.literalText = e.textWithin e.literalLevels := by
  cases e <;> rfl

/-- A construction's own text has one level more than its expression's text, and the two
are equal when that level adds nothing. -/
theorem literalText_eq_text_iff {e : Expr} : e.literalText = e.text ↔ e.TextFits := by
  rw [literalText_eq_textWithin, text_eq_textWithin, literalLevels, TextFits]
  by_cases construction : e.kind = .new
  · rw [if_pos construction, textWithin_succ_eq_iff]
    exact ⟨fun shown _ => shown, fun shown => shown construction⟩
  · rw [if_neg construction]
    exact iff_of_true rfl fun isNew => absurd isNew construction

theorem literalText_constant (value : Value) (ty : Ty) :
    (Expr.constant value ty).literalText = value.literal ty := by
  change (Expr.constant value ty).text = value.literal ty
  rw [text_eq_textWithin, textLevels, textWithin, template, Template.fill_text, Template.fill_nil]
  exact String.append_empty

end Expr

namespace Node

variable {limit depth : Nat}

/-- An assembled node has the literal text and the kind of its expression. -/
theorem data_of_standsFor {role : Option String} {e : Expr} {n : Node}
    (stands : StandsFor limit depth role e n) (shown : n ≠ truncated depth role e) :
    n.literal = some e.literalText ∧ n.kind = some e.kind := by
  rcases stands with ⟨_, rfl⟩ | rfl
  · exact absurd rfl shown
  · exact ⟨rfl, rfl⟩

/-- The literal text at each position. Down to the limit the root is assembled, so it has
the literal text of its expression; the same holds wherever an expression stands and is
not truncated, and these are all the nodes with a kind. The literal text is the text of
the expression exactly where the text fits. -/
theorem literal_eq_text_iff (limit : Nat) (role : Option String) (e : Expr) :
    (1 ≤ limit → ((ofExpr limit role e).literal = some e.text ↔ e.TextFits)) ∧
    (∀ path r c n, StandsAt role e path r c → (ofExpr limit role e).subtree? path = some n →
      n ≠ truncated path.length r c →
        n.literal = some (c.textWithin c.literalLevels) ∧
        (n.literal = some c.text ↔ c.TextFits) ∧
        ∀ value ty, c = .constant value ty → n.literal = some (value.literal ty)) ∧
    ∀ path n, (ofExpr limit role e).subtree? path = some n → n.kind ≠ none →
      ∃ r c, StandsAt role e path r c ∧ n ≠ truncated path.length r c ∧ n.kind = some c.kind := by
  have root : StandsFor limit 0 role e (ofExpr limit role e) := standsFor_builderAt role e
  have data {path : List Nat} {r : Option String} {c : Expr} {n : Node}
      (stands : StandsAt role e path r c) (here : (ofExpr limit role e).subtree? path = some n)
      (shown : n ≠ truncated path.length r c) :
      n.literal = some c.literalText ∧ n.kind = some c.kind := by
    have there := standsFor_subtree? stands root here
    rw [Nat.zero_add] at there
    exact data_of_standsFor there shown
  refine ⟨fun positive => ?_, fun path r c n stands here shown => ?_, fun path n here tagged => ?_⟩
  · have assembled : ofExpr limit role e ≠ truncated 0 role e := by
      rw [ofExpr_eq_builderAt, builderAt_of_lt positive]
      exact ne_truncated_of_kind (Option.some_ne_none _)
    rw [(data .root rfl assembled).1, Option.some.injEq, Expr.literalText_eq_text_iff]
  · have literal := (data stands here shown).1
    refine ⟨?_, ?_, ?_⟩
    · rw [literal, Expr.literalText_eq_textWithin]
    · rw [literal, Option.some.injEq, Expr.literalText_eq_text_iff]
    · rintro value ty rfl
      rw [literal, Expr.literalText_constant]
  · obtain ⟨r, c, stands⟩ := exists_standsAt root here tagged
    have shown : n ≠ truncated path.length r c := ne_truncated_of_kind tagged
    exact ⟨r, c, stands, shown, (data stands here shown).2⟩

theorem literal_eq_text_of_listInit :
    let construction : Construction Expr :=
      ⟨.named "List" .classType, [.parameter (.named .int "x")], none⟩
    let e : Expr := .listInit construction []
    (ofExpr 1 none e).literal = some e.text ∧
      ∃ n, (ofExpr 1 none e).subtree? [0] = some n ∧
        n.literal = some (Expr.new construction).text ∧
        ∃ r c, StandsAt none e [0] r c ∧ n ≠ truncated 1 r c ∧ n.kind = some c.kind := by
  intro construction e
  obtain ⟨top, below, tagged⟩ := literal_eq_text_iff 1 none e
  have stands : StandsAt none e [0] none (.new construction) := .step .construction .root
  have fits : (Expr.new construction).TextFits := fun _ _ shown => nomatch shown
  have whole : e.TextFits := fun isNew => nomatch isNew
  obtain ⟨n, here⟩ := exists_subtree? stands (standsFor_builderAt none e) (Nat.le_refl 1)
  have kind : n.kind = some .new := by
    obtain rfl := Option.some.inj here
    rfl
  have isTagged : n.kind ≠ none := by
    rw [kind]
    exact Option.some_ne_none _
  have literal := (below [0] none _ n stands here (ne_truncated_of_kind isTagged)).2.1
  exact ⟨(top (Nat.le_refl 1)).mpr whole, n, here, literal.mpr fits, tagged [0] n here isTagged⟩

/-- With an argument that is nested as deep as a text goes, the literal text shows a
variable where the text of the construction has an ellipsis. -/
theorem literal_ne_text_of_deep_argument :
    let x : Expr := .parameter (.named .bool "x")
    let argument := Nat.repeat (fun e => Expr.unary .not e .bool) 63 x
    let box : Expr := .new ⟨.named "Box" .classType, [argument], none⟩
    (ofExpr 1 none box).literal ≠ some box.text := by
  intro x argument box same
  have literal : (ofExpr 1 none box).literal = some box.literalText := rfl
  rw [literal, Option.some.injEq, Expr.literalText_eq_text_iff] at same
  have last : box.printedAt (63 + 1) = [x] := by
    rw [Expr.printedAt, Expr.template, Construction.holes_template, List.flatMap_singleton]
    exact Expr.printedAt_negations 63 x
  have shown : x.textWithin 1 = Expr.ellipsis := same rfl x (last ▸ List.mem_singleton_self x)
  exact absurd shown (by decide)

end Node

end ExprDisplay
