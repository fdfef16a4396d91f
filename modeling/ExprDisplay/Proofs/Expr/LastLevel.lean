import ExprDisplay.Proofs.Expr.Cut
import ExprDisplay.Proofs.Text.Span

/-!
When one more level changes a text. What a text leaves out reads `...`, so two texts of
an expression, one level apart, could be the same by accident: dots may come from the
things around. They do not, since between two expressions that a template shows there
is always a character that is no dot.

Main statement: a text with one more level is the same text exactly where everything
it shows at the last level reads `...` itself.
-/

set_option autoImplicit false

namespace ExprDisplay

/-- The number of characters that are no dots. -/
def marks (s : String) : Nat := s.toList.countP (· != '.')

@[simp] theorem marks_append (s t : String) : marks (s ++ t) = marks s + marks t := by
  simp [marks]

theorem marks_ellipsis : marks Expr.ellipsis = 0 := by decide

theorem toList_of_marks_eq_zero {s : String} (dots : marks s = 0) :
    s.toList = List.replicate s.toList.length '.' := by
  rw [List.eq_replicate_iff]
  refine ⟨rfl, fun c member => ?_⟩
  simpa using List.countP_eq_zero.mp dots c member

/-- A text with a mark is a run of dots, the mark, and the rest. -/
theorem exists_first_mark {cs : List Char} (marked : 0 < cs.countP (· != '.')) :
    ∃ (k : Nat) (c : Char) (rest : List Char), c ≠ '.' ∧ cs = List.replicate k '.' ++ c :: rest := by
  induction cs with
  | nil => simp at marked
  | cons c cs ih =>
    by_cases dot : c = '.'
    · subst dot
      obtain ⟨k, d, rest, mark, rfl⟩ := ih (by simpa using marked)
      exact ⟨k + 1, d, rest, mark, rfl⟩
    · exact ⟨0, c, cs, dot, rfl⟩

namespace Template

variable {ε δ : Type}

/-- Whether there is a mark between any two holes and, unless `free`, before the first. -/
def apart : (free : Bool) → Template ε → Bool
  | _, [] => true
  | free, .text s :: t => apart (free || 0 < marks s) t
  | free, .hole _ :: t => free && apart false t

theorem apart_of_false {t : Template ε} (free : Bool) (kept : apart false t = true) :
    apart free t = true := by
  cases free with
  | false => exact kept
  | true =>
    induction t with
    | nil => rfl
    | cons piece t ih =>
      cases piece with
      | hole e => simp [apart] at kept
      | text s =>
        by_cases mark : 0 < marks s
        · simpa [apart, mark] using kept
        · exact ih (by simpa [apart, mark] using kept)

theorem apart_append {free : Bool} {t u : Template ε} (first : apart free t = true)
    (second : apart false u = true) : apart free (t ++ u) = true := by
  induction t generalizing free with
  | nil => exact apart_of_false free second
  | cons piece t ih =>
    cases piece with
    | text s => exact ih first
    | hole e =>
      simp only [apart, Bool.and_eq_true] at first
      simp only [List.cons_append, apart, Bool.and_eq_true]
      exact ⟨first.1, ih first.2⟩

theorem apart_plug {f : ε → Template δ} {free : Bool} {t : Template ε}
    (kept : apart free t = true) (inner : ∀ e ∈ holes t, apart true (f e) = true) :
    apart free (plug f t) = true := by
  induction t generalizing free with
  | nil => rfl
  | cons piece t ih =>
    cases piece with
    | text s => exact ih kept inner
    | hole e =>
      simp only [apart, Bool.and_eq_true] at kept
      obtain ⟨rfl, rest⟩ := kept
      exact apart_append (inner e (by simp)) (ih rest fun d member => inner d (by simp [member]))

@[simp] theorem apart_texts {α : Type} (free : Bool) (s : α → String) (xs : List α) :
    apart free (xs.map fun x => (.text (s x) : Piece ε)) = true := by
  induction xs generalizing free with
  | nil => rfl
  | cons x xs ih => exact ih _

theorem apart_flatMap {α : Type} {g : α → Template ε} {xs : List α}
    (each : ∀ x, apart false (g x) = true) : apart false (xs.flatMap g) = true := by
  induction xs with
  | nil => rfl
  | cons x xs ih => exact apart_append (each x) ih

theorem apart_separated {ts : List (Template ε)} (each : ∀ t ∈ ts, apart true t = true) :
    apart true (separated ts) = true := by
  induction ts with
  | nil => rfl
  | cons t ts ih =>
    cases ts with
    | nil => exact each t (by simp)
    | cons u us =>
      apply apart_append (each t (by simp))
      exact ih fun v member => each v (by simp [member])

theorem apart_list (es : List ε) : apart true (list es) = true := by
  apply apart_separated
  simp [apart]

/-- Text in a hole adds its marks to those of the template. -/
theorem marks_add_le_fill (write : ε → String) {t : Template ε} {e : ε} (hole : e ∈ holes t) :
    marks (fill (fun _ => Expr.ellipsis) t) + marks (write e) ≤ marks (fill write t) := by
  have least (u : Template ε) : marks (fill (fun _ => Expr.ellipsis) u) ≤ marks (fill write u) := by
    induction u with
    | nil => simp
    | cons piece u ih =>
      cases piece <;> simp only [fill_text, fill_hole, marks_append, marks_ellipsis] <;> omega
  induction t with
  | nil => simp at hole
  | cons piece t ih =>
    cases piece with
    | text s =>
      have := ih hole
      simp only [fill_text, marks_append]
      omega
    | hole d =>
      simp only [fill_hole, marks_append, marks_ellipsis]
      rcases List.mem_cons.mp hole with rfl | later
      · have := least t
        omega
      · have := ih later
        omega

/-- Holes filled with dots only. Reading both texts from the left, the lengths `a` and
`b` of the dots since the last mark agree whenever a mark is read, so they agree
before every hole, and what is in the hole has as many dots as `...`. -/
theorem eq_ellipsis_of_dots {t : Template ε} {write : ε → String} {free : Bool} {a b : Nat}
    (kept : apart free t = true) (dots : ∀ e ∈ holes t, marks (write e) = 0)
    (start : free = true → a = b)
    (same : List.replicate a '.' ++ (fill write t).toList =
      List.replicate b '.' ++ (fill (fun _ => Expr.ellipsis) t).toList) :
    a = b ∧ ∀ e ∈ holes t, write e = Expr.ellipsis := by
  induction t generalizing free a b with
  | nil =>
    have lengths : a = b := by simpa using congrArg List.length same
    exact ⟨lengths, by simp⟩
  | cons piece t ih =>
    cases piece with
    | text s =>
      simp only [fill_text, String.toList_append] at same
      by_cases mark : 0 < marks s
      · -- Both texts go on with the same dots and the same mark, where counting starts again.
        obtain ⟨k, c, rest, other, split⟩ := exists_first_mark mark
        simp only [split, ← List.append_assoc, List.replicate_append_replicate] at same
        simp only [List.append_assoc, List.cons_append] at same
        obtain ⟨lengths, tails⟩ :=
          replicate_append_inj (by simpa using other) (by simpa using other) same
        obtain rfl : a = b := by omega
        have := ih (a := 0) (b := 0) (by simpa [apart, mark] using kept) dots (fun _ => rfl)
          (by simpa using (List.cons.inj tails).2)
        exact ⟨rfl, this.2⟩
      · -- Dots only: both runs get longer by as many.
        have run := toList_of_marks_eq_zero (Nat.eq_zero_of_not_pos mark)
        rw [run] at same
        simp only [← List.append_assoc, List.replicate_append_replicate] at same
        have := ih (by simpa [apart, mark] using kept) dots (fun yes => by rw [start yes]) same
        exact ⟨by omega, this.2⟩
    | hole e =>
      simp only [apart, Bool.and_eq_true] at kept
      obtain rfl := start kept.1
      have run := toList_of_marks_eq_zero (dots e (by simp))
      have three : Expr.ellipsis.toList = List.replicate 3 '.' := by decide
      simp only [fill_hole, String.toList_append, List.append_cancel_left_eq] at same
      rw [run, three] at same
      have := ih kept.2 (fun d member => dots d (by simp [member])) (by simp) same
      have first : write e = Expr.ellipsis := by
        rw [← String.toList_inj, run, three, this.1]
      refine ⟨rfl, fun d member => ?_⟩
      rcases List.mem_cons.mp member with rfl | later
      · exact first
      · exact this.2 d later

/-- Where holes are apart, a template reads as with `...` everywhere only if that is
what is in its holes. -/
theorem fill_eq_fill_ellipsis_iff {t : Template ε} {write : ε → String}
    (kept : apart true t = true) :
    fill write t = fill (fun _ => Expr.ellipsis) t ↔ ∀ e ∈ holes t, write e = Expr.ellipsis := by
  constructor
  · intro same
    have dots (e : ε) (hole : e ∈ holes t) : marks (write e) = 0 := by
      have := marks_add_le_fill write hole
      rw [same] at this
      omega
    exact (eq_ellipsis_of_dots (a := 0) (b := 0) kept dots (fun _ => rfl) (by rw [same])).2
  · exact fun all => fill_congr all

end Template

theorem Construction.apart_template {ε : Type} (c : Construction ε) :
    Template.apart true c.template = true := by
  have arguments : Template.apart true (Template.separated (c.labelled.map argument)) = true := by
    apply Template.apart_separated
    simp only [List.mem_map, forall_exists_index, and_imp, forall_apply_eq_imp_iff₂]
    rintro ⟨member, e⟩ -
    cases member <;> simp [argument, Template.apart]
  exact Template.apart_append arguments rfl

theorem ElementInit.apart_template {ε : Type} (i : ElementInit ε) :
    Template.apart true i.template = true :=
  Template.apart_append (Template.apart_list i.arguments) rfl

theorem ElementInit.apart_separated {ε : Type} (is : List (ElementInit ε)) :
    Template.apart true (Template.separated (is.map template)) = true := by
  apply Template.apart_separated
  simp only [List.mem_map, forall_exists_index, and_imp, forall_apply_eq_imp_iff₂]
  exact fun i _ => i.apart_template

namespace Binding

mutual

theorem apart_template {ε : Type} : (b : Binding ε) → Template.apart true b.template = true
  | .assign _ _ => rfl
  | .list _ initializers =>
    Template.apart_append (ElementInit.apart_separated initializers) rfl
  | .nested _ bindings =>
    Template.apart_append (Template.apart_separated (apart_templates bindings)) rfl

theorem apart_templates {ε : Type} :
    (bs : List (Binding ε)) → ∀ t ∈ templates bs, Template.apart true t = true
  | [], _, listed => nomatch listed
  | b :: bs, t, listed => by
    rcases List.mem_cons.mp listed with rfl | later
    · exact apart_template b
    · exact apart_templates bs t later

end

end Binding

namespace Expr

open Template

/-- What a template shows is set apart by more than dots. -/
theorem apart_template (e : Expr) : apart true e.template = true := by
  cases e with
  | binary op => cases op <;> simp [template, apart, marks]
  | block locals expressions ty =>
    have each (e : Expr) : apart false [.text " ", .hole e, .text ";"] = true := by
      simp [apart, marks]
    exact apart_append (apart_append (apart_texts true _ locals) (apart_flatMap each)) rfl
  | dynamic binder delegateType arguments ty => exact apart_append (apart_list arguments) rfl
  | goto kind target value ty => cases value <;> rfl
  | index object indexer arguments ty =>
    cases indexer with
    | none => exact apart_append (by simp [apart, marks, apart_list]) rfl
    | some indexer => exact apart_append (by simp [apart, marks, apart_list]) rfl
  | invocation function arguments ty =>
    have each (e : Expr) : apart false [.text ", ", .hole e] = true := by simp [apart, marks]
    exact apart_append (apart_flatMap each) rfl
  | label target value => cases value <;> rfl
  | lambda name parameters body returnType delegateType =>
    cases parameters with
    | nil => rfl
    | cons p rest => cases rest <;> rfl
  | listInit construction initializers =>
    have listed : apart false (.text " \x7b" ::
        separated (initializers.map ElementInit.template)) = true := by
      simpa [apart, marks] using ElementInit.apart_separated initializers
    exact apart_append (apart_append construction.apart_template listed) rfl
  | member object m ty => cases object <;> rfl
  | memberInit construction bindings =>
    have listed : apart false (.text " \x7b" :: separated (Binding.templates bindings)) = true := by
      simpa [apart, marks] using apart_separated (Binding.apart_templates bindings)
    exact apart_append (apart_append construction.apart_template listed) rfl
  | methodCall object method arguments =>
    cases object with
    | none => exact apart_append (apart_list arguments) rfl
    | some object => exact apart_append (by simp [apart, marks, apart_list]) rfl
  | newArray kind ty expressions => cases kind <;> exact apart_append (apart_list expressions) rfl
  | new construction => exact construction.apart_template
  | unary op operand ty => cases op <;> simp [template, apart]
  | _ => simp [template, apart, marks]

/-! ### The text as a template around its last level -/

/-- The text down to `level`, with what is shown there in its holes. -/
def outer : (level : Nat) → Expr → Template Expr
  | 0, e => [.hole e]
  | level + 1, e => e.template.plug (outer level)

theorem holes_outer (level : Nat) (e : Expr) : (e.outer level).holes = e.printedAt level := by
  induction level generalizing e with
  | zero => rfl
  | succ level ih =>
    rw [outer, Template.holes_plug, printedAt]
    exact congrArg (List.flatMap · e.template.holes) (funext ih)

theorem fill_outer (level levels : Nat) (e : Expr) :
    (e.outer level).fill (textWithin levels) = e.textWithin (level + levels) := by
  induction level generalizing e with
  | zero => simp [outer]
  | succ level ih =>
    rw [outer, Template.fill_plug, Nat.add_right_comm, textWithin]
    exact Template.fill_congr fun c _ => ih c

theorem apart_outer (level : Nat) (e : Expr) : Template.apart true (e.outer level) = true := by
  induction level generalizing e with
  | zero => rfl
  | succ level ih => exact Template.apart_plug e.apart_template fun c _ => ih c

/-- One more level changes nothing exactly where all that the last level shows
reads `...` by itself. -/
theorem textWithin_succ_eq_iff (levels : Nat) (e : Expr) :
    e.textWithin (levels + 1) = e.textWithin levels ↔
      ∀ c ∈ e.printedAt levels, c.textWithin 1 = ellipsis := by
  have shorter : e.textWithin levels = (e.outer levels).fill fun _ => ellipsis :=
    (fill_outer levels 0 e).symm
  rw [← fill_outer levels 1 e, shorter, ← holes_outer]
  exact Template.fill_eq_fill_ellipsis_iff (apart_outer levels e)

end Expr

end ExprDisplay
