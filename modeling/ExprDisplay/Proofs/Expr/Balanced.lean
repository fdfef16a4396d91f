import ExprDisplay.Proofs.Expr.Mentions
import ExprDisplay.Proofs.Value.Balanced

/-!
Brackets in the texts of expressions and of the parts they are made of. Every kind of
expression opens and closes its brackets within its own template, around its holes or
between them, and what stands for an expression beyond the last level has none.

Main statement: the texts of expressions of any depth, of constructions, initializers,
bindings, cases and handlers, and of values are balanced if no string that they show has a
bracket in it.
-/

set_option autoImplicit false

namespace ExprDisplay

variable {ε : Type}

/-! ### Parts -/

/-- A name, or the fixed text where there is none. -/
theorem balanced_getD {name : Option String} {word : String} (fixed : Balanced bracketPairs word)
    (plain : ∀ s ∈ name.toList, Unbracketed bracketPairs s) :
    Balanced bracketPairs (name.getD word) := by
  cases name with
  | none => exact fixed
  | some name => exact (plain name (by simp)).balanced

theorem Param.balanced_text {p : Param} (plain : ∀ s ∈ p.name.toList, Unbracketed bracketPairs s) :
    Balanced bracketPairs p.text := balanced_getD (by decide) plain

theorem Target.balanced_text {t : Target}
    (plain : ∀ s ∈ t.name.toList, Unbracketed bracketPairs s) : Balanced bracketPairs t.text :=
  balanced_getD (by decide) plain

theorem Param.balanced_texts {ps : List Param}
    (plain : ∀ s ∈ ps.flatMap fun p => p.name.toList, Unbracketed bracketPairs s) :
    Balanced bracketPairs (", ".intercalate (ps.map text)) := by
  apply balanced_intercalate (by decide)
  rw [List.forall_mem_map]
  rw [List.forall_mem_flatMap] at plain
  exact fun p listed => balanced_text (plain p listed)

@[simp] theorem Template.scan_list (es : List ε) (pending : List Char) :
    (list es).scan bracketPairs pending = some pending :=
  (closed_list (by decide) es).scan_eq pending

open Template (Closed)

theorem Construction.closed_template {c : Construction ε}
    (plain : ∀ s ∈ c.strings, Unbracketed bracketPairs s) : Closed bracketPairs c.template := by
  rw [strings, List.forall_mem_append] at plain
  have type := (Ty.balanced_runtimeName plain.2).scan_eq
  have arguments : Closed bracketPairs (Template.separated (c.labelled.map argument)) := by
    apply Template.closed_separated (by decide)
    rw [List.forall_mem_map]
    rintro ⟨member, e⟩ listed
    cases member with
    | none => rfl
    | some member =>
      have name := (plain.1 member (mem_of_mem_pair listed)).balanced.scan_eq
      unfold Closed argument
      simp +decide [scan_append, name]
  unfold Closed template
  simp +decide [scan_append, type, arguments.scan_eq]

theorem ElementInit.closed_template {i : ElementInit ε}
    (plain : Unbracketed bracketPairs i.addMethod) : Closed bracketPairs i.template := by
  unfold Closed template
  simp +decide [scan_append, plain.balanced.scan_eq]

theorem ElementInit.closed_templates {is : List (ElementInit ε)}
    (plain : ∀ s ∈ is.map addMethod, Unbracketed bracketPairs s) :
    Closed bracketPairs (Template.separated (is.map template)) := by
  apply Template.closed_separated (by decide)
  rw [List.forall_mem_map] at plain ⊢
  exact fun i listed => closed_template (plain i listed)

namespace Binding

/-- A member is set to a group. -/
theorem closed_group {name : String} (plain : Unbracketed bracketPairs name) {ts : Template ε}
    (inner : Closed bracketPairs ts) :
    Closed bracketPairs (.text (name ++ " = \x7b") :: ts ++ [.text "\x7d"]) := by
  unfold Closed
  simp +decide [scan_append, plain.balanced.scan_eq, inner.scan_eq]

mutual

theorem closed_template : (b : Binding ε) → (∀ s ∈ b.strings, Unbracketed bracketPairs s) →
    Closed bracketPairs b.template
  | .assign name value, plain => by
    have shown := (plain name List.mem_cons_self).balanced.scan_eq
    unfold Closed template
    simp +decide [scan_append, shown]
  | .list name initializers, plain => by
    rw [strings, List.forall_mem_cons] at plain
    rw [template]
    exact closed_group plain.1 (ElementInit.closed_templates plain.2)
  | .nested name bindings, plain => by
    rw [strings, List.forall_mem_cons] at plain
    rw [template]
    exact closed_group plain.1
      (Template.closed_separated (by decide) (closed_templates bindings plain.2))

theorem closed_templates : (bs : List (Binding ε)) →
    (∀ s ∈ stringsOf bs, Unbracketed bracketPairs s) → ∀ t ∈ templates bs, Closed bracketPairs t
  | [], _ => nofun
  | b :: bs, plain => by
    rw [stringsOf, List.forall_mem_append] at plain
    rw [templates, List.forall_mem_cons]
    exact ⟨closed_template b plain.1, closed_templates bs plain.2⟩

end

end Binding

theorem Case.closed_template (c : Case ε) : Closed bracketPairs c.template := by
  unfold Closed template
  simp +decide

def Handler.strings (h : Handler ε) : List String :=
  h.test.strings ++ (h.caught.bind Param.name).toList

theorem Handler.balanced_text {h : Handler ε}
    (plain : ∀ s ∈ h.strings, Unbracketed bracketPairs s) : Balanced bracketPairs h.text := by
  rw [strings, List.forall_mem_append] at plain
  have type := (Ty.balanced_runtimeName plain.1).scan_eq
  unfold text
  split
  next v caught =>
    have names : ∀ s ∈ v.name.toList, Unbracketed bracketPairs s := by
      rw [caught] at plain
      exact plain.2
    have name := (Param.balanced_text names).scan_eq
    unfold Balanced
    simp +decide [scan_append, type, name]
  · unfold Balanced
    simp +decide [scan_append, type]

/-! ### Expressions -/

namespace Expr

/-- The strings of an expression itself that its text can show. -/
def textStrings : Expr → List String
  | .block locals _ _ => locals.flatMap fun v => v.name.toList
  | .constant value _ => value.strings
  | .debugInfo document _ => [document.fileName]
  | .default ty => ty.strings
  | .dynamic binder _ _ _ => [binder]
  | .goto _ target _ _ => target.name.toList
  | .index _ indexer _ _ => indexer.toList
  | .label target _ => target.name.toList
  | .lambda _ parameters _ _ _ => parameters.flatMap fun p => p.name.toList
  | .listInit construction initializers =>
    construction.strings ++ initializers.map ElementInit.addMethod
  | .member (some _) m _ => [m.name]
  | .member none m _ => m.name :: m.declaringType.strings
  | .memberInit construction bindings => construction.strings ++ Binding.stringsOf bindings
  | .methodCall (some _) method _ => [method.name]
  | .methodCall none method _ => method.name :: method.declaringType.strings
  | .newArray _ ty _ => ty.strings
  | .new construction => construction.strings
  | .parameter p => p.name.toList
  | .runtimeVariables locals => locals.flatMap fun v => v.name.toList
  | .typeBinary _ _ typeOperand => typeOperand.strings
  | .unary _ _ ty => ty.strings
  | .extension _ _ text => [text]
  | _ => []

theorem closed_template {e : Expr} (own : ∀ s ∈ e.textStrings, Unbracketed bracketPairs s) :
    Closed bracketPairs e.template := by
  unfold Closed
  cases e with
  | binary op left right ty => cases op <;> simp +decide [template]
  | block locals expressions ty =>
    have names : Closed bracketPairs
        (locals.map fun v => .text (" var " ++ v.text ++ ";") : Template Expr) := by
      apply Template.closed_texts
      intro v listed
      have name := (Param.balanced_text (List.forall_mem_flatMap.mp own v listed)).scan_eq
      unfold Balanced
      simp +decide [scan_append, name]
    have inner : Closed bracketPairs (expressions.flatMap fun e => [.text " ", .hole e, .text ";"]) :=
      Template.closed_flatMap fun e _ => by simp +decide [Closed]
    simp +decide [template, names.scan_eq, inner.scan_eq]
  | constant value ty =>
    have literal := (Value.balanced_literal own ty).scan_eq
    simp [template, literal]
  | debugInfo document span =>
    have file := (own document.fileName List.mem_cons_self).balanced.scan_eq
    have number (n : Nat) : ∀ pending, scan bracketPairs pending n.repr = some pending :=
      (numeral_nat n).balanced.scan_eq
    simp +decide [template, scan_append, file, number]
  | default ty =>
    have type := (Ty.balanced_runtimeName own).scan_eq
    simp +decide [template, scan_append, type]
  | dynamic binder delegateType arguments ty =>
    have name := (own binder List.mem_cons_self).balanced.scan_eq
    simp +decide [template, scan_append, name]
  | goto kind target value ty =>
    have name := (Target.balanced_text own).scan_eq
    cases value <;> cases kind <;> simp +decide [template, scan_append, name]
  | index object indexer arguments ty =>
    cases indexer with
    | none => simp +decide [template]
    | some indexer =>
      have name := (own indexer List.mem_cons_self).balanced.scan_eq
      simp +decide [template, scan_append, name]
  | invocation function arguments ty =>
    have inner : Closed bracketPairs (arguments.flatMap fun e => [.text ", ", .hole e]) :=
      Template.closed_flatMap fun e _ => by simp +decide [Closed]
    simp +decide [template, inner.scan_eq]
  | label target value =>
    have name := (Target.balanced_text own).scan_eq
    cases value <;> simp +decide [template, scan_append, name]
  | lambda name parameters body returnType delegateType =>
    have names := (Param.balanced_texts own).scan_eq
    rcases parameters with _ | ⟨p, _ | ⟨q, ps⟩⟩
    · simp +decide [template]
    · simp only [List.map_cons, List.map_nil, String.intercalate_singleton] at names
      simp +decide [template, scan_append, names]
    · simp +decide only [template, scan_append, names, Template.scan_text, Template.scan_hole,
        Template.scan_nil]
  | listInit construction initializers =>
    rw [textStrings, List.forall_mem_append] at own
    have called := (Construction.closed_template own.1).scan_eq
    have added := (ElementInit.closed_templates own.2).scan_eq
    simp +decide [template, called, added]
  | member object m ty =>
    have name : ∀ pending, scan bracketPairs pending m.name = some pending := by
      cases object <;> exact (own m.name List.mem_cons_self).balanced.scan_eq
    cases object with
    | none =>
      rw [textStrings, List.forall_mem_cons] at own
      have type := (Ty.balanced_runtimeName own.2).scan_eq
      simp +decide [template, scan_append, name, type]
    | some object => simp +decide [template, scan_append, name]
  | memberInit construction bindings =>
    rw [textStrings, List.forall_mem_append] at own
    have called := (Construction.closed_template own.1).scan_eq
    have bound := (Template.closed_separated (by decide)
      (Binding.closed_templates bindings own.2)).scan_eq
    simp +decide [template, called, bound]
  | methodCall object method arguments =>
    have name : ∀ pending, scan bracketPairs pending method.name = some pending := by
      cases object <;> exact (own method.name List.mem_cons_self).balanced.scan_eq
    cases object with
    | none =>
      rw [textStrings, List.forall_mem_cons] at own
      have type := (Ty.balanced_runtimeName own.2).scan_eq
      simp +decide [template, scan_append, name, type]
    | some object => simp +decide [template, scan_append, name]
  | newArray kind ty expressions =>
    cases kind with
    | init => simp +decide [template]
    | bounds =>
      have type : Balanced bracketPairs (ty.element?.getD ty).runtimeName := by
        cases ty <;> exact Ty.balanced_runtimeName own
      simp +decide [template, scan_append, type.scan_eq]
  | new construction => exact Construction.closed_template own
  | parameter p =>
    have name := (Param.balanced_text own).scan_eq
    simp [template, name]
  | runtimeVariables locals =>
    have names := (Param.balanced_texts own).scan_eq
    simp +decide [template, scan_append, names]
  | typeBinary test operand typeOperand =>
    have type := (Ty.balanced_runtimeName own).scan_eq
    cases test <;> simp +decide [template, scan_append, type]
  | unary op operand ty =>
    have type := (Ty.balanced_runtimeName own).scan_eq
    cases op <;> simp +decide [template, scan_append, type]
  | extension ty opKind text =>
    have shown := (own text List.mem_cons_self).balanced.scan_eq
    simp [template, shown]
  | _ => simp +decide [template]

/-- `e.Shows s`: the string `s` is in `e` or in an expression that the text of `e` shows,
however deep. -/
inductive Shows : Expr → String → Prop
  | own {e : Expr} {s : String} (listed : s ∈ e.textStrings) : Shows e s
  | printed {e c : Expr} {s : String} (shown : c ∈ e.template.holes) (inner : Shows c s) : Shows e s

/-- No string that the text can show has a bracket in it. -/
def Unbracketed (e : Expr) : Prop := ∀ s, e.Shows s → ExprDisplay.Unbracketed bracketPairs s

theorem unbracketed_iff {e : Expr} :
    e.Unbracketed ↔ (∀ s ∈ e.textStrings, ExprDisplay.Unbracketed bracketPairs s) ∧
      ∀ c ∈ e.template.holes, c.Unbracketed := by
  constructor
  · intro plain
    exact ⟨fun s listed => plain s (.own listed),
      fun c shown s inner => plain s (.printed shown inner)⟩
  · rintro ⟨own, printed⟩ s shows
    cases shows with
    | own listed => exact own s listed
    | printed shown inner => exact printed _ shown s inner

/-- By induction on the levels; at the end of them stands the ellipsis. -/
theorem Unbracketed.balanced_textWithin {e : Expr} (plain : e.Unbracketed) (levels : Nat) :
    Balanced bracketPairs (e.textWithin levels) := by
  induction levels generalizing e with
  | zero => exact (by decide : Balanced bracketPairs ellipsis)
  | succ levels ih =>
    obtain ⟨own, printed⟩ := unbracketed_iff.mp plain
    have holes : ∀ c ∈ e.template.holes, Balanced bracketPairs (c.textWithin levels) :=
      fun c shown => ih (printed c shown)
    rw [textWithin, Template.balanced_fill_iff holes]
    exact closed_template own

theorem balanced_partText {t : Template Expr} (closed : Closed bracketPairs t)
    (plain : ∀ e ∈ t.holes, e.Unbracketed) : Balanced bracketPairs (partText t) :=
  (Template.balanced_fill_iff fun e shown => (plain e shown).balanced_textWithin textLevels).mpr closed

/-- Texts of expressions, of parts of them that stand by themselves, and of values are properly
nested over round, square and curly brackets if no string that they show has one in it. The
expressions may be of any depth, the values of any shape, the declared types any types. -/
theorem balanced_of_unbracketed :
    (∀ e : Expr, e.Unbracketed → Balanced bracketPairs e.text) ∧
    (∀ c : Construction Expr, (∀ s ∈ c.strings, ExprDisplay.Unbracketed bracketPairs s) →
      (∀ e ∈ c.arguments, e.Unbracketed) → Balanced bracketPairs c.text) ∧
    (∀ i : ElementInit Expr, ExprDisplay.Unbracketed bracketPairs i.addMethod →
      (∀ e ∈ i.arguments, e.Unbracketed) → Balanced bracketPairs (partText i.template)) ∧
    (∀ b : Binding Expr, (∀ s ∈ b.strings, ExprDisplay.Unbracketed bracketPairs s) →
      (∀ e ∈ b.template.holes, e.Unbracketed) → Balanced bracketPairs (partText b.template)) ∧
    (∀ c : Case Expr, (∀ e ∈ c.testValues, e.Unbracketed) →
      Balanced bracketPairs (partText c.template)) ∧
    (∀ h : Handler Expr, (∀ s ∈ h.strings, ExprDisplay.Unbracketed bracketPairs s) →
      Balanced bracketPairs h.text) ∧
    (∀ (v : Value) (declared : Ty), (∀ s ∈ v.strings, ExprDisplay.Unbracketed bracketPairs s) →
      Balanced bracketPairs (v.literal declared)) := by
  refine ⟨fun e plain => plain.balanced_textWithin textLevels, fun c plain inner => ?_,
    fun i plain inner => ?_, fun b plain inner => ?_, fun c inner => ?_,
    fun h plain => Handler.balanced_text plain, fun v declared plain => ?_⟩
  · refine balanced_partText (Construction.closed_template plain) ?_
    rwa [Construction.holes_template]
  · refine balanced_partText (ElementInit.closed_template plain) ?_
    rwa [ElementInit.holes_template]
  · exact balanced_partText (Binding.closed_template b plain) inner
  · refine balanced_partText (Case.closed_template c) ?_
    simpa [Case.template] using inner
  · exact Value.balanced_literal plain declared

/-- A two-dimensional constant as the index of an element. -/
theorem balanced_of_unbracketed_index :
    let grid : Grid Value := ⟨[2, 1], [0, 0], [.int 1, .int 2]⟩
    let e : Expr := .index (.parameter (.named .int "a")) none
      [.constant (.array grid) (.array .int 2)] .int
    e.Unbracketed ∧ e.text = "a[\x7b \x7b 1, \x7d, \x7b 2, \x7d, \x7d]" ∧
      Balanced bracketPairs e.text := by
  intro grid e
  have array : (Expr.parameter (.named .int "a")).Unbracketed :=
    unbracketed_iff.mpr ⟨by decide, fun c shown => absurd shown List.not_mem_nil⟩
  have position : (Expr.constant (.array grid) (.array .int 2)).Unbracketed :=
    unbracketed_iff.mpr ⟨by decide, fun c shown => absurd shown List.not_mem_nil⟩
  have plain : e.Unbracketed := by
    refine unbracketed_iff.mpr ⟨by decide, fun c shown => ?_⟩
    rcases List.mem_cons.mp shown with rfl | shown
    · exact array
    · rw [List.mem_singleton.mp shown]
      exact position
  exact ⟨plain, by decide +kernel, balanced_of_unbracketed.1 e plain⟩

end Expr

end ExprDisplay
