import ExprDisplay.Proofs.Node.Standing
import ExprDisplay.Proofs.Value.SingleLine

/-!
The strings that reach the display of an expression: names of types, variables, labels,
members and methods, the texts of constants and extensions, file names. All other text is
fixed or a number.

Main statement: the text of an expression is a single line if none of these strings, in
the expression or in what it shows, has a line end in it.
-/

set_option autoImplicit false

namespace ExprDisplay

variable {ε : Type}

/-! ### Templates -/

namespace Template

/-- No text of the template itself has a line end in it. -/
def Clean (t : Template ε) : Prop := ∀ s, .text s ∈ t → SingleLine s

@[simp] theorem clean_nil : Clean ([] : Template ε) := nofun

@[simp] theorem clean_text {s : String} {t : Template ε} :
    Clean (.text s :: t) ↔ SingleLine s ∧ Clean t := by
  simp [Clean]

@[simp] theorem clean_hole {e : ε} {t : Template ε} : Clean (.hole e :: t) ↔ Clean t := by
  simp [Clean]

@[simp] theorem clean_append {t u : Template ε} : Clean (t ++ u) ↔ Clean t ∧ Clean u := by
  simp [Clean, or_imp, forall_and]

theorem clean_flatMap {α : Type} {g : α → Template ε} {xs : List α} (each : ∀ x ∈ xs, Clean (g x)) :
    Clean (xs.flatMap g) := by
  intro s listed
  obtain ⟨x, member, inside⟩ := List.mem_flatMap.mp listed
  exact each x member s inside

theorem clean_texts {α : Type} {f : α → String} {xs : List α} (each : ∀ x ∈ xs, SingleLine (f x)) :
    Clean (xs.map fun x => (.text (f x) : Piece ε)) := by
  intro s listed
  obtain ⟨x, member, same⟩ := List.mem_map.mp listed
  exact Piece.text.inj same ▸ each x member

theorem clean_separated {ts : List (Template ε)} (each : ∀ t ∈ ts, Clean t) :
    Clean (separated ts) := by
  induction ts with
  | nil => exact clean_nil
  | cons t ts ih =>
    rw [List.forall_mem_cons] at each
    cases ts with
    | nil => exact each.1
    | cons u us => exact clean_append.mpr ⟨each.1, clean_text.mpr ⟨by decide, ih each.2⟩⟩

@[simp] theorem clean_list (es : List ε) : Clean (list es) := by
  apply clean_separated
  simp

theorem singleLine_fill {t : Template ε} {write : ε → String} (clean : t.Clean)
    (each : ∀ e ∈ t.holes, SingleLine (write e)) : SingleLine (t.fill write) := by
  induction t with
  | nil => exact singleLine_join.mpr nofun
  | cons piece t ih =>
    cases piece with
    | text s =>
      rw [clean_text] at clean
      rw [fill_text, singleLine_append]
      exact ⟨clean.1, ih clean.2 each⟩
    | hole e =>
      rw [holes_hole, List.forall_mem_cons] at each
      rw [fill_hole, singleLine_append]
      exact ⟨each.1, ih (clean_hole.mp clean) each.2⟩

end Template

/-! ### Parts -/

theorem Param.singleLine_text {p : Param} (clean : SingleLines p.name.toList) :
    SingleLine p.text := by
  obtain ⟨name, ty, byRef⟩ := p
  cases name with
  | none => exact (by decide : SingleLine "Param_0")
  | some name => exact (singleLines_cons.mp clean).1

theorem Target.singleLine_text {t : Target} (clean : SingleLines t.name.toList) :
    SingleLine t.text := by
  obtain ⟨name, ty⟩ := t
  cases name with
  | none => exact (by decide : SingleLine "UnnamedLabel")
  | some name => exact (singleLines_cons.mp clean).1

namespace Construction

def strings (c : Construction ε) : List String := c.members.getD [] ++ c.ty.strings

/-- Members that arguments set are among the members. -/
theorem mem_of_mem_pair {es : List ε} {members : List String} {member : String} {e : ε}
    (listed : (some member, e) ∈ pair es members) : member ∈ members := by
  induction es generalizing members with
  | nil => cases listed
  | cons d es ih =>
    cases members with
    | nil =>
      rw [pair, List.mem_cons] at listed
      rcases listed with same | later
      · cases same
      · exact ih later
    | cons m members =>
      rw [pair, List.mem_cons] at listed
      rcases listed with same | later
      · cases same
        exact List.mem_cons_self
      · exact List.mem_cons_of_mem m (ih later)

theorem singleLine_member {c : Construction ε} {member : String} {e : ε}
    (clean : SingleLines c.strings) (listed : (some member, e) ∈ c.labelled) : SingleLine member :=
  (singleLines_append.mp clean).1 member (mem_of_mem_pair listed)

theorem clean_template {c : Construction ε} (clean : SingleLines c.strings) : c.template.Clean := by
  have type : SingleLine c.ty.runtimeName := Ty.singleLine_runtimeName (singleLines_append.mp clean).2
  have arguments : Template.Clean (Template.separated (c.labelled.map argument)) := by
    apply Template.clean_separated
    rw [List.forall_mem_map]
    rintro ⟨member, e⟩ listed
    cases member with
    | none => simp [argument]
    | some member => simpa [argument] using ⟨singleLine_member clean listed, by decide⟩
  simp only [template, List.cons_append, Template.clean_text, Template.clean_append,
    singleLine_append, Template.clean_nil]
  exact ⟨⟨⟨by decide, type⟩, by decide⟩, arguments, by decide, trivial⟩

end Construction

theorem ElementInit.clean_template {i : ElementInit ε} (clean : SingleLine i.addMethod) :
    i.template.Clean := by
  simp only [template, List.cons_append, Template.clean_text, Template.clean_append,
    singleLine_append, Template.clean_nil]
  exact ⟨⟨clean, by decide⟩, Template.clean_list _, by decide, trivial⟩

theorem ElementInit.clean_templates {is : List (ElementInit ε)}
    (clean : SingleLines (is.map ElementInit.addMethod)) :
    Template.Clean (Template.separated (is.map ElementInit.template)) := by
  apply Template.clean_separated
  rw [List.forall_mem_map]
  exact fun i listed => clean_template (clean _ (List.mem_map_of_mem listed))

namespace Binding

mutual

/-- The names of members and methods in a binding. -/
def strings : Binding ε → List String
  | .assign name _ => [name]
  | .list name initializers => name :: initializers.map ElementInit.addMethod
  | .nested name bindings => name :: stringsOf bindings

def stringsOf : List (Binding ε) → List String
  | [] => []
  | b :: bs => strings b ++ stringsOf bs

end

mutual

theorem clean_template : (b : Binding ε) → SingleLines b.strings → b.template.Clean
  | .assign name value, clean => by
    simpa [template] using ⟨(singleLines_cons.mp clean).1, by decide⟩
  | .list name initializers, clean => by
    rw [strings, singleLines_cons] at clean
    have inner := ElementInit.clean_templates clean.2
    simp only [template, List.cons_append, Template.clean_text, Template.clean_append,
      singleLine_append, Template.clean_nil]
    exact ⟨⟨clean.1, by decide⟩, inner, by decide, trivial⟩
  | .nested name bindings, clean => by
    rw [strings, singleLines_cons] at clean
    have inner := Template.clean_separated (clean_templates bindings clean.2)
    simp only [template, List.cons_append, Template.clean_text, Template.clean_append,
      singleLine_append, Template.clean_nil]
    exact ⟨⟨clean.1, by decide⟩, inner, by decide, trivial⟩

theorem clean_templates : (bs : List (Binding ε)) → SingleLines (stringsOf bs) →
    ∀ t ∈ templates bs, Template.Clean t
  | [], _ => nofun
  | b :: bs, clean => by
    rw [stringsOf, singleLines_append] at clean
    rw [templates, List.forall_mem_cons]
    exact ⟨clean_template b clean.1, clean_templates bs clean.2⟩

end

theorem template_mem_templates {bs : List (Binding ε)} {b : Binding ε} (listed : b ∈ bs) :
    b.template ∈ templates bs := by
  induction bs with
  | nil => cases listed
  | cons d bs ih =>
    rw [templates, List.mem_cons]
    rcases List.mem_cons.mp listed with rfl | later
    · exact .inl rfl
    · exact .inr (ih later)

end Binding

/-! ### Expressions -/

def Param.strings (p : Param) : List String := p.name.toList ++ p.ty.strings

namespace Expr

/-- The strings of an expression itself that its text or its node shows. -/
def ownStrings : Expr → List String
  | .binary _ _ _ ty => ty.strings
  | .block locals _ _ => locals.flatMap fun v => v.name.toList
  | .conditional _ _ _ ty => ty.strings
  | .constant value ty => value.strings ++ ty.strings
  | .debugInfo document _ => [document.fileName]
  | .default ty => ty.strings
  | .dynamic binder delegateType _ _ => binder :: delegateType.strings
  | .goto _ target _ ty => target.name.toList ++ ty.strings
  | .index _ indexer _ _ => indexer.toList
  | .invocation .. => []
  | .label target _ => target.name.toList ++ target.ty.strings
  | .lambda _ parameters _ returnType _ => parameters.flatMap Param.strings ++ returnType.strings
  | .listInit construction initializers =>
    construction.strings ++ initializers.map ElementInit.addMethod
  | .loop .. => []
  | .member (some _) m ty => m.name :: ty.strings
  | .member none m ty => m.name :: (m.declaringType.strings ++ ty.strings)
  | .memberInit construction bindings => construction.strings ++ Binding.stringsOf bindings
  | .methodCall (some _) method _ => [method.name]
  | .methodCall none method _ => method.name :: method.declaringType.strings
  | .newArray _ ty _ => ty.strings
  | .new construction => construction.strings
  | .parameter p => p.strings
  | .runtimeVariables locals => locals.flatMap Param.strings
  | .switch _ _ _ ty => ty.strings
  | .tryCatch _ _ _ ty => ty.strings
  | .typeBinary _ _ typeOperand => typeOperand.strings
  | .unary _ _ ty => ty.strings
  | .extension ty opKind text => text :: (opKind.toList ++ ty.strings)

theorem singleLine_params {ps : List Param} (clean : SingleLines (ps.flatMap Param.strings)) :
    SingleLine (", ".intercalate (ps.map Param.text)) := by
  apply singleLine_intercalate (by decide)
  rw [List.forall_mem_map]
  intro p listed
  have strings := singleLines_flatMap.mp clean p listed
  exact Param.singleLine_text (singleLines_append.mp strings).1

theorem clean_template {e : Expr} (own : SingleLines e.ownStrings) : e.template.Clean := by
  cases e with
  | binary op left right ty => cases op <;> simp +decide [template]
  | block locals expressions ty =>
    have names : Template.Clean
        (locals.map fun v => .text (" var " ++ v.text ++ ";") : Template Expr) := by
      apply Template.clean_texts
      intro v listed
      simp only [singleLine_append]
      exact ⟨⟨by decide, Param.singleLine_text (singleLines_flatMap.mp own v listed)⟩, by decide⟩
    have inner : Template.Clean (expressions.flatMap fun e => [.text " ", .hole e, .text ";"]) :=
      Template.clean_flatMap fun e _ => by simp +decide
    simp +decide [template, names, inner]
  | constant value ty =>
    have literal := Value.singleLine_literal value ty (singleLines_append.mp own).1
    simp [template, literal]
  | debugInfo document span =>
    have file : SingleLine document.fileName := (singleLines_cons.mp own).1
    have number (n : Nat) : SingleLine n.repr := (numeral_nat n).singleLine
    simp +decide [template, file, number]
  | default ty =>
    have type := Ty.singleLine_runtimeName own
    simp +decide [template, type]
  | dynamic binder delegateType arguments ty =>
    have name : SingleLine binder := (singleLines_cons.mp own).1
    simp +decide [template, name]
  | goto kind target value ty =>
    have name := Target.singleLine_text (singleLines_append.mp own).1
    cases value <;> cases kind <;> simp +decide [template, name]
  | index object indexer arguments ty =>
    cases indexer with
    | none => simp +decide [template]
    | some indexer =>
      have name : SingleLine indexer := (singleLines_cons.mp own).1
      simp +decide [template, name]
  | invocation function arguments ty =>
    have inner : Template.Clean (arguments.flatMap fun e => [.text ", ", .hole e]) :=
      Template.clean_flatMap fun e _ => by simp +decide
    simp +decide [template, inner]
  | label target value =>
    have name := Target.singleLine_text (singleLines_append.mp own).1
    cases value <;> simp +decide [template, name]
  | lambda name parameters body returnType delegateType =>
    have listed := (singleLines_append.mp own).1
    have names := singleLine_params listed
    rcases parameters with _ | ⟨p, _ | ⟨q, ps⟩⟩
    · simp +decide [template]
    · simpa +decide [template] using names
    · simpa +decide [template] using names
  | listInit construction initializers =>
    obtain ⟨called, added⟩ := singleLines_append.mp own
    have entries := ElementInit.clean_templates added
    simp +decide [template, Construction.clean_template called, entries]
  | member object m ty =>
    cases object with
    | none =>
      simp only [ownStrings, singleLines_cons, singleLines_append] at own
      have type := Ty.singleLine_runtimeName own.2.1
      simp +decide [template, own.1, type]
    | some object =>
      have name : SingleLine m.name := (singleLines_cons.mp own).1
      simp +decide [template, name]
  | memberInit construction bindings =>
    obtain ⟨called, bound⟩ := singleLines_append.mp own
    have entries := Template.clean_separated (Binding.clean_templates bindings bound)
    simp +decide [template, Construction.clean_template called, entries]
  | methodCall object method arguments =>
    have name : SingleLine method.name := by cases object <;> exact (singleLines_cons.mp own).1
    cases object with
    | none =>
      have type := Ty.singleLine_runtimeName (singleLines_cons.mp own).2
      simp +decide [template, name, type]
    | some object => simp +decide [template, name]
  | newArray kind ty expressions =>
    cases kind with
    | init => simp +decide [template]
    | bounds =>
      have type : SingleLine (ty.element?.getD ty).runtimeName := by
        cases ty <;> exact Ty.singleLine_runtimeName own
      simp +decide [template, type]
  | new construction => exact Construction.clean_template own
  | parameter p =>
    have name := Param.singleLine_text (singleLines_append.mp own).1
    simp [template, name]
  | runtimeVariables locals =>
    have names := singleLine_params own
    simp +decide [template, names]
  | typeBinary test operand typeOperand =>
    have type := Ty.singleLine_runtimeName own
    cases test <;> simp +decide [template, type]
  | unary op operand ty =>
    have type := Ty.singleLine_runtimeName own
    cases op <;> simp +decide [template, type]
  | extension ty opKind text =>
    have shown : SingleLine text := (singleLines_cons.mp own).1
    simp [template, shown]
  | _ => simp +decide [template]

/-- `e.Mentions s`: the string `s` is in `e` or in an expression that the text of `e` shows
or that stands in the tree of `e`. -/
inductive Mentions : Expr → String → Prop
  | own {e : Expr} {s : String} (listed : s ∈ e.ownStrings) : Mentions e s
  | printed {e c : Expr} {s : String} (shown : c ∈ e.template.holes) (inner : Mentions c s) :
      Mentions e s
  | standing {e c : Expr} {step : List Nat} {role : Option String} {s : String}
      (below : Below e step role c) (inner : Mentions c s) : Mentions e s

/-- Nothing that the display of the expression shows has a line end in it. -/
def SingleLined (e : Expr) : Prop := ∀ s, e.Mentions s → SingleLine s

namespace SingleLined

variable {e : Expr}

theorem own (clean : e.SingleLined) : SingleLines e.ownStrings := fun s listed => clean s (.own listed)

theorem printed {c : Expr} (clean : e.SingleLined) (shown : c ∈ e.template.holes) : c.SingleLined :=
  fun s inner => clean s (.printed shown inner)

theorem standing {c : Expr} {step : List Nat} {role : Option String} (clean : e.SingleLined)
    (below : Below e step role c) : c.SingleLined :=
  fun s inner => clean s (.standing below inner)

theorem textWithin (clean : e.SingleLined) (levels : Nat) : SingleLine (e.textWithin levels) := by
  induction levels generalizing e with
  | zero => exact (by decide : SingleLine ellipsis)
  | succ levels ih =>
    exact Template.singleLine_fill (clean_template clean.own) fun c shown => ih (clean.printed shown)

theorem text (clean : e.SingleLined) : SingleLine e.text := clean.textWithin textLevels

/-- The text of a part of the expression. -/
theorem partText {t : Template Expr} (clean : e.SingleLined) (fixed : t.Clean)
    (part : ∀ c ∈ t.holes, c ∈ e.template.holes) : SingleLine (partText t) :=
  Template.singleLine_fill fixed fun _ shown => (clean.printed (part _ shown)).text

end SingleLined

end Expr

end ExprDisplay
