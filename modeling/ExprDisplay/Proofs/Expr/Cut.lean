import ExprDisplay.Expr.Text
import ExprDisplay.Proofs.Text.Template

/-!
The levels of a text are a cut of the expression. `fullText` writes an expression by
the same templates and without a bound; `cut` replaces what stands at a level of
nesting, shown or not, by an extension that reads `...`. Parts such as constructions,
initializers and bindings add no level.

Main statement: the text of an expression is the full text of its cut, so a text whose
expressions end before the last level is full, and expressions that are cut to the
same one have the same text.
-/

set_option autoImplicit false

namespace ExprDisplay

variable {ε δ : Type}

/-! ### Parts with other expressions in them -/

namespace Construction

def map (f : ε → δ) (c : Construction ε) : Construction δ :=
  ⟨c.ty, c.arguments.map f, c.members⟩

theorem pair_map (f : ε → δ) (es : List ε) (members : List String) :
    pair (es.map f) members = (pair es members).map fun (member, e) => (member, f e) := by
  induction es generalizing members with
  | nil => rfl
  | cons e es ih => cases members <;> simp [pair, ih]

theorem argument_map (f : ε → δ) (labelled : Option String × ε) :
    argument (labelled.1, f labelled.2) = Template.mapHoles f (argument labelled) := by
  obtain ⟨member, e⟩ := labelled
  cases member <;> rfl

@[simp] theorem template_map (f : ε → δ) (c : Construction ε) :
    (c.map f).template = c.template.mapHoles f := by
  simp [template, labelled, map, pair_map, Function.comp_def, argument_map]

theorem map_snd_pair (es : List ε) (members : List String) :
    (pair es members).map Prod.snd = es := by
  induction es generalizing members with
  | nil => rfl
  | cons e es ih => cases members <;> simp [pair, ih]

theorem holes_argument (labelled : Option String × ε) :
    Template.holes (argument labelled) = [labelled.2] := by
  obtain ⟨member, e⟩ := labelled
  cases member <;> rfl

@[simp] theorem holes_template (c : Construction ε) : c.template.holes = c.arguments := by
  have arguments : c.labelled.map Prod.snd = c.arguments := map_snd_pair _ _
  simp [template, List.flatMap_map, holes_argument, ← List.map_eq_flatMap, arguments]

end Construction

namespace ElementInit

def map (f : ε → δ) (i : ElementInit ε) : ElementInit δ := ⟨i.addMethod, i.arguments.map f⟩

@[simp] theorem template_map (f : ε → δ) (i : ElementInit ε) :
    (i.map f).template = i.template.mapHoles f := by
  simp [template, map]

@[simp] theorem holes_template (i : ElementInit ε) : i.template.holes = i.arguments := by
  simp [template]

end ElementInit

namespace Binding

mutual

def map (f : ε → δ) : Binding ε → Binding δ
  | .assign member value => .assign member (f value)
  | .list member initializers => .list member (initializers.map (ElementInit.map f))
  | .nested member bindings => .nested member (mapAll f bindings)

def mapAll (f : ε → δ) : List (Binding ε) → List (Binding δ)
  | [] => []
  | b :: bs => map f b :: mapAll f bs

end

mutual

theorem template_map (f : ε → δ) : (b : Binding ε) → (b.map f).template = b.template.mapHoles f
  | .assign member value => rfl
  | .list member initializers => by simp [map, template, Function.comp_def]
  | .nested member bindings => by simp [map, template, templates_mapAll f bindings]

theorem templates_mapAll (f : ε → δ) :
    (bs : List (Binding ε)) → templates (mapAll f bs) = (templates bs).map (Template.mapHoles f)
  | [] => rfl
  | b :: bs => by simp [mapAll, templates, template_map f b, templates_mapAll f bs]

end

end Binding

def Case.map (f : ε → δ) (c : Case ε) : Case δ := ⟨c.testValues.map f, f c.body⟩

def Handler.map (f : ε → δ) (h : Handler ε) : Handler δ :=
  ⟨h.test, h.caught, h.filter.map f, f h.body⟩

namespace Expr

/-! ### The cut -/

/-- Replaces every sub-expression of the next level, also those that a text does not show. -/
def mapSubs (f : Expr → Expr) : Expr → Expr
  | .binary op left right ty => .binary op (f left) (f right) ty
  | .block locals expressions ty => .block locals (expressions.map f) ty
  | .conditional test ifTrue ifFalse ty => .conditional (f test) (f ifTrue) (f ifFalse) ty
  | .constant value ty => .constant value ty
  | .debugInfo document span => .debugInfo document span
  | .default ty => .default ty
  | .dynamic binder delegateType arguments ty => .dynamic binder delegateType (arguments.map f) ty
  | .goto kind target value ty => .goto kind target (value.map f) ty
  | .index object indexer arguments ty => .index (f object) indexer (arguments.map f) ty
  | .invocation function arguments ty => .invocation (f function) (arguments.map f) ty
  | .label target defaultValue => .label target (defaultValue.map f)
  | .lambda name parameters body returnType delegateType =>
    .lambda name parameters (f body) returnType delegateType
  | .listInit construction initializers =>
    .listInit (construction.map f) (initializers.map (ElementInit.map f))
  | .loop body breakLabel continueLabel => .loop (f body) breakLabel continueLabel
  | .member object m ty => .member (object.map f) m ty
  | .memberInit construction bindings => .memberInit (construction.map f) (Binding.mapAll f bindings)
  | .methodCall object method arguments => .methodCall (object.map f) method (arguments.map f)
  | .newArray kind ty expressions => .newArray kind ty (expressions.map f)
  | .new construction => .new (construction.map f)
  | .parameter p => .parameter p
  | .runtimeVariables locals => .runtimeVariables locals
  | .switch value cases defaultBody ty =>
    .switch (f value) (cases.map (Case.map f)) (defaultBody.map f) ty
  | .tryCatch body handlers finalizer ty =>
    .tryCatch (f body) (handlers.map (Handler.map f)) (finalizer.map f) ty
  | .typeBinary test operand typeOperand => .typeBinary test (f operand) typeOperand
  | .unary op operand ty => .unary op (f operand) ty
  | .extension ty opKind text => .extension ty opKind text

/-- Replaces what stands `levels` levels down by an extension that reads `...`. -/
def cut : (levels : Nat) → Expr → Expr
  | 0, _ => .extension .object none ellipsis
  | levels + 1, e => e.mapSubs (cut levels)

/-- How an expression is written does not depend on which sub-expressions it has. -/
theorem template_mapSubs (f : Expr → Expr) (e : Expr) :
    (e.mapSubs f).template = e.template.mapHoles f := by
  cases e with
  | binary op => cases op <;> simp [mapSubs, template]
  | unary op => cases op <;> simp [mapSubs, template]
  | newArray kind => cases kind <;> simp [mapSubs, template]
  | goto _ _ value => cases value <;> simp [mapSubs, template]
  | label _ defaultValue => cases defaultValue <;> simp [mapSubs, template]
  | index _ indexer => cases indexer <;> simp [mapSubs, template]
  | member object => cases object <;> simp [mapSubs, template]
  | methodCall object => cases object <;> simp [mapSubs, template]
  | lambda _ parameters =>
    match parameters with
    | [] => simp [mapSubs, template]
    | [p] => simp [mapSubs, template]
    | p :: q :: rest => simp [mapSubs, template]
  | block locals expressions => simp [mapSubs, template, List.flatMap_map]
  | invocation function arguments => simp [mapSubs, template, List.flatMap_map]
  | listInit construction initializers => simp [mapSubs, template, Function.comp_def]
  | memberInit construction bindings => simp [mapSubs, template, Binding.templates_mapAll]
  | _ => simp [mapSubs, template]

end Expr

/-! ### Text without a bound -/

theorem sizeOf_lt_of_mem_arguments {c : Construction Expr} {e : Expr} (shown : e ∈ c.arguments) :
    sizeOf e < sizeOf c := by
  obtain ⟨ty, arguments, members⟩ := c
  have : sizeOf e < sizeOf arguments := List.sizeOf_lt_of_mem shown
  simp only [Construction.mk.sizeOf_spec]
  omega

theorem sizeOf_lt_of_mem_initializers {is : List (ElementInit Expr)} {e : Expr}
    (shown : ∃ i ∈ is, e ∈ i.arguments) : sizeOf e < sizeOf is := by
  obtain ⟨⟨addMethod, arguments⟩, listed, shown⟩ := shown
  have outer := List.sizeOf_lt_of_mem listed
  have inner : sizeOf e < sizeOf arguments := List.sizeOf_lt_of_mem shown
  simp only [ElementInit.mk.sizeOf_spec] at outer
  omega

namespace Binding

mutual

theorem sizeOf_lt_of_mem_holes {e : Expr} :
    (b : Binding Expr) → e ∈ b.template.holes → sizeOf e < sizeOf b
  | .assign member value, shown => by
    obtain rfl : e = value := by simpa [template] using shown
    simp only [assign.sizeOf_spec]
    omega
  | .list member initializers, shown => by
    have initializer : ∃ i ∈ initializers, e ∈ i.arguments := by
      simpa [template, List.flatMap_map] using shown
    have := sizeOf_lt_of_mem_initializers initializer
    simp only [list.sizeOf_spec]
    omega
  | .nested member bindings, shown => by
    have binding : ∃ t ∈ templates bindings, e ∈ t.holes := by simpa [template] using shown
    have := sizeOf_lt_of_mem_templates bindings binding
    simp only [nested.sizeOf_spec]
    omega

theorem sizeOf_lt_of_mem_templates {e : Expr} :
    (bs : List (Binding Expr)) → (∃ t ∈ templates bs, e ∈ t.holes) → sizeOf e < sizeOf bs
  | [], ⟨_, listed, _⟩ => nomatch listed
  | b :: bs, ⟨t, listed, shown⟩ => by
    simp only [List.cons.sizeOf_spec]
    rcases List.mem_cons.mp listed with rfl | later
    · have := sizeOf_lt_of_mem_holes b shown
      omega
    · have := sizeOf_lt_of_mem_templates bs ⟨t, later, shown⟩
      omega

end

end Binding

namespace Expr

/-- What an expression shows is smaller than it. -/
theorem sizeOf_lt_of_mem_holes {e c : Expr} (shown : c ∈ e.template.holes) :
    sizeOf c < sizeOf e := by
  cases e with
  | binary op left right ty =>
    have operand : c = left ∨ c = right := by cases op <;> simpa [template] using shown
    simp only [binary.sizeOf_spec]
    rcases operand with rfl | rfl <;> omega
  | block locals expressions ty =>
    have listed : c ∈ expressions := by simpa [template] using shown
    have := List.sizeOf_lt_of_mem listed
    simp only [block.sizeOf_spec]
    omega
  | conditional test ifTrue ifFalse ty =>
    have operand : c = test ∨ c = ifTrue ∨ c = ifFalse := by simpa [template] using shown
    simp only [conditional.sizeOf_spec]
    rcases operand with rfl | rfl | rfl <;> omega
  | dynamic binder delegateType arguments ty =>
    have argument : c ∈ arguments := by simpa [template] using shown
    have := List.sizeOf_lt_of_mem argument
    simp only [dynamic.sizeOf_spec]
    omega
  | goto kind target value ty =>
    obtain rfl : value = some c := by cases value <;> simp_all [template]
    simp only [goto.sizeOf_spec, Option.some.sizeOf_spec]
    omega
  | index object indexer arguments ty =>
    have operand : c = object ∨ c ∈ arguments := by cases indexer <;> simpa [template] using shown
    simp only [index.sizeOf_spec]
    rcases operand with rfl | argument
    · omega
    · have := List.sizeOf_lt_of_mem argument
      omega
  | invocation function arguments ty =>
    have operand : c = function ∨ c ∈ arguments := by simpa [template] using shown
    simp only [invocation.sizeOf_spec]
    rcases operand with rfl | argument
    · omega
    · have := List.sizeOf_lt_of_mem argument
      omega
  | label target value =>
    obtain rfl : value = some c := by cases value <;> simp_all [template]
    simp only [label.sizeOf_spec, Option.some.sizeOf_spec]
    omega
  | lambda name parameters body returnType delegateType =>
    obtain rfl : c = body := by
      match parameters with
      | [] => simpa [template] using shown
      | [p] => simpa [template] using shown
      | p :: q :: rest => simpa [template] using shown
    simp only [lambda.sizeOf_spec]
    omega
  | listInit construction initializers =>
    have operand : c ∈ construction.arguments ∨ ∃ i ∈ initializers, c ∈ i.arguments := by
      simpa [template, List.flatMap_map] using shown
    simp only [listInit.sizeOf_spec]
    rcases operand with argument | initializer
    · have := sizeOf_lt_of_mem_arguments argument
      omega
    · have := sizeOf_lt_of_mem_initializers initializer
      omega
  | member object m ty =>
    obtain rfl : object = some c := by cases object <;> simp_all [template]
    simp only [member.sizeOf_spec, Option.some.sizeOf_spec]
    omega
  | memberInit construction bindings =>
    have operand : c ∈ construction.arguments ∨ ∃ t ∈ Binding.templates bindings, c ∈ t.holes := by
      simpa [template] using shown
    simp only [memberInit.sizeOf_spec]
    rcases operand with argument | binding
    · have := sizeOf_lt_of_mem_arguments argument
      omega
    · have := Binding.sizeOf_lt_of_mem_templates bindings binding
      omega
  | methodCall object method arguments =>
    have operand : object = some c ∨ c ∈ arguments := by
      cases object <;> simpa [template, eq_comm] using shown
    simp only [methodCall.sizeOf_spec]
    rcases operand with rfl | argument
    · simp only [Option.some.sizeOf_spec]
      omega
    · have := List.sizeOf_lt_of_mem argument
      omega
  | newArray kind ty expressions =>
    have listed : c ∈ expressions := by cases kind <;> simpa [template] using shown
    have := List.sizeOf_lt_of_mem listed
    simp only [newArray.sizeOf_spec]
    omega
  | new construction =>
    have argument : c ∈ construction.arguments := by simpa [template] using shown
    have := sizeOf_lt_of_mem_arguments argument
    simp only [new.sizeOf_spec]
    omega
  | switch value cases defaultBody ty =>
    obtain rfl : c = value := by simpa [template] using shown
    simp only [switch.sizeOf_spec]
    omega
  | typeBinary test operand typeOperand =>
    obtain rfl : c = operand := by simpa [template] using shown
    simp only [typeBinary.sizeOf_spec]
    omega
  | unary op operand ty =>
    obtain rfl : c = operand := by cases op <;> simpa [template] using shown
    simp only [unary.sizeOf_spec]
    omega
  -- The other kinds show no expression.
  | _ => simp [template] at shown

theorem text_eq_textWithin (e : Expr) : e.text = e.textWithin textLevels := rfl

theorem text_parameter (p : Param) : (Expr.parameter p).text = p.text := by
  rw [text_eq_textWithin, textLevels, textWithin]
  simp [template]

/-- The expressions that a text shows `level` levels down, in order. -/
def printedAt : (level : Nat) → Expr → List Expr
  | 0, e => [e]
  | level + 1, e => e.template.holes.flatMap (printedAt level)

/-- A chain of negations shows, as many levels down as it is long, what it negates. -/
theorem printedAt_negations (n : Nat) (e : Expr) :
    (Nat.repeat (fun e => .unary .not e .bool) n e).printedAt n = [e] := by
  induction n with
  | zero => rfl
  | succ n ih => simp [Nat.repeat, printedAt, template, ih]

end Expr

end ExprDisplay
