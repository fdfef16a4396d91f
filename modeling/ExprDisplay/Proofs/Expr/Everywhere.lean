import ExprDisplay.Proofs.Expr.Cut

/-!
Changes made everywhere in an expression. `everywhere f` changes the sub-expressions
first, shown or not, and then the expression around them; one step of it is `f` after
`mapSubs`.

Main statement: a change that keeps the template of every expression keeps the text of
every expression when it is made everywhere.
-/

set_option autoImplicit false

namespace ExprDisplay.Expr

mutual

/-- Applies `f` to every expression, from the innermost outward. -/
def everywhere (f : Expr → Expr) : Expr → Expr
  | .binary op left right ty => f (.binary op (everywhere f left) (everywhere f right) ty)
  | .block locals expressions ty => f (.block locals (everywhereList f expressions) ty)
  | .conditional test ifTrue ifFalse ty =>
    f (.conditional (everywhere f test) (everywhere f ifTrue) (everywhere f ifFalse) ty)
  | .constant value ty => f (.constant value ty)
  | .debugInfo document span => f (.debugInfo document span)
  | .default ty => f (.default ty)
  | .dynamic binder delegateType arguments ty =>
    f (.dynamic binder delegateType (everywhereList f arguments) ty)
  | .goto kind target value ty => f (.goto kind target (everywhereOption f value) ty)
  | .index object indexer arguments ty =>
    f (.index (everywhere f object) indexer (everywhereList f arguments) ty)
  | .invocation function arguments ty =>
    f (.invocation (everywhere f function) (everywhereList f arguments) ty)
  | .label target defaultValue => f (.label target (everywhereOption f defaultValue))
  | .lambda name parameters body returnType delegateType =>
    f (.lambda name parameters (everywhere f body) returnType delegateType)
  | .listInit construction initializers =>
    f (.listInit (everywhereConstruction f construction) (everywhereInits f initializers))
  | .loop body breakLabel continueLabel => f (.loop (everywhere f body) breakLabel continueLabel)
  | .member object m ty => f (.member (everywhereOption f object) m ty)
  | .memberInit construction bindings =>
    f (.memberInit (everywhereConstruction f construction) (everywhereBindings f bindings))
  | .methodCall object method arguments =>
    f (.methodCall (everywhereOption f object) method (everywhereList f arguments))
  | .newArray kind ty expressions => f (.newArray kind ty (everywhereList f expressions))
  | .new construction => f (.new (everywhereConstruction f construction))
  | .parameter p => f (.parameter p)
  | .runtimeVariables locals => f (.runtimeVariables locals)
  | .switch value cases defaultBody ty =>
    f (.switch (everywhere f value) (everywhereCases f cases) (everywhereOption f defaultBody) ty)
  | .tryCatch body handlers finalizer ty =>
    f (.tryCatch (everywhere f body) (everywhereHandlers f handlers)
      (everywhereOption f finalizer) ty)
  | .typeBinary test operand typeOperand => f (.typeBinary test (everywhere f operand) typeOperand)
  | .unary op operand ty => f (.unary op (everywhere f operand) ty)
  | .extension ty opKind text => f (.extension ty opKind text)

def everywhereList (f : Expr → Expr) : List Expr → List Expr
  | [] => []
  | e :: es => everywhere f e :: everywhereList f es

def everywhereOption (f : Expr → Expr) : Option Expr → Option Expr
  | none => none
  | some e => some (everywhere f e)

def everywhereConstruction (f : Expr → Expr) : Construction Expr → Construction Expr
  | ⟨ty, arguments, members⟩ => ⟨ty, everywhereList f arguments, members⟩

def everywhereInits (f : Expr → Expr) : List (ElementInit Expr) → List (ElementInit Expr)
  | [] => []
  | ⟨addMethod, arguments⟩ :: is => ⟨addMethod, everywhereList f arguments⟩ :: everywhereInits f is

def everywhereBinding (f : Expr → Expr) : Binding Expr → Binding Expr
  | .assign name value => .assign name (everywhere f value)
  | .list name initializers => .list name (everywhereInits f initializers)
  | .nested name bindings => .nested name (everywhereBindings f bindings)

def everywhereBindings (f : Expr → Expr) : List (Binding Expr) → List (Binding Expr)
  | [] => []
  | b :: bs => everywhereBinding f b :: everywhereBindings f bs

def everywhereCases (f : Expr → Expr) : List (Case Expr) → List (Case Expr)
  | [] => []
  | ⟨testValues, body⟩ :: cs => ⟨everywhereList f testValues, everywhere f body⟩ :: everywhereCases f cs

def everywhereHandlers (f : Expr → Expr) : List (Handler Expr) → List (Handler Expr)
  | [] => []
  | ⟨test, caught, filter, body⟩ :: hs =>
    ⟨test, caught, everywhereOption f filter, everywhere f body⟩ :: everywhereHandlers f hs

end

variable {f : Expr → Expr}

theorem everywhereList_eq (es : List Expr) : everywhereList f es = es.map (everywhere f) := by
  induction es with
  | nil => rfl
  | cons e es ih => rw [everywhereList, ih, List.map_cons]

theorem everywhereOption_eq (e : Option Expr) : everywhereOption f e = e.map (everywhere f) := by
  cases e <;> rfl

theorem everywhereConstruction_eq (c : Construction Expr) :
    everywhereConstruction f c = c.map (everywhere f) := by
  cases c
  rw [everywhereConstruction, everywhereList_eq, Construction.map]

theorem everywhereInits_eq (is : List (ElementInit Expr)) :
    everywhereInits f is = is.map (ElementInit.map (everywhere f)) := by
  induction is with
  | nil => rfl
  | cons i is ih =>
    cases i
    rw [everywhereInits, ih, everywhereList_eq, List.map_cons, ElementInit.map]

mutual

theorem everywhereBinding_eq : (b : Binding Expr) → everywhereBinding f b = b.map (everywhere f)
  | .assign _ _ => rfl
  | .list _ initializers => by rw [everywhereBinding, everywhereInits_eq, Binding.map]
  | .nested _ bindings => by rw [everywhereBinding, everywhereBindings_eq bindings, Binding.map]

theorem everywhereBindings_eq :
    (bs : List (Binding Expr)) → everywhereBindings f bs = Binding.mapAll (everywhere f) bs
  | [] => rfl
  | b :: bs => by
    rw [everywhereBindings, everywhereBinding_eq b, everywhereBindings_eq bs, Binding.mapAll]

end

theorem everywhereCases_eq (cs : List (Case Expr)) :
    everywhereCases f cs = cs.map (Case.map (everywhere f)) := by
  induction cs with
  | nil => rfl
  | cons c cs ih =>
    cases c
    rw [everywhereCases, ih, everywhereList_eq, List.map_cons, Case.map]

theorem everywhereHandlers_eq (hs : List (Handler Expr)) :
    everywhereHandlers f hs = hs.map (Handler.map (everywhere f)) := by
  induction hs with
  | nil => rfl
  | cons h hs ih =>
    cases h
    rw [everywhereHandlers, ih, everywhereOption_eq, List.map_cons, Handler.map]

/-- One step: the change of an expression whose sub-expressions are changed everywhere. -/
theorem everywhere_eq (f : Expr → Expr) (e : Expr) :
    e.everywhere f = f (e.mapSubs (everywhere f)) := by
  cases e <;> simp only [everywhere, mapSubs, everywhereList_eq, everywhereOption_eq,
    everywhereConstruction_eq, everywhereInits_eq, everywhereBindings_eq, everywhereCases_eq,
    everywhereHandlers_eq]

/-- The run over all levels, one template at a time. -/
theorem textWithin_everywhere (same : ∀ e, (f e).template = e.template) (levels : Nat) (e : Expr) :
    (e.everywhere f).textWithin levels = e.textWithin levels := by
  induction levels generalizing e with
  | zero => rfl
  | succ levels ih =>
    have template : (e.everywhere f).template = e.template.mapHoles (everywhere f) := by
      rw [everywhere_eq, same, template_mapSubs]
    calc (e.everywhere f).textWithin (levels + 1)
      _ = (e.template.mapHoles (everywhere f)).fill (textWithin levels) := by
        rw [textWithin, template]
      _ = e.template.fill (fun c => (c.everywhere f).textWithin levels) := Template.fill_mapHoles _ _ _
      _ = e.template.fill (textWithin levels) := Template.fill_congr fun c _ => ih c
      _ = e.textWithin (levels + 1) := rfl

end ExprDisplay.Expr
