import ExprDisplay.Expr.Infer
import ExprDisplay.Proofs.Ty.LevelOrder

/-!
Types of invocations. The type of an invocation is found in two ways: a lambda says itself
what it returns, and for any other function the result is read off the function's type.

Main statement: on lambdas whose types follow from their parts both ways agree, also through
a parameter of the lambda's type and through expressions around the lambda that take their
type from it. The type of such a lambda is named after its parameters and its body.
-/

set_option autoImplicit false

namespace ExprDisplay

/-! ### The names of function types -/

namespace Ty

theorem name_append_nameTail (t : Ty) (ts : List Ty) :
    t.name ++ nameTail ts = ", ".intercalate ((t :: ts).map name) := by
  induction ts generalizing t with
  | nil => simp [nameTail]
  | cons u us ih =>
    have others := ih u
    rw [List.map_cons] at others
    rw [List.map_cons, List.map_cons, String.intercalate_cons_cons, ← others, nameTail, ← name]
    simp only [String.append_assoc]

theorem name_generic_of_ne_nil (word : String) (kind : TypeKind) {arguments : List Ty}
    (filled : arguments ≠ []) :
    (Ty.generic word kind arguments).name =
      bareName word ++ "<" ++ ", ".intercalate (arguments.map name) ++ ">" := by
  obtain ⟨t, ts, rfl⟩ := List.exists_cons_of_ne_nil filled
  rw [name_generic, name_append_nameTail]

end Ty

namespace Expr

theorem name_functionType (parameters : List Param) (result : Ty) :
    (functionType parameters result).name =
      "Func<" ++ ", ".intercalate (parameters.map (·.ty.name) ++ [result.name]) ++ ">" := by
  have word (arity : String) : Ty.bareName ("Func\x60" ++ arity) = "Func" :=
    Ty.bareName_eq_iff.mpr ⟨by decide, .inr ⟨arity, rfl⟩⟩
  rw [functionType, Ty.name_generic_of_ne_nil _ _ (by simp), word, List.map_append, List.map_map]
  rfl

/-! ### Both ways to the result -/

/-- Calling a function type gives its result, whatever the number of its parameters. -/
theorem callResult_functionType (parameters : List Param) (result : Ty) :
    callResult (functionType parameters result) = result := by
  have marked (arity : String) : "Func".toList.isPrefixOf ("Func\x60" ++ arity).toList = true := by
    rw [String.toList_append]
    rfl
  rw [functionType, callResult, if_pos (marked _), List.getLast?_append]
  rfl

/-- What is no lambda, or a lambda whose types follow from its parts. -/
def Consistent (f : Expr) : Prop :=
  f.kind ≠ .lambda ∨ ∃ parameters body, f = inferLambda parameters body

/-- What a consistent function returns is what its type says. -/
theorem ty_inferInvocation {f : Expr} (consistent : f.Consistent) (arguments : List Expr) :
    (inferInvocation f arguments).ty = callResult f.ty := by
  rcases consistent with other | ⟨parameters, body, rfl⟩
  · cases f with
    | lambda => exact absurd rfl other
    | _ => rfl
  -- here the lambda's own result is used, and its type has to say the same
  · exact (callResult_functionType parameters body.ty).symm

/-! ### Expressions that take their type from another one -/

/-- An expression with a place for one that gives it its type: the last of a block, the true
branch of a conditional, the body of a try, or the body of a switch's first case. -/
inductive Wrapper where
  | block (locals : List Param) (before : List Expr)
  | conditional (test ifFalse : Expr)
  | tryCatch (handlers : List (Handler Expr)) (finalizer : Option Expr)
  | switch (value : Expr) (testValues : List Expr) (later : List (Case Expr))
      (defaultBody : Option Expr)

namespace Wrapper

def wrap : Wrapper → Expr → Expr
  | .block locals before, e => inferBlock locals (before ++ [e])
  | .conditional test ifFalse, e => inferConditional test e ifFalse
  | .tryCatch handlers finalizer, e => inferTry e handlers finalizer
  | .switch value testValues later defaultBody, e =>
    inferSwitch value defaultBody (⟨testValues, e⟩ :: later)

theorem ty_wrap (w : Wrapper) (e : Expr) : (w.wrap e).ty = e.ty := by
  cases w with
  | block locals before => simp [wrap, inferBlock, ty]
  | _ => rfl

theorem consistent_wrap (w : Wrapper) (e : Expr) : (w.wrap e).Consistent := by
  left
  cases w <;> (intro same; cases same)

theorem ty_foldr_wrap (wrappers : List Wrapper) (e : Expr) :
    (wrappers.foldr wrap e).ty = e.ty := by
  induction wrappers with
  | nil => rfl
  | cons w wrappers ih => rw [List.foldr_cons, ty_wrap, ih]

theorem consistent_foldr_wrap {e : Expr} (consistent : e.Consistent) (wrappers : List Wrapper) :
    (wrappers.foldr wrap e).Consistent := by
  cases wrappers with
  | nil => exact consistent
  | cons w wrappers => exact consistent_wrap w _

end Wrapper

/-- An invocation of a lambda whose types follow from its parts has the type of the lambda's
body. So has an invocation of anything consistent that has the lambda's type, such as a
parameter of that type or the lambda within any number of wrappers. The lambda's type is
named after the types of its parameters and of its body. -/
theorem ty_invocation_eq_body (parameters : List Param) (body : Expr) (arguments : List Expr) :
    let function := inferLambda parameters body
    (inferInvocation function arguments).ty = body.ty ∧
    (∀ f : Expr, f.ty = function.ty →
      (f.kind ≠ .lambda ∨ ∃ parameters' body', f = inferLambda parameters' body') →
        (inferInvocation f arguments).ty = body.ty) ∧
    (∀ name byRef,
      (inferInvocation (.parameter ⟨name, function.ty, byRef⟩) arguments).ty = body.ty) ∧
    (∀ wrappers : List Wrapper,
      let wrapped := wrappers.foldr Wrapper.wrap function
      wrapped.ty = function.ty ∧ (inferInvocation wrapped arguments).ty = body.ty) ∧
    function.ty.name =
      "Func<" ++ ", ".intercalate (parameters.map (·.ty.name) ++ [body.ty.name]) ++ ">" := by
  intro function
  have agree (f : Expr) (typed : f.ty = function.ty) (consistent : f.Consistent) :
      (inferInvocation f arguments).ty = body.ty := by
    rw [ty_inferInvocation consistent, typed]
    exact callResult_functionType parameters body.ty
  have inferred : function.Consistent := .inr ⟨parameters, body, rfl⟩
  refine ⟨agree function rfl inferred, agree, fun name byRef => ?_, fun wrappers => ?_,
    name_functionType parameters body.ty⟩
  · exact agree _ rfl (.inl (by intro same; cases same))
  · have typed := Wrapper.ty_foldr_wrap wrappers function
    exact ⟨typed, agree _ typed (Wrapper.consistent_foldr_wrap inferred wrappers)⟩

/-- `x => y => z`, called with one argument after the other: first through a parameter `f` of
its type, then through the invocation of `f`. It is also called within a switch in a try in a
conditional at the end of a block. -/
theorem ty_invocation_eq_body_curried :
    let x : Param := .named .int "x"
    let z : Expr := .parameter (.named .bool "z")
    let inner := inferLambda [.named (Ty.string.arrayOf 1) "y"] z
    let outer := inferLambda [x] inner
    let f : Expr := .parameter (.named outer.ty "f")
    let once := inferInvocation f [.parameter x]
    let wrapped := inferBlock [x] [z, inferConditional z (inferTry (inferSwitch z none
      [⟨[z], outer⟩, ⟨[], z⟩]) [] (some z)) z]
    f.ty = outer.ty ∧ f.kind ≠ .lambda ∧ once.ty = inner.ty ∧ once.kind ≠ .lambda ∧
      (inferInvocation once [.default .string]).ty = .bool ∧
      wrapped.ty = outer.ty ∧ (inferInvocation wrapped [.parameter x]).ty = inner.ty ∧
      outer.ty.name = "Func<int, Func<string[], bool>>" := by
  intro x z inner outer f once wrapped
  obtain ⟨-, asTyped, -, within, named⟩ := ty_invocation_eq_body [x] inner [.parameter x]
  obtain ⟨-, again, -, -, -⟩ :=
    ty_invocation_eq_body [.named (Ty.string.arrayOf 1) "y"] z [.default .string]
  have parameter : f.kind ≠ .lambda := by decide
  have invocation : once.kind ≠ .lambda := by decide
  have first : once.ty = inner.ty := asTyped f rfl (.inl parameter)
  obtain ⟨typed, called⟩ := within [.block [x] [z], .conditional z z, .tryCatch [] (some z),
    .switch z [z] [⟨[], z⟩] none]
  exact ⟨rfl, parameter, first, invocation, again once first (.inl invocation), typed, called,
    named.trans (by decide)⟩

end Expr

end ExprDisplay
