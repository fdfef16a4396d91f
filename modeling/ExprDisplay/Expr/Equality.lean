import ExprDisplay.Expr.Basic

/-!
Equality of expressions, field by field. Constants compare by the equality of
values, so an expression that holds a value that is no number differs from itself.
-/
namespace ExprDisplay.Expr

mutual

def beq : Expr → Expr → Bool
  | .binary o l r t, .binary o' l' r' t' => o == o' && beq l l' && beq r r' && t == t'
  | .block v e t, .block v' e' t' => v == v' && beqList e e' && t == t'
  | .conditional c a b t, .conditional c' a' b' t' => beq c c' && beq a a' && beq b b' && t == t'
  | .constant v t, .constant v' t' => v == v' && t == t'
  | .debugInfo d s, .debugInfo d' s' => d == d' && s == s'
  | .default t, .default t' => t == t'
  | .dynamic b d a t, .dynamic b' d' a' t' => b == b' && d == d' && beqList a a' && t == t'
  | .goto k l v t, .goto k' l' v' t' => k == k' && l == l' && beqOption v v' && t == t'
  | .index o i a t, .index o' i' a' t' => beq o o' && i == i' && beqList a a' && t == t'
  | .invocation f a t, .invocation f' a' t' => beq f f' && beqList a a' && t == t'
  | .label l v, .label l' v' => l == l' && beqOption v v'
  | .lambda n p b r d, .lambda n' p' b' r' d' =>
    n == n' && p == p' && beq b b' && r == r' && d == d'
  | .listInit c i, .listInit c' i' => beqConstruction c c' && beqInits i i'
  | .loop b k c, .loop b' k' c' => beq b b' && k == k' && c == c'
  | .member o m t, .member o' m' t' => beqOption o o' && m == m' && t == t'
  | .memberInit c b, .memberInit c' b' => beqConstruction c c' && beqBindings b b'
  | .methodCall o m a, .methodCall o' m' a' => beqOption o o' && m == m' && beqList a a'
  | .newArray k t e, .newArray k' t' e' => k == k' && t == t' && beqList e e'
  | .new c, .new c' => beqConstruction c c'
  | .parameter p, .parameter p' => p == p'
  | .runtimeVariables v, .runtimeVariables v' => v == v'
  | .switch v c d t, .switch v' c' d' t' =>
    beq v v' && beqCases c c' && beqOption d d' && t == t'
  | .tryCatch b h f t, .tryCatch b' h' f' t' =>
    beq b b' && beqHandlers h h' && beqOption f f' && t == t'
  | .typeBinary k e t, .typeBinary k' e' t' => k == k' && beq e e' && t == t'
  | .unary o e t, .unary o' e' t' => o == o' && beq e e' && t == t'
  | .extension t o s, .extension t' o' s' => t == t' && o == o' && s == s'
  | _, _ => false

def beqList : List Expr → List Expr → Bool
  | [], [] => true
  | a :: as, b :: bs => beq a b && beqList as bs
  | _, _ => false

def beqOption : Option Expr → Option Expr → Bool
  | none, none => true
  | some a, some b => beq a b
  | _, _ => false

def beqConstruction : Construction Expr → Construction Expr → Bool
  | ⟨t, a, m⟩, ⟨t', a', m'⟩ => t == t' && beqList a a' && m == m'

def beqInits : List (ElementInit Expr) → List (ElementInit Expr) → Bool
  | [], [] => true
  | ⟨m, a⟩ :: is, ⟨m', a'⟩ :: js => m == m' && beqList a a' && beqInits is js
  | _, _ => false

def beqBindings : List (Binding Expr) → List (Binding Expr) → Bool
  | [], [] => true
  | a :: as, b :: bs => beqBinding a b && beqBindings as bs
  | _, _ => false

def beqBinding : Binding Expr → Binding Expr → Bool
  | .assign m e, .assign m' e' => m == m' && beq e e'
  | .list m i, .list m' i' => m == m' && beqInits i i'
  | .nested m b, .nested m' b' => m == m' && beqBindings b b'
  | _, _ => false

def beqCases : List (Case Expr) → List (Case Expr) → Bool
  | [], [] => true
  | ⟨v, b⟩ :: cs, ⟨v', b'⟩ :: ds => beqList v v' && beq b b' && beqCases cs ds
  | _, _ => false

def beqHandlers : List (Handler Expr) → List (Handler Expr) → Bool
  | [], [] => true
  | ⟨t, v, f, b⟩ :: hs, ⟨t', v', f', b'⟩ :: ks =>
    t == t' && v == v' && beqOption f f' && beq b b' && beqHandlers hs ks
  | _, _ => false

end

instance : BEq Expr := ⟨beq⟩

end ExprDisplay.Expr
