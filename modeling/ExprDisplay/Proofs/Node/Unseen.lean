import ExprDisplay.Proofs.Expr.Everywhere
import ExprDisplay.Proofs.Node.LiteralText

/-!
Fields that are never displayed. A display tree sees an expression through its kind, its
template, its headline and its slots. A change that keeps these keeps the tree, also when
it is made everywhere in an expression, since the only other thing that labels and slots
show of sub-expressions is their text.

Main statement: neither the tree nor the text of an expression depends on the fields that
`erase` takes out.
-/

set_option autoImplicit false

namespace ExprDisplay

/-! ### Slots with other expressions in them -/

def Entry.map (f : Expr → Expr) : Entry → Entry
  | .leaf node => .leaf node
  | .sub role e => .sub role (f e)

def Slot.map (f : Expr → Expr) : Slot → Slot
  | .entry e => .entry (e.map f)
  | .group head entries => .group head (entries.map (Entry.map f))

variable {f : Expr → Expr}

@[simp] theorem Entry.map_leaf (node : Node) : (Entry.leaf node).map f = .leaf node := rfl

@[simp] theorem Entry.map_sub (role : Option String) (e : Expr) :
    (Entry.sub role e).map f = .sub role (f e) := rfl

@[simp] theorem Entry.map_optional (role : String) (value : Option Expr) :
    (Entry.optional role value).map f = .optional role (value.map f) := by
  cases value <;> rfl

@[simp] theorem Slot.map_entry (e : Entry) : (Slot.entry e).map f = .entry (e.map f) := rfl

@[simp] theorem Slot.map_group (head : Node) (entries : List Entry) :
    (Slot.group head entries).map f = .group head (entries.map (Entry.map f)) := rfl

namespace Expr

/-- Putting expressions with the same texts into the holes keeps the text of a part. -/
theorem partText_mapHoles (same : ∀ c, (f c).text = c.text) (t : Template Expr) :
    partText (t.mapHoles f) = partText t := by
  unfold partText
  rw [Template.fill_mapHoles]
  exact Template.fill_congr fun c _ => same c

end Expr

theorem Construction.text_map (same : ∀ c, (f c).text = c.text) (c : Construction Expr) :
    (c.map f).text = c.text := by
  unfold Construction.text
  rw [Construction.template_map, Expr.partText_mapHoles same]

theorem Construction.entries_map (c : Construction Expr) :
    (c.map f).entries = c.entries.map (Entry.map f) := by
  simp [entries, labelled, map, pair_map]

theorem Binding.mapAll_eq_map (bs : List (Binding Expr)) : mapAll f bs = bs.map (Binding.map f) := by
  induction bs with
  | nil => rfl
  | cons b bs ih => rw [mapAll, ih, List.map_cons]

namespace Expr

theorem kind_mapSubs (e : Expr) : (e.mapSubs f).kind = e.kind := by
  cases e <;> rfl

/-- An invocation shows in its headline what it invokes. -/
theorem headline_mapSubs (same : ∀ c, (f c).text = c.text) (e : Expr) :
    (e.mapSubs f).headline = e.headline := by
  cases e with
  | invocation function arguments ty =>
    dsimp only [mapSubs, headline]
    rw [same]
  | _ => rfl

theorem slots_mapSubs (same : ∀ c, (f c).text = c.text) (e : Expr) :
    (e.mapSubs f).slots = e.slots.map (Slot.map f) := by
  cases e with
  | listInit construction initializers =>
    simp [mapSubs, slots, Construction.text_map same, Construction.entries_map]
  | memberInit construction bindings =>
    simp [mapSubs, slots, Slot.leaf, Binding.mapAll_eq_map, Binding.template_map,
      partText_mapHoles same]
  | new construction => simp [mapSubs, slots, Construction.entries_map]
  | switch value cases defaultBody ty => simp [mapSubs, slots, Case.map]
  | tryCatch body handlers finalizer ty => simp [mapSubs, slots, Slot.sub, Handler.map]
  | _ => simp [mapSubs, slots, Slot.sub, Slot.plain, Slot.leaf]

/-! ### Changes that do not show -/

/-- A change that keeps all a display tree sees of one expression. -/
structure Unseen (f : Expr → Expr) : Prop where
  kind (e : Expr) : (f e).kind = e.kind
  template (e : Expr) : (f e).template = e.template
  headline (e : Expr) : (f e).headline = e.headline
  slots (e : Expr) : (f e).slots = e.slots

namespace Unseen

variable (unseen : Unseen f)
include unseen

theorem text_everywhere (e : Expr) : (e.everywhere f).text = e.text :=
  textWithin_everywhere unseen.template textLevels e

theorem kind_everywhere (e : Expr) : (e.everywhere f).kind = e.kind := by
  rw [everywhere_eq, unseen.kind, kind_mapSubs]

theorem headline_everywhere (e : Expr) : (e.everywhere f).headline = e.headline := by
  rw [everywhere_eq, unseen.headline, headline_mapSubs unseen.text_everywhere]

theorem literalText_everywhere (e : Expr) : (e.everywhere f).literalText = e.literalText := by
  rw [literalText_eq_textWithin, literalText_eq_textWithin, literalLevels, literalLevels,
    unseen.kind_everywhere, textWithin_everywhere unseen.template]

theorem slots_everywhere (e : Expr) :
    (e.everywhere f).slots = e.slots.map (Slot.map (everywhere f)) := by
  rw [everywhere_eq, unseen.slots, slots_mapSubs unseen.text_everywhere]

end Unseen

end Expr

namespace Node

theorem fillEntry_map (build : Builder) (entry : Entry) :
    fillEntry build (entry.map f) = fillEntry (fun r c => build r (f c)) entry := by
  cases entry <;> rfl

theorem fillSlot_map (near far : Builder) (slot : Slot) :
    fillSlot near far (slot.map f) =
      fillSlot (fun r c => near r (f c)) (fun r c => far r (f c)) slot := by
  cases slot with
  | entry entry => exact fillEntry_map near entry
  | group head entries => simp [fillSlot, fillEntry_map]

/-- One level of the tree: the change is left to what is further down. -/
theorem assemble_everywhere (unseen : Expr.Unseen f) (near far : Builder) (role : Option String)
    (e : Expr) :
    assemble near far role (e.everywhere f) =
      assemble (fun r c => near r (c.everywhere f)) (fun r c => far r (c.everywhere f)) role e := by
  unfold assemble
  rw [unseen.kind_everywhere, unseen.headline_everywhere, unseen.literalText_everywhere,
    unseen.slots_everywhere, List.map_map]
  congr 2
  funext slot
  exact fillSlot_map near far slot

/-- The run over all depths. -/
theorem builderAt_everywhere (unseen : Expr.Unseen f) (limit depth : Nat) (role : Option String)
    (e : Expr) : builderAt limit depth role (e.everywhere f) = builderAt limit depth role e := by
  refine builderAt_induction (P := fun _ b => ∀ role e, b role (e.everywhere f) = b role e)
    ?_ ?_ depth role e
  · intro depth _ role e
    unfold truncated
    rw [unseen.kind_everywhere]
  · intro depth _ near far role e
    simp only [assemble_everywhere unseen, near, far]

end Node

/-! ### Erasure -/

def Param.erase (p : Param) : Param := { p with byRef := false }

@[simp] theorem Param.text_erase (p : Param) : p.erase.text = p.text := rfl

@[simp] theorem Param.text_comp_erase : Param.text ∘ Param.erase = Param.text := rfl

@[simp] theorem Param.node_erase (p : Param) : p.erase.node = p.node := rfl

def Method.erase (m : Method) : Method := { m with returnType := .object }

def Handler.erase (h : Handler Expr) : Handler Expr := { h with test := .object, caught := none }

namespace Expr

/-- Puts fixed values for the fields of one expression that are not displayed. -/
def eraseOwn : Expr → Expr
  | .block locals expressions _ => .block (locals.map Param.erase) expressions .object
  | .dynamic binder delegateType arguments _ => .dynamic binder delegateType arguments .object
  | .index object indexer arguments _ => .index object indexer arguments .object
  | .invocation function arguments _ => .invocation function arguments .object
  | .lambda _ parameters body returnType _ =>
    .lambda none (parameters.map Param.erase) body returnType .object
  | .loop body _ _ => .loop body none none
  | .methodCall object method arguments => .methodCall object method.erase arguments
  | .parameter p => .parameter p.erase
  | .runtimeVariables locals => .runtimeVariables (locals.map Param.erase)
  | .switch value cases _ ty => .switch value cases none ty
  | .tryCatch body handlers finalizer ty =>
    .tryCatch body (handlers.map Handler.erase) finalizer ty
  | e => e

/-- Puts fixed values for the fields that are not displayed, everywhere in an expression. -/
def erase (e : Expr) : Expr := e.everywhere eraseOwn

theorem template_eraseOwn (e : Expr) : e.eraseOwn.template = e.template := by
  cases e with
  | block => simp [eraseOwn, template]
  | lambda _ parameters =>
    rcases parameters with _ | ⟨p, _ | ⟨q, rest⟩⟩
    · rfl
    · rfl
    · simp [eraseOwn, template]
  | index _ indexer => cases indexer <;> rfl
  | methodCall object => cases object <;> rfl
  | runtimeVariables => simp [eraseOwn, template]
  | _ => rfl

theorem slots_eraseOwn (e : Expr) : e.eraseOwn.slots = e.slots := by
  cases e with
  | lambda | runtimeVariables => simp [eraseOwn, slots]
  | tryCatch => simp [eraseOwn, slots, Handler.erase]
  | _ => rfl

theorem unseen_eraseOwn : Unseen eraseOwn where
  kind e := by cases e <;> rfl
  template := template_eraseOwn
  headline e := by cases e <;> rfl
  slots := slots_eraseOwn

end Expr

/-- Nothing that `erase` takes out is displayed: an expression has the tree and the text of
its erasure, so expressions with the same erasure have the same tree and the same text. -/
theorem Node.ofExpr_erase (limit : Nat) (role : Option String) (e : Expr) :
    (ofExpr limit role e = ofExpr limit role e.erase ∧ e.text = e.erase.text) ∧
    ∀ e' : Expr, e.erase = e'.erase →
      ofExpr limit role e = ofExpr limit role e' ∧ e.text = e'.text := by
  have tree (e : Expr) : ofExpr limit role e.erase = ofExpr limit role e :=
    builderAt_everywhere Expr.unseen_eraseOwn limit 0 role e
  have text (e : Expr) : e.erase.text = e.text := Expr.unseen_eraseOwn.text_everywhere e
  refine ⟨⟨(tree e).symm, (text e).symm⟩, fun e' same => ?_⟩
  constructor
  · rw [← tree e, same, tree e']
  · rw [← text e, same, text e']

/-- Two expressions that differ in every field that is not displayed, some of them below
others. -/
theorem Node.ofExpr_erase_handlers :
    let display (byRef : Bool) (ty : Ty) (name : Option String) (hidden : Option Expr) : Expr :=
      let p : Param := ⟨some "x", .int, byRef⟩
      let x : Expr := .parameter p
      let call : Expr := .methodCall none ⟨.int, "Next", ty⟩
        [.index x none [x] ty, .invocation x [x] ty, .dynamic "Get" .int [x] ty]
      let switch : Expr := .switch call [⟨[x], .runtimeVariables [p]⟩] hidden .int
      let handler : Handler Expr := ⟨ty, name.map fun _ => p, some x, switch⟩
      let jump : Option Target := name.map fun _ => ⟨name, ty⟩
      .lambda name [p] (.tryCatch (.loop (.block [p] [x] ty) jump jump) [handler] none .int) .int ty
    let e := display true .int (some "f") (some (.default .int))
    let e' := display false .object none none
    e ≠ e' ∧ e.erase = e'.erase ∧ ofExpr 256 none e = ofExpr 256 none e' ∧ e.text = e'.text := by
  intro display e e'
  have same : e.erase = e'.erase := rfl
  obtain ⟨tree, text⟩ := (ofExpr_erase 256 none e).2 e' same
  have names : e ≠ e' := fun equal => nomatch (Expr.lambda.inj equal).1
  exact ⟨names, same, tree, text⟩

end ExprDisplay
