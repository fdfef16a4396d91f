import ExprDisplay.Proofs.Expr.Mentions
import ExprDisplay.Proofs.Node.LineFormats
import ExprDisplay.Proofs.Node.Preorder

/-!
One line a node. Drawings and outlines end a line after each node and write what they show
of it as it is, so a line end inside a caption or a label starts another line.

Main statement: the lines of a drawing are the nodes of a walk, one by one, exactly where
no caption has a line end in it, and likewise for an outline and its labels. All of them
are free of line ends if the role is and the strings that the expression mentions are.
-/

set_option autoImplicit false

namespace ExprDisplay

/-! ### What the nodes of an expression show -/

theorem Guid.newline_not_mem_toDigits (n : Nat) : '\n' ∉ Nat.toDigits 16 n := by
  induction n using Nat.strongRecOn with
  | ind n ih =>
    rw [Nat.toDigits_eq_if (by decide)]
    split
    · simp
    · have higher := ih (n / 16) (by omega)
      simp [higher]

theorem Guid.singleLine_text (g : Guid) : SingleLine g.text := by
  have digits : '\n' ∉ hexDigits 32 g.toNat := by
    rw [hexDigits, List.mem_append, not_or]
    exact ⟨fun listed => absurd (List.eq_of_mem_replicate listed) (by decide),
      newline_not_mem_toDigits _⟩
  have group (start width : Nat) :
      SingleLine (String.ofList (((hexDigits 32 g.toNat).drop start).take width)) := by
    rw [singleLine_ofList]
    exact fun listed => digits (List.mem_of_mem_drop (List.mem_of_mem_take listed))
  simp only [text, singleLine_append]
  refine ⟨⟨⟨⟨⟨⟨⟨⟨group 0 8, ?_⟩, group 8 4⟩, ?_⟩, group 12 4⟩, ?_⟩, group 16 4⟩, ?_⟩, group 20 12⟩
  all_goals decide

theorem Param.singleLine_label {p : Param} (clean : SingleLines p.strings) :
    SingleLine p.node.label := by
  obtain ⟨named, typed⟩ := singleLines_append.mp clean
  have name : SingleLine p.nameOrEmpty := by
    obtain ⟨name, ty, byRef⟩ := p
    cases name with
    | none => exact (by decide : SingleLine "")
    | some name => exact (singleLines_cons.mp named).1
  simp +decide [node, name, Ty.singleLine_name typed]

/-- The labels and roles in an entry. -/
def Entry.strings : Entry → List String
  | .leaf node => [node.label]
  | .sub role _ => role.toList

/-- The labels and roles in a slot. -/
def Slot.strings : Slot → List String
  | .entry inner => inner.strings
  | .group head entries => head.label :: entries.flatMap Entry.strings

@[simp] theorem Entry.strings_leaf (node : Node) : (Entry.leaf node).strings = [node.label] := rfl

@[simp] theorem Entry.strings_sub (role : Option String) (e : Expr) :
    (Entry.sub role e).strings = role.toList := rfl

@[simp] theorem Slot.strings_entry (entry : Entry) :
    (Slot.entry entry).strings = entry.strings := rfl

@[simp] theorem Slot.strings_group (head : Node) (entries : List Entry) :
    (Slot.group head entries).strings = head.label :: entries.flatMap Entry.strings := rfl

@[simp] theorem Slot.strings_leaf (label : String) : (Slot.leaf label).strings = [label] := rfl

@[simp] theorem Slot.strings_sub (role : String) (e : Expr) :
    (Slot.sub role e).strings = [role] := rfl

@[simp] theorem Slot.strings_plain (e : Expr) : (Slot.plain e).strings = [] := rfl

theorem Entry.singleLines_optional {role : String} (single : SingleLine role) (value : Option Expr) :
    SingleLines (Entry.optional role value).strings := by
  cases value <;> simp +decide [optional, Node.leaf, single]

theorem Construction.singleLines_entries {c : Construction Expr} (clean : SingleLines c.strings) :
    SingleLines (c.entries.flatMap Entry.strings) := by
  rw [singleLines_flatMap, entries, List.forall_mem_map]
  rintro ⟨member, e⟩ listed
  cases member with
  | none => exact singleLines_nil
  | some member => exact singleLines_cons.mpr ⟨singleLine_member clean listed, singleLines_nil⟩

namespace Expr.SingleLined

variable {e : Expr}

theorem headline (clean : e.SingleLined) : SingleLine e.headline := by
  have own := clean.own
  -- Given to `simp`, the definition of `headline` is unfolded over all kinds at once and too slow.
  cases e with
  | binary op left right ty =>
    have name : SingleLine op.name := by cases op <;> decide
    dsimp only [Expr.headline]
    simp +decide [name, Ty.singleLine_name own]
  | constant value ty =>
    obtain ⟨texts, names⟩ := singleLines_append.mp own
    dsimp only [Expr.headline]
    simp +decide [Ty.singleLine_name names, Value.singleLine_literal value ty texts]
  | default ty =>
    have word : SingleLine ty.kind.word := by cases ty.kind <;> decide
    dsimp only [Expr.headline]
    simp +decide [word, Ty.singleLine_name own]
  | dynamic binder delegateType arguments ty =>
    have type := Ty.singleLine_name (singleLines_cons.mp own).2
    dsimp only [Expr.headline]
    simp +decide [type]
  | index object indexer arguments ty =>
    have name : SingleLine (indexer.getD "") := by
      cases indexer with
      | none => exact (by decide : SingleLine "")
      | some indexer => exact (singleLines_cons.mp own).1
    dsimp only [Expr.headline]
    simp +decide [name]
  | invocation function arguments ty =>
    have called : SingleLine function.text := (clean.printed (by simp [Expr.template])).text
    dsimp only [Expr.headline]
    simp +decide [called]
  | member object m ty =>
    have shown : SingleLine m.name ∧ SingleLine ty.name := by
      cases object with
      | none =>
        simp only [Expr.ownStrings, singleLines_cons, singleLines_append] at own
        exact ⟨own.1, Ty.singleLine_name own.2.2⟩
      | some object =>
        exact ⟨(singleLines_cons.mp own).1, Ty.singleLine_name (singleLines_cons.mp own).2⟩
    dsimp only [Expr.headline]
    simp +decide [shown]
  | memberInit construction bindings =>
    have type := Ty.singleLine_name (singleLines_append.mp (singleLines_append.mp own).1).2
    dsimp only [Expr.headline]
    simp +decide [type]
  | methodCall object method arguments =>
    have name : SingleLine method.name := by cases object <;> exact (singleLines_cons.mp own).1
    dsimp only [Expr.headline]
    simp +decide [name]
  | parameter p => exact Param.singleLine_label own
  | unary op operand ty =>
    have name : SingleLine op.name := by cases op <;> decide
    dsimp only [Expr.headline]
    simp +decide [name, Ty.singleLine_name own]
  | extension ty opKind text =>
    simp only [Expr.ownStrings, singleLines_cons, singleLines_append] at own
    obtain ⟨shown, kind, names⟩ := own
    cases opKind with
    | none =>
      dsimp only [Expr.headline]
      simp +decide [shown, Ty.singleLine_name names]
    | some opKind =>
      dsimp only [Expr.headline]
      simp +decide [shown, Ty.singleLine_name names, (singleLines_cons.mp kind).1]
  | conditional | newArray | switch | tryCatch | typeBinary =>
    dsimp only [Expr.headline]
    simp +decide [Ty.singleLine_name own]
  | goto | label | lambda =>
    have type := Ty.singleLine_name (singleLines_append.mp own).2
    dsimp only [Expr.headline]
    simp +decide [type]
  | _ =>
    dsimp only [Expr.headline]
    decide

theorem literalText (clean : e.SingleLined) : SingleLine e.literalText := by
  cases e with
  | new construction => exact clean.partText (Construction.clean_template clean.own) fun _ => id
  | _ => exact clean.text

theorem slots (clean : e.SingleLined) : SingleLines (e.slots.flatMap Slot.strings) := by
  have own := clean.own
  cases e with
  | debugInfo document span =>
    have file : SingleLine document.fileName := (singleLines_cons.mp own).1
    have number (n : Nat) : SingleLine n.repr := (numeral_nat n).singleLine
    simp +decide [Expr.slots, file, number, Guid.singleLine_text]
  | goto kind target value ty =>
    have word : SingleLine kind.name := by cases kind <;> decide
    have name := Target.singleLine_text (singleLines_append.mp own).1
    have value := Entry.singleLines_optional (by decide : SingleLine "Value") value
    simp +decide [Expr.slots, word, name, value]
  | label target defaultValue =>
    have name := Target.singleLine_text (singleLines_append.mp own).1
    have value := Entry.singleLines_optional (by decide : SingleLine "DefaultValue") defaultValue
    simp +decide [Expr.slots, name, value]
  | lambda name parameters body returnType delegateType =>
    have nodes : ∀ p ∈ parameters, SingleLine p.node.label := fun p listed =>
      Param.singleLine_label (singleLines_flatMap.mp (singleLines_append.mp own).1 p listed)
    simpa +decide [Expr.slots] using nodes
  | listInit construction initializers =>
    have entries := Construction.singleLines_entries (singleLines_append.mp own).1
    simpa +decide [Expr.slots] using entries
  | memberInit construction bindings =>
    have written (b : Binding Expr) (listed : b ∈ bindings) :
        SingleLine (Expr.partText b.template) := by
      have template := Binding.template_mem_templates listed
      apply clean.partText (Binding.clean_templates bindings (singleLines_append.mp own).2 _ template)
      intro c shown
      simp only [Expr.template, Template.holes_append, Template.holes_text, Template.holes_separated,
        List.mem_append, List.mem_flatMap]
      exact .inl (.inr ⟨_, template, shown⟩)
    simpa [Expr.slots] using written
  | new construction =>
    have entries := Construction.singleLines_entries own
    simpa [Expr.slots, List.flatMap_map] using entries
  | runtimeVariables locals =>
    have nodes : ∀ p ∈ locals, SingleLine p.node.label := fun p listed =>
      Param.singleLine_label (singleLines_flatMap.mp own p listed)
    simpa [Expr.slots] using nodes
  | tryCatch body handlers finalizer ty =>
    have last := Entry.singleLines_optional (by decide : SingleLine "Finally") finalizer
    have filter (h : Handler Expr) :=
      Entry.singleLines_optional (by decide : SingleLine "Filter") h.filter
    simp +decide [Expr.slots, last, filter, Node.leaf]
  | _ => simp +decide [Expr.slots, Node.leaf]

end Expr.SingleLined

/-! ### The nodes of a tree -/

section Tree

variable {role r : Option String} {e c : Expr} {path step : List Nat}

theorem Below.singleLines_role (below : Below e step r c) (clean : e.SingleLined) :
    SingleLines r.toList := by
  have slots := singleLines_flatMap.mp clean.slots
  cases below with
  | entry slot => exact slots _ (List.mem_of_getElem? slot)
  | grouped slot entry =>
    have entries := (singleLines_cons.mp (slots _ (List.mem_of_getElem? slot))).2
    exact singleLines_flatMap.mp entries _ (List.mem_of_getElem? entry)
  | lambdaParameter | captured | construction => exact singleLines_nil

theorem Made.singleLine_label {n : Node} (made : Made e step n) (clean : e.SingleLined) :
    SingleLine n.label := by
  have slots := singleLines_flatMap.mp clean.slots
  cases made with
  | leaf slot => exact (singleLines_cons.mp (slots _ (List.mem_of_getElem? slot))).1
  | group slot => exact (singleLines_cons.mp (slots _ (List.mem_of_getElem? slot))).1
  | inside slot entry =>
    have entries := (singleLines_cons.mp (slots _ (List.mem_of_getElem? slot))).2
    have inner := singleLines_flatMap.mp entries _ (List.mem_of_getElem? entry)
    exact (singleLines_cons.mp inner).1

/-- Line ends stay away from everything that stands in the tree. -/
theorem StandsAt.singleLined (stands : StandsAt role e path r c) (named : SingleLines role.toList)
    (clean : e.SingleLined) : SingleLines r.toList ∧ c.SingleLined := by
  induction stands with
  | root => exact ⟨named, clean⟩
  | step below _ ih => exact ih (below.singleLines_role clean) (clean.standing below)

namespace Node

variable {limit depth : Nat}

theorem singleLine_withRole {label : String} (named : SingleLines role.toList)
    (single : SingleLine label) : SingleLine (withRole role label) := by
  cases role with
  | none => exact single
  | some role =>
    simp only [withRole, singleLine_append]
    exact ⟨⟨(singleLines_cons.mp named).1, by decide⟩, single⟩

theorem StandsFor.singleLine {n : Node} (stands : StandsFor limit depth role e n)
    (named : SingleLines role.toList) (clean : e.SingleLined) :
    SingleLine n.label ∧ SingleLines n.literal.toList := by
  rcases stands with ⟨-, rfl⟩ | rfl
  · have kind : SingleLine e.kind.name := by cases e.kind <;> decide
    have number : SingleLine (toString depth) := (numeral_nat depth).singleLine
    refine ⟨singleLine_withRole named ?_, singleLines_nil⟩
    simp only [singleLine_append]
    exact ⟨⟨⟨by decide, number⟩, by decide⟩, kind⟩
  · exact ⟨singleLine_withRole named clean.headline,
      singleLines_cons.mpr ⟨clean.literalText, singleLines_nil⟩⟩

/-- The tree of an expression without line ends has none. -/
theorem singleLine_preorder (limit : Nat) (named : SingleLines role.toList) (clean : e.SingleLined) :
    ∀ n ∈ (ofExpr limit role e).preorder, SingleLine n.label ∧ SingleLines n.literal.toList := by
  intro n visited
  obtain ⟨path, here⟩ := mem_preorder.mp visited
  have root : StandsFor limit 0 role e (ofExpr limit role e) := standsFor_builderAt role e
  rcases stands_or_made root here with ⟨r, c, stands⟩ | ⟨above, step, r, c, -, stands, made⟩
  · obtain ⟨named', clean'⟩ := stands.singleLined named clean
    exact (standsFor_subtree? stands root here).singleLine named' clean'
  · refine ⟨made.singleLine_label (stands.singleLined named clean).2, ?_⟩
    rw [made.literal]
    exact singleLines_nil

end Node

end Tree

/-! ### Lines and nodes -/

namespace Node

theorem singleLine_truncate (width : Nat) {s : String} (single : SingleLine s) :
    SingleLine (truncate width s) := by
  unfold truncate
  split
  · rw [singleLine_append, singleLine_ofList]
    exact ⟨fun listed => single (List.mem_of_mem_take listed), by decide⟩
  · exact single

theorem singleLine_caption (o : DrawingOptions) {n : Node} (label : SingleLine n.label)
    (literal : SingleLines n.literal.toList) :
    SingleLine (caption o n.kind n.label n.literal) := by
  have mark : SingleLine (icon n.kind) := by
    obtain ⟨c, whole, apart⟩ := icon_eq n.kind
    rw [SingleLine, whole, List.mem_singleton]
    rintro rfl
    exact apart (by decide)
  have named := singleLine_truncate o.maxLabelWidth label
  unfold caption
  dsimp only
  split
  · rename_i text _ shown
    rw [shown] at literal
    have text := singleLine_truncate o.maxLabelWidth (singleLines_cons.mp literal).1
    simp +decide [mark, named, text]
  · simp +decide [mark, named]

/-- The text consists of ended lines, as many as the tree has nodes, and each line shows
the node that comes at its place in a walk. -/
structure LinePerNode (Shows : String → Node → Prop) (t : Node) (text : String) : Prop where
  ended : String.join ((lines text).map (· ++ "\n")) = text
  count : (lines text).length = t.count
  shows (i : Nat) {line : String} {n : Node} (read : (lines text)[i]? = some line)
    (visited : t.walk.toList[i]? = some n) : Shows line n

/-- After guide and connector the line has the caption of the node. -/
def Drawn (o : DrawingOptions) (line : String) (n : Node) : Prop :=
  (unguide line.toList).2 = captionChars o n

/-- After some levels of spaces the line has the label of the node. -/
def Outlined (line : String) (n : Node) : Prop := ∃ level, line = indent level ++ n.label

/-- Lines that were written for the nodes are there one a node exactly where each of them is
single. -/
theorem linePerNode_iff {Shows : String → Node → Prop} {t : Node} {written : List String}
    (length : written.length = t.preorder.length)
    (each : ∀ (i : Nat) line n, written[i]? = some line → t.preorder[i]? = some n → Shows line n) :
    LinePerNode Shows t (String.join (written.map (· ++ "\n"))) ↔
      ∀ line ∈ written, SingleLine line := by
  constructor
  · intro perNode
    rw [← length_lines_join_iff, perNode.count, count, toList_walk, length]
  · intro single
    have read := lines_join single
    refine ⟨by rw [read], by rw [read, count, toList_walk, length], fun i line n => ?_⟩
    rw [read, toList_walk]
    exact each i line n

theorem getElem?_preorder {t : Node} {i : Nat} {n : Node} (visited : t.preorder[i]? = some n) :
    ∃ level, (t.levels 0)[i]? = some (level, n) := by
  rw [← map_snd_levels 0, List.getElem?_map, Option.map_eq_some_iff] at visited
  obtain ⟨⟨level, m⟩, entry, rfl⟩ := visited
  exact ⟨level, entry⟩

theorem linePerNode_drawing_iff (o : DrawingOptions) (t : Node) :
    LinePerNode (Drawn o) t (t.drawing o) ↔
      ∀ n ∈ t.walk.toList, SingleLine (caption o n.kind n.label n.literal) := by
  have read := unguide_drawingLines o t
  have length : (t.drawingLines o).length = t.preorder.length := by
    simpa [← map_snd_levels 0] using congrArg List.length read
  rw [toList_walk]
  refine (linePerNode_iff length ?_).trans single_drawingLines_iff
  intro i line n place visited
  obtain ⟨level, entry⟩ := getElem?_preorder visited
  have same := congrArg (·[i]?) read
  simp only [List.getElem?_map, place, entry, Option.map_some, Option.some.injEq] at same
  rw [Drawn, same, shown]

theorem linePerNode_outline_iff (t : Node) :
    LinePerNode Outlined t t.outline ↔ ∀ n ∈ t.walk.toList, SingleLine n.label := by
  have written : t.outlineLines = _ := outlineLinesAt_eq 0 t
  have length : t.outlineLines.length = t.preorder.length := by
    rw [written, ← map_snd_levels 0, List.length_map, List.length_map]
  rw [toList_walk]
  refine (linePerNode_iff length ?_).trans single_outlineLines_iff
  intro i line n place visited
  obtain ⟨level, entry⟩ := getElem?_preorder visited
  rw [written, List.getElem?_map, entry] at place
  exact ⟨level, (Option.some.inj place).symm⟩

/-- The drawing of an expression's tree has one line for each node, in the order of a walk,
exactly where no caption has a line end in it, and the outline exactly where no label has.
Both have if no string that the expression mentions has a line end, nor the role. -/
theorem ofExpr_linePerNode (o : DrawingOptions) (limit : Nat) (role : Option String) (e : Expr) :
    let t := ofExpr limit role e
    (LinePerNode (Drawn o) t (t.drawing o) ↔
      ∀ n ∈ t.walk.toList, SingleLine (caption o n.kind n.label n.literal)) ∧
    (LinePerNode Outlined t t.outline ↔ ∀ n ∈ t.walk.toList, SingleLine n.label) ∧
    (SingleLines role.toList → e.SingleLined →
      LinePerNode (Drawn o) t (t.drawing o) ∧ LinePerNode Outlined t t.outline) := by
  intro t
  have drawing := linePerNode_drawing_iff o t
  have outline := linePerNode_outline_iff t
  refine ⟨drawing, outline, fun named clean => ?_⟩
  have nodes := singleLine_preorder limit named clean
  rw [drawing, outline, toList_walk]
  constructor
  · exact fun n visited => singleLine_caption o (nodes n visited).1 (nodes n visited).2
  · exact fun n visited => (nodes n visited).1

/-- A negation with its operand, drawn with literals: two nodes and two lines. -/
theorem ofExpr_linePerNode_negation :
    let t := ofExpr defaultLimit (some "Body") (.unary .not (.parameter (.named .bool "x")) .bool)
    t.count = 2 ∧ LinePerNode (Drawn ⟨0, true⟩) t (t.drawing ⟨0, true⟩) ∧
      LinePerNode Outlined t t.outline := by
  intro t
  have operand : (Expr.parameter (.named .bool "x")).SingleLined := by
    intro s mentioned
    cases mentioned with
    | own listed => exact (by decide : SingleLines ["x"]) s listed
    | printed shown => simp [Expr.template] at shown
    | standing below => cases below <;> simp_all [Expr.slots]
  have negation : (Expr.unary .not (.parameter (.named .bool "x")) .bool).SingleLined := by
    intro s mentioned
    cases mentioned with
    | own listed => cases listed
    | printed shown inner =>
      obtain rfl := List.mem_singleton.mp shown
      exact operand s inner
    | standing below inner =>
      cases below with
      | entry slot =>
        have listed := List.mem_of_getElem? slot
        obtain ⟨rfl, rfl⟩ : _ = none ∧ _ = Expr.parameter (.named .bool "x") := by
          simpa [Expr.slots, Slot.plain] using listed
        exact operand s inner
      | grouped slot => simpa [Expr.slots, Slot.plain] using List.mem_of_getElem? slot
  refine ⟨?_, (ofExpr_linePerNode ⟨0, true⟩ defaultLimit _ _).2.2 (by decide) negation⟩
  rw [count, toList_walk]
  decide

/-- A line end in a constant is written as it is, so that its only node takes two lines. -/
theorem two_lines_of_constant :
    let t := ofExpr defaultLimit none (.constant (.str "a\nb") .string)
    t.count = 1 ∧ lines (t.drawing .default) = ["◆ ConstantExpression [string]: \"a", "b\""] ∧
      lines t.outline = ["ConstantExpression [string]: \"a", "b\""] := by
  refine ⟨?_, ?_, ?_⟩
  · rw [count, toList_walk]
    decide
  · decide
  · decide

end Node

end ExprDisplay
