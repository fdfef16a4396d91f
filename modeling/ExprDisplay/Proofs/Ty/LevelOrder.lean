import ExprDisplay.Proofs.Ty.Levels

/-!
The order of array levels in names. The source name collects the bracket groups on the way
to the core, the runtime name adds them on the way back.

Main statement: the source name of a type is that of its core and the groups of its levels,
outermost first; the runtime name is that of the core and the same groups, innermost first.
As an argument, at any depth, a type is written like on its own.
-/

set_option autoImplicit false

namespace ExprDisplay.Ty

/-- Array levels around a type, outermost first. -/
def arrays (t : Ty) : (ranks : List Nat) → Ty
  | [] => t
  | rank :: ranks => .array (t.arrays ranks) rank

/-- An argument of a type's core, or an argument of such an argument, and so on. -/
inductive ArgumentOf (a : Ty) : Ty → Prop where
  | direct {t : Ty} (argument : a ∈ t.core.arguments) : ArgumentOf a t
  | deeper {t b : Ty} (argument : b ∈ t.core.arguments) (inner : ArgumentOf a b) : ArgumentOf a t

/-- A generic with one of its arguments left out, and array levels around it. -/
structure Frame where
  name : String
  kind : TypeKind
  before : List Ty
  after : List Ty
  ranks : List Nat

namespace Frame

/-- The type with its argument. -/
def plug (f : Frame) (a : Ty) : Ty :=
  (Ty.generic f.name f.kind (f.before ++ a :: f.after)).arrays f.ranks

/-- What is written before the argument. -/
def opening (f : Frame) : String :=
  bareName f.name ++ "<" ++ String.join (f.before.map fun t => t.name ++ ", ")

/-- What is written after the argument. -/
def closing (f : Frame) : String :=
  String.join (f.after.map fun t => ", " ++ t.name) ++ ">" ++ groups f.ranks

end Frame

/-! ### Levels around a core -/

theorem arrays_core (t : Ty) : t.core.arrays t.ranks = t := by
  induction t using part_induction with
  | array element rank ih => rw [core, ranks, arrays, ih]
  | _ => rfl

theorem isArray_core (t : Ty) : t.core.isArray = false := by
  induction t using part_induction with
  | array element rank ih => exact ih
  | _ => rfl

theorem groups_append (ranks ranks' : List Nat) :
    groups (ranks ++ ranks') = groups ranks ++ groups ranks' := by
  rw [groups, List.map_append, String.join_append, groups, groups]

/-- On the way to the core the groups are collected. -/
theorem nameWith_arrays (t : Ty) (ranks : List Nat) (passed : String) :
    (t.arrays ranks).nameWith passed = t.nameWith (passed ++ groups ranks) := by
  induction ranks generalizing passed with
  | nil => rw [arrays, groups_nil, String.append_empty]
  | cons rank ranks ih => rw [arrays, nameWith, ih, groups_cons, String.append_assoc]

theorem name_arrays {t : Ty} (core : t.isArray = false) (ranks : List Nat) :
    (t.arrays ranks).name = t.name ++ groups ranks := by
  rw [name, nameWith_arrays, String.empty_append, name]
  cases t with
  | generic name kind arguments =>
    cases arguments <;> simp [nameWith, String.append_assoc]
  | array element rank => cases core
  | _ => simp [nameWith]

/-- On the way back from the core they are added. -/
theorem runtimeName_arrays (t : Ty) (ranks : List Nat) :
    (t.arrays ranks).runtimeName = t.runtimeName ++ groups ranks.reverse := by
  induction ranks with
  | nil => rw [arrays, List.reverse_nil, groups_nil, String.append_empty]
  | cons rank ranks ih =>
    rw [arrays, runtimeName, ih, List.reverse_cons, groups_append, groups_cons, groups_nil,
      String.append_empty, String.append_assoc]

/-! ### Arguments in their places -/

theorem nameTail_eq (ts : List Ty) : nameTail ts = String.join (ts.map fun t => ", " ++ t.name) := by
  induction ts with
  | nil => rfl
  | cons t ts ih => rw [nameTail, ih, List.map_cons, String.join_cons, name]

/-- Commas before all arguments but the first are commas after all but the last. -/
theorem name_nameTail_append (t : Ty) (ts : List Ty) (a : Ty) (us : List Ty) :
    t.name ++ nameTail (ts ++ a :: us) =
      String.join ((t :: ts).map fun t => t.name ++ ", ") ++ a.name ++ nameTail us := by
  induction ts generalizing t with
  | nil => simp [nameTail, name, String.append_assoc]
  | cons u ts ih =>
    have inner := ih u
    rw [List.map_cons, String.join_cons, List.cons_append, nameTail]
    simp only [String.append_assoc] at inner ⊢
    rw [← inner]
    rfl

theorem name_generic (word : String) (kind : TypeKind) (t : Ty) (ts : List Ty) :
    (Ty.generic word kind (t :: ts)).name = bareName word ++ "<" ++ (t.name ++ nameTail ts) ++ ">" := by
  simp [name, nameWith, String.append_assoc]

theorem Frame.name_plug (f : Frame) (a : Ty) :
    (f.plug a).name = f.opening ++ a.name ++ f.closing := by
  rw [plug, name_arrays rfl, opening, closing, ← nameTail_eq]
  cases f.before with
  | nil =>
    rw [List.nil_append, name_generic]
    simp [String.append_assoc]
  | cons t ts =>
    rw [List.cons_append, name_generic, name_nameTail_append]
    simp only [String.append_assoc]

theorem name_frames (frames : List Frame) (a : Ty) :
    (frames.foldr Frame.plug a).name =
      String.join (frames.map Frame.opening) ++ a.name ++
        String.join (frames.reverse.map Frame.closing) := by
  induction frames with
  | nil => simp
  | cons f frames ih =>
    rw [List.foldr_cons, Frame.name_plug, ih, List.map_cons, String.join_cons, List.reverse_cons,
      List.map_append, String.join_append]
    simp [String.append_assoc]

theorem exists_frame {a t : Ty} (argument : a ∈ t.core.arguments) : ∃ f : Frame, t = f.plug a := by
  cases whole : t.core with
  | generic name kind arguments =>
    rw [whole] at argument
    obtain ⟨before, after, rfl⟩ := List.append_of_mem argument
    refine ⟨⟨name, kind, before, after, t.ranks⟩, ?_⟩
    rw [Frame.plug, ← whole, arrays_core]
  | _ =>
    rw [whole] at argument
    cases argument

theorem ArgumentOf.exists_frames {a t : Ty} (inside : a.ArgumentOf t) :
    ∃ frames, frames ≠ [] ∧ t = frames.foldr Frame.plug a := by
  induction inside with
  | direct argument =>
    obtain ⟨f, rfl⟩ := exists_frame argument
    exact ⟨[f], List.cons_ne_nil _ _, rfl⟩
  | deeper argument inner ih =>
    obtain ⟨frames, -, rfl⟩ := ih
    obtain ⟨f, rfl⟩ := exists_frame argument
    exact ⟨f :: frames, List.cons_ne_nil _ _, rfl⟩

/-- A type is a core with array levels around it. Source and runtime name are those of the
core and a bracket group for each level, in opposite orders. Wherever the type is an
argument, at any depth, there are frames around it, and between what these write its name is
the same. -/
theorem names_list_levels (t : Ty) :
    let group (rank : Nat) : String :=
      "[" ++ String.ofList (List.replicate (max rank 1 - 1) ',') ++ "]"
    t = t.core.arrays t.ranks ∧ t.core.isArray = false ∧
    t.name = t.core.name ++ String.join (t.ranks.map group) ∧
    t.runtimeName = t.core.runtimeName ++ String.join (t.ranks.reverse.map group) ∧
    (∀ whole, t.ArgumentOf whole → ∃ frames, frames ≠ [] ∧ whole = frames.foldr Frame.plug t) ∧
    ∀ frames : List Frame, (frames.foldr Frame.plug t).name =
      String.join (frames.map Frame.opening) ++
        (t.core.name ++ String.join (t.ranks.map group)) ++
          String.join (frames.reverse.map Frame.closing) := by
  intro group
  have written (ranks : List Nat) : String.join (ranks.map group) = groups ranks := by
    rw [groups]
    congr 2
    funext rank
    exact brackets_max rank
  have source : t.name = t.core.name ++ groups t.ranks := by
    rw [← name_arrays (isArray_core t), arrays_core]
  refine ⟨(arrays_core t).symm, isArray_core t, ?_, ?_, ?_, ?_⟩
  · rw [written, source]
  · rw [written, ← runtimeName_arrays, arrays_core]
  · exact fun whole inside => inside.exists_frames
  · intro frames
    rw [name_frames, written, ← source]

/-- `int[][,]` inside `Map<string, List<int[][,]>[]>`. -/
theorem names_list_levels_map :
    let t : Ty := (int.arrayOf 2).arrayOf 1
    let lists : Ty := (Ty.generic "List\x601" .classType [t]).arrayOf 1
    let whole : Ty := .generic "Map\x602" .classType [.string, lists]
    t.ArgumentOf whole ∧ (∃ frames, frames ≠ [] ∧ whole = frames.foldr Frame.plug t) ∧
      t.name = int.name ++ String.join ["[]", "[,]"] ∧
      t.runtimeName = int.runtimeName ++ String.join ["[,]", "[]"] ∧
      whole.name = String.join ["Map<string, ", "List<"] ++
        (int.name ++ String.join ["[]", "[,]"]) ++ String.join [">[]", ">"] := by
  intro t lists whole
  have inside : t.ArgumentOf whole :=
    .deeper (List.mem_cons_of_mem _ List.mem_cons_self) (.direct List.mem_cons_self)
  obtain ⟨-, -, source, runtime, framed, placed⟩ := names_list_levels t
  exact ⟨inside, framed whole inside, source, runtime,
    placed [⟨"Map\x602", .classType, [.string], [], []⟩, ⟨"List\x601", .classType, [], [], [1]⟩]⟩

end ExprDisplay.Ty
