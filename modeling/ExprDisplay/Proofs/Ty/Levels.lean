import ExprDisplay.Ty.Name

/-!
The parts of a type's name. Under its array levels a type has a core: a word with the
names of its arguments, if any, in angle brackets. The name is the core's name and then a
bracket group for each level, outermost first.
-/

set_option autoImplicit false

namespace ExprDisplay.Ty

/-- What the array levels of a type stand around. -/
def core : Ty → Ty
  | .array element _ => element.core
  | t => t

/-- The ranks of the array levels, outermost first. -/
def ranks : Ty → List Nat
  | .array element rank => rank :: element.ranks
  | _ => []

/-- What the core is called without its arguments. -/
def word : Ty → String
  | .primitive p => p.keyword
  | .named name _ => name
  | .generic name _ _ => bareName name
  | .array element _ => element.word

/-- The bracket groups of the levels. -/
def groups (ranks : List Nat) : String := String.join (ranks.map brackets)

/-- The names of arguments in angle brackets; nothing where there are none. -/
def argumentText : List Ty → String
  | [] => ""
  | t :: ts => "<" ++ t.name ++ nameTail ts ++ ">"

/-- The bare name is what stands before the first backtick, and all of a name without one. -/
theorem bareName_eq_iff {name word : String} :
    bareName name = word ↔
      '\x60' ∉ word.toList ∧ (name = word ∨ ∃ arity, name = word ++ "\x60" ++ arity) := by
  constructor
  · rintro rfl
    have kept : ∀ c ∈ (bareName name).toList, c ≠ '\x60' := by
      intro c listed
      rw [bareName, String.toList_ofList] at listed
      exact bne_iff_ne.mp (List.all_eq_true.mp List.all_takeWhile c listed)
    have parts : name.toList = (bareName name).toList ++ name.toList.dropWhile (· != '\x60') := by
      rw [bareName, String.toList_ofList, List.takeWhile_append_dropWhile]
    refine ⟨fun listed => kept _ listed rfl, ?_⟩
    cases rest : name.toList.dropWhile (· != '\x60') with
    | nil =>
      rw [rest, List.append_nil] at parts
      exact .inl (String.toList_inj.mp parts)
    | cons c arity =>
      have stop : c = '\x60' := by
        have first := List.head?_dropWhile_not (· != '\x60') name.toList
        rw [rest] at first
        simpa using first
      refine .inr ⟨String.ofList arity, String.toList_inj.mp ?_⟩
      rw [parts, rest, stop]
      simp
  · rintro ⟨plain, whole⟩
    have kept : ∀ c ∈ word.toList, (c != '\x60') = true := fun c listed =>
      bne_iff_ne.mpr fun same => plain (same ▸ listed)
    unfold bareName
    rcases whole with rfl | ⟨arity, rfl⟩
    · rw [← List.append_nil name.toList, List.takeWhile_append_of_pos kept, List.takeWhile_nil,
        List.append_nil, String.ofList_toList]
    · have parts : (word ++ "\x60" ++ arity).toList = word.toList ++ '\x60' :: arity.toList := by
        simp
      rw [parts, List.takeWhile_append_of_pos kept, List.takeWhile_cons_of_neg (by simp),
        List.append_nil, String.ofList_toList]

@[simp] theorem groups_nil : groups [] = "" := String.join_nil

@[simp] theorem groups_cons (rank : Nat) (ranks : List Nat) :
    groups (rank :: ranks) = brackets rank ++ groups ranks := by
  rw [groups, List.map_cons, String.join_cons, groups]

/-- Rank zero is written like rank one. -/
theorem brackets_max (rank : Nat) : brackets (max rank 1) = brackets rank := by
  have commas : max rank 1 - 1 = rank - 1 := by omega
  rw [brackets, commas, brackets]

theorem nameWith_eq : (t : Ty) → (passed : String) →
    t.nameWith passed = t.word ++ argumentText t.core.arguments ++ passed ++ groups t.ranks
  | .primitive _, _ => by simp [nameWith, word, core, arguments, argumentText, ranks]
  | .named .., _ => by simp [nameWith, word, core, arguments, argumentText, ranks]
  | .generic _ _ [], _ => by simp [nameWith, word, core, arguments, argumentText, ranks]
  | .generic _ _ (_ :: _), _ => by
    simp [nameWith, word, core, arguments, argumentText, ranks, name, String.append_assoc]
  | .array element rank, passed => by
    rw [nameWith, nameWith_eq element, word, core, ranks, groups_cons]
    simp only [String.append_assoc]

theorem name_eq (t : Ty) :
    t.name = t.word ++ argumentText t.core.arguments ++ groups t.ranks := by
  rw [name, nameWith_eq, String.append_empty]

theorem sizeOf_core_le (t : Ty) : sizeOf t.core ≤ sizeOf t := by
  fun_induction core t with
  | case1 element rank inner =>
    rw [array.sizeOf_spec]
    omega
  | case2 t => exact Nat.le_refl _

theorem sizeOf_lt_of_mem_core {t a : Ty} (argument : a ∈ t.core.arguments) :
    sizeOf a < sizeOf t := by
  have smaller := sizeOf_core_le t
  cases whole : t.core with
  | generic name kind arguments =>
    rw [whole] at argument smaller
    have inner : sizeOf a < sizeOf arguments := List.sizeOf_lt_of_mem argument
    rw [generic.sizeOf_spec] at smaller
    omega
  | _ =>
    rw [whole] at argument
    exact nomatch argument

/-- What holds of a type as soon as it holds of the arguments of its core holds of all
types. -/
theorem argument_induction {P : Ty → Prop}
    (step : ∀ t, (∀ a ∈ t.core.arguments, P a) → P t) (t : Ty) : P t := by
  induction size : sizeOf t using Nat.strongRecOn generalizing t with
  | ind size ih =>
    subst size
    exact step t fun a argument => ih (sizeOf a) (sizeOf_lt_of_mem_core argument) a rfl

/-- Induction over a type, from arguments and elements to what they are in. -/
theorem part_induction {P : Ty → Prop} (primitive : ∀ p, P (.primitive p))
    (named : ∀ name kind, P (.named name kind))
    (generic : ∀ name kind arguments, (∀ a ∈ arguments, P a) → P (.generic name kind arguments))
    (array : ∀ element rank, P element → P (.array element rank)) (t : Ty) : P t :=
  @Ty.rec P (fun ts => ∀ a ∈ ts, P a) primitive named generic array nofun
    (fun _ _ first others => List.forall_mem_cons.mpr ⟨first, others⟩) t

end ExprDisplay.Ty
