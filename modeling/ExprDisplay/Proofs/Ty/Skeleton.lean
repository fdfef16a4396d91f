import ExprDisplay.Proofs.Text.Span
import ExprDisplay.Proofs.Ty.Levels

/-!
How much of a type its name shows. The skeleton of a type forgets declared kinds, arity
suffixes and which of the ways to be a plain name a type has; everything else can be read
back from the name, as long as the simple names in it have no character of the
punctuation.

Main statement: two types have the same name exactly when they have the same skeleton.
-/

set_option autoImplicit false

namespace ExprDisplay

/-- What a type's name shows of the type. -/
inductive Skeleton where
  | name (word : String)
  | generic (word : String) (arguments : List Skeleton)
  | array (rank : Nat) (element : Skeleton)
  deriving Repr

namespace Skeleton

/-- A word with arguments, if there are any. -/
def applied (word : String) : List Skeleton → Skeleton
  | [] => .name word
  | arguments => .generic word arguments

/-- Array levels around a core, outermost first. -/
def around (s : Skeleton) : (ranks : List Nat) → Skeleton
  | [] => s
  | rank :: ranks => .array (max rank 1) (s.around ranks)

mutual

/-- A type's name, made from its skeleton. -/
def nameWith : (s : Skeleton) → (passed : String) → String
  | .name word, passed => word ++ passed
  | .generic word [], passed => word ++ passed
  | .generic word (s :: ss), passed =>
    word ++ "<" ++ nameWith s "" ++ nameTail ss ++ ">" ++ passed
  | .array rank element, passed => nameWith element (passed ++ Ty.brackets rank)

def nameTail : List Skeleton → String
  | [] => ""
  | s :: ss => ", " ++ nameWith s "" ++ nameTail ss

end

end Skeleton

namespace Ty

mutual

def skeleton : Ty → Skeleton
  | .primitive p => .name p.keyword
  | .named name _ => .name name
  | .generic name _ [] => .name (bareName name)
  | .generic name _ (t :: ts) => .generic (bareName name) (skeleton t :: skeletons ts)
  | .array element rank => .array (max rank 1) (skeleton element)

def skeletons : List Ty → List Skeleton
  | [] => []
  | t :: ts => skeleton t :: skeletons ts

end

mutual

/-- The names that a type's name is put together from, generic ones without their suffix. -/
def simpleNames : Ty → List String
  | .primitive _ => []
  | .named name _ => [name]
  | .generic name _ arguments => bareName name :: simpleNamesOf arguments
  | .array element _ => simpleNames element

def simpleNamesOf : List Ty → List String
  | [] => []
  | t :: ts => simpleNames t ++ simpleNamesOf ts

end

/-- The characters that set the parts of a name apart. -/
def punctuation : List Char := ['<', '>', '[', ']', ',']

/-- A name without punctuation in it. -/
def Plain (name : String) : Prop := ∀ c ∈ name.toList, c ∉ punctuation

-- By hand: the search could settle on trying every character there is.
instance (name : String) : Decidable (Plain name) :=
  List.decidableBAll (· ∉ punctuation) name.toList

/-- No simple name in a type has punctuation in it. -/
def PlainNames (t : Ty) : Prop := ∀ name ∈ t.simpleNames, Plain name

instance (t : Ty) : Decidable t.PlainNames := List.decidableBAll Plain t.simpleNames

theorem skeleton_eq : (t : Ty) →
    t.skeleton = (Skeleton.applied t.word (skeletons t.core.arguments)).around t.ranks
  | .primitive _ => rfl
  | .named .. => rfl
  | .generic _ _ [] => rfl
  | .generic _ _ (_ :: _) => rfl
  | .array element rank => by
    rw [skeleton, skeleton_eq element, word, core, ranks, Skeleton.around]

/-! ### The name is that of the skeleton -/

mutual

theorem nameWith_skeleton : (t : Ty) → (passed : String) →
    t.skeleton.nameWith passed = t.nameWith passed
  | .primitive _, _ => rfl
  | .named .., _ => rfl
  | .generic _ _ [], _ => rfl
  | .generic _ _ (t :: ts), _ => by
    rw [skeleton, Skeleton.nameWith, nameWith_skeleton t, nameTail_skeletons ts, nameWith]
  | .array element rank, passed => by
    rw [skeleton, Skeleton.nameWith, nameWith_skeleton element, brackets_max, nameWith]

theorem nameTail_skeletons : (ts : List Ty) → Skeleton.nameTail (skeletons ts) = nameTail ts
  | [] => rfl
  | t :: ts => by
    rw [skeletons, Skeleton.nameTail, nameWith_skeleton t, nameTail_skeletons ts, nameTail]

end

/-! ### Reading a name back -/

theorem plain_keyword (p : Primitive) : Plain p.keyword := by
  cases p <;> decide

/-- The word of a core is a keyword or a simple name. -/
theorem word_mem (t : Ty) : (∃ p : Primitive, t.word = p.keyword) ∨ t.word ∈ t.simpleNames := by
  induction t using part_induction with
  | primitive p => exact .inl ⟨p, rfl⟩
  | named name kind => exact .inr List.mem_cons_self
  | generic name kind arguments => exact .inr List.mem_cons_self
  | array element rank ih => exact ih

theorem plain_word {t : Ty} (plain : t.PlainNames) : Plain t.word := by
  rcases word_mem t with ⟨p, keyword⟩ | listed
  · rw [keyword]
    exact plain_keyword p
  · exact plain _ listed

theorem mem_simpleNamesOf {ts : List Ty} {name : String} :
    name ∈ simpleNamesOf ts ↔ ∃ t ∈ ts, name ∈ t.simpleNames := by
  induction ts with
  | nil => simp [simpleNamesOf]
  | cons t ts ih => simp [simpleNamesOf, ih]

theorem mem_simpleNames_of_argument {t a : Ty} (argument : a ∈ t.core.arguments) {name : String}
    (here : name ∈ a.simpleNames) : name ∈ t.simpleNames := by
  induction t using part_induction with
  | primitive p => cases argument
  | named word kind => cases argument
  | generic word kind arguments =>
    exact List.mem_cons_of_mem _ (mem_simpleNamesOf.mpr ⟨a, argument, here⟩)
  | array element rank ih => exact ih argument

theorem plain_argument {t a : Ty} (plain : t.PlainNames) (argument : a ∈ t.core.arguments) :
    a.PlainNames :=
  fun name here => plain name (mem_simpleNames_of_argument argument here)

/-- What follows a name: nothing, another argument, or the end of the arguments. -/
def Ends (rest : List Char) : Prop := ∀ c ∈ rest.head?, c = ',' ∨ c = '>'

/-- A name can be read off a text that ends it, up to what skeletons forget. -/
def ReadsBack (t : Ty) : Prop := ∀ (u : Ty) (rest rest' : List Char), t.PlainNames → u.PlainNames →
  Ends rest → Ends rest' → t.name.toList ++ rest = u.name.toList ++ rest' →
    t.skeleton = u.skeleton ∧ rest = rest'

theorem toList_brackets (rank : Nat) :
    (brackets rank).toList = '[' :: (List.replicate (rank - 1) ',' ++ [']']) := by
  simp [brackets]

/-- Bracket groups are read until something else than a bracket comes. -/
theorem groups_append_inj {ranks ranks' : List Nat} {rest rest' : List Char}
    (stop : ∀ c ∈ rest.head?, c ≠ '[') (stop' : ∀ c ∈ rest'.head?, c ≠ '[')
    (same : (groups ranks).toList ++ rest = (groups ranks').toList ++ rest') (s : Skeleton) :
    s.around ranks = s.around ranks' ∧ rest = rest' := by
  induction ranks generalizing ranks' with
  | nil =>
    cases ranks' with
    | nil => exact ⟨rfl, by simpa using same⟩
    | cons rank' ranks' =>
      have head : '[' ∈ rest.head? := by
        simp [toList_brackets] at same
        simp [same]
      exact absurd rfl (stop _ head)
  | cons rank ranks ih =>
    cases ranks' with
    | nil =>
      have head : '[' ∈ rest'.head? := by
        simp [toList_brackets] at same
        simp [← same]
      exact absurd rfl (stop' _ head)
    | cons rank' ranks' =>
      simp only [groups_cons, toList_brackets, String.toList_append, List.cons_append,
        List.append_assoc, List.nil_append, List.cons.injEq, true_and] at same
      obtain ⟨commas, others⟩ := replicate_append_inj (by simp) (by simp) same
      obtain ⟨inner, rests⟩ := ih (List.cons.inj others).2
      have ranksEq : max rank 1 = max rank' 1 := by omega
      exact ⟨by rw [Skeleton.around, Skeleton.around, ranksEq, inner], rests⟩

theorem ends_nameTail (ts : List Ty) (rest : List Char) :
    Ends ((nameTail ts).toList ++ '>' :: rest) := by
  cases ts <;> simp [Ends, nameTail]

/-- Arguments after the first, each after a comma, up to the closing bracket. -/
theorem nameTail_append_inj {ts us : List Ty} {rest rest' : List Char}
    (back : ∀ t ∈ ts, t.ReadsBack) (plain : ∀ t ∈ ts, t.PlainNames)
    (plain' : ∀ u ∈ us, u.PlainNames)
    (same : (nameTail ts).toList ++ '>' :: rest = (nameTail us).toList ++ '>' :: rest') :
    skeletons ts = skeletons us ∧ rest = rest' := by
  induction ts generalizing us with
  | nil =>
    cases us with
    | nil => exact ⟨rfl, (List.cons.inj same).2⟩
    | cons u us => simp [nameTail] at same
  | cons t ts ih =>
    cases us with
    | nil => simp [nameTail] at same
    | cons u us =>
      have first : t.name.toList ++ ((nameTail ts).toList ++ '>' :: rest) =
          u.name.toList ++ ((nameTail us).toList ++ '>' :: rest') := by
        simpa [nameTail, name] using same
      obtain ⟨here, tails⟩ := back t List.mem_cons_self u _ _ (plain t List.mem_cons_self)
        (plain' u List.mem_cons_self) (ends_nameTail ts rest) (ends_nameTail us rest') first
      obtain ⟨others, rests⟩ := ih (fun t later => back t (List.mem_cons_of_mem _ later))
        (fun t later => plain t (List.mem_cons_of_mem _ later))
        (fun u later => plain' u (List.mem_cons_of_mem _ later)) tails
      exact ⟨by rw [skeletons, skeletons, here, others], rests⟩

/-- The arguments of a core, if what follows it does not look like arguments. -/
theorem argumentText_append_inj {ts us : List Ty} {rest rest' : List Char}
    (back : ∀ t ∈ ts, t.ReadsBack) (plain : ∀ t ∈ ts, t.PlainNames)
    (plain' : ∀ u ∈ us, u.PlainNames)
    (stop : ∀ c ∈ rest.head?, c ≠ '<') (stop' : ∀ c ∈ rest'.head?, c ≠ '<')
    (same : (argumentText ts).toList ++ rest = (argumentText us).toList ++ rest') :
    skeletons ts = skeletons us ∧ rest = rest' := by
  cases ts with
  | nil =>
    cases us with
    | nil => exact ⟨rfl, by simpa [argumentText] using same⟩
    | cons u us =>
      have head : '<' ∈ rest.head? := by
        simp [argumentText] at same
        simp [same]
      exact absurd rfl (stop _ head)
  | cons t ts =>
    cases us with
    | nil =>
      have head : '<' ∈ rest'.head? := by
        simp [argumentText] at same
        simp [← same]
      exact absurd rfl (stop' _ head)
    | cons u us =>
      -- With a comma before the first argument all of them are read in the same way.
      apply nameTail_append_inj back plain plain'
      simpa [argumentText, nameTail, name] using same

/-- What comes after the arguments ends the word before them and is not part of them. -/
theorem head_groups_append (ranks : List Nat) {rest : List Char} (ends : Ends rest) :
    ∀ c ∈ ((groups ranks).toList ++ rest).head?, c ∈ punctuation ∧ c ≠ '<' := by
  cases ranks with
  | nil =>
    intro c head
    rcases ends c (by simpa using head) with rfl | rfl <;> decide
  | cons rank ranks => simp [toList_brackets, punctuation]

theorem head_argumentText_append (ts : List Ty) {rest : List Char}
    (next : ∀ c ∈ rest.head?, c ∈ punctuation) :
    ∀ c ∈ ((argumentText ts).toList ++ rest).head?, c ∈ punctuation := by
  cases ts with
  | nil =>
    intro c head
    exact next c (by simpa [argumentText] using head)
  | cons t ts => simp [argumentText, punctuation]

/-- A name is read in three parts: the word up to the first punctuation, the arguments,
and the bracket groups. -/
theorem readsBack (t : Ty) : t.ReadsBack := by
  induction t using argument_induction with
  | step t ih =>
    intro u rest rest' plain plain' ends ends' same
    have next := head_groups_append t.ranks ends
    have next' := head_groups_append u.ranks ends'
    have closes := head_argumentText_append t.core.arguments fun c head => (next c head).1
    have closes' := head_argumentText_append u.core.arguments fun c head => (next' c head).1
    rw [name_eq, name_eq] at same
    simp only [String.toList_append, List.append_assoc] at same
    obtain ⟨words, same⟩ := span_inj (p := (· ∉ punctuation)) (plain_word plain)
      (plain_word plain') (fun c head => not_not_intro (closes c head))
      (fun c head => not_not_intro (closes' c head)) same
    obtain ⟨arguments, same⟩ := argumentText_append_inj ih
      (fun a argument => plain_argument plain argument)
      (fun a argument => plain_argument plain' argument)
      (fun c head => (next c head).2) (fun c head => (next' c head).2) same
    have outside {rest : List Char} (ends : Ends rest) : ∀ c ∈ rest.head?, c ≠ '[' := by
      intro c head
      rcases ends c head with rfl | rfl <;> decide
    obtain ⟨levels, rests⟩ := groups_append_inj (outside ends) (outside ends') same
      (Skeleton.applied t.word (skeletons t.core.arguments))
    refine ⟨?_, rests⟩
    rw [skeleton_eq t, skeleton_eq u, levels, String.toList_inj.mp words, arguments]

/-- Two types have the same name exactly when they have the same skeleton, if no simple
name in them has punctuation in it. -/
theorem name_eq_iff_skeleton_eq {t u : Ty} (plain : t.PlainNames) (plain' : u.PlainNames) :
    t.name = u.name ↔ t.skeleton = u.skeleton := by
  constructor
  · intro same
    have texts : t.name.toList ++ [] = u.name.toList ++ [] := by rw [same]
    exact (readsBack t u [] [] plain plain' nofun nofun texts).1
  · intro same
    rw [name, name, ← nameWith_skeleton, same, nameWith_skeleton]

/-- Other kinds, another arity suffix and rank zero do not show; another rank inside an
argument does. -/
theorem name_eq_iff_skeleton_eq_lists :
    let lists (rank : Nat) : Ty := .array (.generic "List\x601" .classType [.string]) rank
    let t : Ty := .array (.generic "Dictionary\x602" .classType [.int, lists 1]) 2
    let u : Ty := .array (.generic "Dictionary" .struct [.named "int" .enum, lists 0]) 2
    let v : Ty := .array (.generic "Dictionary\x602" .classType [.int, lists 2]) 2
    (t.PlainNames ∧ u.PlainNames ∧ v.PlainNames) ∧ t.name = u.name ∧ t.name ≠ v.name := by
  intro lists t u v
  have plain : t.PlainNames := by decide
  have plain' : v.PlainNames := by decide
  have different : t.skeleton ≠ v.skeleton := by simp [t, v, lists, skeleton, skeletons]
  refine ⟨⟨plain, by decide, plain'⟩, ?_, fun same => ?_⟩
  · exact (name_eq_iff_skeleton_eq plain (by decide)).mpr rfl
  · exact different ((name_eq_iff_skeleton_eq plain plain').mp same)

end Ty

end ExprDisplay
