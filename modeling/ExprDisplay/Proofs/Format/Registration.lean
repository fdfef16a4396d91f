import ExprDisplay.Format.Catalogue

/-!
Catalogues after whole runs of registrations. A run starts from a catalogue without
formats or from the built-in one and registers formatters of any names one after the
other; `last?` says which of them counts for a name, without looking at a catalogue.

Main statement: the names are listed in strict order and are the registered ones, every
query answers from the formatter registered last, and a catalogue is determined by which
these are.
-/

set_option autoImplicit false

namespace ExprDisplay.Catalogue

variable {f : Formatter} {fs gs : List Formatter} {name : String}

/-! ### Runs of registrations -/

/-- What a run of registrations starts from. -/
inductive Start where
  | empty
  | builtIn (options : Node.DrawingOptions)

namespace Start

def catalogue : Start → Catalogue
  | empty => Catalogue.empty
  | builtIn options => Catalogue.builtIn options

/-- The formatters that count as registered at the start. -/
def formatters : Start → List Formatter
  | empty => []
  | builtIn options => [.drawing options, .outline, .json]

end Start

def registerAll (c : Catalogue) (fs : List Formatter) : Catalogue := fs.foldl register c

/-- The formatter registered last under a name. -/
def last? : List Formatter → String → Option Formatter
  | [], _ => none
  | f :: later, name => (last? later name).or (if f.name = name then some f else none)

theorem catalogue_eq_registerAll (start : Start) :
    start.catalogue = empty.registerAll start.formatters := by
  cases start <;> rfl

theorem registerAll_append (c : Catalogue) (fs gs : List Formatter) :
    c.registerAll (fs ++ gs) = (c.registerAll fs).registerAll gs :=
  List.foldl_append

theorem last?_eq_some (found : last? fs name = some f) : f ∈ fs ∧ f.name = name := by
  induction fs with
  | nil => cases found
  | cons g later ih =>
    unfold last? at found
    cases after : last? later name with
    | some h =>
      rw [after, Option.some_or] at found
      obtain ⟨member, named⟩ := ih (after.trans found)
      exact ⟨List.mem_cons_of_mem g member, named⟩
    | none =>
      rw [after, Option.none_or] at found
      split at found
      next named =>
        cases found
        exact ⟨List.mem_cons_self, named⟩
      · cases found

theorem last?_isSome_iff : (last? fs name).isSome ↔ ∃ f ∈ fs, f.name = name := by
  constructor
  · intro found
    obtain ⟨f, last⟩ := Option.isSome_iff_exists.mp found
    exact ⟨f, last?_eq_some last⟩
  · intro registered
    induction fs with
    | nil => simp at registered
    | cons g later ih =>
      rw [last?, Option.isSome_or, Bool.or_eq_true]
      obtain ⟨f, member, named⟩ := registered
      rcases List.mem_cons.mp member with rfl | after
      · exact .inr (by simp [named])
      · exact .inl (ih ⟨f, after, named⟩)

/-! ### One registration -/

/-- Names in strict order, so that every name is there once. -/
def Ordered (fs : List Formatter) : Prop := fs.Pairwise fun f g => f.name < g.name

theorem mem_insert {g : Formatter} (member : g ∈ insert f fs) : g = f ∨ g ∈ fs := by
  induction fs with
  | nil => exact .inl (List.mem_singleton.mp member)
  | cons h rest ih =>
    unfold insert at member
    split at member
    · rcases List.mem_cons.mp member with same | rest
      · exact .inl same
      · exact .inr (List.mem_cons_of_mem h rest)
    · split at member
      · exact List.mem_cons.mp member
      · rcases List.mem_cons.mp member with same | inserted
        · exact .inr (same ▸ List.mem_cons_self)
        · exact (ih inserted).imp id (List.mem_cons_of_mem h)

theorem Ordered.insert (f : Formatter) (ordered : Ordered fs) : Ordered (insert f fs) := by
  induction fs with
  | nil => exact List.pairwise_singleton _ f
  | cons g rest ih =>
    obtain ⟨above, others⟩ := List.pairwise_cons.mp ordered
    unfold Catalogue.insert
    split
    -- The old formatter of the name goes, and the new one stands where it stood.
    next same => exact List.pairwise_cons.mpr ⟨fun h member => same ▸ above h member, others⟩
    next different =>
      split
      next below =>
        refine List.pairwise_cons.mpr ⟨fun h member => ?_, ordered⟩
        rcases List.mem_cons.mp member with rfl | later
        · exact below
        · exact String.lt_trans below (above h later)
      next notBelow =>
        have greater : g.name < f.name :=
          Std.lt_of_le_of_ne (String.not_lt.mp notBelow) (Ne.symm different)
        refine List.pairwise_cons.mpr ⟨fun h member => ?_, ih others⟩
        rcases mem_insert member with rfl | earlier
        · exact greater
        · exact above h earlier

/-- A registration answers for its own name and leaves the others. -/
theorem find?_insert (f : Formatter) (fs : List Formatter) (name : String) :
    (insert f fs).find? (·.name == name) =
      if f.name = name then some f else fs.find? (·.name == name) := by
  induction fs with
  | nil => by_cases named : f.name = name <;> simp [insert, named]
  | cons g rest ih =>
    unfold insert
    split
    next same => by_cases named : f.name = name <;> simp [named, ← same]
    next different =>
      split
      · by_cases named : f.name = name <;> simp [named]
      · by_cases other : g.name = name
        · have unnamed : f.name ≠ name := other ▸ different
          simp [other, unnamed]
        · simp [other, ih]

theorem get?_register (c : Catalogue) (f : Formatter) (name : String) :
    (c.register f).get? name = if f.name = name then some f else c.get? name :=
  find?_insert f c.formatters name

/-! ### Runs -/

theorem ordered_registerAll {c : Catalogue} (ordered : Ordered c.formatters)
    (fs : List Formatter) : Ordered (c.registerAll fs).formatters := by
  induction fs generalizing c with
  | nil => exact ordered
  | cons f later ih => exact ih (ordered.insert f)

theorem get?_registerAll (c : Catalogue) (fs : List Formatter) (name : String) :
    (c.registerAll fs).get? name = (last? fs name).or (c.get? name) := by
  induction fs generalizing c with
  | nil => rfl
  | cons f later ih =>
    have step : c.registerAll (f :: later) = (c.register f).registerAll later := rfl
    rw [step, ih, get?_register, last?, Option.or_assoc]
    by_cases named : f.name = name <;> simp [named]

namespace Start

/-- A run from either start is one from the catalogue without formats. -/
theorem registerAll_eq (start : Start) (fs : List Formatter) :
    start.catalogue.registerAll fs = Catalogue.empty.registerAll (start.formatters ++ fs) := by
  rw [catalogue_eq_registerAll, registerAll_append]

theorem ordered (start : Start) (fs : List Formatter) :
    Ordered (start.catalogue.registerAll fs).formatters := by
  rw [registerAll_eq]
  exact ordered_registerAll List.Pairwise.nil _

theorem get?_eq_last? (start : Start) (fs : List Formatter) (name : String) :
    (start.catalogue.registerAll fs).get? name = last? (start.formatters ++ fs) name := by
  rw [registerAll_eq, get?_registerAll]
  exact Option.or_none

end Start

/-! ### Queries -/

theorem has_iff (c : Catalogue) (name : String) : c.has name = true ↔ name ∈ c.names := by
  rw [has, get?, List.find?_isSome, names, List.mem_map]
  simp only [beq_iff_eq]

/-- The names are listed by their code points. -/
theorem codePoints_lt {a b : String} (less : a < b) :
    a.toList.map Char.toNat < b.toList.map Char.toNat :=
  List.map_lt (fun _ _ less => less) less

theorem mem_descriptions (c : Catalogue) (name description : String) :
    (name, description) ∈ c.descriptions ↔
      (c.get? name).map Formatter.description = some description := by
  unfold descriptions
  rw [List.mem_map]
  constructor
  · rintro ⟨listed, member, same⟩
    obtain ⟨rfl, rfl⟩ := Prod.mk.inj same
    obtain ⟨f, found⟩ := Option.isSome_iff_exists.mp ((has_iff c listed).mpr member)
    simp [found]
  · intro described
    obtain ⟨f, found, rfl⟩ := Option.map_eq_some_iff.mp described
    have listed : c.has name = true := by rw [has, found, Option.isSome_some]
    exact ⟨name, (has_iff c name).mp listed, by simp [found]⟩

/-- Of ordered formatters a name finds the one that has it. -/
theorem Ordered.find?_eq_some_iff (ordered : Ordered fs) :
    fs.find? (·.name == name) = some f ↔ f ∈ fs ∧ f.name = name := by
  constructor
  · intro found
    exact ⟨List.mem_of_find?_eq_some found, by simpa using List.find?_some found⟩
  · rintro ⟨member, rfl⟩
    induction fs with
    | nil => cases member
    | cons g rest ih =>
      obtain ⟨above, others⟩ := List.pairwise_cons.mp ordered
      rcases List.mem_cons.mp member with rfl | later
      · simp
      · have different : g.name ≠ f.name := fun same =>
          String.lt_irrefl f.name (same ▸ above f later)
        simp [different, ih others later]

theorem Ordered.nodup (ordered : Ordered fs) : fs.Nodup := by
  refine List.Pairwise.imp ?_ ordered
  rintro f _ less rfl
  exact String.lt_irrefl f.name less

/-- Ordered formatters are determined by what the names find. -/
theorem Ordered.eq_of_find? (ordered : Ordered fs) (ordered' : Ordered gs)
    (same : ∀ name, fs.find? (·.name == name) = gs.find? (·.name == name)) : fs = gs := by
  have members (f : Formatter) : f ∈ fs ↔ f ∈ gs := by
    have found : fs.find? (·.name == f.name) = some f ↔ f ∈ fs ∧ f.name = f.name :=
      ordered.find?_eq_some_iff
    rw [same, ordered'.find?_eq_some_iff] at found
    simpa using found.symm
  have permuted : fs.Perm gs :=
    (List.perm_ext_iff_of_nodup ordered.nodup ordered'.nodup).mpr members
  exact permuted.eq_of_pairwise
    (fun f g _ _ less greater => absurd greater (String.lt_asymm less)) ordered ordered'

/-- The catalogue after a run. Its names are in strict order and are the registered ones;
`get?`, `write` and `descriptions` use the formatter registered last; a name is there for
all queries or for none, where no formatter reports a missing format itself; and runs in
which every name has the same last formatter give the same catalogue. -/
theorem registerAll_answers (start : Start) (fs : List Formatter) :
    let c := start.catalogue.registerAll fs
    let registered := start.formatters ++ fs
    c.names.Pairwise (fun a b => a.toList.map Char.toNat < b.toList.map Char.toNat) ∧
    (∀ name, name ∈ c.names ↔ ∃ f ∈ registered, f.name = name) ∧
    (∀ name, c.get? name = last? registered name) ∧
    (∀ name n, c.write n name =
      (last? registered name).elim (.error (.notFound name)) fun f => f.write n) ∧
    c.descriptions.map Prod.fst = c.names ∧
    (∀ name description, (name, description) ∈ c.descriptions ↔
      (last? registered name).map Formatter.description = some description) ∧
    (∀ name, (c.has name = true ↔ ∃ f, c.get? name = some f) ∧
      (c.has name = true ↔ name ∈ c.names) ∧
      ∀ n, (∀ f ∈ registered, f.write n ≠ .error (.notFound name)) →
        (c.has name = true ↔ c.write n name ≠ .error (.notFound name))) ∧
    ∀ (start' : Start) (fs' : List Formatter),
      (∀ name, last? registered name = last? (start'.formatters ++ fs') name) →
        c = start'.catalogue.registerAll fs' := by
  intro c registered
  have lookup : ∀ name, c.get? name = last? registered name := start.get?_eq_last? fs
  have written (name : String) (n : Node) : c.write n name =
      (last? registered name).elim (.error (.notFound name)) fun f => f.write n := by
    rw [write, lookup]
    cases last? registered name <;> rfl
  refine ⟨?_, fun name => ?_, lookup, written, ?_, fun name description => ?_,
    fun name => ⟨?_, has_iff c name, fun n honest => ?_⟩, fun start' fs' same => ?_⟩
  · exact (List.pairwise_map.mpr (start.ordered fs)).imp codePoints_lt
  · rw [← has_iff, has, lookup, last?_isSome_iff]
  · simp [descriptions, Function.comp_def]
  · rw [mem_descriptions, lookup]
  · rw [has, Option.isSome_iff_exists]
  · rw [has, lookup, written]
    cases last : last? registered name with
    | none => simp
    | some f => simpa using honest f (last?_eq_some last).1
  · have lookups (name : String) : c.get? name = (start'.catalogue.registerAll fs').get? name := by
      rw [lookup, same, start'.get?_eq_last?]
    exact congrArg Catalogue.mk ((start.ordered fs).eq_of_find? (start'.ordered fs') lookups)

/-- A format registered twice over the built-in ones and a built-in name taken over: only the
last formatters count, and one that fails is found like the others. -/
theorem registerAll_answers_replaced :
    let draft : Formatter := ⟨"notes", "", fun _ => .ok ""⟩
    let notes : Formatter := ⟨"notes", "Root only", fun n => .ok n.label⟩
    let labels : Formatter := ⟨"labels", "Refused", fun _ => .error (.failed "no labels")⟩
    let start := Start.builtIn .default
    let c := start.catalogue.registerAll [draft, labels, notes]
    c = start.catalogue.registerAll [notes, labels] ∧
      c.names = ["json", "labels", "notes", "treeviz"] ∧
      (c.has "labels" = true ↔ c.write (Node.leaf "x") "labels" ≠ .error (.notFound "labels")) := by
  intro draft notes labels start c
  obtain ⟨-, -, -, -, -, -, found, determined⟩ :=
    registerAll_answers start [draft, labels, notes]
  refine ⟨determined start [notes, labels] fun name => ?_, by decide +kernel,
    (found "labels").2.2 (Node.leaf "x") fun f member => ?_⟩
  · by_cases isNotes : name = "notes"
    · subst isNotes
      rfl
    · by_cases isLabels : name = "labels"
      · subst isLabels
        rfl
      · simp [start, Start.formatters, last?, Ne.symm isNotes, Ne.symm isLabels, draft, notes,
          labels]
  · simp only [start, Start.formatters, List.cons_append, List.nil_append, List.mem_cons,
      List.not_mem_nil, or_false] at member
    rcases member with rfl | rfl | rfl | rfl | rfl | rfl <;> rintro ⟨⟩

end ExprDisplay.Catalogue
