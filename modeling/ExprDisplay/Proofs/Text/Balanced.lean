import ExprDisplay.Proofs.Text.Template

/-!
Properly nested brackets. A text is read with a stack of the closing brackets that are
still to come: an opening bracket puts its partner on the stack, a closing one has to be
on top of it, everything else leaves the stack alone.

Main statements: a balanced text leaves any stack as it was, and so a template that is
balanced by itself stays balanced when balanced texts are put into its holes.
-/

set_option autoImplicit false

namespace ExprDisplay

variable {ε : Type} {pairs : List (Char × Char)} {pending later below : List Char}

/-- What is still to be closed after a character; none if it closes what is not open. -/
def closing (pairs : List (Char × Char)) (pending : List Char) (c : Char) : Option (List Char) :=
  match pairs.lookup c with
  | some partner => some (partner :: pending)
  | none =>
    if c ∈ pairs.map Prod.snd then
      match pending with
      | [] => none
      | top :: rest => if c = top then some rest else none
    else some pending

/-- What is still to be closed after a text. -/
def scan (pairs : List (Char × Char)) (pending : List Char) (s : String) : Option (List Char) :=
  s.toList.foldlM (closing pairs) pending

/-- Every bracket is closed by its partner, the one opened last first. -/
def Balanced (pairs : List (Char × Char)) (s : String) : Prop := scan pairs [] s = some []

instance (s : String) : Decidable (Balanced pairs s) :=
  inferInstanceAs (Decidable (scan pairs [] s = some []))

/-- A text without any of the brackets. -/
def Unbracketed (pairs : List (Char × Char)) (s : String) : Prop :=
  ∀ c ∈ s.toList, c ∉ pairs.map Prod.fst ∧ c ∉ pairs.map Prod.snd

-- By hand: the search could settle on trying every character there is.
instance (s : String) : Decidable (Unbracketed pairs s) :=
  List.decidableBAll (fun c => c ∉ pairs.map Prod.fst ∧ c ∉ pairs.map Prod.snd) s.toList

/-- Round, square and curly brackets. -/
def bracketPairs : List (Char × Char) := [('(', ')'), ('[', ']'), ('\x7b', '\x7d')]

example : Balanced bracketPairs "f(a[0], \x7b \x7d)" := by decide
example : ¬ Balanced bracketPairs "(a[0)]" := by decide

/-! ### Reading -/

theorem scan_append (s t : String) :
    scan pairs pending (s ++ t) = (scan pairs pending s).bind fun later => scan pairs later t := by
  unfold scan
  rw [String.toList_append, List.foldlM_append]
  rfl

/-- What lies below the brackets in question is not looked at. -/
theorem closing_frame {c : Char} (read : closing pairs pending c = some later) :
    closing pairs (pending ++ below) c = some (later ++ below) := by
  unfold closing at read ⊢
  cases opened : pairs.lookup c with
  | some partner =>
    simp only [opened, Option.some.injEq] at read ⊢
    rw [← read, List.cons_append]
  | none =>
    simp only [opened] at read ⊢
    by_cases closes : c ∈ pairs.map Prod.snd
    · simp only [if_pos closes] at read ⊢
      cases pending with
      | nil => cases read
      | cons top rest =>
        by_cases matching : c = top
        · simp only [matching, if_true, Option.some.injEq, List.cons_append] at read ⊢
          rw [read]
        · simp [matching] at read
    · simp only [if_neg closes, Option.some.injEq] at read ⊢
      rw [read]

/-- The step lemma along a text. -/
theorem scan_frame {s : String} (read : scan pairs pending s = some later) :
    scan pairs (pending ++ below) s = some (later ++ below) := by
  unfold scan at read ⊢
  generalize s.toList = cs at read ⊢
  induction cs generalizing pending with
  | nil =>
    obtain rfl := Option.some.inj read
    rfl
  | cons c cs ih =>
    rw [List.foldlM_cons] at read ⊢
    obtain ⟨middle, first, onward⟩ := Option.bind_eq_some_iff.mp read
    rw [closing_frame first]
    exact ih onward

theorem Balanced.scan_eq {s : String} (balanced : Balanced pairs s) (pending : List Char) :
    scan pairs pending s = some pending := by
  have framed : scan pairs ([] ++ pending) s = some ([] ++ pending) := scan_frame balanced
  exact framed

theorem Balanced.append {s t : String} (first : Balanced pairs s) (second : Balanced pairs t) :
    Balanced pairs (s ++ t) := by
  unfold Balanced
  rw [scan_append, first.scan_eq, Option.bind_some, second.scan_eq]

/-- A balanced text between an opening and its closing. -/
theorem Balanced.between {s opening final : String} (inner : Balanced pairs s)
    (opens : scan pairs [] opening = some pending) (closes : scan pairs pending final = some []) :
    Balanced pairs (opening ++ s ++ final) := by
  unfold Balanced
  rw [scan_append, scan_append, opens, Option.bind_some, inner.scan_eq, Option.bind_some, closes]

theorem closing_of_other {c : Char}
    (other : c ∉ pairs.map Prod.fst ∧ c ∉ pairs.map Prod.snd) :
    closing pairs pending c = some pending := by
  have opened : pairs.lookup c = none := by
    rw [List.lookup_eq_none_iff]
    intro pair member
    have differs : c ≠ pair.1 := fun same => other.1 (same ▸ List.mem_map_of_mem member)
    simpa using differs
  unfold closing
  rw [opened]
  exact if_neg other.2

theorem Unbracketed.balanced {s : String} (plain : Unbracketed pairs s) : Balanced pairs s := by
  unfold Unbracketed at plain
  unfold Balanced scan
  generalize s.toList = cs at plain ⊢
  induction cs with
  | nil => rfl
  | cons c cs ih =>
    rw [List.forall_mem_cons] at plain
    rw [List.foldlM_cons, closing_of_other plain.1]
    exact ih plain.2

theorem balanced_join {texts : List String} (each : ∀ s ∈ texts, Balanced pairs s) :
    Balanced pairs (String.join texts) := by
  induction texts with
  | nil => rfl
  | cons s texts ih =>
    rw [List.forall_mem_cons] at each
    rw [String.join_cons]
    exact each.1.append (ih each.2)

theorem balanced_intercalate {separator : String} {texts : List String}
    (between : Balanced pairs separator) (each : ∀ s ∈ texts, Balanced pairs s) :
    Balanced pairs (separator.intercalate texts) := by
  induction texts with
  | nil =>
    rw [String.intercalate_nil]
    rfl
  | cons s texts ih =>
    rw [List.forall_mem_cons] at each
    cases texts with
    | nil =>
      rw [String.intercalate_singleton]
      exact each.1
    | cons t texts =>
      rw [String.intercalate_cons_cons]
      exact (each.1.append between).append (ih each.2)

/-! ### Templates -/

namespace Template

/-- What is still to be closed after the texts of a template, its holes left out. -/
def scan (pairs : List (Char × Char)) (pending : List Char) : Template ε → Option (List Char)
  | [] => some pending
  | .text s :: t => (ExprDisplay.scan pairs pending s).bind fun later => scan pairs later t
  | .hole _ :: t => scan pairs pending t

/-- Balanced by its own texts. -/
def Closed (pairs : List (Char × Char)) (t : Template ε) : Prop := t.scan pairs [] = some []

@[simp] theorem scan_nil : scan pairs pending ([] : Template ε) = some pending := rfl

@[simp] theorem scan_text (s : String) (t : Template ε) :
    scan pairs pending (.text s :: t) =
      (ExprDisplay.scan pairs pending s).bind fun later => scan pairs later t := rfl

@[simp] theorem scan_hole (e : ε) (t : Template ε) :
    scan pairs pending (.hole e :: t) = scan pairs pending t := rfl

@[simp] theorem scan_append (t u : Template ε) :
    scan pairs pending (t ++ u) = (scan pairs pending t).bind fun later => scan pairs later u := by
  induction t generalizing pending with
  | nil => rfl
  | cons piece t ih =>
    cases piece with
    | text s => simp only [List.cons_append, scan_text, ih, Option.bind_assoc]
    | hole e => simp only [List.cons_append, scan_hole, ih]

/-- Balanced texts in the holes change nothing. -/
theorem scan_fill {t : Template ε} {write : ε → String}
    (each : ∀ e ∈ t.holes, Balanced pairs (write e)) (pending : List Char) :
    ExprDisplay.scan pairs pending (t.fill write) = t.scan pairs pending := by
  induction t generalizing pending with
  | nil =>
    rw [fill_nil]
    rfl
  | cons piece t ih =>
    cases piece with
    | text s =>
      rw [fill_text, ExprDisplay.scan_append, scan_text]
      congr 1
      funext later
      exact ih each later
    | hole e =>
      rw [holes_hole, List.forall_mem_cons] at each
      rw [fill_hole, ExprDisplay.scan_append, each.1.scan_eq, Option.bind_some, scan_hole]
      exact ih each.2 pending

theorem balanced_fill_iff {t : Template ε} {write : ε → String}
    (each : ∀ e ∈ t.holes, Balanced pairs (write e)) :
    Balanced pairs (t.fill write) ↔ t.Closed pairs := by
  unfold Balanced Closed
  rw [scan_fill each]

/-- A template is read like the text that is left of it when its holes are. -/
theorem Closed.scan_eq {t : Template ε} (closed : t.Closed pairs) (pending : List Char) :
    t.scan pairs pending = some pending := by
  have empty : ∀ e ∈ t.holes, Balanced pairs "" := fun _ _ => rfl
  rw [← scan_fill empty]
  exact ((balanced_fill_iff empty).mpr closed).scan_eq pending

theorem Closed.append {t u : Template ε} (first : t.Closed pairs) (second : u.Closed pairs) :
    Closed pairs (t ++ u) := by
  unfold Closed
  rw [scan_append, first.scan_eq, Option.bind_some, second.scan_eq]

theorem closed_flatMap {α : Type} {g : α → Template ε} {xs : List α}
    (each : ∀ x ∈ xs, (g x).Closed pairs) : Closed pairs (xs.flatMap g) := by
  induction xs with
  | nil => rfl
  | cons x xs ih =>
    rw [List.forall_mem_cons] at each
    rw [List.flatMap_cons]
    exact each.1.append (ih each.2)

theorem closed_texts {α : Type} {f : α → String} {xs : List α}
    (each : ∀ x ∈ xs, Balanced pairs (f x)) :
    Closed pairs (xs.map fun x => (.text (f x) : Piece ε)) := by
  induction xs with
  | nil => rfl
  | cons x xs ih =>
    rw [List.forall_mem_cons] at each
    unfold Closed
    rw [List.map_cons, scan_text, each.1.scan_eq, Option.bind_some]
    exact ih each.2

theorem closed_separated (between : Balanced pairs ", ") {ts : List (Template ε)}
    (each : ∀ t ∈ ts, t.Closed pairs) : Closed pairs (separated ts) := by
  induction ts with
  | nil => rfl
  | cons t ts ih =>
    rw [List.forall_mem_cons] at each
    cases ts with
    | nil => exact each.1
    | cons u us =>
      have comma : Closed pairs (.text ", " :: separated (u :: us)) := by
        unfold Closed
        rw [scan_text, between.scan_eq, Option.bind_some]
        exact ih each.2
      exact each.1.append comma

theorem closed_list (between : Balanced pairs ", ") (es : List ε) : Closed pairs (list es) := by
  apply closed_separated between
  rw [List.forall_mem_map]
  exact fun e _ => rfl

end Template

end ExprDisplay
