import ExprDisplay.Proofs.Expr.Cut

/-!
Texts written with a counter of open levels. A printer writes an expression piece by
piece; every expression on the way opens a level, or is refused one and written as `...`,
and closes its level when it is written. The counter is state that all of them share, and
parts that are printed by themselves start from it as they find it.

Main statement: printing writes the text of as many levels as are left and brings the
counter back, on a course that stays between where it started and the last level and that
the level of the expression encloses; so of items printed one after the other each reads as
if it were the first.
-/

set_option autoImplicit false

namespace ExprDisplay

/-! ### Printers -/

/-- What is done to the counter, with the value found. -/
inductive LevelEvent where
  | opened (found : Nat)
  | refused (found : Nat)
  | closed (found : Nat)
  deriving DecidableEq, Repr

namespace LevelEvent

def found : LevelEvent → Nat
  | opened n => n
  | refused n => n
  | closed n => n

/-- The counter after the event; closing a level does not take it below zero. -/
def left : LevelEvent → Nat
  | opened n => n + 1
  | refused n => n
  | closed n => n - 1

/-- Before and after the event the counter is between `least` and the last level, and a level
that is closed was open. -/
def Within (least : Nat) (event : LevelEvent) : Prop :=
  (least ≤ event.found ∧ event.found ≤ Expr.textLevels) ∧
    (least ≤ event.left ∧ event.left ≤ Expr.textLevels) ∧ ∀ n, event = closed n → 0 < n

theorem within_opened {n : Nat} (room : n < Expr.textLevels) : (opened n).Within n := by
  refine ⟨⟨Nat.le_refl n, Nat.le_of_lt room⟩, ⟨Nat.le_succ n, room⟩, ?_⟩
  rintro m ⟨⟩

theorem within_refused {n : Nat} (full : n = Expr.textLevels) : (refused n).Within n := by
  have last : n ≤ Expr.textLevels := Nat.le_of_eq full
  refine ⟨⟨Nat.le_refl n, last⟩, ⟨Nat.le_refl n, last⟩, ?_⟩
  rintro m ⟨⟩

/-- A level that was opened at `n` is closed above it. -/
theorem within_closed {n : Nat} (room : n < Expr.textLevels) : (closed (n + 1)).Within n := by
  refine ⟨⟨Nat.le_succ n, room⟩, ⟨Nat.le_refl n, Nat.le_of_lt room⟩, ?_⟩
  rintro m ⟨⟩
  exact Nat.succ_pos n

theorem Within.mono {least less : Nat} {event : LevelEvent} (within : event.Within least)
    (below : less ≤ least) : event.Within less := by
  obtain ⟨⟨foundLeast, foundLast⟩, ⟨leftLeast, leftLast⟩, wasOpen⟩ := within
  exact ⟨⟨by omega, foundLast⟩, ⟨by omega, leftLast⟩, wasOpen⟩

/-- The counter's course from one value to another: each event finds what the one before it
has left. -/
def Course : (start : Nat) → List LevelEvent → (stop : Nat) → Prop
  | start, [], stop => start = stop
  | start, event :: later, stop => event.found = start ∧ Course event.left later stop

theorem Course.append {start middle stop : Nat} {events later : List LevelEvent}
    (course : Course start events middle) (onward : Course middle later stop) :
    Course start (events ++ later) stop := by
  induction events generalizing start with
  | nil =>
    obtain rfl : start = middle := course
    exact onward
  | cons event events ih => exact ⟨course.1, ih course.2⟩

/-- The events of one expression. On the last level it is refused one of its own; else it opens
one, all that happens up to its end is above it, and it closes the level it has opened. -/
def Enclosed (depth : Nat) (events : List LevelEvent) : Prop :=
  (depth = Expr.textLevels ∧ events = [refused depth]) ∨
    (depth < Expr.textLevels ∧ ∃ inner, events = opened depth :: (inner ++ [closed (depth + 1)]) ∧
      Course (depth + 1) inner (depth + 1) ∧ ∀ event ∈ inner, event.Within (depth + 1))

end LevelEvent

/-- A printer at work: what it has written, the counter of open levels, and the journal of
what was done to the counter. -/
structure Printer where
  written : String
  depth : Nat
  journal : List LevelEvent

namespace Printer

def write (p : Printer) (s : String) : Printer := { p with written := p.written ++ s }

/-- Opens a level if one is left; the flag says whether it did. -/
def enter (p : Printer) : Printer × Bool :=
  if Expr.textLevels ≤ p.depth then
    ({ p with journal := p.journal ++ [.refused p.depth] }, false)
  else
    ({ p with depth := p.depth + 1, journal := p.journal ++ [.opened p.depth] }, true)

def leave (p : Printer) : Printer :=
  { p with depth := p.depth - 1, journal := p.journal ++ [.closed p.depth] }

theorem enter_of_lt {p : Printer} (room : p.depth < Expr.textLevels) :
    p.enter = (⟨p.written, p.depth + 1, p.journal ++ [.opened p.depth]⟩, true) :=
  if_neg (Nat.not_le_of_lt room)

theorem enter_of_eq {p : Printer} (full : p.depth = Expr.textLevels) :
    p.enter = (⟨p.written, p.depth, p.journal ++ [.refused p.depth]⟩, false) :=
  if_pos (Nat.le_of_eq full.symm)

/-- Writes a piece, given how to print what is in a hole. -/
def piece (print : Expr → Printer → Printer) (p : Printer) : Piece Expr → Printer
  | .text s => p.write s
  | .hole e => print e p

end Printer

namespace Expr

/-- Prints an expression on the level it opens, or `...` if it is refused one. -/
def print (e : Expr) (p : Printer) : Printer :=
  match p.enter with
  | (inside, true) =>
    (e.template.attach.foldl (fun q piece =>
      match piece with
      | ⟨.text s, _⟩ => q.write s
      | ⟨.hole c, _⟩ => print c q) inside).leave
  | (outside, false) => outside.write ellipsis
termination_by sizeOf e
decreasing_by
  rename_i shown
  exact sizeOf_lt_of_mem_holes (Template.mem_holes.mpr shown)

/-- Prints a template without a level of its own. -/
def printTemplate (t : Template Expr) (p : Printer) : Printer := t.foldl (Printer.piece print) p

theorem print_eq (e : Expr) (p : Printer) :
    e.print p = if p.enter.2 then (printTemplate e.template p.enter.1).leave
      else p.enter.1.write ellipsis := by
  -- The membership that `attach` carries serves termination only.
  have pieces (q : Printer) : printTemplate e.template q =
      e.template.attach.foldl (fun q member => q.piece print member.1) q :=
    List.foldl_attach.symm
  rw [print, pieces]
  rcases p.enter with ⟨q, opened⟩
  cases opened with
  | false => rfl
  | true =>
    simp only [if_true]
    congr 2
    funext q member
    obtain ⟨piece, _⟩ := member
    cases piece <;> rfl

end Expr

/-! ### What printing does -/

namespace Printer

/-- From `p` to `q` a text was written and the counter came back, not below where it was on
the way. -/
structure Printed (p : Printer) (text : String) (events : List LevelEvent) (q : Printer) :
    Prop where
  written : q.written = p.written ++ text
  depth : q.depth = p.depth
  journal : q.journal = p.journal ++ events
  course : LevelEvent.Course p.depth events p.depth
  within : ∀ event ∈ events, event.Within p.depth

theorem printed_nothing (p : Printer) : Printed p "" [] p := by
  refine ⟨String.append_empty.symm, rfl, (List.append_nil _).symm, rfl, ?_⟩
  intro event member
  cases member

theorem printed_write (p : Printer) (s : String) : Printed p s [] (p.write s) := by
  refine ⟨rfl, rfl, (List.append_nil _).symm, rfl, ?_⟩
  intro event member
  cases member

theorem Printed.trans {p q r : Printer} {s t : String} {events later : List LevelEvent}
    (first : Printed p s events q) (second : Printed q t later r) :
    Printed p (s ++ t) (events ++ later) r := by
  obtain ⟨written, depth, journal, course, within⟩ := second
  rw [first.depth] at depth course within
  refine ⟨?_, depth, ?_, first.course.append course, ?_⟩
  · rw [written, first.written, String.append_assoc]
  · rw [journal, first.journal, List.append_assoc]
  · intro event member
    exact (List.mem_append.mp member).elim (first.within event) (within event)

/-- A template comes out as its filling, if what is in its holes does on the same level. -/
theorem printed_template {write : Expr → String} {depth : Nat}
    (holes : ∀ (e : Expr) (p : Printer), p.depth = depth →
      ∃ events, Printed p (write e) events (e.print p))
    (t : Template Expr) {p : Printer} (level : p.depth = depth) :
    ∃ events, Printed p (t.fill write) events (Expr.printTemplate t p) := by
  induction t generalizing p with
  | nil =>
    rw [Template.fill_nil]
    exact ⟨[], printed_nothing p⟩
  | cons piece rest ih =>
    cases piece with
    | text s =>
      obtain ⟨later, onward⟩ := ih (p := p.write s) level
      rw [Template.fill_text]
      exact ⟨_, (printed_write p s).trans onward⟩
    | hole e =>
      obtain ⟨events, printed⟩ := holes e p level
      obtain ⟨later, onward⟩ := ih (printed.depth.trans level)
      rw [Template.fill_hole]
      exact ⟨_, printed.trans onward⟩

/-- Inside the level that was opened everything is one level up, and closing it brings the
counter back. -/
theorem printed_leave {p q : Printer} {text : String} {events : List LevelEvent}
    (room : p.depth < Expr.textLevels) (inside : Printed p.enter.1 text events q) :
    Printed p text (.opened p.depth :: (events ++ [.closed (p.depth + 1)])) q.leave := by
  rw [enter_of_lt room] at inside
  obtain ⟨written, depth, journal, course, within⟩ := inside
  refine ⟨written, ?_, ?_, ⟨rfl, course.append ⟨rfl, rfl⟩⟩, ?_⟩
  · rw [leave, depth, Nat.add_sub_cancel]
  · rw [leave, depth, journal]
    simp
  · intro event member
    rcases List.mem_cons.mp member with rfl | later
    · exact LevelEvent.within_opened room
    · rcases List.mem_append.mp later with before | last
      · exact (within event before).mono (Nat.le_succ p.depth)
      · rw [List.mem_singleton.mp last]
        exact LevelEvent.within_closed room

theorem printed_refused {p : Printer} (full : p.depth = Expr.textLevels) :
    Printed p Expr.ellipsis [.refused p.depth] (p.enter.1.write Expr.ellipsis) := by
  rw [enter_of_eq full]
  refine ⟨rfl, rfl, rfl, ⟨rfl, rfl⟩, fun event member => ?_⟩
  rw [List.mem_singleton.mp member]
  exact LevelEvent.within_refused full

/-- By induction on the levels that are left: an expression with a level to open leaves one
less to what it shows. -/
theorem printed_print {levels : Nat} {p : Printer} (left : p.depth + levels = Expr.textLevels)
    (e : Expr) : ∃ events, Printed p (e.textWithin levels) events (e.print p) ∧
      LevelEvent.Enclosed p.depth events := by
  induction levels generalizing e p with
  | zero =>
    have refused : p.enter.2 = false := by rw [enter_of_eq left]
    rw [Expr.print_eq, refused]
    exact ⟨[.refused p.depth], printed_refused left, .inl ⟨left, rfl⟩⟩
  | succ levels ih =>
    have room : p.depth < Expr.textLevels := by omega
    have opened : p.enter.2 = true := by rw [enter_of_lt room]
    have level : p.enter.1.depth = p.depth + 1 := by rw [enter_of_lt room]
    -- What the template shows is printed above the level opened here, with `levels` left.
    have holes : ∀ (c : Expr) (q : Printer), q.depth = p.depth + 1 →
        ∃ events, Printed q (c.textWithin levels) events (c.print q) := by
      intro c q deeper
      obtain ⟨events, printed, -⟩ := ih (p := q) (by omega) c
      exact ⟨events, printed⟩
    obtain ⟨inner, inside⟩ := printed_template holes e.template level
    have course := inside.course
    have within := inside.within
    rw [level] at course within
    rw [Expr.print_eq, opened, if_pos rfl, Expr.textWithin]
    exact ⟨_, printed_leave room inside, .inr ⟨room, inner, rfl, course, within⟩⟩

end Printer

/-! ### Items one after the other -/

/-- What is printed by itself: an expression, the record of one of any kind, or a part. Only
the expression opens a level of its own. -/
inductive Item where
  | expr (e : Expr)
  | record (e : Expr)
  | construction (c : Construction Expr)
  | elementInit (i : ElementInit Expr)
  | binding (b : Binding Expr)
  | switchCase (c : Case Expr)
  | handler (h : Handler Expr)
  | param (p : Param)
  | target (t : Target)

namespace Item

def template : Item → Template Expr
  | expr e => [.hole e]
  | record e => e.template
  | construction c => c.template
  | elementInit i => i.template
  | binding b => b.template
  | switchCase c => c.template
  | handler h => [.text h.text]
  | param p => [.text p.text]
  | target t => [.text t.text]

/-- Prints to a text of its own; gives the text and the counter after it. -/
def print (item : Item) (depth : Nat) : String × Nat :=
  let p := Expr.printTemplate item.template ⟨"", depth, []⟩
  (p.written, p.depth)

/-- Prints items in turn, each from the counter that the one before it has left. -/
def printAll : List Item → (depth : Nat) → List (String × Nat)
  | [], _ => []
  | item :: items, depth => item.print depth :: printAll items (item.print depth).2

/-- An item printed while no level is open has the text of all levels and leaves none open. -/
theorem print_zero (item : Item) : item.print 0 = (Expr.partText item.template, 0) := by
  have holes : ∀ (e : Expr) (p : Printer), p.depth = 0 →
      ∃ events, p.Printed e.text events (e.print p) := by
    intro e p outside
    obtain ⟨events, printed, -⟩ := Printer.printed_print (p := p) (by rw [outside, Nat.zero_add]) e
    exact ⟨events, printed⟩
  obtain ⟨events, printed⟩ := Printer.printed_template holes item.template (p := ⟨"", 0, []⟩) rfl
  have written := printed.written
  rw [String.empty_append] at written
  exact Prod.ext written printed.depth

theorem printAll_zero (items : List Item) :
    printAll items 0 = items.map fun item => ((item.print 0).1, 0) := by
  induction items with
  | nil => rfl
  | cons item items ih =>
    have restored : (item.print 0).2 = 0 := by rw [print_zero]
    rw [printAll, List.map_cons, restored, ih, ← Prod.eta (item.print 0), restored]

end Item

namespace Expr

/-- Printing writes the text of the levels that are left, and the counter goes back to where
it was on a course that stays between there and the last level; no level is closed that is
not open, and the level of the expression is opened first and closed last. Items that are
printed in turn from no open level have the texts they have alone, which are those of all
levels, and leave no level open. -/
theorem print_restores :
    (∀ (e : Expr) (p : Printer), p.depth ≤ textLevels →
      ∃ events, e.print p = ⟨p.written ++ e.textWithin (textLevels - p.depth), p.depth,
          p.journal ++ events⟩ ∧
        LevelEvent.Course p.depth events p.depth ∧
        (∀ event ∈ events, (p.depth ≤ event.found ∧ event.found ≤ textLevels) ∧
          (p.depth ≤ event.left ∧ event.left ≤ textLevels) ∧
          ∀ n, event = .closed n → 0 < n) ∧
        LevelEvent.Enclosed p.depth events) ∧
    ∀ items : List Item,
      Item.printAll items 0 = items.map (fun item => ((item.print 0).1, 0)) ∧
      ∀ item ∈ items, (item.print 0).1 = partText item.template := by
  refine ⟨fun e p within => ?_, fun items => ⟨Item.printAll_zero items, fun item _ => ?_⟩⟩
  · obtain ⟨events, printed, enclosed⟩ := Printer.printed_print (Nat.add_sub_of_le within) e
    refine ⟨events, ?_, printed.course, printed.within, enclosed⟩
    rw [← printed.written, ← printed.journal]
    conv => rhs; rw [← printed.depth]
  · rw [Item.print_zero]

/-- A negation on the last level but one: it opens that level and what it negates is refused. -/
theorem print_restores_last_level :
    let negation : Expr := .unary .not (.parameter (.named .bool "x")) .bool
    63 ≤ textLevels ∧ ∃ events, negation.print ⟨"", 63, []⟩ = ⟨"Not(...)", 63, events⟩ ∧
      LevelEvent.Course 63 events 63 := by
  intro negation
  obtain ⟨events, printed, course, -⟩ := print_restores.1 negation ⟨"", 63, []⟩ (by decide)
  have text : "" ++ negation.textWithin 1 = "Not(...)" := by decide
  exact ⟨by decide, events, printed.trans (by rw [← text]; rfl), course⟩

end Expr

end ExprDisplay
