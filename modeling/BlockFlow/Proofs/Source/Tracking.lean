import BlockFlow.Proofs.Source.Declaring
import Mathlib.Data.List.Induction
import Mathlib.Data.List.Nodup

/-!
# How names come into scope and go out of it

Names are introduced one after the other, and blocks are entered and left in between. Whatever
happens, a name stands in one scope at most (`Apart`). With a scope for every block the scopes
around a block are a part of the scopes inside it that nothing in the block can change
(`exists_enclosing_play`), so they are back at its end. With one scope for all blocks it makes no
difference where they begin and end (`play_filter`).
-/

namespace BlockFlow

/-- Something that happens to the names in scope. -/
inductive Scopes.Event where
  | introduce (name : Text)
  | enter
  | leave
deriving DecidableEq, Repr

namespace Scopes.Event

/-- The name that is introduced. -/
def name? : Event → Option Text
  | .introduce name => some name
  | _ => none

/-- The number of blocks that are open after events, given the number before them. There is none if
a block is left that was not entered. -/
def depth? : Nat → List Event → Option Nat
  | depth, [] => some depth
  | depth, .introduce _ :: rest => depth? depth rest
  | depth, .enter :: rest => depth? (depth + 1) rest
  | 0, .leave :: _ => none
  | depth + 1, .leave :: rest => depth? depth rest

/-- The depth after some events is the one that the events after them start with. -/
theorem depth?_append (depth : Nat) (xs ys : List Event) :
    depth? depth (xs ++ ys) = (depth? depth xs).bind (depth? · ys) := by
  fun_induction depth? depth xs with
  | case1 => rfl
  | case2 _ _ _ ih => exact ih
  | case3 _ _ ih => exact ih
  | case4 => rfl
  | case5 _ _ ih => exact ih

/-- Introducing a name opens and closes nothing. -/
theorem depth?_concat_introduce (depth : Nat) (events : List Event) (name : Text) :
    depth? depth (events ++ [.introduce name]) = depth? depth events := by
  simp [depth?_append, depth?]

/-- Entering a block opens one more. -/
theorem depth?_concat_enter (depth : Nat) (events : List Event) :
    depth? depth (events ++ [.enter]) = (depth? depth events).map (· + 1) := by
  rw [depth?_append]
  cases depth? depth events <;> rfl

/-- Leaving a block takes one that is open. -/
theorem depth?_concat_leave_iff {depth opened : Nat} {events : List Event} :
    depth? depth (events ++ [.leave]) = some opened ↔ depth? depth events = some (opened + 1) := by
  rw [depth?_append]
  rcases depth? depth events with _ | _ | before <;> simp [depth?]

/-- A name was introduced in a block that is still open, and at least so many blocks are open that
were entered since. -/
def Introduced (name : Text) (least : Nat) (events : List Event) : Prop :=
  ∃ later depth, .introduce name :: later <:+ events ∧ depth? 0 later = some depth ∧ least ≤ depth

namespace Introduced

variable {name other : Text} {least : Nat} {events : List Event} {event : Event}

/-- At the start no name was introduced. -/
theorem not_nil : ¬ Introduced name least [] := by
  simp [Introduced]

/-- The last event is the one that introduces the name, or it is one of those after it. -/
theorem concat_iff : Introduced name least (events ++ [event]) ↔
    (event = .introduce name ∧ least = 0) ∨
      ∃ later depth, .introduce name :: later <:+ events ∧
        depth? 0 (later ++ [event]) = some depth ∧ least ≤ depth := by
  constructor
  · rintro ⟨later, depth, hsuffix, hdepth, hle⟩
    obtain h | ⟨front, hfront, hevents⟩ := List.suffix_concat_iff.mp hsuffix
    · -- A list that starts with the introduction is not empty.
      cases h
    -- The introduction is the last event itself, or there are events in front of that one.
    · cases front with
      | nil =>
        obtain ⟨rfl, rfl⟩ := List.cons.inj hfront
        obtain rfl : 0 = depth := Option.some.inj hdepth
        exact Or.inl ⟨rfl, Nat.le_zero.mp hle⟩
      | cons first front =>
        obtain ⟨rfl, rfl⟩ := List.cons.inj hfront
        exact Or.inr ⟨front, depth, hevents, hdepth, hle⟩
  · rintro (⟨rfl, rfl⟩ | ⟨later, depth, hsuffix, hdepth⟩)
    · exact ⟨[], 0, List.suffix_append _ _, rfl, Nat.le_refl 0⟩
    · exact ⟨later ++ [event], depth, List.suffix_concat_iff.mpr (Or.inr ⟨_, rfl, hsuffix⟩), hdepth⟩

/-- A name that is introduced stands in the innermost block. -/
theorem concat_introduce_iff : Introduced name least (events ++ [.introduce other]) ↔
    (other = name ∧ least = 0) ∨ Introduced name least events := by
  simp only [concat_iff, depth?_concat_introduce, introduce.injEq]
  rfl

/-- When a block is entered, the others are one further out. -/
theorem concat_enter_iff :
    Introduced name least (events ++ [.enter]) ↔ Introduced name (least - 1) events := by
  rw [concat_iff]
  simp [depth?_concat_enter, Introduced]

/-- When a block is left, its names are gone and the others are one further in. -/
theorem concat_leave_iff :
    Introduced name least (events ++ [.leave]) ↔ Introduced name (least + 1) events := by
  simp only [concat_iff, depth?_concat_leave_iff, reduceCtorEq, false_and, false_or]
  constructor
  · rintro ⟨later, depth, hsuffix, hdepth, hle⟩
    exact ⟨later, depth + 1, hsuffix, hdepth, Nat.succ_le_succ hle⟩
  · rintro ⟨later, _ | depth, hsuffix, hdepth, hle⟩
    · cases hle
    · exact ⟨later, depth, hsuffix, hdepth, Nat.le_of_succ_le_succ hle⟩

end Introduced

end Scopes.Event

namespace Scopes

/-- The scopes after events, and for each name that is introduced whether it was new. -/
def play : Scopes → List Event → List Bool × Scopes
  | s, [] => ([], s)
  | s, .introduce name :: rest =>
    let declared := s.declare name
    let later := declared.2.play rest
    (declared.1 :: later.1, later.2)
  | s, .enter :: rest => s.enter.play rest
  | s, .leave :: rest => s.leave.play rest

/-- Events in a row give their answers in a row. -/
theorem play_append (s : Scopes) (xs ys : List Event) :
    s.play (xs ++ ys) =
      ((s.play xs).1 ++ ((s.play xs).2.play ys).1, ((s.play xs).2.play ys).2) := by
  fun_induction play s xs with
  | case1 => rfl
  | case2 s name rest declared later ih => simp [play, declared, later, ih]
  | case3 s rest ih => exact ih
  | case4 s rest ih => exact ih

/-! ## No name in two scopes -/

/-- No name stands in two scopes, or twice in one. -/
def Apart (s : Scopes) : Prop :=
  s.all.flatten.Nodup

namespace Apart

/-- At the start there are no names. -/
theorem new (blockScoped : Bool) : (new blockScoped).Apart :=
  List.nodup_nil

variable {s : Scopes}

/-- A name is introduced only if it stands in no scope. -/
theorem declare (h : s.Apart) (name : Text) : (s.declare name).2.Apart := by
  unfold Scopes.declare
  split
  · exact h
  · rename_i hnew
    refine List.nodup_cons.mpr ⟨?_, h⟩
    simpa [isDeclared, all] using hnew

/-- A new scope has no names. -/
theorem enter (h : s.Apart) : s.enter.Apart := by
  unfold Scopes.enter
  split
  · exact h
  · exact h

/-- Leaving a block removes names at most. -/
theorem leave (h : s.Apart) : s.leave.Apart := by
  unfold Scopes.leave
  split
  · rename_i outer rest _ henclosing
    have hsub : (outer :: rest).flatten.Sublist s.all.flatten := by
      rw [all, henclosing]
      exact List.sublist_append_right _ _
    exact h.sublist hsub
  · exact h

/-- Whatever happens, no name stands in two scopes. -/
theorem play (h : s.Apart) (events : List Event) : (s.play events).2.Apart := by
  fun_induction Scopes.play s events with
  | case1 => exact h
  | case2 s name rest declared later ih => exact ih (h.declare name)
  | case3 s rest ih => exact ih h.enter
  | case4 s rest ih => exact ih h.leave

end Apart

/-! ## A scope for every block -/

/-- The scopes around a block are not touched inside it, however many blocks are entered there. -/
theorem exists_enclosing_play {s : Scopes} (hs : s.blockScoped = true)
    {inner outer : List (List Text)} (henclosing : s.enclosing = inner ++ outer)
    {events : List Event} {depth : Nat}
    (h : Event.depth? inner.length events = some depth) :
    ∃ opened, (s.play events).2.enclosing = opened ++ outer ∧ opened.length = depth := by
  induction events generalizing s inner with
  | nil => exact ⟨inner, henclosing, by simpa [Event.depth?] using h⟩
  | cons event rest ih =>
    cases event with
    | introduce name =>
      rw [Event.depth?] at h
      exact ih (by simpa using hs) (by simpa using henclosing) h
    | enter =>
      have hinside : s.enter.enclosing = (s.current :: inner) ++ outer := by
        simp [enter, hs, henclosing]
      exact ih (by simpa using hs) hinside h
    | leave =>
      cases inner with
      | nil => cases h
      | cons scope inner =>
        have houtside : s.leave.enclosing = inner ++ outer := by simp [leave, hs, henclosing]
        exact ih (by simpa using hs) houtside h

/-- Events do not change the mode. -/
theorem blockScoped_play (s : Scopes) (events : List Event) :
    (s.play events).2.blockScoped = s.blockScoped := by
  fun_induction play s events with
  | case1 => rfl
  | case2 s name rest declared later ih => simpa [declared] using ih
  | case3 s rest ih => simpa using ih
  | case4 s rest ih => simpa using ih

/-- A block leaves nothing behind. -/
theorem play_block {s : Scopes} (hs : s.blockScoped = true) {block : List Event}
    (h : Event.depth? 0 block = some 0) : (s.play (.enter :: block ++ [.leave])).2 = s := by
  have hinside : s.enter.blockScoped = true := by simpa using hs
  obtain ⟨opened, henclosing, hlength⟩ :=
    exists_enclosing_play hinside (List.nil_append s.enter.enclosing).symm h
  rw [List.eq_nil_of_length_eq_zero hlength, List.nil_append] at henclosing
  have hleave := leave_eq hs ((blockScoped_play s.enter block).trans hinside) henclosing
  rw [List.cons_append, play, play_append]
  exact hleave

/-- There is a scope around the innermost one for every open block. -/
theorem length_enclosing_play_new {events : List Event} {depth : Nat}
    (h : Event.depth? 0 events = some depth) :
    ((new true).play events).2.enclosing.length = depth := by
  obtain ⟨opened, henclosing, hlength⟩ :=
    exists_enclosing_play (s := new true) rfl (List.append_nil []).symm h
  rw [henclosing, List.append_nil]
  exact hlength

/-- The names in all scopes are those in scope. -/
theorem mem_flatten_all {s : Scopes} {name : Text} :
    name ∈ s.all.flatten ↔ s.isDeclared name = true := by
  simp [isDeclared]

/-- Introducing a name adds it to the innermost scope, unless it is in scope already. -/
theorem mem_drop_all_declare {s : Scopes} {name other : Text} {least : Nat} :
    name ∈ ((s.declare other).2.all.drop least).flatten ↔
      (other = name ∧ least = 0) ∨ name ∈ (s.all.drop least).flatten := by
  cases least with
  | zero =>
    rw [List.drop_zero, List.drop_zero, mem_flatten_all, mem_flatten_all, isDeclared_declare]
    simp only [Bool.or_eq_true, beq_iff_eq, and_true]
    rw [or_comm, eq_comm]
  | succ least => simp [all]

/-- Entering a block puts an empty scope in front of the others. -/
theorem mem_drop_all_enter {s : Scopes} (hs : s.blockScoped = true) {name : Text} {least : Nat} :
    name ∈ (s.enter.all.drop least).flatten ↔ name ∈ (s.all.drop (least - 1)).flatten := by
  have hall : s.enter.all = [] :: s.all := by simp [enter, hs, all]
  rw [hall]
  cases least <;> rfl

/-- Leaving a block drops the innermost scope. -/
theorem all_leave {s : Scopes} (hs : s.blockScoped = true) (h : s.enclosing ≠ []) :
    s.leave.all = s.all.drop 1 := by
  obtain ⟨outer, rest, henclosing⟩ := List.exists_cons_of_ne_nil h
  simp [leave, hs, henclosing, all]

/-- With block scoping, the names in scope around some of the innermost blocks are those that were
introduced around them. -/
theorem mem_drop_all_play_new {events : List Event} {depth : Nat}
    (h : Event.depth? 0 events = some depth) (name : Text) (least : Nat) :
    name ∈ (((new true).play events).2.all.drop least).flatten ↔
      Event.Introduced name least events := by
  -- What the last event does depends on how many blocks are open before it, so the induction takes
  -- events off the end.
  induction events using List.reverseRecOn generalizing depth least with
  | nil =>
    refine iff_of_false ?_ Event.Introduced.not_nil
    cases least <;> simp [play, new, all]
  | append_singleton events event ih =>
    have hs := blockScoped_play (new true) events
    rw [play_append]
    cases event with
    | introduce other =>
      rw [Event.depth?_concat_introduce] at h
      rw [Event.Introduced.concat_introduce_iff, ← ih h]
      exact mem_drop_all_declare
    | enter =>
      rw [Event.depth?_concat_enter] at h
      obtain ⟨before, hbefore, -⟩ := Option.map_eq_some_iff.mp h
      rw [Event.Introduced.concat_enter_iff, ← ih hbefore]
      exact mem_drop_all_enter hs
    | leave =>
      rw [Event.depth?_concat_leave_iff] at h
      have hne : ((new true).play events).2.enclosing ≠ [] :=
        List.ne_nil_of_length_eq_add_one (length_enclosing_play_new h)
      rw [Event.Introduced.concat_leave_iff, ← ih h, Nat.add_comm least 1, ← List.drop_drop,
        ← all_leave hs hne]
      rfl

/-! ## One scope for all blocks -/

/-- Without block scoping it makes no difference where blocks begin and end. -/
theorem play_filter {s : Scopes} (hs : s.blockScoped = false) (events : List Event) :
    s.play (events.filter (·.name?.isSome)) = s.play events := by
  fun_induction play s events with
  | case1 => rfl
  | case2 s name rest declared later ih =>
    have hrest := ih (by simpa [declared] using hs)
    simp [Event.name?, play, declared, later, ← hrest]
  | case3 s rest ih =>
    rw [enter_eq_self hs] at ih ⊢
    exact ih hs
  | case4 s rest ih =>
    rw [leave_eq_self hs] at ih ⊢
    exact ih hs

/-- Without the limits of blocks only names are left. -/
theorem Event.filter_eq_map (events : List Event) :
    events.filter (·.name?.isSome) = (events.filterMap name?).map .introduce := by
  induction events with
  | nil => rfl
  | cons event rest ih =>
    cases event with
    | introduce name => exact congrArg (introduce name :: ·) ih
    | enter => exact ih
    | leave => exact ih

/-- Names alone open no scopes. -/
theorem enclosing_play_map (s : Scopes) (names : List Text) :
    (s.play (names.map .introduce)).2.enclosing = s.enclosing := by
  induction names generalizing s with
  | nil => rfl
  | cons name rest ih => simp [play, ih]

/-- A name is new if it was not in scope at the start and was not introduced since. -/
theorem fst_play_map (s : Scopes) (names : List Text) :
    (s.play (names.map .introduce)).1 =
      names.mapIdx fun i name => decide (s.isDeclared name = false ∧ name ∉ names.take i) := by
  induction names generalizing s with
  | nil => rfl
  | cons name rest ih => simp [play, ih, isDeclared_declare, and_assoc]

/-! ## The laws -/

/-- How many scopes there are after events from the start. -/
theorem length_all_play_new {events : List Event} {depth : Nat}
    (h : Event.depth? 0 events = some depth) (blockScoped : Bool) :
    ((new blockScoped).play events).2.all.length = if blockScoped then depth + 1 else 1 := by
  -- Without block scoping only the names matter, and names open no scopes.
  cases blockScoped with
  | true => exact congrArg (· + 1) (length_enclosing_play_new h)
  | false =>
    rw [← play_filter rfl, Event.filter_eq_map, all, enclosing_play_map]
    rfl

/-- The laws of scopes, after any events from the start. There is a scope for every open block and
one more, or only one without block scoping, and no name stands in two. With block scoping the names
in scope are those that were introduced in blocks still open, and a block that is left leaves the
scopes as they were before it, whatever it introduced. Without it, the scopes and the answers are
those of the introduced names alone, and a name is new when it is introduced for the first time. -/
theorem play_new_laws {events : List Event} {depth : Nat} (h : Event.depth? 0 events = some depth) :
    (∀ blockScoped : Bool,
      ((new blockScoped).play events).2.all.length = (if blockScoped then depth + 1 else 1) ∧
      ((new blockScoped).play events).2.all.Pairwise List.Disjoint ∧
      ∀ scope ∈ ((new blockScoped).play events).2.all, scope.Nodup) ∧
    (∀ name, ((new true).play events).2.isDeclared name = true ↔
      ∃ later opened, .introduce name :: later <:+ events ∧ Event.depth? 0 later = some opened) ∧
    (∀ block, Event.depth? 0 block = some 0 →
      ((new true).play (events ++ (.enter :: block ++ [.leave]))).2 = ((new true).play events).2) ∧
    (new false).play events = (new false).play (events.filter (·.name?.isSome)) ∧
    ((new false).play events).1 = (events.filterMap Event.name?).mapIdx fun i name =>
      decide (name ∉ (events.filterMap Event.name?).take i) := by
  have hfilter := play_filter (s := new false) rfl events
  refine ⟨fun blockScoped => ?_, fun name => ?_, fun block hblock => ?_, hfilter.symm, ?_⟩
  · obtain ⟨hnodup, hdisjoint⟩ := List.nodup_flatten.mp ((Apart.new blockScoped).play events)
    exact ⟨length_all_play_new h blockScoped, hdisjoint, hnodup⟩
  · rw [← mem_flatten_all]
    simpa [Event.Introduced] using mem_drop_all_play_new h name 0
  · rw [play_append]
    exact play_block (blockScoped_play (new true) events) hblock
  · rw [← hfilter, Event.filter_eq_map, fst_play_map]
    simp

/-- Names that come back in blocks still open. -/
def recurring : List Event :=
  [.introduce "x", .enter, .introduce "y", .enter, .introduce "x"]

/-- A block with a block inside it, whose names are partly in scope already. -/
def nestedBlock : List Event :=
  [.introduce "y", .introduce "z", .enter, .introduce "w", .leave, .introduce "w"]

/-- With block scoping the inner block adds nothing, and without it the second `x` is not new. -/
theorem play_new_laws_recurring :
    Event.depth? 0 recurring = some 2 ∧ Event.depth? 0 nestedBlock = some 0 ∧
    ((new true).play recurring).2.all.length = 3 ∧
    ((new true).play (recurring ++ (.enter :: nestedBlock ++ [.leave]))).2 =
      ((new true).play recurring).2 ∧
    ((new false).play recurring).1 = [true, true, false] := by
  have hdepth : Event.depth? 0 recurring = some 2 := rfl
  have hnested : Event.depth? 0 nestedBlock = some 0 := rfl
  obtain ⟨hscopes, -, hblock, -, hanswers⟩ := play_new_laws hdepth
  exact ⟨hdepth, hnested, (hscopes true).1, hblock nestedBlock hnested, hanswers.trans (by decide)⟩

end Scopes

end BlockFlow
