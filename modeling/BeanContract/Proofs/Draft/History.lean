/-
Drafts through their histories.

The first reset of a draft that succeeds draws a primary value for every property that gets
one, and stages these alone.  From then on the draft and its copies go back to these very
values without a draw, whatever was done to them in between and whatever the context has
become.  A reset that fails leaves the draft as it was.

Drafts are worked on at a bench, next to the one context that all of them use.  A move makes a
draft, copies one, does something to one, or changes the context from outside.  What carries
the result is that no move takes the values away that a draft remembers.
-/
import BeanContract.Proofs.Draft.Candidates

namespace BeanContract

open Effect (Keeps)

variable {H : Host} {α γ : Type}

/-! ## What a stage leaves of a draft -/

/-- Whatever becomes of the stage, the part of the draft that `part` reads stays. -/
def Stage.Leaves (part : Draft H → γ) (x : Stage H α) : Prop := Keeps (fun s => part s.1) x

namespace Stage

variable {part : Draft H → γ}

theorem leaves_ofRun (x : Run H α) : Leaves part (ofRun x) := by
  refine Keeps.zoom_of_put ?_ x
  intro s c
  rfl

theorem leaves_draft : Leaves part (draft (H := H)) := fun _ => rfl

theorem leaves_context : Leaves part (context (H := H)) := fun _ => rfl

theorem leaves_probe (f : Draft H → Probe H α) : Leaves part (probe f) :=
  Keeps.bind leaves_draft fun d => leaves_ofRun (Run.ofProbe (f d))

theorem leaves_change {f : Draft H → Draft H} (h : ∀ d, part (f d) = part d) :
    Leaves part (change f) :=
  Keeps.modify fun s => h s.1

section

variable (hput : ∀ d n v, part (Draft.put d n v) = part d)
include hput

theorem leaves_setProperty (n : String) (v : Value H) : Leaves part (setProperty n v) := by
  refine Keeps.bind leaves_draft fun d => ?_
  split
  · refine Keeps.bind (leaves_probe _) fun before => ?_
    refine Keeps.bind (leaves_change fun d => hput d n v) fun _ => ?_
    exact Keeps.bind (leaves_probe _) fun after => .pure _
  · exact Keeps.bind (leaves_change fun d => hput d n v) fun _ => .pure _

theorem leaves_setAll (create : Creator H) (channel : Channel) (nulls : Bool) :
    Leaves part (setAll create channel nulls) := by
  refine Keeps.bind leaves_draft fun d => ?_
  refine Keeps.each (fun n => Keeps.bind leaves_draft fun d => ?_) d.blueprint.staged
  exact Keeps.bind (leaves_ofRun _) fun v => leaves_change fun d => hput d n v

end

/-! ## Resets -/

variable {create : Creator H} {d e : Draft H} {c c' : Context H} {values : Table String (Value H)}

/-- A draft that remembers values goes back to them; one that does not draws them first. -/
theorem reset_eq (create : Creator H) (d : Draft H) (c : Context H) :
    reset create (d, c) = match d.initial with
      | some values => .ok () ({ d with expected := values }, c)
      | none => match d.drawPrimary create d.blueprint.staged .empty c with
        | .ok values c' => .ok () ({ d with initial := some values, expected := values }, c')
        | .error e c' => .error e (d, c') := by
  obtain ⟨b, expected, initial, preference⟩ := d
  cases initial with
  | some values => rfl
  | none =>
    show EStateM.bind (ofRun _) _ _ = _
    unfold EStateM.bind ofRun Effect.zoom Effect.focus
    dsimp only
    cases Draft.drawPrimary create _ _ Table.empty c <;> rfl

theorem reset_of_initial (hd : d.initial = some values) :
    reset create (d, c) = .ok () ({ d with expected := values }, c) := by
  rw [reset_eq, hd]

theorem reset_of_none (hd : d.initial = none) {u : Unit} :
    reset create (d, c) = .ok u (e, c') ↔
      ∃ values, d.drawPrimary create d.blueprint.staged .empty c = .ok values c' ∧
        e = { d with initial := some values, expected := values } := by
  rw [reset_eq, hd]
  dsimp only
  cases d.drawPrimary create d.blueprint.staged .empty c with
  | ok values c₁ =>
    constructor
    · intro h
      cases h
      exact ⟨values, rfl, rfl⟩
    · rintro ⟨values', h, rfl⟩
      cases h
      rfl
  | error e' c₁ => simp

/-- A reset that fails leaves the draft as it was. -/
theorem reset_error {h : Halt} (hreset : reset create (d, c) = .error h (e, c')) : e = d := by
  rw [reset_eq] at hreset
  cases hd : d.initial with
  | some values => simp [hd] at hreset
  | none =>
    simp only [hd] at hreset
    cases hdraw : d.drawPrimary create d.blueprint.staged .empty c with
    | ok values c₁ => simp [hdraw] at hreset
    | error e' c₁ =>
      rw [hdraw] at hreset
      cases hreset
      rfl

end Stage

/-! ## Primary values -/

/-- What gets a value are the parameters and the tested properties. -/
theorem Blueprint.mem_staged_iff {b : Blueprint H} {n : String} :
    n ∈ b.staged ↔ b.isParameter n = true ∨ b.isTestable n = true := by
  unfold staged
  rw [List.mem_filter, Bool.or_eq_true, and_iff_right_iff_imp]
  intro h
  unfold propertyNames
  by_cases hparameter : b.creator.contains n = true
  · exact List.mem_append_left _ (Model.contains_iff.1 hparameter)
  · refine List.mem_append_right _ (List.mem_filter.2 ⟨?_, by simpa using hparameter⟩)
    -- A tested property that is no parameter is written through an accessor.
    have htestable := h.resolve_left hparameter
    have hwritable := isWritable_of_testable htestable (by simpa [isParameter] using hparameter)
    unfold isWritable at hwritable
    cases hget : b.bean.get? n with
    | none => simp [hget] at hwritable
    | some p => exact Model.contains_iff.1 (by simp [Model.contains, hget])

namespace Draft

variable {create : Creator H} {d : Draft H} {c c' : Context H}

/-- A table filled from lists of names and values, later entries before earlier ones. -/
def fill (names : List String) (draws : List (Value H)) (t : Table String (Value H)) :
    Table String (Value H) :=
  (names.zip draws).foldl (fun t e => t.insert e.1 e.2) t

theorem get?_fill (names : List String) (draws : List (Value H)) (t : Table String (Value H))
    (n : String) :
    (fill names draws t).get? n = ((names.zip draws).reverse.lookup n).or (t.get? n) := by
  unfold fill
  induction names.zip draws generalizing t with
  | nil => rfl
  | cons e l ih =>
    rw [List.foldl_cons, ih, Table.get?_insert, List.reverse_cons, List.lookup_append,
      Option.or_assoc]
    obtain ⟨m, v⟩ := e
    congr 1
    by_cases hn : n = m
    · subst hn
      rw [if_pos rfl, List.lookup_cons_self, Option.some_or]
    · have hnone : List.lookup n [(m, v)] = none :=
        List.lookup_eq_none_iff.2 fun p hp => by
          rw [List.mem_singleton.1 hp]
          exact bne_iff_ne.2 hn
      rw [if_neg hn, hnone, Option.none_or]

/-- The primary values are drawn in order, and each is kept under its name. -/
theorem drawPrimary_eq_ok {names : List String} {t t' : Table String (Value H)} :
    d.drawPrimary create names t c = .ok t' c' ↔
      ∃ draws, Effect.gather (fun n => d.draw create n .primary) names c = .ok draws c' ∧
        t' = fill names draws t := by
  induction names generalizing t c with
  | nil =>
    constructor
    · intro h
      obtain ⟨rfl, rfl⟩ := Effect.pure_eq_ok.1 h
      exact ⟨[], rfl, rfl⟩
    · rintro ⟨draws, h, rfl⟩
      obtain ⟨rfl, rfl⟩ := Effect.pure_eq_ok.1 h
      rfl
  | cons n names ih =>
    constructor
    · intro h
      obtain ⟨v, c₁, hv, h⟩ := Effect.bind_eq_ok.1 h
      obtain ⟨draws, hdraws, rfl⟩ := ih.1 h
      refine ⟨v :: draws, Effect.bind_eq_ok.2 ⟨v, c₁, hv, ?_⟩, rfl⟩
      exact Effect.bind_eq_ok.2 ⟨draws, c', hdraws, rfl⟩
    · rintro ⟨draws, h, rfl⟩
      obtain ⟨v, c₁, hv, h⟩ := Effect.bind_eq_ok.1 h
      obtain ⟨rest, c₂, hrest, h⟩ := Effect.bind_eq_ok.1 h
      obtain ⟨rfl, rfl⟩ := Effect.pure_eq_ok.1 h
      exact Effect.bind_eq_ok.2 ⟨v, c₁, hv, ih.2 ⟨rest, hrest, rfl⟩⟩

/-- The draft `e` is `d` with primary values that were drawn from context `c` on: those of the
properties that get a value are staged, and nothing else, and the draft remembers them. -/
structure Primed (d : Draft H) (c : Context H) (e : Draft H) (c' : Context H) : Prop where
  drawn : ∃ draws, Effect.gather (fun n => d.draw Run.create n .primary) d.blueprint.staged c =
      .ok draws c' ∧
    ∀ n, e.expected.get? n = (d.blueprint.staged.zip draws).reverse.lookup n
  staged : ∀ n, (e.expected.get? n).isSome = true ↔
    d.blueprint.isParameter n = true ∨ d.blueprint.isTestable n = true
  rest : e = { d with initial := some e.expected, expected := e.expected }

theorem primed_of_reset {e : Draft H} {u : Unit} (hd : d.initial = none)
    (h : Stage.reset Run.create (d, c) = .ok u (e, c')) : d.Primed c e c' := by
  obtain ⟨values, hvalues, rfl⟩ := (Stage.reset_of_none hd).1 h
  obtain ⟨draws, hdraws, rfl⟩ := drawPrimary_eq_ok.1 hvalues
  have hget : ∀ n, (fill d.blueprint.staged draws .empty).get? n =
      (d.blueprint.staged.zip draws).reverse.lookup n := by
    intro n
    rw [get?_fill, Table.get?_empty, Option.or_none]
  refine ⟨⟨draws, hdraws, hget⟩, fun n => ?_, rfl⟩
  have hlength : d.blueprint.staged.length = draws.length := by
    obtain ⟨-, hall⟩ := Effect.gather_eq_ok (I := fun _ => True) (P := fun _ _ => True)
      (fun _ _ _ _ _ _ _ => ⟨trivial, trivial⟩) trivial hdraws
    exact hall.length_eq
  show ((fill d.blueprint.staged draws .empty).get? n).isSome = true ↔ _
  rw [hget, ← Blueprint.mem_staged_iff, List.lookup_isSome_iff]
  have hnames := List.map_fst_zip (Nat.le_of_eq hlength)
  constructor
  · rintro ⟨p, hp, hn⟩
    rw [eq_of_beq hn, ← hnames]
    exact List.mem_map_of_mem (List.mem_reverse.1 hp)
  · intro hn
    rw [← hnames] at hn
    obtain ⟨p, hp, rfl⟩ := List.mem_map.1 hn
    exact ⟨p, List.mem_reverse.2 hp, beq_self_eq_true p.1⟩

end Draft

/-! ## A bench -/

inductive Deed (H : Host) where
  | put (name : String) (v : Value H)
  | leaveOut (name : String)
  | restore (name : String) (before : Option (Value H))
  | setProperty (name : String) (v : Value H)
  | setAll (channel : Channel) (nulls : Bool)
  | prefer (p : Preference)
  | reset

namespace Deed

def run : Deed H → Stage H Unit
  | put n v => Stage.change (·.put n v)
  | leaveOut n => Stage.change (·.leaveOut n)
  | restore n before => Stage.change (·.restore n before)
  | setProperty n v => do
    let _ ← Stage.setProperty n v
  | setAll channel nulls => Stage.setAll Run.create channel nulls
  | prefer p => Stage.change (·.prefer p)
  | reset => Stage.reset Run.create

def resets (a : Deed H) (s : Draft H × Context H) : Bool :=
  match a, a.run s with
  | reset, .ok _ _ => true
  | _, _ => false

/-- Only a reset touches the values that a draft remembers. -/
theorem leaves_initial {a : Deed H} (ha : a ≠ reset) : Stage.Leaves Draft.initial a.run := by
  cases a with
  | put n v => exact Stage.leaves_change (f := (·.put n v)) fun _ => rfl
  | leaveOut n => exact Stage.leaves_change (f := (·.leaveOut n)) fun _ => rfl
  | restore n before => exact Stage.leaves_change (f := (·.restore n before)) fun _ => rfl
  | setProperty n v =>
    exact Keeps.bind (Stage.leaves_setProperty (fun _ _ _ => rfl) n v) fun _ => .pure _
  | setAll channel nulls => exact Stage.leaves_setAll (fun _ _ _ => rfl) _ channel nulls
  | prefer p => exact Stage.leaves_change (f := (·.prefer p)) fun _ => rfl
  | reset => exact absurd rfl ha

/-- What a draft remembers, it goes on to remember. -/
theorem initial_after {d : Draft H} {values : Table String (Value H)}
    (hd : d.initial = some values) (a : Deed H) (c : Context H) :
    (Effect.after (a.run (d, c))).1.initial = some values := by
  by_cases ha : a = reset
  · subst ha
    show (Effect.after (Stage.reset Run.create (d, c))).1.initial = _
    rw [Stage.reset_of_initial hd]
    exact hd
  · exact (leaves_initial ha (d, c)).trans hd

/-- A draft remembers values after a deed if it did before, or the deed is a reset that
succeeds. -/
theorem isSome_initial_after (a : Deed H) (d : Draft H) (c : Context H) :
    (Effect.after (a.run (d, c))).1.initial.isSome = (d.initial.isSome || a.resets (d, c)) := by
  by_cases ha : a = reset
  · subst ha
    show (Effect.after (Stage.reset Run.create (d, c))).1.initial.isSome = _
    cases hd : d.initial with
    | some values => simp [Stage.reset_of_initial hd, Effect.after, hd]
    | none =>
      cases hreset : Stage.reset Run.create (d, c) with
      | ok u s =>
        obtain ⟨values, -, hs⟩ := (Stage.reset_of_none hd).1 hreset
        simp [Effect.after, resets, run, hreset, hs]
      | error h s =>
        simp [Effect.after, resets, run, hreset, Stage.reset_error hreset, hd]
  · have hresets : a.resets (d, c) = false := by
      unfold resets
      split
      · exact absurd rfl ha
      · rfl
    rw [hresets, Bool.or_false]
    exact congrArg Option.isSome (leaves_initial ha (d, c))

end Deed

/-- A draft on a bench, and whether it was reset with success: the draft itself, or an earlier
one that it is a copy of. -/
structure Laid (H : Host) where
  draft : Draft H
  wasReset : Bool

structure Bench (H : Host) where
  drafts : List (Laid H)
  context : Context H

inductive Move (H : Host) where
  /-- Lay down a new draft of a blueprint. -/
  | make (b : Blueprint H)
  /-- Lay down a copy of a draft. -/
  | copy (i : Nat)
  /-- Do something to a draft, whether it succeeds or not. -/
  | act (i : Nat) (a : Deed H)
  /-- Find the context changed. -/
  | elsewhere (c : Context H)

def Lamp.bare : Context Lamp.host := .start Settings.standard .empty 0 ()

namespace Bench

def start (c : Context H) : Bench H := ⟨[], c⟩

def lay (s : Bench H) (l : Laid H) : Bench H := { s with drafts := s.drafts ++ [l] }

def copy (s : Bench H) (i : Nat) : Bench H :=
  match s.drafts[i]? with
  | some l => s.lay l
  | none => s

/-- The draft and the context stay as the deed leaves them, also if it fails. -/
def act (s : Bench H) (i : Nat) (a : Deed H) : Bench H :=
  match s.drafts[i]? with
  | some l =>
    let t := Effect.after (a.run (l.draft, s.context))
    { drafts := s.drafts.set i ⟨t.1, l.wasReset || a.resets (l.draft, s.context)⟩, context := t.2 }
  | none => s

def move (s : Bench H) : Move H → Bench H
  | .make b => s.lay ⟨.ofBlueprint b, false⟩
  | .copy i => s.copy i
  | .act i a => s.act i a
  | .elsewhere c => { s with context := c }

def run (s : Bench H) (moves : List (Move H)) : Bench H := moves.foldl move s

/-- The place of a draft after a move: its own, or that of the copy which is made of it. -/
def Heir (s : Bench H) (m : Move H) (i j : Nat) : Prop :=
  j = i ∨ m = .copy i ∧ j = s.drafts.length

/-- From the draft at place `i`, moves lead to that at place `j`, by copies of it and of its
copies. -/
inductive Descends : Bench H → Nat → List (Move H) → Nat → Prop where
  | here (s : Bench H) (i : Nat) : Descends s i [] i
  | step {s : Bench H} {i k j : Nat} {m : Move H} {moves : List (Move H)} :
      Heir s m i k → Descends (s.move m) k moves j → Descends s i (m :: moves) j

/-- The drafts that remember values are those that were reset. -/
def Tracked (s : Bench H) : Prop := ∀ l ∈ s.drafts, l.wasReset = l.draft.initial.isSome

theorem tracked_lay {s : Bench H} (hs : s.Tracked) {l : Laid H}
    (hl : l.wasReset = l.draft.initial.isSome) : (s.lay l).Tracked := by
  intro l' hl'
  rcases List.mem_append.1 hl' with hl' | hl'
  · exact hs l' hl'
  · rwa [List.mem_singleton.1 hl']

theorem tracked_act {s : Bench H} (hs : s.Tracked) (i : Nat) (a : Deed H) :
    (s.act i a).Tracked := by
  unfold act
  split
  · rename_i l hl
    intro l' hl'
    rcases List.mem_or_eq_of_mem_set hl' with hl' | rfl
    · exact hs l' hl'
    · rw [hs l (List.mem_of_getElem? hl)]
      exact (a.isSome_initial_after l.draft s.context).symm
  · exact hs

theorem tracked_move {s : Bench H} (hs : s.Tracked) (m : Move H) : (s.move m).Tracked := by
  cases m with
  | make b => exact tracked_lay hs rfl
  | copy i =>
    show (s.copy i).Tracked
    unfold copy
    split
    · rename_i l hl
      exact tracked_lay hs (hs l (List.mem_of_getElem? hl))
    · exact hs
  | act i a => exact tracked_act hs i a
  | elsewhere c => exact hs

theorem tracked_run {s : Bench H} (hs : s.Tracked) (moves : List (Move H)) :
    (s.run moves).Tracked := by
  induction moves generalizing s with
  | nil => exact hs
  | cons m moves ih => exact ih (tracked_move hs m)

def Remembers (s : Bench H) (i : Nat) (values : Table String (Value H)) : Prop :=
  ∃ l, s.drafts[i]? = some l ∧ l.draft.initial = some values

section

variable {s : Bench H} {i : Nat} {values : Table String (Value H)} (hs : s.Remembers i values)
include hs

theorem remembers_lay (l : Laid H) : (s.lay l).Remembers i values := by
  obtain ⟨l', hl', hinitial⟩ := hs
  refine ⟨l', ?_, hinitial⟩
  rw [← hl']
  exact List.getElem?_append_left (List.getElem?_eq_some_iff.1 hl').1

theorem remembers_copy (k : Nat) : (s.copy k).Remembers i values := by
  unfold copy
  split
  · exact remembers_lay hs _
  · exact hs

/-- A copy remembers what the draft it is made of does. -/
theorem copy_remembers : (s.copy i).Remembers s.drafts.length values := by
  obtain ⟨l, hl, hinitial⟩ := hs
  unfold copy
  rw [hl]
  exact ⟨l, List.getElem?_concat_length, hinitial⟩

theorem remembers_act (k : Nat) (a : Deed H) : (s.act k a).Remembers i values := by
  obtain ⟨l, hl, hinitial⟩ := hs
  unfold act
  split
  · rename_i l' hl'
    by_cases hk : k = i
    · subst hk
      obtain rfl : l = l' := Option.some.inj (hl.symm.trans hl')
      refine ⟨_, List.getElem?_set_self (List.getElem?_eq_some_iff.1 hl).1, ?_⟩
      exact a.initial_after hinitial s.context
    · exact ⟨l, (List.getElem?_set_ne hk).trans hl, hinitial⟩
  · exact ⟨l, hl, hinitial⟩

theorem remembers_move {m : Move H} {j : Nat} (hj : s.Heir m i j) :
    (s.move m).Remembers j values := by
  rcases hj with rfl | ⟨rfl, rfl⟩
  · cases m with
    | make b => exact remembers_lay hs _
    | copy k => exact remembers_copy hs k
    | act k a => exact remembers_act hs k a
    | elsewhere c => exact hs
  · exact copy_remembers hs

end

theorem remembers_run {s : Bench H} {moves : List (Move H)} {i j : Nat}
    {values : Table String (Value H)} (hs : s.Remembers i values) (hj : s.Descends i moves j) :
    (s.run moves).Remembers j values := by
  induction hj with
  | here s i => exact hs
  | step hk _ ih => exact ih (remembers_move hs hk)

/-- A reset at a bench whose moves so far were `before`: if it fails, the draft stays as it was.
The first one that succeeds stages the primary values of the properties that get a value, and
nothing else.  Every reset after it, of the draft or of a copy, and in whatever context, goes
back to these values and leaves the context alone. -/
theorem reset_of_history (c₀ : Context H) (before : List (Move H)) {s : Bench H}
    (hs : (start c₀).run before = s) {i : Nat} {l : Laid H} (hl : s.drafts[i]? = some l) :
    (∀ h e c, Stage.reset Run.create (l.draft, s.context) = .error h (e, c) → e = l.draft) ∧
    (l.wasReset = false → ∀ d c, Stage.reset Run.create (l.draft, s.context) = .ok () (d, c) →
      l.draft.Primed s.context d c ∧
      ∀ after j, (s.move (.act i .reset)).Descends i after j →
        ∃ l', ((s.move (.act i .reset)).run after).drafts[j]? = some l' ∧
          ∀ c', Stage.reset Run.create (l'.draft, c') =
            .ok () ({ l'.draft with expected := d.expected }, c')) := by
  refine ⟨fun h e c hreset => Stage.reset_error hreset, fun hfirst d c hreset => ?_⟩
  have htracked : s.Tracked := hs ▸ tracked_run (fun l hl => absurd hl List.not_mem_nil) before
  have hinitial : l.draft.initial = none := by
    have h := htracked l (List.mem_of_getElem? hl)
    rw [hfirst] at h
    simpa using h.symm
  have hprimed := Draft.primed_of_reset hinitial hreset
  refine ⟨hprimed, fun after j hj => ?_⟩
  have hremembers : (s.move (.act i .reset)).Remembers i d.expected := by
    refine ⟨⟨d, true⟩, ?_, by rw [hprimed.rest]⟩
    show (s.act i .reset).drafts[i]? = _
    have hrun : Deed.run .reset (l.draft, s.context) = .ok () (d, c) := hreset
    unfold act
    rw [hl]
    simp only [hrun, Effect.after, Deed.resets, Bool.or_true]
    exact List.getElem?_set_self (List.getElem?_eq_some_iff.1 hl).1
  obtain ⟨l', hl', hinitial'⟩ := remembers_run hremembers hj
  exact ⟨l', hl', fun c' => Stage.reset_of_initial hinitial'⟩

/-- A lamp is switched to null and reset for the first time.  A copy of it that is left without
its first switch goes back to the primary values even where no value can be drawn any more. -/
theorem reset_of_history_lamp :
    ∃ s l d c, (start Lamp.context).run [.make Lamp.blueprint, .act 0 (.put "on" none)] = s ∧
      s.drafts[0]? = some l ∧ l.wasReset = false ∧
      Stage.reset Run.create (l.draft, s.context) = .ok () (d, c) ∧
      l.draft.Primed s.context d c ∧ d.expected.get? "on" = some (some (.bool true)) ∧
      ∃ l', ((s.move (.act 0 .reset)).run
          [.copy 0, .elsewhere Lamp.bare, .act 1 (.leaveOut "on")]).drafts[1]? = some l' ∧
        l'.draft.expected.get? "on" = none ∧
        Stage.reset Run.create (l'.draft, Lamp.bare) =
          .ok () ({ l'.draft with expected := d.expected }, Lamp.bare) := by
  obtain ⟨-, hfirst⟩ := reset_of_history Lamp.context
    [.make Lamp.blueprint, .act 0 (.put "on" none)] rfl (i := 0) rfl
  obtain ⟨hprimed, hlater⟩ := hfirst rfl _ _ rfl
  obtain ⟨l', hl', hreset⟩ := hlater [.copy 0, .elsewhere Lamp.bare, .act 1 (.leaveOut "on")] 1
    (.step (.inr ⟨rfl, rfl⟩) (.step (.inl rfl) (.step (.inl rfl) (.here _ _))))
  cases hl'
  exact ⟨_, _, _, _, rfl, rfl, rfl, rfl, hprimed, rfl, _, rfl, rfl, hreset Lamp.bare⟩

end Bench
end BeanContract
