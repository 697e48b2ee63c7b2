/-
Creation leaves the setup of a context alone.

The settings, the registry and the seed of a context change only when somebody sets
them, and every creation that was entered is left again.  Creating a value, however deep it
nests and however it ends, keeps the setup and the depth (`create_keeps`), and so does
everything that stages and draws.  The proof follows the
recursion: a program keeps the setup if its nested creations do, and those are one level
further from the limit.
-/
import BeanContract.Proofs.Effect
import BeanContract.Draft.Candidates

namespace BeanContract

open Effect (Agree Keeps)

variable {H : Host} {α : Type}

/-- What a context was set up with, and how many creations are under way. -/
def Context.setup (c : Context H) : Settings × Registry H × UInt64 × Nat :=
  (c.settings, c.registry, c.seed, c.depth)

def Context.taken (c : Context H) (b : Blueprint H) : Context H :=
  { c with pool := (c.pool.acquire b).2 }

def Context.returned (c : Context H) (d : Draft H) : Context H :=
  { c with pool := c.pool.release d }

namespace Run

/-- A draft is taken, used and given back. -/
theorem withPooled_eq (b : Blueprint H) (use : Stage H α) (c : Context H) :
    withPooled b use c = match use ((c.pool.acquire b).1, c.taken b) with
      | .ok a s => .ok a (s.2.returned s.1)
      | .error e s => .error e (s.2.returned s.1) := by
  unfold withPooled Context.taken
  cases hu : use ((c.pool.acquire b).1, { c with pool := (c.pool.acquire b).2 }) with
  | ok a s => simp only [hu, Context.returned]
  | error e s => simp only [hu, Context.returned]

/-- Drafts that are used in the same way and given back leave the same outcome. -/
theorem agree_withPooled {b b' : Blueprint H} {use use' : Stage H α} {c c' : Context H}
    {Q : α → Context H → Context H → Prop} {E : Halt → Context H → Context H → Prop}
    (h : Agree use ((c.pool.acquire b).1, c.taken b) use' ((c'.pool.acquire b').1, c'.taken b')
      (fun a s s' => Q a (s.2.returned s.1) (s'.2.returned s'.1))
      fun e s s' => E e (s.2.returned s.1) (s'.2.returned s'.1)) :
    Agree (withPooled b use) c (withPooled b' use') c' Q E := by
  have hleft := withPooled_eq b use c
  have hright := withPooled_eq b' use' c'
  cases h.cases with
  | inl h =>
    obtain ⟨a, s, s', hs, hs', h⟩ := h
    rw [hs] at hleft
    rw [hs'] at hright
    exact .of_ok hleft hright h
  | inr h =>
    obtain ⟨e, s, s', hs, hs', h⟩ := h
    rw [hs] at hleft
    rw [hs'] at hright
    exact .of_error hleft hright h

/-- A failure becomes the same result, and a panic goes on. -/
theorem agree_caught {x y : Run H α} {c c' : Context H}
    {Q : Except Failure α → Context H → Context H → Prop}
    {E : Halt → Context H → Context H → Prop}
    (h : Agree x c y c' (fun a => Q (.ok a)) fun e c₁ c₁' =>
      (∀ f, e = .failure f → Q (.error f) c₁ c₁') ∧ E e c₁ c₁') :
    Agree (caught x) c (caught y) c' Q E := by
  cases h.cases with
  | inl h =>
    obtain ⟨a, c₁, c₁', hc, hc', h⟩ := h
    refine Agree.of_ok (a := .ok a) ?_ ?_ h
    · simp only [caught, hc]
    · simp only [caught, hc']
  | inr h =>
    obtain ⟨e, c₁, c₁', hc, hc', h⟩ := h
    cases e with
    | failure f =>
      refine Agree.of_ok (a := .error f) ?_ ?_ (h.1 f rfl)
      · simp only [caught, hc]
      · simp only [caught, hc']
    | panic p =>
      refine Agree.of_error (e := .panic p) ?_ ?_ h.2
      · simp only [caught, hc]
      · simp only [caught, hc']

theorem ofProbe_keeps (x : Probe H α) : Keeps Context.setup (ofProbe x) := by
  refine Keeps.zoom_of_put ?_ x
  intro c w
  rfl

theorem draw_keeps (step : Random.Engine → α × Random.Engine) :
    Keeps (Context.setup (H := H)) (draw step) := fun _ => rfl

theorem nextSequence_keeps : Keeps (Context.setup (H := H)) nextSequence := fun _ => rfl

theorem caught_keeps {x : Run H α} (h : Keeps Context.setup x) :
    Keeps Context.setup (caught x) := by
  intro c
  have hc := h c
  unfold caught
  cases hx : x c with
  | ok a c' => simpa [hx, Effect.after] using hc
  | error e c' =>
    cases e with
    | failure f => simpa [hx, Effect.after] using hc
    | panic p => simpa [hx, Effect.after] using hc

end Run

/-! ## Staging -/

namespace Stage

def setup (s : Draft H × Context H) : Settings × Registry H × UInt64 × Nat := s.2.setup

theorem ofRun_keeps {x : Run H α} (h : Keeps Context.setup x) : Keeps setup (ofRun x) := by
  refine Keeps.zoom ?_ ?_ h
  · intro s c
    rfl
  · intro s
    rfl

theorem draft_keeps : Keeps setup (draft (H := H)) := fun _ => rfl

theorem change_keeps (f : Draft H → Draft H) : Keeps setup (change f) := fun _ => rfl

theorem probe_keeps (f : Draft H → Probe H α) : Keeps setup (probe f) :=
  draft_keeps.bind fun d => ofRun_keeps (Run.ofProbe_keeps (f d))

end Stage

/-! ## Creation -/

section Creator

variable {create : Creator H} (hcreate : ∀ f channel, Keeps Context.setup (create f channel))
include hcreate

namespace Draft

omit hcreate in
theorem factory_keeps (d : Draft H) (n : String) : Keeps Context.setup (d.factory n) :=
  Keeps.bind (.ofExcept _) fun _ => Keeps.get.bind fun _ => .ofExcept _

theorem draw_keeps (d : Draft H) (n : String) (channel : Channel) :
    Keeps Context.setup (d.draw create n channel) :=
  (d.factory_keeps n).bind fun f => hcreate f channel

theorem drawPrimary_keeps (d : Draft H) (names : List String) (t : Table String (Value H)) :
    Keeps Context.setup (d.drawPrimary create names t) := by
  induction names generalizing t with
  | nil => exact .pure t
  | cons n names ih => exact (draw_keeps hcreate d n .primary).bind fun v => ih _

end Draft

namespace Stage

theorem reset_keeps : Keeps setup (reset create) := by
  refine draft_keeps.bind fun d => ?_
  cases d.initial with
  | some values => exact change_keeps _
  | none =>
    exact (ofRun_keeps (Draft.drawPrimary_keeps hcreate d _ _)).bind fun _ => change_keeps _

theorem valueFor_keeps (channel : Channel) (nulls : Bool) (d : Draft H) (n : String) :
    Keeps Context.setup (valueFor create channel nulls d n) := by
  have hdraw := Draft.draw_keeps hcreate d n channel
  refine Keeps.get.bind fun c => ?_
  split
  · split
    · exact .pure _
    · split
      · refine (Run.draw_keeps _).bind fun null => ?_
        split
        · exact .pure _
        · exact hdraw
      · exact hdraw
  · exact hdraw

theorem setAll_keeps (channel : Channel) (nulls : Bool) :
    Keeps setup (setAll create channel nulls) :=
  draft_keeps.bind fun _ => Keeps.each (fun n => draft_keeps.bind fun d =>
    (ofRun_keeps (valueFor_keeps hcreate channel nulls d n)).bind fun _ => change_keeps _) _

end Stage

namespace Run

omit hcreate in
theorem withPooled_keeps {b : Blueprint H} {use : Stage H α} (h : Keeps Stage.setup use) :
    Keeps Context.setup (withPooled b use) := by
  intro c
  have hc := h ((c.pool.acquire b).1, c.taken b)
  rw [withPooled_eq]
  cases hu : use ((c.pool.acquire b).1, c.taken b) with
  | ok a s =>
    rw [hu] at hc
    exact hc
  | error e s =>
    rw [hu] at hc
    exact hc

theorem createBy_keeps (t : ValueType) (channel : Channel) :
    Keeps Context.setup (createBy create t channel) :=
  Keeps.get.bind fun _ => (Keeps.ofExcept _).bind fun f => hcreate f channel

theorem buildBy_keeps (b : Blueprint H) (channel : Channel) :
    Keeps Context.setup (buildBy create b channel) :=
  withPooled_keeps ((Stage.setAll_keeps hcreate channel false).bind fun _ => Stage.probe_keeps _)

theorem program_keeps (p : Program H α) : Keeps Context.setup (program create p) := by
  -- The recursion of creations is not followed here: nested ones keep the setup by `hcreate`.
  induction p with
  | done a => exact .pure a
  | halt h => exact .throw h
  | engine next ih => exact Keeps.get.bind fun c => ih c.engine
  | setEngine e next ih => exact Keeps.bind (.modify fun _ => rfl) fun _ => ih
  | world next ih => exact Keeps.get.bind fun c => ih c.world
  | setWorld w next ih => exact Keeps.bind (.modify fun _ => rfl) fun _ => ih
  | sequence next ih => exact nextSequence_keeps.bind fun n => ih n
  | depth next ih => exact Keeps.get.bind fun c => ih c.depth
  | settings next ih => exact Keeps.get.bind fun c => ih c.settings
  | create t channel next ih =>
    exact (caught_keeps (createBy_keeps hcreate t channel)).bind fun r => ih r
  | bean b channel next ih =>
    exact (caught_keeps (buildBy_keeps hcreate b channel)).bind fun r => ih r

end Run

end Creator

namespace Run

theorem refuse_keeps (f : Factory H) : Keeps Context.setup (refuse f) :=
  Keeps.get.bind fun _ => .throw _

/-- What is done between entering and leaving a creation keeps the depth outside it. -/
theorem enter_leave_keeps {x : Run H α} (h : Keeps Context.setup x) :
    Keeps Context.setup (do modify Context.enter; Effect.finish x Context.leave) := by
  intro c
  show Context.setup (Effect.after (Effect.finish x Context.leave c.enter)) = _
  have hleave : ∀ c', Context.setup c' = c.enter.setup → c'.leave.setup = c.setup := by
    intro c' hc'
    simp only [Context.setup, Context.enter, Prod.mk.injEq] at hc'
    obtain ⟨hsettings, hregistry, hseed, hdepth⟩ := hc'
    simp [Context.setup, Context.leave, hsettings, hregistry, hseed, hdepth]
  rw [Effect.after_finish]
  exact hleave _ (h c.enter)

theorem createWithin_keeps (levels : Nat) (f : Factory H) (channel : Channel) :
    Keeps Context.setup (createWithin levels f channel) := by
  induction levels generalizing f channel with
  | zero => exact refuse_keeps f
  | succ levels ih =>
    refine Keeps.get.bind fun c => ?_
    split
    · exact refuse_keeps f
    · exact enter_leave_keeps (program_keeps ih (f.source channel))

theorem create_keeps (f : Factory H) (channel : Channel) :
    Keeps Context.setup (create f channel) :=
  Keeps.get.bind fun _ => createWithin_keeps _ f channel

theorem createApart_keeps (f : Factory H) (avoid : List (Value H)) (n : Nat) :
    Keeps Context.setup (createApart f avoid n) := by
  induction n with
  | zero => exact create_keeps f .random
  | succ n ih =>
    refine (create_keeps f .random).bind fun v => ?_
    split
    · exact ih
    · exact .pure v

theorem createDistinct_keeps (f : Factory H) (avoid : List (Value H)) :
    Keeps Context.setup (createDistinct f avoid) :=
  Keeps.get.bind fun _ => createApart_keeps f avoid _

end Run

namespace Draft

theorem extendApart_keeps (f : Factory H) (n : Nat) (found : List (Value H)) :
    Keeps Context.setup (extendApart f n found) := by
  induction n generalizing found with
  | zero => exact .pure found
  | succ n ih => exact (Run.createDistinct_keeps f found).bind fun v => ih _

theorem candidates_keeps (d : Draft H) (n : String) (null : Bool) :
    Keeps Context.setup (d.candidates n null) :=
  (d.factory_keeps n).bind fun f => (Run.create_keeps f .primary).bind fun primary =>
    (Run.create_keeps f .secondary).bind fun secondary => Keeps.get.bind fun _ =>
      (extendApart_keeps f _ [primary, secondary]).bind fun _ => .pure _

end Draft
end BeanContract
