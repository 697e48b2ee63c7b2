/-
Registration by its outcome.

A factory is registered before it is tried out, so its trial runs in a registry that may have
to be undone.  `Factory.PassesTrial` says what a trial asks for: three draws, in order, from the
registry that has the factory already.  Registration succeeds exactly for factories that pass, and
leaves what the draws left.  If the trial fails, the place that the factory was registered for
gets back what it had, and everything else is as the draws left it; after a panic nothing is
undone.

So where creation leaves the registry alone, a registered factory is what its place answers with,
and every other look-up answers as before (`Place.Resolves`); after a failed trial every look-up
does.  The factories of a type and those of one property are registered alike, so the laws are
stated for a `Place`.
-/
import BeanContract.Proofs.Context.Setup
import BeanContract.Proofs.Factory.Registry
import BeanContract.Verifier

namespace BeanContract

open Effect (Keeps Meets after)

variable {H : Host}

/-! ## Trials -/

namespace Factory

/-- Drawn one after the other, the values of the three channels are there and of the factory's
type, and the two fixed ones differ. -/
def PassesTrial (create : Creator H) (f : Factory H) (c c' : Context H) : Prop :=
  ∃ primary secondary random c₁ c₂, create f .primary c = .ok primary c₁ ∧
    create f .secondary c₁ = .ok secondary c₂ ∧ create f .random c₂ = .ok random c' ∧
    primary.type? = some f.type ∧ secondary.type? = some f.type ∧ random.type? = some f.type ∧
    Value.same primary secondary = false

variable {create : Creator H} {f : Factory H} {c c' : Context H}

theorem checkDrawn_eq_ok {channel : Channel} {v : Value H} {u : Unit} :
    f.checkDrawn channel v c = .ok u c' ↔ c' = c ∧ v.type? = some f.type := by
  unfold checkDrawn
  cases v.type? with
  | none => simp [Effect.throw_ne_ok]
  | some t =>
    dsimp only
    by_cases ht : t = f.type
    · rw [if_pos ht, Effect.pure_eq_ok]
      simp [ht, eq_comm]
    · rw [if_neg ht]
      simp [ht, Effect.throw_ne_ok]

theorem selfTestBy_eq_ok {u : Unit} :
    f.selfTestBy create c = .ok u c' ↔ f.PassesTrial create c c' := by
  constructor
  · intro h
    obtain ⟨primary, c₁, hprimary, h₁⟩ := Effect.bind_eq_ok.1 h
    obtain ⟨secondary, c₂, hsecondary, h₂⟩ := Effect.bind_eq_ok.1 h₁
    obtain ⟨random, c₃, hrandom, h₃⟩ := Effect.bind_eq_ok.1 h₂
    -- The checks of what was drawn leave the context as it is.
    obtain ⟨_, c₄, hcheck₁, h₄⟩ := Effect.bind_eq_ok.1 h₃
    obtain ⟨rfl, htype₁⟩ := checkDrawn_eq_ok.1 hcheck₁
    obtain ⟨_, c₅, hcheck₂, h₅⟩ := Effect.bind_eq_ok.1 h₄
    obtain ⟨rfl, htype₂⟩ := checkDrawn_eq_ok.1 hcheck₂
    obtain ⟨_, c₆, hcheck₃, h₆⟩ := Effect.bind_eq_ok.1 h₅
    obtain ⟨rfl, htype₃⟩ := checkDrawn_eq_ok.1 hcheck₃
    by_cases hsame : Value.same primary secondary = true
    · rw [if_pos hsame] at h₆
      obtain ⟨_, _, -, h₇⟩ := Effect.bind_eq_ok.1 h₆
      exact absurd h₇ Effect.throw_ne_ok
    · rw [if_neg hsame] at h₆
      obtain ⟨-, rfl⟩ := Effect.pure_eq_ok.1 h₆
      exact ⟨primary, secondary, random, c₁, c₂, hprimary, hsecondary, hrandom, htype₁, htype₂,
        htype₃, by simpa using hsame⟩
  · rintro ⟨primary, secondary, random, c₁, c₂, hprimary, hsecondary, hrandom, htype₁, htype₂,
      htype₃, hdiffer⟩
    refine Effect.bind_eq_ok.2 ⟨primary, c₁, hprimary, ?_⟩
    refine Effect.bind_eq_ok.2 ⟨secondary, c₂, hsecondary, ?_⟩
    refine Effect.bind_eq_ok.2 ⟨random, c', hrandom, ?_⟩
    refine Effect.bind_eq_ok.2 ⟨(), c', checkDrawn_eq_ok.2 ⟨rfl, htype₁⟩, ?_⟩
    refine Effect.bind_eq_ok.2 ⟨(), c', checkDrawn_eq_ok.2 ⟨rfl, htype₂⟩, ?_⟩
    refine Effect.bind_eq_ok.2 ⟨(), c', checkDrawn_eq_ok.2 ⟨rfl, htype₃⟩, ?_⟩
    have hnot : ¬Value.same primary secondary = true := by simp [hdiffer]
    rw [if_neg hnot]
    rfl

theorem selfTest_eq_ok {u : Unit} : f.selfTest c = .ok u c' ↔ f.PassesTrial Run.create c c' :=
  selfTestBy_eq_ok

section

variable {α : Type} {g : Context H → α}

theorem checkDrawn_keeps (f : Factory H) (channel : Channel) (v : Value H) :
    Keeps g (f.checkDrawn channel v) := by
  unfold checkDrawn
  cases v.type? with
  | none => exact .throw _
  | some t =>
    dsimp only
    split
    · exact .pure _
    · exact .throw _

/-- A trial changes what its draws change, and the world. -/
theorem selfTestBy_keeps (hcreate : ∀ channel, Keeps g (create f channel))
    (hworld : ∀ c w, g { c with world := w } = g c) : Keeps g (f.selfTestBy create) := by
  refine (hcreate .primary).bind fun primary => ?_
  refine (hcreate .secondary).bind fun secondary => ?_
  refine (hcreate .random).bind fun random => ?_
  refine (f.checkDrawn_keeps .primary primary).bind fun _ => ?_
  refine (f.checkDrawn_keeps .secondary secondary).bind fun _ => ?_
  refine (f.checkDrawn_keeps .random random).bind fun _ => ?_
  split
  · exact Keeps.bind (Keeps.zoom_of_put hworld _) fun _ => .throw _
  · exact .pure _

end

theorem selfTest_keeps (f : Factory H) : Keeps Context.setup f.selfTest :=
  selfTestBy_keeps (Run.create_keeps f) fun _ _ => rfl

/-- The programs of factories leave the registry alone. -/
theorem create_keeps_registry (f : Factory H) (channel : Channel) :
    Keeps Context.registry (Run.create f channel) := fun c =>
  congrArg (·.2.1) (Run.create_keeps f channel c)

theorem checkDrawn_meets (f : Factory H) (channel : Channel) (v : Value H) (c : Context H) :
    Meets (f.checkDrawn channel v) c (fun _ c' => c' = c) fun e _ => ∀ p, e ≠ .panic p := by
  unfold checkDrawn
  cases v.type? with
  | none => exact fun p h => by cases h
  | some t =>
    dsimp only
    split
    · rfl
    · exact fun p h => by cases h

/-- A trial panics only if a draw does, or the text of what is drawn.  In the contexts of the
trial `I` holds. -/
theorem selfTestBy_meets {I : Context H → Prop} {E : Panic → Prop}
    (hcreate : ∀ channel c, I c → Meets (create f channel) c
      (fun v c' => I c' ∧ ∀ p, Value.show? v = .error p → E p) fun e _ => ∀ p, e = .panic p → E p)
    (hc : I c) :
    Meets (f.selfTestBy create) c (fun _ _ => True) fun e _ => ∀ p, e = .panic p → E p := by
  have hcheck : ∀ channel v c, Meets (f.checkDrawn channel v) c (fun _ _ => True)
      fun e _ => ∀ p, e = .panic p → E p := fun channel v c =>
    (f.checkDrawn_meets channel v c).mono (fun _ _ _ => trivial) fun e _ h p he => absurd he (h p)
  refine (hcreate .primary c hc).bind fun primary c₁ hprimary => ?_
  refine (hcreate .secondary c₁ hprimary.1).bind fun secondary c₂ hsecondary => ?_
  refine (hcreate .random c₂ hsecondary.1).bind fun random c₃ _ => ?_
  refine (hcheck .primary primary c₃).bind fun _ c₄ _ => ?_
  refine (hcheck .secondary secondary c₄).bind fun _ c₅ _ => ?_
  refine (hcheck .random random c₅).bind fun _ c₆ _ => ?_
  split
  · -- The two fixed values are equal, and the message shows the first one.
    refine Meets.bind (Q := fun _ _ => True) (Meets.zoom ?_) ?_
    · cases htext : Value.show? primary with
      | ok text => trivial
      | error p =>
        intro q hq
        cases hq
        exact hprimary.2 p htext
    · exact fun _ _ _ q hq => by cases hq
  · trivial

end Factory

namespace Run

variable {create : Creator H} {f : Factory H} {undo : Registry H → Registry H} {c : Context H}

theorem tryOutBy_untested (h : c.settings.selfTestFactories = false) :
    tryOutBy create f undo c = .ok () c := by
  show (if c.settings.selfTestFactories then _ else _ : Run H Unit) c = _
  rw [h]
  rfl

/-- A failed trial takes the registration back; a panic leaves it in place. -/
theorem tryOutBy_tested (h : c.settings.selfTestFactories = true) : tryOutBy create f undo c =
    match f.selfTestBy create c with
    | .ok u c' => .ok u c'
    | .error (.failure e) c' => .error (.failure e) { c' with registry := undo c'.registry }
    | .error (.panic p) c' => .error (.panic p) c' := by
  show (if c.settings.selfTestFactories then _ else _ : Run H Unit) c = _
  rw [h]
  show EStateM.bind (caught (f.selfTestBy create)) _ c = _
  unfold EStateM.bind caught
  rcases f.selfTestBy create c with ⟨_, c'⟩ | ⟨_ | _, c'⟩ <;> rfl

end Run

/-! ## Registration in a place -/

inductive Place where
  | type
  | property (owner : ValueType) (name : String)

namespace Place

def registerBy (create : Creator H) (place : Place) (f : Factory H) : Run H Unit :=
  match place with
  | type => Run.registerFactoryBy create f
  | property owner name => Run.registerPropertyFactoryBy create owner name f

def register (place : Place) (f : Factory H) : Run H Unit := place.registerBy Run.create f

/-- The registry with the factory in its place. -/
def enter (place : Place) (f : Factory H) (r : Registry H) : Registry H :=
  match place with
  | type => r.register f
  | property owner name => r.registerProperty owner name f

/-- Take a registration back that was made in the registry `r`. -/
def undo (place : Place) (f : Factory H) (r : Registry H) : Registry H → Registry H :=
  match place with
  | type => (·.restore f.type (r.byType.get? f.type))
  | property owner name => (·.restoreProperty owner name (r.byProperty.get? (owner, name)))

/-- The place answers with the factory in the registry `r'`, and all other look-ups answer as
they do in `r`.  A property without a factory of its own draws from that of its type. -/
def Resolves (place : Place) (f : Factory H) (r r' : Registry H) : Prop :=
  match place with
  | type =>
    (∀ t, r'.get? t = if t = f.type then some f else r.get? t) ∧
    (∀ t, r'.contains t = (decide (t = f.type) || r.contains t)) ∧
    ∀ owner n t, r'.forProperty owner n t =
      if t = f.type ∧ r.byProperty.get? (owner, n) = none then .ok f
      else r.forProperty owner n t
  | property o m =>
    (∀ t, r'.get? t = r.get? t) ∧ (∀ t, r'.contains t = r.contains t) ∧
    ∀ owner n t, r'.forProperty owner n t =
      if (owner, n) = (o, m) then .ok f else r.forProperty owner n t

def entry (place : Place) (f : Factory H) (r : Registry H) : Option (Factory H) :=
  match place with
  | type => r.byType.get? f.type
  | property owner name => r.byProperty.get? (owner, name)

/-- The registries are the same but for what the place has. -/
def SameElsewhere (place : Place) (f : Factory H) (r r' : Registry H) : Prop :=
  match place with
  | type => (∀ t ≠ f.type, r'.byType.get? t = r.byType.get? t) ∧
    r'.byProperty = r.byProperty ∧ r'.lookups = r.lookups
  | property owner name => r'.byType = r.byType ∧
    (∀ key ≠ (owner, name), r'.byProperty.get? key = r.byProperty.get? key) ∧
    r'.lookups = r.lookups

variable {create : Creator H} {place : Place} {f : Factory H} {c c' : Context H}

theorem resolves_enter (place : Place) (f : Factory H) (r : Registry H) :
    place.Resolves f r (place.enter f r) := by
  cases place with
  | type => exact ⟨r.get?_register f, r.contains_register f, r.forProperty_register f⟩
  | property o m => exact ⟨fun _ => rfl, fun _ => rfl, r.forProperty_registerProperty o m f⟩

theorem undo_enter (place : Place) (f : Factory H) (r : Registry H) :
    (place.undo f r (place.enter f r)).AnswersAs r := by
  cases place with
  | type => exact r.restore_register f
  | property o m => exact r.restoreProperty_registerProperty o m f

/-- Whatever became of the registry, the place gets back what it had, and nothing else changes. -/
theorem undo_restores (place : Place) (f : Factory H) (r r' : Registry H) :
    place.entry f (place.undo f r r') = place.entry f r ∧
      place.SameElsewhere f r' (place.undo f r r') := by
  cases place with
  | type =>
    refine ⟨?_, fun t ht => ?_, rfl, rfl⟩
    · simp [entry, undo, Registry.restore, Table.get?_put?]
    · simp [undo, Registry.restore, Table.get?_put?, ht]
  | property o m =>
    refine ⟨?_, rfl, fun key hkey => ?_, rfl⟩
    · simp [entry, undo, Registry.restoreProperty, Table.get?_put?]
    · simp [undo, Registry.restoreProperty, Table.get?_put?, hkey]

def trialContext (place : Place) (f : Factory H) (c : Context H) : Context H :=
  { c with registry := place.enter f c.registry }

theorem registerBy_eq (create : Creator H) (place : Place) (f : Factory H) (c : Context H) :
    place.registerBy create f c =
      Run.tryOutBy create f (place.undo f c.registry) (place.trialContext f c) := by
  cases place <;> rfl

/-- The registry that a trial leaves is that of its context, and it is undone on a failure. -/
theorem registerBy_of_tested (h : c.settings.selfTestFactories = true) :
    place.registerBy create f c =
      match f.selfTestBy create (place.trialContext f c) with
      | .ok u c' => .ok u c'
      | .error (.failure e) c' =>
        .error (.failure e) { c' with registry := place.undo f c.registry c'.registry }
      | .error (.panic p) c' => .error (.panic p) c' :=
  (registerBy_eq create place f c).trans (Run.tryOutBy_tested (c := place.trialContext f c) h)

theorem registerBy_of_untested (h : c.settings.selfTestFactories = false) :
    place.registerBy create f c = .ok () (place.trialContext f c) :=
  (registerBy_eq create place f c).trans (Run.tryOutBy_untested (c := place.trialContext f c) h)

/-! ### Ways out -/

theorem registerBy_eq_ok_iff (h : c.settings.selfTestFactories = true) {u : Unit} :
    place.registerBy create f c = .ok u c' ↔
      f.PassesTrial create (place.trialContext f c) c' := by
  rw [registerBy_of_tested h, ← Factory.selfTestBy_eq_ok (u := u)]
  rcases f.selfTestBy create (place.trialContext f c) with ⟨_, c'⟩ | ⟨_ | _, c'⟩ <;> simp

theorem registerBy_eq_failure_iff {e : Failure} :
    place.registerBy create f c = .error (.failure e) c' ↔
      c.settings.selfTestFactories = true ∧
        ∃ c₁, f.selfTestBy create (place.trialContext f c) = .error (.failure e) c₁ ∧
          c' = { c₁ with registry := place.undo f c.registry c₁.registry } := by
  cases htested : c.settings.selfTestFactories with
  | false => simp [registerBy_of_untested htested]
  | true =>
    rw [registerBy_of_tested htested]
    rcases f.selfTestBy create (place.trialContext f c) with ⟨_, c₁⟩ | ⟨_ | _, c₁⟩
    · simp
    · simp [eq_comm]
    · simp

theorem registerBy_eq_panic_iff {p : Panic} :
    place.registerBy create f c = .error (.panic p) c' ↔
      c.settings.selfTestFactories = true ∧
        f.selfTestBy create (place.trialContext f c) = .error (.panic p) c' := by
  cases htested : c.settings.selfTestFactories with
  | false => simp [registerBy_of_untested htested]
  | true =>
    rw [registerBy_of_tested htested]
    rcases f.selfTestBy create (place.trialContext f c) with ⟨_, c₁⟩ | ⟨_ | _, c₁⟩ <;> simp

/-- Either way a registration leaves what the trial left, but for the registry. -/
theorem registerBy_keeps {α : Type} {g : Context H → α}
    (htrial : Keeps g (f.selfTestBy create)) (hregistry : ∀ c r, g { c with registry := r } = g c) :
    Keeps g (place.registerBy create f) := by
  intro c
  have hkept : g (after (f.selfTestBy create (place.trialContext f c))) = g c :=
    (htrial _).trans (hregistry c _)
  cases htested : c.settings.selfTestFactories with
  | false =>
    rw [registerBy_of_untested htested]
    exact hregistry c _
  | true =>
    rw [registerBy_of_tested htested]
    rcases hresult : f.selfTestBy create (place.trialContext f c) with ⟨_, c₁⟩ | ⟨_ | _, c₁⟩
    · rwa [hresult] at hkept
    · rw [hresult] at hkept
      exact (hregistry c₁ _).trans hkept
    · rwa [hresult] at hkept

/-! ### Creation that leaves the registry alone -/

section

variable (hkeeps : ∀ channel, Keeps Context.registry (create f channel))
include hkeeps

theorem registry_of_trial (place : Place) (c : Context H) :
    (after (f.selfTestBy create (place.trialContext f c))).registry = place.enter f c.registry :=
  Factory.selfTestBy_keeps hkeeps (fun _ _ => rfl) _

theorem resolves_of_registerBy {u : Unit} (h : place.registerBy create f c = .ok u c') :
    place.Resolves f c.registry c'.registry := by
  cases htested : c.settings.selfTestFactories with
  | false =>
    rw [registerBy_of_untested htested] at h
    cases h
    exact resolves_enter place f c.registry
  | true =>
    have hpassed := Factory.selfTestBy_eq_ok (u := u).2 ((registerBy_eq_ok_iff htested).1 h)
    have hregistry := registry_of_trial hkeeps place c
    rw [hpassed] at hregistry
    rw [show c'.registry = _ from hregistry]
    exact resolves_enter place f c.registry

theorem answersAs_of_registerBy {e : Failure}
    (h : place.registerBy create f c = .error (.failure e) c') :
    c'.registry.AnswersAs c.registry := by
  obtain ⟨-, c₁, hfailed, rfl⟩ := registerBy_eq_failure_iff.1 h
  have hregistry := registry_of_trial hkeeps place c
  rw [hfailed] at hregistry
  show (place.undo f c.registry c₁.registry).AnswersAs c.registry
  rw [show c₁.registry = _ from hregistry]
  exact undo_enter place f c.registry

end

end Place

namespace Verifier

variable {create : Creator H} {v v' : Verifier H} {chance : UInt64} {f : Factory H}
  {w w' : H.World}

/-- A verifier registers what a context made of its settings and its registry accepts. -/
theorem registerBy_eq_ok : v.registerBy create chance f w = .ok v' w' ↔
    v' = { v with registry := v.registry.register f } ∧ ∃ c',
      Run.registerFactoryBy create f (.start v.settings v.registry chance w) = .ok () c' ∧
      w' = c'.world := by
  unfold registerBy
  rw [Effect.bind_eq_ok]
  unfold inContext
  cases h : Run.registerFactoryBy create f (.start v.settings v.registry chance w) with
  | ok u c' =>
    simp only [Effect.pure_eq_ok]
    grind
  | error e c' => simp

end Verifier
end BeanContract
