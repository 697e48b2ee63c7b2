/-
Registration is transactional.

A program makes requests to the context that runs it, and none of them concerns the registry.
Code that is handed the context itself may do anything to it: create values, register further
factories, change the settings, or reset the context while it is being created in.  Here the code
of factories is any computation in a context (`Code`), run under the account that programs are
run under; programs are one such code, and creation by them is creation (`create_programs`).

Whatever the code does, a registration succeeds exactly if the trial does, and a failed one takes
back what it registered itself.  It does not take back what the code registered.  So where the
code leaves the registry alone, every look-up is as before after a failure, and all but one after
a success (`register_transactional`).
-/
import BeanContract.Proofs.Context.Recursion
import BeanContract.Proofs.Context.Registration
import BeanContract.Proofs.Draft.Bean

namespace BeanContract

open Effect (Keeps Meets after)

variable {H : Host} {α γ : Type}

/-! ## Code that is given the context -/

/-- What the code behind the channels of factories does in a context. -/
abbrev Code (H : Host) := Factory H → Channel → Run H (Value H)

def Context.Fits (c : Context H) : Prop := c.settings.structuralDepth.toNat + 8 < 2 ^ 64

/-- Run code one level deeper, and leave that level on every way out.  There is none to leave if
the code has reset the context. -/
def Run.deeper (x : Run H α) : Run H α := fun c =>
  let left := after (x c.enter)
  if left.depth = 0 then .error (.panic (.ofText "attempt to subtract with overflow")) left
  else Effect.finish x Context.leave c.enter

theorem Run.deeper_eq {x : Run H α} (hx : Keeps Context.depth x) (c : Context H) :
    deeper x c = Effect.finish x Context.leave c.enter := by
  have hdepth : (after (x c.enter)).depth = c.depth + 1 := hx c.enter
  exact if_neg (by omega)

/-- What entering, the code and leaving keep is kept. -/
theorem Run.deeper_keeps {g : Context H → γ} (henter : ∀ c, g c.enter = g c)
    (hleave : ∀ c, g c.leave = g c) {x : Run H α} (hx : Keeps g x) : Keeps g (deeper x) := by
  intro c
  have hleft : g (after (x c.enter)) = g c := (hx c.enter).trans (henter c)
  unfold deeper
  dsimp only
  split
  · exact hleft
  · rw [Effect.after_finish]
    exact (hleave _).trans hleft

namespace Code

def create (code : Code H) : Creator H := fun f channel => do
  if (← get).atDepthLimit then Run.refuse f
  else Run.deeper (code f channel)

def programs : Code H := fun f channel => Run.program Run.create (f.source channel)

/-- The code of a factory panics, or the text of a value that it gives does. -/
def Panics (code : Code H) (f : Factory H) (p : Panic) : Prop :=
  ∃ channel c, (∃ c', code f channel c = .error (.panic p) c') ∨
    ∃ v c', code f channel c = .ok v c' ∧ Value.show? v = .error p

variable {code : Code H} {f : Factory H} {channel : Channel} {c : Context H}

theorem create_eq (code : Code H) (f : Factory H) (channel : Channel) (c : Context H) :
    code.create f channel c =
      if c.atDepthLimit then Run.refuse f c else Run.deeper (code f channel) c := by
  show (if c.atDepthLimit then Run.refuse f else Run.deeper (code f channel)) c = _
  split <;> rfl

/-- Programs leave the settings, the registry and the depth alone. -/
theorem programs_keeps (f : Factory H) (channel : Channel) :
    Keeps Context.setup (programs f channel) := fun c =>
  Run.program_keeps Run.create_keeps (f.source channel) c

theorem programs_fits (f : Factory H) (channel : Channel) {c : Context H} (hc : c.Fits) :
    (after (programs f channel c)).Fits := by
  have hsettings : (after (programs f channel c)).settings = c.settings :=
    congrArg (·.1) (programs_keeps f channel c)
  rwa [Context.Fits, hsettings]

theorem create_programs : (programs : Code H).create = Run.create := by
  funext f channel c
  have hkeeps : Keeps Context.depth (programs f channel) := fun c =>
    congrArg (·.2.2.2) (programs_keeps f channel c)
  rw [create_eq, Run.create_unfold, Run.deeper_eq hkeeps]
  rfl

theorem refuse_keeps {g : Context H → γ} (f : Factory H) : Keeps g (Run.refuse f) :=
  Keeps.get.bind fun _ => .throw _

theorem create_keeps {g : Context H → γ} (h : Keeps g (Run.deeper (code f channel))) :
    Keeps g (code.create f channel) := by
  intro c
  rw [create_eq]
  split
  · exact refuse_keeps f c
  · exact h c

theorem create_keeps_registry (h : Keeps Context.registry (code f channel)) :
    Keeps Context.registry (code.create f channel) :=
  create_keeps (Run.deeper_keeps (fun _ => rfl) (fun _ => rfl) h)

theorem create_keeps_depth (h : Keeps Context.depth (code f channel)) :
    Keeps Context.depth (code.create f channel) := by
  refine create_keeps fun c => ?_
  have hdepth : (after (code f channel c.enter)).depth = c.depth + 1 := h c.enter
  rw [Run.deeper_eq h, Effect.after_finish]
  show (after (code f channel c.enter)).depth - 1 = c.depth
  omega

/-- Where the depth limit is a word and stays one, a creation panics only if the code does. -/
theorem create_meets (hdepth : Keeps Context.depth (code f channel))
    (hfits : ∀ c, c.Fits → (after (code f channel c)).Fits) (hc : c.Fits) :
    Meets (code.create f channel) c
      (fun v c' => c'.Fits ∧ ∀ p, Value.show? v = .error p → code.Panics f p)
      fun e _ => ∀ p, e = .panic p → code.Panics f p := by
  unfold Meets
  rw [create_eq]
  by_cases hlimit : c.atDepthLimit = true
  · rw [if_pos hlimit]
    intro p hp
    rw [Context.refusal_of_fits hc] at hp
    cases hp
  · rw [if_neg hlimit, Run.deeper_eq hdepth]
    have hleft := hfits c.enter hc
    refine Meets.finish (x := code f channel) (.intro (fun v c' h => ?_) fun e c' h p he => ?_)
    · rw [h] at hleft
      exact ⟨hleft, fun p hp => ⟨channel, c.enter, .inr ⟨v, c', h, hp⟩⟩⟩
    · exact ⟨channel, c.enter, .inl ⟨c', he ▸ h⟩⟩

end Code

/-- Registration of a factory whose code may do anything, for its type or for one property, in
any context:

With trials it succeeds exactly if the factory passes its trial, and without them always.  If the
trial fails, the place of the registration has what it had before, and everything else is as the
trial left it.

If the code leaves the registry alone, a success makes the place answer with the factory and every
other look-up as before, and after a failure every look-up answers as before.  If the code leaves
the depth alone, so does the registration; and then, where the depth limit stays a word, it panics
only if the factory does.

A verifier registers a factory exactly if a context made for it does, and is changed only then. -/
theorem register_transactional (code : Code H) (place : Place) (f : Factory H) (c : Context H) :
    (c.settings.selfTestFactories = true → ∀ c', place.registerBy code.create f c = .ok () c' ↔
      f.PassesTrial code.create { c with registry := place.enter f c.registry } c') ∧
    (c.settings.selfTestFactories = false → ∃ c', place.registerBy code.create f c = .ok () c') ∧
    (∀ e c', place.registerBy code.create f c = .error (.failure e) c' →
      place.entry f c'.registry = place.entry f c.registry ∧
      ∃ c₁, f.selfTestBy code.create { c with registry := place.enter f c.registry } =
          .error (.failure e) c₁ ∧
        c' = { c₁ with registry := c'.registry } ∧
        place.SameElsewhere f c₁.registry c'.registry) ∧
    ((∀ channel, Keeps Context.registry (code f channel)) →
      (∀ c', place.registerBy code.create f c = .ok () c' →
        place.Resolves f c.registry c'.registry) ∧
      ∀ e c', place.registerBy code.create f c = .error (.failure e) c' →
        c'.registry.AnswersAs c.registry) ∧
    ((∀ channel, Keeps Context.depth (code f channel)) →
      (after (place.registerBy code.create f c)).depth = c.depth ∧
      (c.Fits → (∀ channel c, c.Fits → (after (code f channel c)).Fits) →
        ∀ p c', place.registerBy code.create f c = .error (.panic p) c' → code.Panics f p)) ∧
    ∀ (v : Verifier H) (chance : UInt64) (w : H.World),
      ((∃ v' w', v.registerBy code.create chance f w = .ok v' w') ↔
        ∃ c', Run.registerFactoryBy code.create f (.start v.settings v.registry chance w) =
          .ok () c') ∧
      ∀ v' w', v.registerBy code.create chance f w = .ok v' w' →
        v'.settings = v.settings ∧ Place.type.Resolves f v.registry v'.registry := by
  refine ⟨fun h c' => Place.registerBy_eq_ok_iff h, fun h => ⟨_, Place.registerBy_of_untested h⟩,
    fun e c' h => ?_, fun hregistry => ?_, fun hdepth => ⟨?_, fun hc hfits p c' h => ?_⟩,
    fun v chance w => ⟨⟨?_, ?_⟩, ?_⟩⟩
  · obtain ⟨-, c₁, hfailed, rfl⟩ := Place.registerBy_eq_failure_iff.1 h
    obtain ⟨hentry, hrest⟩ := place.undo_restores f c.registry c₁.registry
    exact ⟨hentry, c₁, hfailed, rfl, hrest⟩
  · have hkeeps := fun channel => Code.create_keeps_registry (hregistry channel)
    exact ⟨fun c' h => Place.resolves_of_registerBy hkeeps h,
      fun e c' h => Place.answersAs_of_registerBy hkeeps h⟩
  · have hkeeps := fun channel => Code.create_keeps_depth (hdepth channel)
    have htrial : Keeps Context.depth (f.selfTestBy code.create) :=
      Factory.selfTestBy_keeps hkeeps fun _ _ => rfl
    exact Place.registerBy_keeps htrial (fun _ _ => rfl) c
  · have htrial := Factory.selfTestBy_meets (I := Context.Fits)
      (fun channel c hc => Code.create_meets (hdepth channel) (hfits channel) hc)
      (c := place.trialContext f c) hc
    exact htrial.error (Place.registerBy_eq_panic_iff.1 h).2 p rfl
  · rintro ⟨v', w', h⟩
    obtain ⟨-, c', hc', -⟩ := Verifier.registerBy_eq_ok.1 h
    exact ⟨c', hc'⟩
  · rintro ⟨c', h⟩
    exact ⟨_, c'.world, Verifier.registerBy_eq_ok.2 ⟨rfl, c', h, rfl⟩⟩
  · intro v' w' h
    obtain ⟨rfl, -⟩ := Verifier.registerBy_eq_ok.1 h
    exact ⟨rfl, Place.resolves_enter .type f v.registry⟩

namespace Lamp

def switches : Factory host := .fixed (.bool true) (.bool false) (pure (.bool true))

def unstocked (structuralDepth : UInt64) : Context host :=
  .start { Settings.standard with structuralDepth } .empty 0 ()

/-- Both fixed values are the same. -/
def stuck : Factory host := .fixed (.bool true) (.bool true) (pure (.bool true))

end Lamp

theorem register_transactional_switches :
    (∃ c', Place.type.registerBy Code.programs.create Lamp.switches (Lamp.unstocked 3) =
        .ok () c' ∧
      Place.type.Resolves Lamp.switches (Lamp.unstocked 3).registry c'.registry ∧ c'.depth = 0) ∧
    (∃ e c', Place.type.registerBy Code.programs.create Lamp.stuck (Lamp.unstocked 3) =
        .error (.failure e) c' ∧
      c'.registry.AnswersAs (Lamp.unstocked 3).registry ∧ c'.depth = 0) ∧
    ∀ p c', Place.type.registerBy Code.programs.create Lamp.stuck (Lamp.unstocked 3) =
        .error (.panic p) c' → Code.programs.Panics Lamp.stuck p := by
  have hregistry : ∀ f channel, Keeps Context.registry (Code.programs f channel) :=
    fun (f : Factory Lamp.host) channel c => congrArg (·.2.1) (Code.programs_keeps f channel c)
  have hdepth : ∀ f channel, Keeps Context.depth (Code.programs f channel) :=
    fun (f : Factory Lamp.host) channel c => congrArg (·.2.2.2) (Code.programs_keeps f channel c)
  have hfits : (Lamp.unstocked 3).Fits := by
    show (3 : UInt64).toNat + 8 < 2 ^ 64
    decide
  obtain ⟨-, -, -, hkept, hlevel, -⟩ :=
    register_transactional Code.programs .type Lamp.switches (Lamp.unstocked 3)
  obtain ⟨-, -, -, hkept', hlevel', -⟩ :=
    register_transactional Code.programs .type Lamp.stuck (Lamp.unstocked 3)
  obtain ⟨hleft, hpanics⟩ := hlevel' (hdepth Lamp.stuck)
  refine ⟨⟨_, rfl, (hkept (hregistry Lamp.switches)).1 _ rfl, (hlevel (hdepth Lamp.switches)).1⟩,
    ⟨_, _, rfl, (hkept' (hregistry Lamp.stuck)).2 _ _ rfl, hleft⟩, ?_⟩
  exact hpanics hfits fun channel _ hc => Code.programs_fits Lamp.stuck channel hc

/-! ## Code that registers more, resets the context, or meets no limit -/

namespace Lamp

def meddling : Code host := fun _ _ => do
  modify fun c => { c with registry := c.registry.register Catalog.texts }
  throw (.configuration (.stated "no switch"))

def resetting : Code host := fun _ channel => do
  modify Context.reset
  pure (some (.bool (channel = .primary)))

theorem meddling_not_panics (p : Panic) : ¬meddling.Panics switches p := by
  rintro ⟨channel, c, ⟨c', h⟩ | ⟨v, c', h, -⟩⟩
  · cases h
  · cases h

theorem resetting_not_panics (p : Panic) : ¬resetting.Panics switches p := by
  rintro ⟨channel, c, ⟨c', h⟩ | ⟨v, c', h, hshow⟩⟩
  · cases h
  · cases h
    cases hshow

theorem programs_not_panics (p : Panic) : ¬Code.programs.Panics switches p := by
  rintro ⟨channel, c, h⟩
  cases channel
  all_goals
    obtain ⟨c', h⟩ | ⟨v, c', h, hshow⟩ := h
    · cases h
    · cases h
      cases hshow

end Lamp

namespace Mute

def host : Host where
  Object := Unit
  World := Unit
  same _ _ := true
  digest _ := []
  show? _ := .error (.ofText "cannot format")

def factory : Factory host :=
  .fixed (.object "Mute" ()) (.object "Mute" ()) (pure (.object "Mute" ()))

theorem source_not_panics (channel : Channel) (c c' : Context host) (p : Panic) :
    Code.programs factory channel c ≠ .error (.panic p) c' := by
  intro h
  cases channel <;> cases h

end Mute

/-- Where the code of a factory registers another one and then fails, that one stays.  Without a
panic of its code, a registration panics if the code resets the context, if the equal values of
the factory cannot be shown, or if structural depth and headroom do not sum up to a word. -/
theorem register_not_transactional :
    ((∀ p, ¬Lamp.meddling.Panics Lamp.switches p) ∧
      ∃ e c', Place.type.registerBy Lamp.meddling.create Lamp.switches (Lamp.unstocked 3) =
          .error (.failure e) c' ∧
        (Lamp.unstocked 3).registry.get? .string = none ∧ (c'.registry.get? .string).isSome = true) ∧
    ((∀ p, ¬Lamp.resetting.Panics Lamp.switches p) ∧
      ∃ p c', Place.type.registerBy Lamp.resetting.create Lamp.switches (Lamp.unstocked 3) =
        .error (.panic p) c') ∧
    ((∀ channel c c' p, Code.programs Mute.factory channel c ≠ .error (.panic p) c') ∧
      ∃ p c', Place.type.register Mute.factory (.start .standard .empty 0 ()) =
        .error (.panic p) c') ∧
    (∀ p, ¬Code.programs.Panics Lamp.switches p) ∧
      ∃ c', Place.type.register Lamp.switches (Lamp.unstocked 18446744073709551608) =
        .error (.panic .overflow) c' :=
  ⟨⟨Lamp.meddling_not_panics, _, _, rfl, rfl, rfl⟩, ⟨Lamp.resetting_not_panics, _, _, rfl⟩,
    ⟨Mute.source_not_panics, _, _, rfl⟩, Lamp.programs_not_panics, _, rfl⟩

end BeanContract
