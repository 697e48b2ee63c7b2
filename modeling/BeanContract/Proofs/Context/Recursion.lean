/-
Creation calls itself.

The bound that `create` starts with is a device: it is never what stops a creation.  Nested
creations run in contexts of the same setup, one level deeper, and there the bound that is
left is the one that `create` would start with.  So `create` satisfies the equation of the
unbounded recursion (`create_unfold`), in which only the depth limit stops it.  A factory that
only hands out a value therefore succeeds wherever anything may be created, and leaves nothing
behind but the account of the creation (`create_done`).

The proof follows the recursion as that of `create_keeps` does: what a program does depends
on its nested creations in contexts of one setup only.
-/
import BeanContract.Proofs.Context.Setup

namespace BeanContract

open Effect (Keeps SameOn)

variable {H : Host} {α : Type} {v : Settings × Registry H × UInt64 × Nat}

namespace Stage

theorem ofRun_same {x y : Run H α} (h : SameOn Context.setup v x y) :
    SameOn setup v (ofRun x) (ofRun y) := by
  rintro ⟨d, c⟩ hc
  simp only [ofRun, Effect.zoom, Effect.focus, h c hc]

end Stage

section Creator

variable {create create' : Creator H}
  (hsame : ∀ f channel, SameOn Context.setup v (create f channel) (create' f channel))
  (hkeeps : ∀ f channel, Keeps Context.setup (create f channel))
include hsame

theorem Draft.draw_same (d : Draft H) (n : String) (channel : Channel) :
    SameOn Context.setup v (d.draw create n channel) (d.draw create' n channel) :=
  (SameOn.refl (d.factory n)).bind (d.factory_keeps n) fun f => hsame f channel

namespace Stage

theorem valueFor_same (channel : Channel) (nulls : Bool) (d : Draft H) (n : String) :
    SameOn Context.setup v (valueFor create channel nulls d n)
      (valueFor create' channel nulls d n) := by
  have hdraw := Draft.draw_same hsame d n channel
  refine (SameOn.refl get).bind Keeps.get fun c => ?_
  split
  · split
    · exact .refl _
    · split
      · refine (SameOn.refl _).bind (Run.draw_keeps _) fun null => ?_
        split
        · exact .refl _
        · exact hdraw
      · exact hdraw
  · exact hdraw

include hkeeps

theorem setAll_same (channel : Channel) (nulls : Bool) :
    SameOn setup v (setAll create channel nulls) (setAll create' channel nulls) := by
  refine (SameOn.refl draft).bind draft_keeps fun d => ?_
  refine SameOn.each (fun n => ?_) (fun n => ?_) _
  · refine (SameOn.refl draft).bind draft_keeps fun d => ?_
    have hvalue := valueFor_keeps hkeeps channel nulls d n
    exact (ofRun_same (valueFor_same hsame channel nulls d n)).bind (ofRun_keeps hvalue)
      fun _ => .refl _
  · refine draft_keeps.bind fun d => ?_
    exact (ofRun_keeps (valueFor_keeps hkeeps channel nulls d n)).bind fun _ => change_keeps _

end Stage

namespace Run

omit hsame in
theorem withPooled_same {b : Blueprint H} {use use' : Stage H α}
    (h : SameOn Stage.setup v use use') :
    SameOn Context.setup v (withPooled b use) (withPooled b use') := by
  intro c hc
  have huse : use ((c.pool.acquire b).1, c.taken b) = use' ((c.pool.acquire b).1, c.taken b) :=
    h _ hc
  rw [withPooled_eq, withPooled_eq, huse]

omit hsame in
theorem caught_same {x y : Run H α} (h : SameOn Context.setup v x y) :
    SameOn Context.setup v (caught x) (caught y) := by
  intro c hc
  simp only [caught, h c hc]

theorem createBy_same (t : ValueType) (channel : Channel) :
    SameOn Context.setup v (createBy create t channel) (createBy create' t channel) :=
  (SameOn.refl get).bind Keeps.get fun _ =>
    (SameOn.refl _).bind (Keeps.ofExcept _) fun f => hsame f channel

include hkeeps

theorem buildBy_same (b : Blueprint H) (channel : Channel) :
    SameOn Context.setup v (buildBy create b channel) (buildBy create' b channel) := by
  refine withPooled_same ?_
  exact (Stage.setAll_same hsame hkeeps channel false).bind
    (Stage.setAll_keeps hkeeps channel false) fun _ => .refl _

/-- What a program does depends on its nested creations in contexts of one setup only. -/
theorem program_same (p : Program H α) :
    SameOn Context.setup v (program create p) (program create' p) := by
  induction p with
  | done a => exact .refl _
  | halt h => exact .refl _
  | engine next ih => exact (SameOn.refl get).bind Keeps.get fun c => ih c.engine
  | setEngine e next ih => exact (SameOn.refl _).bind (.modify fun _ => rfl) fun _ => ih
  | world next ih => exact (SameOn.refl get).bind Keeps.get fun c => ih c.world
  | setWorld w next ih => exact (SameOn.refl _).bind (.modify fun _ => rfl) fun _ => ih
  | sequence next ih => exact (SameOn.refl _).bind nextSequence_keeps fun n => ih n
  | depth next ih => exact (SameOn.refl get).bind Keeps.get fun c => ih c.depth
  | settings next ih => exact (SameOn.refl get).bind Keeps.get fun c => ih c.settings
  | create t channel next ih =>
    exact (caught_same (createBy_same hsame t channel)).bind
      (caught_keeps (createBy_keeps hkeeps t channel)) fun r => ih r
  | bean b channel next ih =>
    exact (caught_same (buildBy_same hsame hkeeps b channel)).bind
      (caught_keeps (buildBy_keeps hkeeps b channel)) fun r => ih r

end Run

end Creator

namespace Settings

variable {s : Settings}

theorem depthLimit?_eq_some (h : s.structuralDepth.toNat + 8 < 2 ^ 64) :
    s.depthLimit? = some (s.structuralDepth.toNat + 8) :=
  if_pos h

theorem depthLimit?_eq_none : s.depthLimit? = none ↔ 2 ^ 64 ≤ s.structuralDepth.toNat + 8 := by
  simp [depthLimit?, UInt64.size]

theorem depthLimit_eq (h : s.structuralDepth.toNat + 8 < 2 ^ 64) :
    s.depthLimit = s.structuralDepth.toNat + 8 := by
  rw [depthLimit, depthLimit?_eq_some h]
  rfl

theorem depthLimit_eq_zero (h : 2 ^ 64 ≤ s.structuralDepth.toNat + 8) : s.depthLimit = 0 := by
  rw [depthLimit, depthLimit?_eq_none.2 h]
  rfl

end Settings

namespace Context

variable {c : Context H} {t : ValueType}

theorem refusal_of_fits (h : c.settings.structuralDepth.toNat + 8 < 2 ^ 64) :
    c.refusal t = .configuration (.tooDeep t c.depth) := by
  rw [refusal, Settings.depthLimit?_eq_some h]

theorem refusal_of_overflows (h : 2 ^ 64 ≤ c.settings.structuralDepth.toNat + 8) :
    c.refusal t = .panic .overflow := by
  rw [refusal, Settings.depthLimit?_eq_none.2 h]

end Context

namespace Run

theorem atDepthLimit_eq_true {c : Context H} :
    c.atDepthLimit = true ↔ c.settings.depthLimit ≤ c.depth := by
  simp [Context.atDepthLimit]

theorem atDepthLimit_eq_false {c : Context H} :
    c.atDepthLimit = false ↔ c.depth < c.settings.depthLimit := by
  simp [Context.atDepthLimit]

/-- The equation of the recursion: a creation is refused at the depth limit; anywhere else it
runs the program of its channel one level deeper, whose nested creations are creations. -/
theorem create_unfold (f : Factory H) (channel : Channel) (c : Context H) :
    create f channel c = if c.atDepthLimit then refuse f c
      else Effect.finish (program create (f.source channel)) Context.leave c.enter := by
  have hcreate : ∀ g ch (c' : Context H), create g ch c' =
      createWithin (c'.settings.depthLimit - c'.depth) g ch c' := fun _ _ _ => rfl
  by_cases hlimit : c.atDepthLimit = true
  · rw [if_pos hlimit, hcreate, Nat.sub_eq_zero_of_le (atDepthLimit_eq_true.1 hlimit)]
    rfl
  · have hbelow := atDepthLimit_eq_false.1 (by simpa using hlimit)
    obtain ⟨levels, hlevels⟩ : ∃ n, c.settings.depthLimit - c.depth = n + 1 :=
      ⟨c.settings.depthLimit - c.depth - 1, by omega⟩
    have hwithin : createWithin (levels + 1) f channel c =
        (if c.atDepthLimit then refuse f else do
          modify Context.enter
          Effect.finish (program (createWithin levels) (f.source channel)) Context.leave :
          Run H (Value H)) c := rfl
    rw [if_neg hlimit, hcreate, hlevels, hwithin, if_neg hlimit]
    -- The bound left for nested creations is the one that they would start with.
    have hnested : ∀ g ch, SameOn Context.setup c.enter.setup (createWithin levels g ch)
        (create g ch) := by
      intro g ch c' hc'
      have hsettings : c'.settings = c.settings := congrArg (·.1) hc'
      have hdepth : c'.depth = c.depth + 1 := congrArg (·.2.2.2) hc'
      rw [hcreate, hsettings, hdepth, show c.settings.depthLimit - (c.depth + 1) = levels by omega]
    have hprogram : program (createWithin levels) (f.source channel) c.enter =
        program create (f.source channel) c.enter :=
      program_same hnested (createWithin_keeps levels) (f.source channel) c.enter rfl
    show Effect.finish (program (createWithin levels) (f.source channel)) Context.leave c.enter =
      _
    simp only [Effect.finish, hprogram]

theorem create_of_granted {f : Factory H} {channel : Channel} {c : Context H}
    (h : c.atDepthLimit = false) : create f channel c =
      Effect.finish (program create (f.source channel)) Context.leave c.enter := by
  rw [create_unfold, h]
  rfl

theorem create_of_refused {f : Factory H} {channel : Channel} {c : Context H}
    (h : c.atDepthLimit = true) : create f channel c = .error (c.refusal f.type) c := by
  rw [create_unfold, h]
  rfl

/-- Past the greatest structural depth that leaves room for the limit, every creation panics. -/
theorem create_of_overflows {c : Context H}
    (h : 2 ^ 64 ≤ c.settings.structuralDepth.toNat + 8) (f : Factory H) (channel : Channel) :
    create f channel c = .error (.panic .overflow) c := by
  have hlimit : c.atDepthLimit = true := by
    rw [atDepthLimit_eq_true, Settings.depthLimit_eq_zero h]
    exact Nat.zero_le _
  rw [create_of_refused hlimit, Context.refusal_of_overflows h]

theorem create_done {f : Factory H} {channel : Channel} {u v : Value H} {c c' : Context H}
    (hf : f.source channel = .done v) :
    create f channel c = .ok u c' ↔ c.atDepthLimit = false ∧ u = v ∧ c' = c.enter.leave := by
  cases hlimit : c.atDepthLimit with
  | true => simp [create_of_refused hlimit]
  | false =>
    rw [create_of_granted hlimit, hf]
    show EStateM.Result.ok v c.enter.leave = .ok u c' ↔ _
    simp [eq_comm]

end Run
end BeanContract
