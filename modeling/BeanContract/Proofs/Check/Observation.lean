/-
Inference observes primary beans.

Inference changes one draft again and again: for each property it stages the absence, looks at a
bean, and stages what was staged before, and halfway it changes how parameters get their values.
Putting a value back does not give back the draft itself, since a table may keep its entries in
another order, but it gives back every look-up (`Draft.Alike`), and a bean depends on nothing else.
So each observation is one of the primary values without that property, whatever was observed
before it (`agree_observe`).

What is learned is therefore what would be learned from the primary draft altered anew for each
property (`inferFrom`), without a draft that changes (`infer_eq_inferFrom`).  Results about
inference are shown in that form.
-/
import BeanContract.Check.Absence
import BeanContract.Proofs.Draft.Stage

namespace BeanContract

open Effect (Agree)

variable {H : Host} {α : Type}

namespace Draft

variable {d e : Draft H}

theorem Alike.prefer (h : d.Alike e) (p : Preference) : (d.prefer p).Alike (e.prefer p) :=
  ⟨h.blueprint, h.initial, rfl, h.expected⟩

theorem Alike.classify (h : d.Alike e) (n : String) : d.classify n = e.classify n := by
  unfold Draft.classify Draft.tryRead
  rw [h.tryNewBean, h.blueprint]

end Draft

namespace Check

/-! ## Observations of a draft that stays as it is -/

/-- What `inferProperty` learns, if each absence is staged in a copy of the draft. -/
def inferOne (d : Draft H) (op : Absence) (p : Property H) : Probe H (Property H) :=
  if p.flags.ignored || (op = .setToNull && !p.isWritable) then pure p
  else do
    let o ← (absent op d p.name).classify p.name
    let f ← learn d.blueprint p op o
    pure (p.setFinding op f)

/-- What is learned of all properties, if each absence is staged in a copy of the draft. -/
def inferFrom (d : Draft H) : Probe H (Blueprint H) := do
  let b := d.blueprint
  let creator ← Effect.gather (inferOne (d.prefer .creator) .omitted) b.creator.properties
  let bean ← Effect.gather (inferOne (d.prefer .setters) .setToNull) b.bean.properties
  pure { b with creator := ⟨creator⟩, bean := ⟨bean⟩ }

/-! ## One draft for all observations -/

theorem absent_alike {d e : Draft H} (h : d.Alike e) (op : Absence) (n : String) :
    (absent op d n).Alike (absent op e n) := by
  refine ⟨?_, ?_, ?_, fun m => ?_⟩
  · cases op <;> exact h.blueprint
  · cases op <;> exact h.initial
  · cases op <;> exact h.preference
  · cases op with
    | omitted => simp only [absent, Draft.leaveOut, Table.get?_erase, h.expected]
    | setToNull => simp only [absent, Draft.put, Table.get?_insert, h.expected]

/-- The absence of a property concerns only what is staged for it. -/
theorem alikeBut_absent (d : Draft H) (op : Absence) (n : String) :
    (absent op d n).AlikeBut n d := by
  cases op with
  | omitted =>
    refine ⟨rfl, rfl, rfl, fun m => ?_⟩
    simp only [absent, Draft.leaveOut, Table.get?_erase]
    by_cases hm : m = n <;> simp [hm]
  | setToNull => exact (Draft.AlikeBut.of_alike (.refl d) n).put_left none

def InWorld (c : Context H) (s : Draft H × Context H) (w : H.World) : Prop :=
  s.2 = { c with world := w }

/-- The draft looks like `e`, and the context is `c` in the world `w`. -/
def Beside (e : Draft H) (c : Context H) (s : Draft H × Context H) (w : H.World) : Prop :=
  s.1.Alike e ∧ InWorld c s w

variable {e : Draft H} {c : Context H} {s : Draft H × Context H} {w : H.World}

theorem agree_probe {f : Draft H → Probe H α} (hf : f s.1 = f e) (hs : InWorld c s w) :
    Agree (Stage.probe f) s (f e) w (fun _ t v => t.1 = s.1 ∧ InWorld c t v)
      fun _ => InWorld c := by
  obtain ⟨d, c'⟩ := s
  obtain rfl : c' = { c with world := w } := hs
  rw [← hf]
  cases hx : f d w with
  | ok a v =>
    have hprobe : Stage.probe f (d, { c with world := w }) = .ok a (d, { c with world := v }) :=
      Stage.probe_eq_ok.2 ⟨rfl, v, hx, rfl⟩
    exact .of_ok hprobe hx ⟨rfl, rfl⟩
  | error x v =>
    have hprobe : Stage.probe f (d, { c with world := w }) =
        .error x (d, { c with world := v }) := by
      show Effect.zoom Prod.snd (fun s c => (s.1, c)) (Run.ofProbe (f d)) _ = _
      simp only [Run.ofProbe, Effect.zoom, Effect.focus, hx, id]
    exact .of_error hprobe hx rfl

/-- An observation is one of `e`, whatever was staged and put back before it, and leaves a
draft that looks like `e`. -/
theorem agree_observe (op : Absence) (n : String) (h : Beside e c s w) :
    Agree (observe op n) s ((absent op e n).classify n) w (fun _ => Beside e c)
      fun _ => InWorld c := by
  have hseen : (absent op s.1 n).classify n = (absent op e n).classify n :=
    (absent_alike h.1 op n).classify n
  have hprobe := agree_probe (s := (absent op s.1 n, s.2)) (f := (·.classify n)) hseen h.2
  have hrest : Agree (do
        let o ← Stage.probe (·.classify n)
        Stage.change (·.restore n (s.1.expected.get? n))
        pure o : Stage H (Observation H)) (absent op s.1 n, s.2)
      ((absent op e n).classify n >>= pure) w (fun _ => Beside e c) fun _ => InWorld c := by
    refine hprobe.bind fun o t v ht => ?_
    have hback : (t.1.restore n (s.1.expected.get? n)).Alike s.1 := by
      rw [ht.1]
      exact (alikeBut_absent s.1 op n).restore
    exact .of_ok rfl rfl ⟨hback.trans h.1, ht.2⟩
  rw [bind_pure] at hrest
  exact hrest

/-- What is learned of a property is what would be learned from a copy of the draft. -/
theorem agree_inferProperty (op : Absence) (p : Property H) (h : Beside e c s w) :
    Agree (inferProperty op p) s (inferOne e op p) w (fun _ => Beside e c)
      fun _ => InWorld c := by
  unfold inferProperty inferOne
  split
  · exact .pure h
  · refine (agree_observe op p.name h).bind fun o t v ht => ?_
    have hlearn : learn t.1.blueprint p op o = learn e.blueprint p op o := by
      rw [ht.1.blueprint]
    have hprobe := agree_probe (f := fun d => learn d.blueprint p op o) hlearn ht.2
    refine hprobe.bind fun f t' v' ht' => ?_
    have hback : t'.1.Alike e := by
      rw [ht'.1]
      exact ht.1
    exact .pure ⟨hback, ht'.2⟩

/-- A pass over the properties learns what would be learned from copies of the draft. -/
theorem agree_pass (op : Absence) (ps : List (Property H)) (h : Beside e c s w) :
    Agree (Effect.gather (inferProperty op) ps) s (Effect.gather (inferOne e op) ps) w
      (fun _ => Beside e c) fun _ => InWorld c :=
  .gather (fun p _ _ _ h' => agree_inferProperty op p h') h

/-- All that is learned on one draft is what would be learned from copies of it. -/
theorem agree_inferAll (h : Beside e c s w) :
    Agree inferAll s (inferFrom e) w (fun _ => InWorld c) fun _ => InWorld c := by
  have hcreator : Beside (e.prefer .creator) c (s.1.prefer .creator, s.2) w :=
    ⟨h.1.prefer .creator, h.2⟩
  have hpasses : Agree (do
        let creator ← Effect.gather (inferProperty .omitted) e.blueprint.creator.properties
        Stage.change (·.prefer .setters)
        let bean ← Effect.gather (inferProperty .setToNull) e.blueprint.bean.properties
        pure { e.blueprint with creator := ⟨creator⟩, bean := ⟨bean⟩ } : Stage H (Blueprint H))
      (s.1.prefer .creator, s.2) (inferFrom e) w (fun _ => InWorld c) fun _ => InWorld c := by
    refine (agree_pass .omitted e.blueprint.creator.properties hcreator).bind
      fun creator t v ht => ?_
    have hsetters : Beside (e.prefer .setters) c (t.1.prefer .setters, t.2) v :=
      ⟨ht.1.prefer .setters, ht.2⟩
    have hbean := (agree_pass .setToNull e.blueprint.bean.properties hsetters).bind
      (R := fun _ => InWorld c)
      (k := fun bean => pure { e.blueprint with creator := ⟨creator⟩, bean := ⟨bean⟩ })
      fun bean t' v' ht' => .pure ht'.2
    exact hbean.congr rfl rfl
  rw [← h.1.blueprint] at hpasses
  exact hpasses.congr rfl rfl

/-- Inference learns what would be learned if each absence were staged in a copy of the primary
draft. -/
theorem infer_eq_inferFrom (b : Blueprint H) (c : Context H) :
    infer b c =
      match Stage.reset Run.create (.ofBlueprint b, c) with
      | .ok () (d, c) => Run.ofProbe (inferFrom d) c
      | .error e (_, c) => .error e c := by
  unfold infer
  cases hreset : Stage.reset Run.create (.ofBlueprint b, c) with
  | ok u t =>
    rw [Effect.bind_of_ok hreset]
    have hlearned : Agree inferAll t (inferFrom t.1) t.2.world _ _ := agree_inferAll ⟨.refl t.1, rfl⟩
    obtain ⟨d, c'⟩ := t
    unfold Run.ofProbe Effect.zoom Effect.focus
    cases hlearned.cases with
    | inl h =>
      obtain ⟨b', s', w', hx, hy, hworld⟩ := h
      rw [hx]
      dsimp only at hy ⊢
      rw [hy, show s'.2 = _ from hworld]
    | inr h =>
      obtain ⟨e, s', w', hx, hy, hworld⟩ := h
      rw [hx]
      dsimp only at hy ⊢
      rw [hy, show s'.2 = _ from hworld]
      rfl
  | error e t => rw [Effect.bind_of_error hreset]

end Check
end BeanContract
