/-
Drafts of beans that store their properties.

Whatever fits may be staged: the bean is built, its slots hold the content of the draft, and
its properties read as their slots (`ends_newBean`, `ends_read`).  Staging a value for a
tested property changes the content of that property and of no other (`content_put_self`,
`content_put`).
-/
import BeanContract.Proofs.Storage.Basic

namespace BeanContract

open Effect (Ends)

variable {H : Host} {S : Storage H} {G : Datum H.Object → Prop}

namespace Blueprint

theorem property?_of_bean {b : Blueprint H} {n : String} {p : Property H}
    (h : b.bean.get? n = some p) : b.property? n = some p := by
  simp [property?, h]

/-- A parameter is a property of the type it was declared with. -/
theorem WellFormed.property?_of_creator {b : Blueprint H} (hb : b.WellFormed) {n : String}
    {q : Property H} (h : b.creator.get? n = some q) :
    ∃ p, b.property? n = some p ∧ p.type = q.type := by
  cases hp : b.bean.get? n with
  | none => exact ⟨q, by simp [property?, hp, h], rfl⟩
  | some p => exact ⟨p, property?_of_bean hp, (hb.agree n q p h hp).1⟩

end Blueprint

theorem ends_guarded {α : Type} {x : Adapter H α} {w : H.World} {Q : α → H.World → Prop}
    (h : Ends x w Q) : Ends (guarded x) w Q := by
  obtain ⟨a, w', hx, hq⟩ := h
  exact ⟨a, w', guarded_eq_ok.2 hx, hq⟩

theorem Property.ends_write {p : Property H} {set : H.Object → Value H → Adapter H H.Object}
    (hset : p.setter = some set) {v : Value H} (hcast : v.cast p.type = .ok v) {o : H.Object}
    {w : H.World} {Q : H.Object → H.World → Prop} (h : Ends (set o v) w Q) :
    Ends (p.write o v) w Q := by
  unfold write
  rw [hset]
  refine Ends.bind (Ends.ofExcept (Q := fun u w' => u = v ∧ w' = w) hcast ⟨rfl, rfl⟩) ?_
  rintro u w' ⟨rfl, rfl⟩
  exact ends_guarded h

namespace Draft

theorem exists_setter_of_written {d : Draft H} {p : Property H} {v : Value H}
    (h : d.written p = some v) : d.viaSetter p = true ∧ d.expected.get? p.name = some v ∧
      ∃ set, p.setter = some set := by
  unfold written at h
  split at h
  · rename_i hvia
    refine ⟨hvia, h, Option.isSome_iff_exists.1 ?_⟩
    simp only [viaSetter, Bool.and_eq_true] at hvia
    exact hvia.1.1
  · cases h

section

variable {d : Draft H} (hwf : d.blueprint.WellFormed) (hst : d.blueprint.StoresIn S G)
  (hfit : d.Fitting G)
include hwf hfit

omit hwf in
theorem fits_arg {n : String} {v : Value H} {p : Property H} (hv : d.arg? n = some v)
    (hp : d.blueprint.property? n = some p) : Fits G p.type v := by
  unfold arg? at hv
  split at hv
  · cases hi : d.initial.bind (·.get? n) with
    | none =>
      simp only [hi, Option.orElse_eq_orElse, Option.orElse_eq_or, Option.none_or] at hv
      exact hfit.expected n v hv p hp
    | some u =>
      simp only [hi, Option.orElse_eq_orElse, Option.orElse_eq_or, Option.some_or] at hv
      cases hv
      obtain ⟨values, hvalues, hu⟩ := Option.bind_eq_some_iff.1 hi
      exact hfit.initial values hvalues n _ hu p hp
  · exact hfit.expected n v hv p hp

theorem takes_args : d.blueprint.Takes G d.args := by
  intro n v hv
  rw [get?_args] at hv
  split at hv
  · rename_i hn
    obtain ⟨q, hq⟩ := Option.isSome_iff_exists.1 (Model.contains_iff.2 hn)
    obtain ⟨p, hp, htype⟩ := hwf.property?_of_creator hq
    exact ⟨q, hq, htype ▸ fits_arg hfit hv hp⟩
  · cases hv

theorem fits_written {p : Property H} (hp : p ∈ d.blueprint.bean.properties) {v : Value H}
    (hv : d.written p = some v) : Fits G p.type v := by
  have hget := Blueprint.property?_of_bean (Model.get?_of_mem hwf.bean hp)
  unfold written at hv
  split at hv
  · exact hfit.expected p.name v hv p hget
  · cases hv

include hst

theorem ends_writeAll {ps : List (Property H)} (hps : ∀ p ∈ ps, p ∈ d.blueprint.bean.properties)
    (hnodup : (ps.map (·.name)).Nodup) {o : H.Object} (ho : S.Bean o) (w : H.World) :
    Ends (d.writeAll ps o) w fun o' _ => S.Bean o' ∧ ∀ n, S.slot o' n =
      match (ps.find? fun p => p.name = n).bind d.written with
      | some v => v
      | none => S.slot o n := by
  induction ps generalizing o w with
  | nil => exact .pure ⟨ho, fun n => rfl⟩
  | cons p ps ih =>
    have hp := hps p List.mem_cons_self
    have hps' : ∀ q ∈ ps, q ∈ d.blueprint.bean.properties := fun q hq =>
      hps q (List.mem_cons_of_mem p hq)
    rw [List.map_cons, List.nodup_cons] at hnodup
    -- The property itself is not among those written after it.
    have hlast : ps.find? (fun q => q.name = p.name) = none := by
      rw [List.find?_eq_none]
      intro q hq hname
      exact hnodup.1 (of_decide_eq_true hname ▸ List.mem_map_of_mem hq)
    rw [writeAll_cons]
    cases hv : d.written p with
    | none =>
      -- Nothing is written for this property, so its slot keeps what it held.
      refine (ih hps' hnodup.2 ho w).mono fun o' w' h => ⟨h.1, fun n => ?_⟩
      rw [h.2 n, List.find?_cons]
      by_cases hn : p.name = n
      · subst hn
        simp [hlast, hv]
      · simp [hn]
    | some v =>
      have hfits := fits_written hwf hfit hp hv
      obtain ⟨-, -, set, hsetter⟩ := exists_setter_of_written hv
      have hwrite : Ends (p.write o v) w fun o' _ => S.Bean o' ∧
          ∀ n, S.slot o' n = if n = p.name then v else S.slot o n :=
        p.ends_write hsetter (cast_of_fits hfits) (hst.set p hp set hsetter o v w ho hfits)
      refine hwrite.bind fun o' w' h => ?_
      refine (ih hps' hnodup.2 h.1 w').mono fun o'' w'' h' => ⟨h'.1, fun n => ?_⟩
      rw [h'.2 n, List.find?_cons]
      by_cases hn : p.name = n
      · subst hn
        simp [hlast, hv, h.2]
      · simp [hn, h.2, Ne.symm hn]

/-- A draft of fitting values builds a bean with its content. -/
theorem ends_tryNewBean (w : H.World) :
    Ends d.tryNewBean w fun bean _ => d.Holds S bean := by
  refine (ends_guarded (hst.construct d.args w (takes_args hwf hfit))).bind fun o w₁ ho => ?_
  refine (ends_writeAll hwf hst hfit (fun _ hp => hp) hwf.bean ho.1 w₁).bind fun o' w₂ ho' => ?_
  refine .pure ⟨o', rfl, ho'.1, fun n => ?_⟩
  rw [ho'.2 n]
  unfold content Model.get?
  cases hv : (d.blueprint.bean.properties.find? fun p => p.name = n).bind d.written with
  | some v => rfl
  | none =>
    dsimp only
    rw [ho.2 n, get?_args]
    by_cases hn : d.blueprint.isParameter n = true
    · rw [if_pos hn, if_pos hn, if_pos (Model.contains_iff.1 hn)]
    · rw [if_neg hn, if_neg hn]

theorem ends_newBean (w : H.World) : Ends d.newBean w fun bean _ => d.Holds S bean := by
  refine (Ends.reify (Q := fun r _ => ∃ bean, r = .ok bean ∧ d.Holds S bean) ?_).bind ?_
  · exact (ends_tryNewBean hwf hst hfit w).mono fun bean _ h => ⟨bean, rfl, h⟩
  · rintro _ w' ⟨bean, rfl, h⟩
    exact .pure h

/-- What a slot holds fits its property. -/
theorem fits_content {n : String} {p : Property H} (hp : d.blueprint.property? n = some p) :
    Fits G p.type (d.content S n) := by
  unfold content
  cases hv : (d.blueprint.bean.get? n).bind d.written with
  | some v =>
    obtain ⟨q, hq, hwritten⟩ := Option.bind_eq_some_iff.1 hv
    have hqp : q = p := by
      rw [Blueprint.property?_of_bean hq] at hp
      exact Option.some.inj hp
    exact hqp ▸ fits_written hwf hfit (Model.mem_of_get? hq).1 hwritten
  | none =>
    dsimp only
    split
    · cases harg : d.arg? n with
      | none => exact fits_none
      | some v => exact fits_arg hfit harg hp
    · exact hst.initial n p hp

theorem ends_tryRead {bean : Value H} (hbean : d.Holds S bean) {n : String}
    (hn : d.blueprint.isReadable n = true) (w : H.World) :
    Ends (d.tryRead bean n) w fun v _ => v = d.content S n := by
  obtain ⟨o, rfl, ho, hslots⟩ := hbean
  unfold Blueprint.isReadable at hn
  cases hp : d.blueprint.bean.get? n with
  | none => simp [hp] at hn
  | some p =>
    obtain ⟨hmem, rfl⟩ := Model.mem_of_get? hp
    have hfits := fits_content hwf hst hfit (Blueprint.property?_of_bean hp)
    simp only [hp, Option.any_some, Property.isReadable] at hn
    obtain ⟨get, hget⟩ := Option.isSome_iff_exists.1 hn
    unfold tryRead Blueprint.read
    rw [hp]
    have hobject : d.blueprint.object? p.name (some (.object d.blueprint.path o)) = .ok o := by
      simp [Blueprint.object?]
    refine Ends.bind (Ends.ofExcept (Q := fun u _ => u = o) hobject rfl) ?_
    rintro u w' rfl
    unfold Property.read
    rw [hget]
    refine (ends_guarded (hst.get p hmem get hget u w' ho)).bind fun v w'' h => ?_
    obtain rfl := h
    rw [hslots]
    exact .ofExcept (cast_of_fits hfits) rfl

theorem ends_read {bean : Value H} (hbean : d.Holds S bean) {n : String}
    (hn : d.blueprint.isReadable n = true) (w : H.World) :
    Ends (d.read bean n) w fun v _ => v = d.content S n := by
  refine (Ends.reify (Q := fun r _ => r = .ok (d.content S n)) ?_).bind ?_
  · exact (ends_tryRead hwf hst hfit hbean hn w).mono fun v _ h => h ▸ rfl
  · rintro _ w' rfl
    exact .pure rfl

end

/-! ## Staging -/

section

variable {d e : Draft H} {n : String}

/-- The content of a property depends on what is looked up for it. -/
theorem content_congr (hb : d.blueprint = e.blueprint) (hp : d.preference = e.preference)
    (hi : d.initial = e.initial) (hn : d.expected.get? n = e.expected.get? n) :
    d.content S n = e.content S n := by
  have hwritten : ∀ p, d.blueprint.bean.get? n = some p → d.written p = e.written p := by
    intro p hget
    unfold written viaSetter
    rw [hb, hp, (Model.mem_of_get? hget).2, hn]
  have harg : d.arg? n = e.arg? n := by
    unfold arg?
    rw [hb, hp, hi, hn]
  have hbind : (d.blueprint.bean.get? n).bind d.written =
      (e.blueprint.bean.get? n).bind e.written := by
    cases hget : d.blueprint.bean.get? n with
    | none => rw [← hb, hget]; rfl
    | some p => rw [← hb, hget]; exact hwritten p hget
  unfold content
  rw [hbind, harg, hb]

theorem content_put {m : String} (hm : m ≠ n) (v : Value H) :
    (d.put n v).content S m = d.content S m :=
  content_congr rfl rfl rfl (by simp [put, Table.get?_insert, hm])

/-- A tested property holds what is staged for it, whichever way it gets its value. -/
theorem content_of_staged (hwf : d.blueprint.WellFormed)
    (hn : d.blueprint.isTestable n = true) {v : Value H} (hv : d.expected.get? n = some v) :
    d.content S n = v := by
  unfold content
  by_cases hvia : ∃ p, d.blueprint.bean.get? n = some p ∧ d.viaSetter p = true
  · obtain ⟨p, hp, hvia⟩ := hvia
    rw [hp, Option.bind_some, written, if_pos hvia, (Model.mem_of_get? hp).2, hv]
  · -- No setter is used, so the property is a parameter that gets the staged value.
    have hnone : (d.blueprint.bean.get? n).bind d.written = none := by
      cases hp : d.blueprint.bean.get? n with
      | none => rfl
      | some p =>
        have hoff : ¬ d.viaSetter p = true := fun h => hvia ⟨p, hp, h⟩
        rw [Option.bind_some, written, if_neg hoff]
    have hdirect : d.blueprint.isWritable n = true →
        d.preference = .creator ∧ d.blueprint.isParameter n = true := by
      intro hwritable
      unfold Blueprint.isWritable at hwritable
      cases hp : d.blueprint.bean.get? n with
      | none => simp [hp] at hwritable
      | some p =>
        have hignored := hwf.ignored_of_testable hn (.inr hp)
        have hoff : ¬ d.viaSetter p = true := fun h => hvia ⟨p, hp, h⟩
        simp only [hp, Option.any_some] at hwritable
        simpa [viaSetter, hwritable, hignored, (Model.mem_of_get? hp).2] using hoff
    have hparameter : d.blueprint.isParameter n = true := by
      unfold Blueprint.isTestable at hn
      rw [Bool.and_eq_true, Bool.or_eq_true] at hn
      rcases hn.2 with h | h
      · exact h
      · exact (hdirect h).2
    have harg : d.arg? n = some v := by
      unfold arg?
      rw [if_neg, hv]
      rintro ⟨hsetters, hwritable⟩
      rw [(hdirect hwritable).1] at hsetters
      cases hsetters
    rw [hnone]
    dsimp only
    rw [if_pos hparameter, harg]
    rfl

/-- A parameter that is left out holds null. -/
theorem content_leaveOut (hp : d.preference = .creator)
    (hn : d.blueprint.isParameter n = true) : (d.leaveOut n).content S n = none := by
  have hnone : (d.leaveOut n).expected.get? n = none := by
    simp [leaveOut, Table.get?_erase]
  have hbind : ((d.leaveOut n).blueprint.bean.get? n).bind (d.leaveOut n).written = none := by
    cases hget : (d.leaveOut n).blueprint.bean.get? n with
    | none => rfl
    | some p =>
      rw [Option.bind_some]
      unfold written
      rw [(Model.mem_of_get? hget).2, hnone]
      split <;> rfl
  have harg : (d.leaveOut n).arg? n = none := by
    unfold arg?
    rw [if_neg, hnone]
    rintro ⟨hsetters, -⟩
    rw [show (d.leaveOut n).preference = d.preference from rfl, hp] at hsetters
    cases hsetters
  unfold content
  rw [hbind]
  dsimp only
  rw [harg]
  split
  · rfl
  · rename_i hn'
    exact absurd hn hn'

theorem Fitting.put (hfit : d.Fitting G) {v : Value H} (hv : d.blueprint.Accepts G n v) :
    (d.put n v).Fitting G := by
  refine ⟨fun m w hw => ?_, hfit.initial⟩
  rw [get?_put] at hw
  split at hw
  · rename_i hm
    cases hw
    rw [hm]
    exact hv
  · exact hfit.expected m w hw

theorem Fitting.leaveOut (hfit : d.Fitting G) (n : String) : (d.leaveOut n).Fitting G := by
  refine ⟨fun m w hw => hfit.expected m w ?_, hfit.initial⟩
  simp only [Draft.leaveOut, Table.get?_erase] at hw
  split at hw
  · cases hw
  · exact hw

end

end Draft
end BeanContract
