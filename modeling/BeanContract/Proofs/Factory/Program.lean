/-
What a program yields.

`Program.Yields` says of a program, by its requests alone, that it does not fail of itself and
that its results have a property, whatever it is answered.  It asks for values of allowed types
only, takes them to be of these types, and passes a failure on.  Running such a program then
fails only as its nested creations do (`meets_program`).
-/
import BeanContract.Proofs.Effect
import BeanContract.Context.Create

namespace BeanContract

open Effect (Meets)

variable {H : Host} {α β : Type}

namespace Program

/-- With these settings and at this depth the program does not fail of itself, creates values
of allowed types only, and has results in `P`. -/
def Yields (settings : Settings) (depth : Nat) (allowed : ValueType → Prop) (P : α → Prop) :
    Program H α → Prop
  | .done a => P a
  | .halt _ => False
  | .engine next => ∀ e, (next e).Yields settings depth allowed P
  | .setEngine _ next => next.Yields settings depth allowed P
  | .world next => ∀ w, (next w).Yields settings depth allowed P
  | .setWorld _ next => next.Yields settings depth allowed P
  | .sequence next => ∀ n, (next n).Yields settings depth allowed P
  | .depth next => (next depth).Yields settings depth allowed P
  | .settings next => (next settings).Yields settings depth allowed P
  | .create t _ next => allowed t ∧
      (∀ v, Value.type? v = some t → (next (.ok v)).Yields settings depth allowed P) ∧
      ∀ e, next (.error e) = .halt (.failure e)
  | .bean _ _ _ => False

variable {settings : Settings} {depth : Nat} {allowed : ValueType → Prop} {P : α → Prop}
  {Q : β → Prop}

theorem Yields.bind {p : Program H α} {f : α → Program H β}
    (hp : p.Yields settings depth allowed P)
    (hf : ∀ a, P a → (f a).Yields settings depth allowed Q) :
    (p >>= f).Yields settings depth allowed Q := by
  show (p.bind f).Yields settings depth allowed Q
  induction p with
  | done a => exact hf a hp
  | halt h => exact hp.elim
  | engine next ih => exact fun e => ih e (hp e)
  | setEngine e next ih => exact ih hp
  | world next ih => exact fun w => ih w (hp w)
  | setWorld w next ih => exact ih hp
  | sequence next ih => exact fun n => ih n (hp n)
  | depth next ih => exact ih _ hp
  | settings next ih => exact ih _ hp
  | create t channel next ih =>
    obtain ⟨ht, hok, herror⟩ := hp
    refine ⟨ht, fun v hv => ih _ (hok v hv), fun e => ?_⟩
    show (next (.error e)).bind f = _
    rw [herror e]
    rfl
  | bean b channel next ih => exact hp.elim

theorem yields_draw {step : Random.Engine → α × Random.Engine} (h : ∀ e, P (step e).1) :
    (draw step : Program H α).Yields settings depth allowed P := h

theorem yields_createFitting {t : ValueType} (ht : allowed t) (channel : Channel) :
    (createFitting t channel : Program H (Value H)).Yields settings depth allowed
      fun v => v.type? = some t := by
  have hvalue : (createValue t channel : Program H (Value H)).Yields settings depth allowed
      fun v => v.type? = some t := ⟨ht, fun _ hv => hv, fun _ => rfl⟩
  refine hvalue.bind fun v hv => ?_
  obtain ⟨x, rfl, hx⟩ := Option.map_eq_some_iff.1 hv
  have hcast : Value.cast t (some x : Value H) = .ok (some x) := by simp [Value.cast, hx]
  rw [hcast]
  exact hv

theorem yields_atStructuralDepth :
    (atStructuralDepth : Program H Bool).Yields settings depth allowed
      fun stop => stop = decide (settings.structuralDepth.toNat ≤ depth) := rfl

end Program

/-! ## Lists and options -/

namespace Factory

variable {settings : Settings} {depth : Nat}

def Items (settings : Settings) (depth : Nat) (elem t : ValueType) : Prop :=
  t = elem ∧ depth < settings.structuralDepth.toNat

theorem items_yields {elem : ValueType} (h : depth < settings.structuralDepth.toNat)
    (channel : Channel) (n : Nat) :
    (items elem channel n : Program H (List (Datum H.Object))).Yields settings depth
      (Items settings depth elem) fun _ => True := by
  induction n with
  | zero => trivial
  | succ n ih =>
    refine (Program.yields_createFitting ⟨rfl, h⟩ channel).bind fun item _ => ?_
    exact ih.bind fun rest _ => trivial

@[simp]
theorem source_ofChannel (t : ValueType) (program : Channel → Program H (Value H))
    (channel : Channel) : (ofChannel t program).source channel = program channel := by
  cases channel <;> rfl

theorem listOf_yields (elem : ValueType) (channel : Channel) :
    ((listOf elem : Factory H).source channel).Yields settings depth
      (Items settings depth elem) fun v => v.type? = some (.list elem) := by
  rw [listOf, source_ofChannel]
  refine Program.yields_atStructuralDepth.bind fun stop hstop => ?_
  cases stop with
  | true => exact rfl
  | false =>
    have habove : depth < settings.structuralDepth.toNat := by simpa using hstop.symm
    have hitems : ∀ n, Program.Yields settings depth (Items settings depth elem)
        (fun v : Value H => v.type? = some (.list elem))
        (items elem channel n >>= fun found => pure (some (.list elem found))) := fun n =>
      (items_yields habove channel n).bind fun found _ => rfl
    cases channel with
    | primary => exact hitems 1
    | secondary => exact hitems 1
    | random =>
      exact (Program.yields_draw (P := fun _ => True) fun _ => trivial).bind fun n _ => hitems n

theorem optionOf_yields (elem : ValueType) (channel : Channel) :
    ((optionOf elem : Factory H).source channel).Yields settings depth
      (Items settings depth elem) fun v => v.type? = some (.option elem) := by
  rw [optionOf, source_ofChannel]
  refine Program.yields_atStructuralDepth.bind fun stop hstop => ?_
  cases stop with
  | true => exact rfl
  | false =>
    have habove : depth < settings.structuralDepth.toNat := by simpa using hstop.symm
    have hitem : Program.Yields settings depth (Items settings depth elem)
        (fun v : Value H => v.type? = some (.option elem))
        (Program.createFitting elem channel >>= fun item =>
          pure (some (optionDatum elem item))) := by
      refine (Program.yields_createFitting ⟨rfl, habove⟩ channel).bind fun item hitem => ?_
      obtain ⟨x, rfl, rfl⟩ := Option.map_eq_some_iff.1 hitem
      exact rfl
    cases channel with
    | primary => exact hitem
    | secondary => exact hitem
    | random =>
      refine (Program.yields_draw (P := fun _ => True) fun _ => trivial).bind fun skip _ => ?_
      cases skip with
      | true => exact rfl
      | false => exact hitem

end Factory

namespace Run

variable {create : Creator H} {settings : Settings} {depth : Nat} {allowed : ValueType → Prop}
  {I : Context H → Prop} {E : Halt → Context H → Prop} {P : α → Prop}

/-- A failure that was caught and goes on is the failure itself. -/
theorem meets_caught {x : Run H α} {c : Context H} {Q : α → Context H → Prop}
    {k : Except Failure α → Run H β} {R : β → Context H → Prop} (hx : Meets x c Q E)
    (hok : ∀ a c', Q a c' → Meets (k (.ok a)) c' R E)
    (herror : ∀ e, k (.error e) = throw (.failure e)) : Meets (caught x >>= k) c R E := by
  cases hr : x c with
  | ok a c' =>
    have hcaught : caught x c = .ok (.ok a) c' := by simp [caught, hr]
    exact Meets.bind_of_ok hcaught (hok a c' (hx.ok hr))
  | error e c' =>
    cases e with
    | failure f =>
      have hcaught : caught x c = .ok (.error f) c' := by simp [caught, hr]
      refine Meets.bind_of_ok hcaught ?_
      rw [herror f]
      exact hx.error hr
    | panic p =>
      have hcaught : caught x c = .error (.panic p) c' := by simp [caught, hr]
      have hthrow : (caught x >>= k) c = .error (.panic p) c' := by
        show EStateM.bind (caught x) k c = _
        simp [EStateM.bind, hcaught]
      refine Meets.intro (by simp [hthrow]) fun e' c'' h => ?_
      rw [hthrow] at h
      cases h
      exact hx.error hr

/-- A program that yields results in `P` does so wherever the creations that it is allowed
give values of their types, and fails only as they do. -/
theorem meets_program {p : Program H α} (hp : p.Yields settings depth allowed P)
    (hsettings : ∀ c, I c → c.settings = settings) (hdepth : ∀ c, I c → c.depth = depth)
    (hengine : ∀ c e, I c → I { c with engine := e })
    (hworld : ∀ c w, I c → I { c with world := w })
    (hsequence : ∀ c n, I c → I { c with sequence := n })
    (hcreate : ∀ t, allowed t → ∀ channel c, I c →
      Meets (createBy create t channel) c (fun v c' => I c' ∧ v.type? = some t) E)
    {c : Context H} (hc : I c) :
    Meets (program create p) c (fun a c' => I c' ∧ P a) E := by
  induction p generalizing c with
  | done a => exact Meets.pure ⟨hc, hp⟩
  | halt h => exact hp.elim
  | engine next ih => exact ih c.engine (hp _) hc
  | setEngine e next ih => exact ih hp (hengine c e hc)
  | world next ih => exact ih c.world (hp _) hc
  | setWorld w next ih => exact ih hp (hworld c w hc)
  | sequence next ih => exact ih (c.sequence + 1) (hp _) (hsequence c _ hc)
  | depth next ih =>
    show Meets (program create (next c.depth)) c _ E
    rw [hdepth c hc]
    exact ih depth hp hc
  | settings next ih =>
    show Meets (program create (next c.settings)) c _ E
    rw [hsettings c hc]
    exact ih settings hp hc
  | create t channel next ih =>
    obtain ⟨ht, hok, herror⟩ := hp
    refine meets_caught (hcreate t ht channel c hc) (fun v c' hv => ih _ (hok v hv.2) hv.1) ?_
    intro e
    show program create (next (.error e)) = _
    rw [herror e]
    rfl
  | bean b channel next ih => exact hp.elim

end Run
end BeanContract
