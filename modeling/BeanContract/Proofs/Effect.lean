/-
Laws of computations that keep their state when they fail.

A few views of a computation carry the proofs of this library.  A success that is known is
taken apart from its end (`bind_eq_ok`).  A computation that has to succeed is followed from
its start (`Ends`), and one that may fail is followed to both ways out (`Meets`).  A part of the
state may be the same on every way out (`Keeps`), and two computations may be the same on some
states (`SameOn`).  Code that neither reads nor changes the state is its own outcome
(`Stateless`).  Two runs that start in different states may still have the same outcome
(`Agree`), and where every step of two computations does, the computations go in step
(`InStep`).  Computations that pass through the same states may end with related results
(`Coupled`).  Loops are followed by what one round preserves.
-/
import BeanContract.Effect
import Mathlib.Algebra.Ring.Nat
import Mathlib.Data.List.Forall2

namespace BeanContract
namespace Effect

variable {ε ε' σ τ α β γ : Type}

/-! ## Known successes -/

theorem bind_eq_ok {x : EStateM ε σ α} {f : α → EStateM ε σ β} {s t : σ} {b : β} :
    (x >>= f) s = .ok b t ↔ ∃ a s', x s = .ok a s' ∧ f a s' = .ok b t := by
  show EStateM.bind x f s = .ok b t ↔ _
  cases h : x s with
  | ok a s' =>
    simp only [EStateM.bind, h]
    exact ⟨fun hf => ⟨a, s', rfl, hf⟩, fun ⟨_, _, ha, hf⟩ => by cases ha; exact hf⟩
  | error e s' => simp [EStateM.bind, h]

/-- A success goes on from its result and its state. -/
theorem bind_of_ok {x : EStateM ε σ α} {s t : σ} {a : α} (hx : x s = .ok a t)
    (f : α → EStateM ε σ β) : (x >>= f) s = f a t := by
  show EStateM.bind x f s = _
  simp only [EStateM.bind, hx]

theorem bind_of_error {x : EStateM ε σ α} {s t : σ} {e : ε} (hx : x s = .error e t)
    (f : α → EStateM ε σ β) : (x >>= f) s = .error e t := by
  show EStateM.bind x f s = _
  simp only [EStateM.bind, hx]

theorem pure_eq_ok {s t : σ} {a b : α} :
    (pure a : EStateM ε σ α) s = .ok b t ↔ a = b ∧ s = t := by
  show EStateM.Result.ok a s = .ok b t ↔ _
  simp

theorem throw_ne_ok {s t : σ} {e : ε} {a : α} : (throw e : EStateM ε σ α) s ≠ .ok a t := by
  show EStateM.Result.error e s ≠ .ok a t
  simp

theorem get_eq_ok {s t u : σ} : (get : EStateM ε σ σ) s = .ok t u ↔ s = t ∧ s = u := by
  show EStateM.Result.ok s s = .ok t u ↔ _
  simp

theorem ofExcept_eq_ok {wrap : ε' → ε} {r : Except ε' α} {s t : σ} {a : α} :
    ofExcept wrap r s = .ok a t ↔ r = .ok a ∧ s = t := by
  cases r with
  | ok b => simp [ofExcept, pure_eq_ok]
  | error e => simp [ofExcept, throw_ne_ok]

theorem reify_eq_ok {x : EStateM ε σ α} {s t : σ} {r : Except ε α} :
    (reify x : EStateM ε' σ (Except ε α)) s = .ok r t ↔
      (∃ a, r = .ok a ∧ x s = .ok a t) ∨ (∃ e, r = .error e ∧ x s = .error e t) := by
  cases h : x s with
  | ok a s' => grind [reify]
  | error e s' => grind [reify]

theorem focus_eq_ok {wrap : ε → ε'} {part : τ → σ} {put : τ → σ → τ} {x : EStateM ε σ α}
    {s t : τ} {a : α} :
    focus wrap part put x s = .ok a t ↔ ∃ u, x (part s) = .ok a u ∧ t = put s u := by
  cases h : x (part s) with
  | ok b u => grind [focus]
  | error e u => simp [focus, h]

theorem zoom_eq_ok {part : τ → σ} {put : τ → σ → τ} {x : EStateM ε σ α} {s t : τ} {a : α} :
    zoom part put x s = .ok a t ↔ ∃ u, x (part s) = .ok a u ∧ t = put s u :=
  focus_eq_ok

def Fails (x : EStateM ε σ α) : Prop := ∀ s a t, x s ≠ .ok a t

namespace Fails

protected theorem throw (e : ε) : Fails (throw e : EStateM ε σ α) := fun _ _ _ => throw_ne_ok

theorem bind_left {x : EStateM ε σ α} (hx : Fails x) (f : α → EStateM ε σ β) :
    Fails (x >>= f) := by
  intro s b t h
  obtain ⟨a, s', ha, -⟩ := bind_eq_ok.1 h
  exact hx s a s' ha

theorem bind_right {f : α → EStateM ε σ β} (hf : ∀ a, Fails (f a)) (x : EStateM ε σ α) :
    Fails (x >>= f) := by
  intro s b t h
  obtain ⟨a, s', -, hb⟩ := bind_eq_ok.1 h
  exact hf a s' b t hb

end Fails

/-- What a successful sum over a list says of its items, given a condition on the state
that every successful round keeps. -/
theorem tally_eq_ok {f : β → EStateM ε σ Nat} {I : σ → Prop} {P : β → Prop} {k : β → Nat}
    {l : List β} (step : ∀ b ∈ l, ∀ s n t, I s → f b s = .ok n t → I t ∧ P b ∧ n = k b)
    {s t : σ} {n : Nat} (hs : I s) (h : tally f l s = .ok n t) :
    I t ∧ (∀ b ∈ l, P b) ∧ n = (l.map k).sum := by
  induction l generalizing s n with
  | nil =>
    obtain ⟨rfl, rfl⟩ := pure_eq_ok.1 h
    exact ⟨hs, by simp, rfl⟩
  | cons b bs ih =>
    obtain ⟨m, s₁, hb, h⟩ := bind_eq_ok.1 h
    obtain ⟨j, s₂, hbs, h⟩ := bind_eq_ok.1 h
    obtain ⟨rfl, rfl⟩ := pure_eq_ok.1 h
    obtain ⟨hs₁, hPb, rfl⟩ := step b List.mem_cons_self s m s₁ hs hb
    obtain ⟨hs₂, hPbs, rfl⟩ :=
      ih (fun c hc => step c (List.mem_cons_of_mem b hc)) hs₁ hbs
    exact ⟨hs₂, List.forall_mem_cons.2 ⟨hPb, hPbs⟩, by simp⟩

/-- What every successful round keeps, a successful sum keeps. -/
theorem tally_invariant {f : β → EStateM ε σ Nat} {I : σ → Prop} {l : List β}
    (step : ∀ b ∈ l, ∀ s n t, I s → f b s = .ok n t → I t) {s t : σ} {n : Nat} (hs : I s)
    (h : tally f l s = .ok n t) : I t := by
  induction l generalizing s n with
  | nil =>
    obtain ⟨-, rfl⟩ := pure_eq_ok.1 h
    exact hs
  | cons b bs ih =>
    obtain ⟨m, s₁, hb, h⟩ := bind_eq_ok.1 h
    obtain ⟨k, s₂, hbs, h⟩ := bind_eq_ok.1 h
    obtain ⟨-, rfl⟩ := pure_eq_ok.1 h
    have hs₁ := step b List.mem_cons_self s m s₁ hs hb
    exact ih (fun c hc => step c (List.mem_cons_of_mem b hc)) hs₁ hbs

/-- What successfully collected results have in common, given a condition on the state
that every successful round keeps. -/
theorem gather_eq_ok {f : β → EStateM ε σ γ} {I : σ → Prop} {P : β → γ → Prop} {l : List β}
    (step : ∀ b ∈ l, ∀ s c t, I s → f b s = .ok c t → I t ∧ P b c)
    {s t : σ} {cs : List γ} (hs : I s) (h : gather f l s = .ok cs t) :
    I t ∧ List.Forall₂ P l cs := by
  induction l generalizing s cs with
  | nil =>
    obtain ⟨rfl, rfl⟩ := pure_eq_ok.1 h
    exact ⟨hs, .nil⟩
  | cons b bs ih =>
    obtain ⟨c, s₁, hb, h⟩ := bind_eq_ok.1 h
    obtain ⟨ds, s₂, hbs, h⟩ := bind_eq_ok.1 h
    obtain ⟨rfl, rfl⟩ := pure_eq_ok.1 h
    obtain ⟨hs₁, hc⟩ := step b List.mem_cons_self s c s₁ hs hb
    obtain ⟨hs₂, hds⟩ := ih (fun d hd => step d (List.mem_cons_of_mem b hd)) hs₁ hbs
    exact ⟨hs₂, .cons hc hds⟩

/-- Where each round ends in one way or another and leaves the state alone, the loop succeeds
exactly with results for all items. -/
theorem gather_eq_ok_iff {f : β → EStateM ε σ γ} {R : β → γ → Prop} {l : List β}
    (step : ∀ b ∈ l, ∀ s c t, f b s = .ok c t ↔ t = s ∧ R b c) {s t : σ} {cs : List γ} :
    gather f l s = .ok cs t ↔ t = s ∧ List.Forall₂ R l cs := by
  constructor
  · intro h
    refine gather_eq_ok (I := fun u => u = s) (fun b hb u c t' hu hc => ?_) rfl h
    subst hu
    exact (step b hb u c t').1 hc
  · rintro ⟨rfl, hcs⟩
    induction hcs with
    | nil => rfl
    | @cons b c bs cs hbc _ ih =>
      have hbs := ih fun d hd => step d (List.mem_cons_of_mem b hd)
      refine bind_eq_ok.2 ⟨c, t, (step b List.mem_cons_self t c t).2 ⟨rfl, hbc⟩, ?_⟩
      exact bind_eq_ok.2 ⟨cs, t, hbs, rfl⟩

def result? : EStateM.Result ε σ α → Option α
  | .ok a _ => some a
  | .error _ _ => none

theorem result?_eq_some {r : EStateM.Result ε σ α} {a : α} :
    result? r = some a ↔ ∃ t, r = .ok a t := by
  cases r with
  | ok b t => simp [result?]
  | error e t => simp [result?]

theorem isSome_result? {r : EStateM.Result ε σ α} :
    (result? r).isSome = true ↔ ∃ a t, r = .ok a t := by
  simp only [Option.isSome_iff_exists, result?_eq_some]

def error? : EStateM.Result ε σ α → Option ε
  | .ok _ _ => none
  | .error e _ => some e

theorem error?_eq_some {r : EStateM.Result ε σ α} {e : ε} :
    error? r = some e ↔ ∃ t, r = .error e t := by
  cases r with
  | ok a t => simp [error?]
  | error e' t => simp [error?]

/-! ## Successes that have to be shown -/

def Ends (x : EStateM ε σ α) (s : σ) (Q : α → σ → Prop) : Prop :=
  ∃ a t, x s = .ok a t ∧ Q a t

namespace Ends

variable {x : EStateM ε σ α} {s : σ} {Q : α → σ → Prop}

theorem mono {R : α → σ → Prop} (h : Ends x s Q) (hQ : ∀ a t, Q a t → R a t) : Ends x s R := by
  obtain ⟨a, t, hx, ha⟩ := h
  exact ⟨a, t, hx, hQ a t ha⟩

protected theorem pure {a : α} (h : Q a s) : Ends (pure a : EStateM ε σ α) s Q :=
  ⟨a, s, rfl, h⟩

protected theorem bind {f : α → EStateM ε σ β} {R : β → σ → Prop} (h : Ends x s Q)
    (hf : ∀ a t, Q a t → Ends (f a) t R) : Ends (x >>= f) s R := by
  obtain ⟨a, t, hx, ha⟩ := h
  obtain ⟨b, u, hfa, hb⟩ := hf a t ha
  exact ⟨b, u, bind_eq_ok.2 ⟨a, t, hx, hfa⟩, hb⟩

/-- A choice of the first step. -/
protected theorem branch {p : Prop} [Decidable p] {y : EStateM ε σ α} {f : α → EStateM ε σ β}
    {R : β → σ → Prop} (h : Ends (if p then x else y) s Q)
    (hf : ∀ a t, Q a t → Ends (f a) t R) : Ends (if p then x >>= f else y >>= f) s R := by
  split at h
  · rename_i hp
    rw [if_pos hp]
    exact h.bind hf
  · rename_i hp
    rw [if_neg hp]
    exact h.bind hf

protected theorem modify {f : σ → σ} {Q : PUnit → σ → Prop} (h : Q ⟨⟩ (f s)) :
    Ends (modify f : EStateM ε σ PUnit) s Q :=
  ⟨⟨⟩, f s, rfl, h⟩

protected theorem ofExcept {wrap : ε' → ε} {r : Except ε' α} {a : α} (hr : r = .ok a)
    (h : Q a s) : Ends (ofExcept wrap r) s Q :=
  ⟨a, s, ofExcept_eq_ok.2 ⟨hr, rfl⟩, h⟩

protected theorem zoom {part : τ → σ} {put : τ → σ → τ} {x : EStateM ε σ α} {s : τ}
    {Q : α → τ → Prop} (h : Ends x (part s) fun a u => Q a (put s u)) :
    Ends (zoom part put x) s Q := by
  obtain ⟨a, u, hx, ha⟩ := h
  exact ⟨a, put s u, zoom_eq_ok.2 ⟨u, hx, rfl⟩, ha⟩

protected theorem reify {x : EStateM ε σ α} {s : σ} {Q : Except ε α → σ → Prop}
    (h : Ends x s fun a => Q (.ok a)) : Ends (reify x : EStateM ε' σ (Except ε α)) s Q := by
  obtain ⟨a, t, hx, ha⟩ := h
  exact ⟨.ok a, t, reify_eq_ok.2 (.inl ⟨a, rfl, hx⟩), ha⟩

variable {I : σ → Prop}

protected theorem tally {f : β → EStateM ε σ Nat} {l : List β}
    (step : ∀ b ∈ l, ∀ s, I s → Ends (f b) s fun _ => I) (hs : I s) :
    Ends (tally f l) s fun _ => I := by
  induction l generalizing s with
  | nil => exact .pure hs
  | cons b bs ih =>
    refine (step b List.mem_cons_self s hs).bind fun n t ht => ?_
    refine (ih (fun c hc => step c (List.mem_cons_of_mem b hc)) ht).bind fun m u hu => ?_
    exact .pure hu

protected theorem each {f : β → EStateM ε σ Unit} {l : List β}
    (step : ∀ b ∈ l, ∀ s, I s → Ends (f b) s fun _ => I) (hs : I s) :
    Ends (each f l) s fun _ => I := by
  induction l generalizing s with
  | nil => exact .pure hs
  | cons b bs ih =>
    refine (step b List.mem_cons_self s hs).bind fun _ t ht => ?_
    exact ih (fun c hc => step c (List.mem_cons_of_mem b hc)) ht

protected theorem times {x : EStateM ε σ Unit} (step : ∀ s, I s → Ends x s fun _ => I)
    (n : Nat) (hs : I s) : Ends (times x n) s fun _ => I := by
  induction n generalizing s with
  | zero => exact .pure hs
  | succ n ih => exact (step s hs).bind fun _ t ht => ih ht

/-- Collected results satisfy, item by item, what each round ensures. -/
protected theorem gather {f : β → EStateM ε σ γ} {P : β → γ → Prop} {l : List β}
    (step : ∀ b ∈ l, ∀ s, I s → Ends (f b) s fun c t => I t ∧ P b c) (hs : I s) :
    Ends (gather f l) s fun cs t => I t ∧ List.Forall₂ P l cs := by
  induction l generalizing s with
  | nil => exact .pure ⟨hs, .nil⟩
  | cons b bs ih =>
    refine (step b List.mem_cons_self s hs).bind fun c t ht => ?_
    refine (ih (fun d hd => step d (List.mem_cons_of_mem b hd)) ht.1).bind fun cs u hu => ?_
    exact .pure ⟨hu.1, .cons ht.2 hu.2⟩

end Ends

/-! ## What a computation cannot change -/

def after : EStateM.Result ε σ α → σ
  | .ok _ s => s
  | .error _ s => s

@[simp] theorem after_finish (x : EStateM ε σ α) (cleanup : σ → σ) (s : σ) :
    after (finish x cleanup s) = cleanup (after (x s)) := by
  unfold finish
  cases x s <;> rfl

/-- Whatever becomes of the computation, the part of the state that `f` reads stays. -/
def Keeps (f : σ → γ) (x : EStateM ε σ α) : Prop := ∀ s, f (after (x s)) = f s

namespace Keeps

variable {f : σ → γ} {x : EStateM ε σ α}

theorem of_ok {s t : σ} {a : α} (hx : Keeps f x) (h : x s = .ok a t) : f t = f s := by
  have := hx s
  rwa [h] at this

protected theorem pure (a : α) : Keeps f (pure a : EStateM ε σ α) := fun _ => rfl

protected theorem throw (e : ε) : Keeps f (throw e : EStateM ε σ α) := fun _ => rfl

protected theorem get : Keeps f (get : EStateM ε σ σ) := fun _ => rfl

protected theorem modify {g : σ → σ} (h : ∀ s, f (g s) = f s) :
    Keeps f (modify g : EStateM ε σ PUnit) := h

protected theorem bind {k : α → EStateM ε σ β} (hx : Keeps f x) (hk : ∀ a, Keeps f (k a)) :
    Keeps f (x >>= k) := by
  intro s
  show f (after (EStateM.bind x k s)) = f s
  have hs := hx s
  cases h : x s with
  | ok a t =>
    rw [h] at hs
    simpa [EStateM.bind, h] using (hk a t).trans hs
  | error e t =>
    rw [h] at hs
    simpa [EStateM.bind, h, after] using hs

/-- What the second step keeps is as the first one leaves it. -/
theorem after_bind {k : α → EStateM ε σ β} (hk : ∀ a, Keeps f (k a)) (s : σ) :
    f (after ((x >>= k) s)) = f (after (x s)) := by
  show f (after (EStateM.bind x k s)) = _
  cases h : x s with
  | ok a t =>
    simp only [EStateM.bind, h]
    exact hk a t
  | error e t => simp only [EStateM.bind, h, after]

protected theorem ofExcept {wrap : ε' → ε} (r : Except ε' α) :
    Keeps f (ofExcept wrap r : EStateM ε σ α) := by
  cases r with
  | ok a => exact Keeps.pure a
  | error e => exact Keeps.throw _

/-- A computation on one part of a state keeps what writing that part keeps. -/
protected theorem zoom_of_put {f : τ → γ} {part : τ → σ} {put : τ → σ → τ}
    (h : ∀ t s, f (put t s) = f t) (x : EStateM ε σ α) : Keeps f (zoom part put x) := by
  intro t
  cases hr : x (part t) with
  | ok a s => simp [zoom, focus, hr, after, h]
  | error e s => simp [zoom, focus, hr, after, h]

/-- What a computation keeps of one part of a state is kept of the state. -/
protected theorem zoom {f : τ → γ} {g : σ → γ} {part : τ → σ} {put : τ → σ → τ}
    (hput : ∀ t s, f (put t s) = g s) (hpart : ∀ t, g (part t) = f t) {x : EStateM ε σ α}
    (hx : Keeps g x) : Keeps f (zoom part put x) := by
  intro t
  have ht := (hx (part t)).trans (hpart t)
  cases hr : x (part t) with
  | ok a s =>
    rw [hr] at ht
    simpa [Effect.zoom, focus, hr, after, hput] using ht
  | error e s =>
    rw [hr] at ht
    simpa [Effect.zoom, focus, hr, after, hput] using ht

/-- A choice of the first step. -/
protected theorem branch {p : Prop} [Decidable p] {y : EStateM ε σ α} {k : α → EStateM ε σ β}
    (h : Keeps f (if p then x else y)) (hk : ∀ a, Keeps f (k a)) :
    Keeps f (if p then x >>= k else y >>= k) := by
  split at h
  · rename_i hp
    rw [if_pos hp]
    exact h.bind hk
  · rename_i hp
    rw [if_neg hp]
    exact h.bind hk

protected theorem each {g : β → EStateM ε σ Unit} (h : ∀ b, Keeps f (g b)) (l : List β) :
    Keeps f (each g l) := by
  induction l with
  | nil => exact Keeps.pure _
  | cons b bs ih => exact Keeps.bind (h b) fun _ => ih

protected theorem times {x : EStateM ε σ Unit} (h : Keeps f x) (n : Nat) :
    Keeps f (times x n) := by
  induction n with
  | zero => exact Keeps.pure _
  | succ n ih => exact Keeps.bind h fun _ => ih

end Keeps

/-! ## Both ways out -/

/-- From `s` the computation succeeds with a result and a state that satisfy `Q`, or fails
with an error and a state that satisfy `E`. -/
def Meets (x : EStateM ε σ α) (s : σ) (Q : α → σ → Prop) (E : ε → σ → Prop) : Prop :=
  match x s with
  | .ok a t => Q a t
  | .error e t => E e t

namespace Meets

variable {x : EStateM ε σ α} {s : σ} {Q : α → σ → Prop} {E : ε → σ → Prop}

theorem ok (h : Meets x s Q E) {a : α} {t : σ} (hx : x s = .ok a t) : Q a t := by
  unfold Meets at h
  rwa [hx] at h

theorem error (h : Meets x s Q E) {e : ε} {t : σ} (hx : x s = .error e t) : E e t := by
  unfold Meets at h
  rwa [hx] at h

theorem intro (hok : ∀ a t, x s = .ok a t → Q a t) (herror : ∀ e t, x s = .error e t → E e t) :
    Meets x s Q E := by
  unfold Meets
  cases hx : x s with
  | ok a t => exact hok a t hx
  | error e t => exact herror e t hx

theorem mono {R : α → σ → Prop} {F : ε → σ → Prop} (h : Meets x s Q E)
    (hQ : ∀ a t, Q a t → R a t) (hE : ∀ e t, E e t → F e t) : Meets x s R F :=
  intro (fun a t hx => hQ a t (h.ok hx)) fun e t hx => hE e t (h.error hx)

/-- What holds of the state on either way out holds of the state that is left. -/
theorem of_after {P : σ → Prop} (h : P (after (x s))) : Meets x s (fun _ => P) fun _ => P := by
  unfold Meets
  cases hx : x s with
  | ok a t => simpa [hx, Effect.after] using h
  | error e t => simpa [hx, Effect.after] using h

theorem after {P : σ → Prop} (h : Meets x s (fun _ => P) fun _ => P) : P (after (x s)) := by
  unfold Meets at h
  cases hx : x s with
  | ok a t => simpa [hx, Effect.after] using h
  | error e t => simpa [hx, Effect.after] using h

theorem of_ends (h : Ends x s Q) : Meets x s Q E := by
  obtain ⟨a, t, hx, ha⟩ := h
  simpa [Meets, hx] using ha

/-- Without an error to end in, the computation ends as it should. -/
theorem ends (h : Meets x s Q fun _ _ => False) : Ends x s Q := by
  cases hx : x s with
  | ok a t => exact ⟨a, t, hx, h.ok hx⟩
  | error e t => exact (h.error hx).elim

protected theorem pure {a : α} (h : Q a s) : Meets (pure a : EStateM ε σ α) s Q E := h

protected theorem bind {f : α → EStateM ε σ β} {R : β → σ → Prop} (h : Meets x s Q E)
    (hf : ∀ a t, Q a t → Meets (f a) t R E) : Meets (x >>= f) s R E := by
  show Meets (EStateM.bind x f) s R E
  cases hx : x s with
  | ok a t => simpa [Meets, EStateM.bind, hx] using hf a t (h.ok hx)
  | error e t => simpa [Meets, EStateM.bind, hx] using h.error hx

protected theorem zoom {part : τ → σ} {put : τ → σ → τ} {x : EStateM ε σ α} {s : τ}
    {Q : α → τ → Prop} {E : ε → τ → Prop}
    (h : Meets x (part s) (fun a u => Q a (put s u)) fun e u => E e (put s u)) :
    Meets (zoom part put x) s Q E := by
  cases hx : x (part s) with
  | ok a u => simpa [Meets, Effect.zoom, focus, hx] using h.ok hx
  | error e u => simpa [Meets, Effect.zoom, focus, hx] using h.error hx

protected theorem finish {cleanup : σ → σ}
    (h : Meets x s (fun a t => Q a (cleanup t)) fun e t => E e (cleanup t)) :
    Meets (finish x cleanup) s Q E := by
  cases hx : x s with
  | ok a t => simpa [Meets, Effect.finish, hx] using h.ok hx
  | error e t => simpa [Meets, Effect.finish, hx] using h.error hx

/-- A success that is known goes on from its result and its state. -/
theorem bind_of_ok {f : α → EStateM ε σ β} {R : β → σ → Prop} {a : α} {t : σ}
    (hx : x s = .ok a t) (hf : Meets (f a) t R E) : Meets (x >>= f) s R E :=
  Meets.bind (Q := fun b u => b = a ∧ u = t) (intro (by simp [hx]) (by simp [hx]))
    fun b u h => by rw [h.1, h.2]; exact hf

/-- A loop keeps what each round keeps, and ends with what each round has ensured of its item,
provided later rounds keep that. -/
protected theorem each {f : β → EStateM ε σ Unit} {I : σ → Prop} {P : β → σ → Prop}
    {l : List β} (step : ∀ b ∈ l, ∀ s, I s →
      Meets (f b) s (fun _ t => I t ∧ P b t ∧ ∀ c, P c s → P c t) E) (hs : I s) :
    Meets (each f l) s (fun _ t => I t ∧ (∀ b ∈ l, P b t) ∧ ∀ c, P c s → P c t) E := by
  induction l generalizing s with
  | nil => exact Meets.pure ⟨hs, by simp, fun _ hc => hc⟩
  | cons b bs ih =>
    refine (step b List.mem_cons_self s hs).bind fun _ t ht => ?_
    obtain ⟨hI, hb, hkeep⟩ := ht
    refine (ih (fun c hc => step c (List.mem_cons_of_mem b hc)) hI).mono ?_ fun _ _ he => he
    rintro _ u ⟨hI', hbs, hkeep'⟩
    exact ⟨hI', List.forall_mem_cons.2 ⟨hkeep' b hb, hbs⟩, fun c hc => hkeep' c (hkeep c hc)⟩

end Meets

/-! ## Errors -/

def Only (E : ε → Prop) (x : EStateM ε σ α) : Prop := ∀ s e t, x s = .error e t → E e

namespace Only

variable {E : ε → Prop} {x : EStateM ε σ α}

protected theorem pure (a : α) : Only E (pure a : EStateM ε σ α) := by
  intro s e t h
  cases h

protected theorem throw {e : ε} (he : E e) : Only E (throw e : EStateM ε σ α) := by
  intro s e' t h
  cases h
  exact he

protected theorem ofExcept {wrap : ε' → ε} {r : Except ε' α}
    (h : ∀ e, r = .error e → E (wrap e)) : Only E (ofExcept wrap r : EStateM ε σ α) := by
  cases r with
  | ok a => exact .pure a
  | error e => exact .throw (h e rfl)

protected theorem bind {f : α → EStateM ε σ β} (hx : Only E x) (hf : ∀ a, Only E (f a)) :
    Only E (x >>= f) := by
  intro s e t h
  change EStateM.bind x f s = .error e t at h
  unfold EStateM.bind at h
  cases hr : x s with
  | ok a s' =>
    rw [hr] at h
    exact hf a s' e t h
  | error e' s' =>
    rw [hr] at h
    cases h
    exact hx s e t hr

/-- What has become a result is no error any more. -/
protected theorem reify (y : EStateM ε' σ α) :
    Only E (reify y : EStateM ε σ (Except ε' α)) := by
  intro s e t h
  unfold Effect.reify at h
  cases hr : y s with
  | ok a s' => simp [hr] at h
  | error e' s' => simp [hr] at h

theorem mono {F : ε → Prop} (h : Only E x) (hF : ∀ e, E e → F e) : Only F x :=
  fun s e t he => hF e (h s e t he)

protected theorem each {f : β → EStateM ε σ Unit} (hf : ∀ b, Only E (f b)) (l : List β) :
    Only E (each f l) := by
  induction l with
  | nil => exact .pure ()
  | cons b bs ih => exact (hf b).bind fun _ => ih

protected theorem tally {f : β → EStateM ε σ Nat} (hf : ∀ b, Only E (f b)) (l : List β) :
    Only E (tally f l) := by
  induction l with
  | nil => exact .pure 0
  | cons b bs ih => exact (hf b).bind fun _ => ih.bind fun _ => .pure _

protected theorem gather {f : β → EStateM ε σ γ} (hf : ∀ b, Only E (f b)) (l : List β) :
    Only E (gather f l) := by
  induction l with
  | nil => exact .pure []
  | cons b bs ih => exact (hf b).bind fun _ => ih.bind fun _ => .pure _

end Only

/-! ## Computations that agree -/

/-- The computations do the same wherever the part of the state that `f` reads is `v`. -/
def SameOn (f : σ → γ) (v : γ) (x y : EStateM ε σ α) : Prop := ∀ s, f s = v → x s = y s

namespace SameOn

variable {f : σ → γ} {v : γ} {x y : EStateM ε σ α}

protected theorem refl (x : EStateM ε σ α) : SameOn f v x x := fun _ _ => rfl

/-- Two computations agree if their first steps do, and what follows does after a step that
keeps the part of the state. -/
protected theorem bind {k l : α → EStateM ε σ β} (h : SameOn f v x y) (hx : Keeps f x)
    (hk : ∀ a, SameOn f v (k a) (l a)) : SameOn f v (x >>= k) (y >>= l) := by
  intro s hs
  show EStateM.bind x k s = EStateM.bind y l s
  unfold EStateM.bind
  rw [← h s hs]
  cases hr : x s with
  | ok a t => exact hk a t ((hx.of_ok hr).trans hs)
  | error e t => rfl

protected theorem each {g h : β → EStateM ε σ Unit} (hgh : ∀ b, SameOn f v (g b) (h b))
    (hg : ∀ b, Keeps f (g b)) (l : List β) : SameOn f v (each g l) (each h l) := by
  induction l with
  | nil => exact .refl _
  | cons b bs ih => exact (hgh b).bind (hg b) fun _ => ih

end SameOn

/-- A loop is what its rounds are. -/
theorem each_congr {g h : β → EStateM ε σ Unit} {l : List β} (hgh : ∀ b ∈ l, g b = h b) :
    each g l = each h l := by
  induction l with
  | nil => rfl
  | cons b bs ih =>
    rw [each, each, hgh b List.mem_cons_self, ih fun c hc => hgh c (List.mem_cons_of_mem b hc)]

/-! ## Code without a state -/

/-- The computation has one outcome, and neither reads nor changes the state. -/
def Stateless (x : EStateM ε σ α) : Prop := ∃ r : Except ε α, x = ofExcept id r

namespace Stateless

variable {x : EStateM ε σ α}

/-- A success of a computation without a state is its outcome in every state. -/
theorem of_ok {s t : σ} {a : α} (hx : Stateless x) (h : x s = .ok a t) :
    t = s ∧ ∀ u, x u = .ok a u := by
  obtain ⟨r, rfl⟩ := hx
  obtain ⟨rfl, rfl⟩ := ofExcept_eq_ok.1 h
  exact ⟨rfl, fun _ => rfl⟩

protected theorem pure (a : α) : Stateless (pure a : EStateM ε σ α) := ⟨.ok a, rfl⟩

protected theorem throw (e : ε) : Stateless (throw e : EStateM ε σ α) := ⟨.error e, rfl⟩

protected theorem ofExcept (wrap : ε' → ε) (r : Except ε' α) :
    Stateless (ofExcept wrap r : EStateM ε σ α) := by
  cases r with
  | ok a => exact .pure a
  | error e => exact .throw _

protected theorem bind {f : α → EStateM ε σ β} (hx : Stateless x) (hf : ∀ a, Stateless (f a)) :
    Stateless (x >>= f) := by
  obtain ⟨r, rfl⟩ := hx
  cases r with
  | ok a => exact hf a
  | error e => exact .throw e

/-- What becomes of a caught outcome is given for an error and for a result. -/
theorem bind_reify {f : Except ε α → EStateM ε' σ β} (hx : Stateless x)
    (herror : ∀ e, Stateless (f (.error e))) (hok : ∀ a, Stateless (f (.ok a))) :
    Stateless (reify x >>= f) := by
  obtain ⟨r, rfl⟩ := hx
  cases r with
  | ok a => exact hok a
  | error e => exact herror e

protected theorem reify (hx : Stateless x) :
    Stateless (reify x : EStateM ε' σ (Except ε α)) := by
  obtain ⟨r, rfl⟩ := hx
  cases r with
  | ok a => exact .pure _
  | error e => exact .pure _

/-- What was made a result is the outcome in every state. -/
theorem of_reify (hx : Stateless x) {s t : σ} {r : Except ε α}
    (h : (reify x : EStateM ε' σ (Except ε α)) s = .ok r t) :
    (∃ a, r = .ok a ∧ ∀ u, x u = .ok a u) ∨ (∃ e, r = .error e ∧ ∀ u, x u = .error e u) := by
  obtain ⟨r', rfl⟩ := hx
  cases r' with
  | ok a =>
    cases h
    exact .inl ⟨a, rfl, fun _ => rfl⟩
  | error e =>
    cases h
    exact .inr ⟨e, rfl, fun _ => rfl⟩

end Stateless

/-! ## Two runs -/

/-- From `s` and `t` the computations succeed with the same result, in states that satisfy `Q`
with it, or fail with the same error, in states that satisfy `E` with it. -/
def Agree (x : EStateM ε σ α) (s : σ) (y : EStateM ε τ α) (t : τ) (Q : α → σ → τ → Prop)
    (E : ε → σ → τ → Prop) : Prop :=
  match x s, y t with
  | .ok a s', .ok b t' => a = b ∧ Q a s' t'
  | .error e s', .error f t' => e = f ∧ E e s' t'
  | _, _ => False

namespace Agree

variable {x : EStateM ε σ α} {y : EStateM ε τ α} {s : σ} {t : τ} {Q : α → σ → τ → Prop}
  {E : ε → σ → τ → Prop}

theorem cases (h : Agree x s y t Q E) :
    (∃ a s' t', x s = .ok a s' ∧ y t = .ok a t' ∧ Q a s' t') ∨
      ∃ e s' t', x s = .error e s' ∧ y t = .error e t' ∧ E e s' t' := by
  unfold Agree at h
  cases hx : x s with
  | ok a s' =>
    cases hy : y t with
    | ok b t' =>
      simp only [hx, hy] at h
      obtain ⟨rfl, hQ⟩ := h
      exact .inl ⟨a, s', t', rfl, rfl, hQ⟩
    | error e t' => simp [hx, hy] at h
  | error e s' =>
    cases hy : y t with
    | ok b t' => simp [hx, hy] at h
    | error f t' =>
      simp only [hx, hy] at h
      obtain ⟨rfl, hE⟩ := h
      exact .inr ⟨e, s', t', rfl, rfl, hE⟩

/-- Only the outcomes of the computations matter. -/
theorem congr {x' : EStateM ε σ α} {y' : EStateM ε τ α} {s' : σ} {t' : τ}
    (h : Agree x s y t Q E) (hx : x' s' = x s) (hy : y' t' = y t) : Agree x' s' y' t' Q E := by
  unfold Agree
  rw [hx, hy]
  exact h

theorem of_ok {a : α} {s' : σ} {t' : τ} (hx : x s = .ok a s') (hy : y t = .ok a t')
    (h : Q a s' t') : Agree x s y t Q E := by
  simp only [Agree, hx, hy]
  exact ⟨trivial, h⟩

theorem of_error {e : ε} {s' : σ} {t' : τ} (hx : x s = .error e s') (hy : y t = .error e t')
    (h : E e s' t') : Agree x s y t Q E := by
  simp only [Agree, hx, hy]
  exact ⟨trivial, h⟩

/-- A computation does in one state what it does there. -/
protected theorem refl {E : ε → Prop} {x : EStateM ε σ α} (h : Only E x) (s : σ) :
    Agree x s x s (fun _ s' t' => t' = s') fun e s' t' => E e ∧ t' = s' := by
  cases hx : x s with
  | ok a s' => exact of_ok hx hx rfl
  | error e s' => exact of_error hx hx ⟨h s e s' hx, rfl⟩

theorem mono {R : α → σ → τ → Prop} {F : ε → σ → τ → Prop} (h : Agree x s y t Q E)
    (hQ : ∀ a s' t', Q a s' t' → R a s' t') (hE : ∀ e s' t', E e s' t' → F e s' t') :
    Agree x s y t R F := by
  cases h.cases with
  | inl h =>
    obtain ⟨a, s', t', hx, hy, h⟩ := h
    exact of_ok hx hy (hQ a s' t' h)
  | inr h =>
    obtain ⟨e, s', t', hx, hy, h⟩ := h
    exact of_error hx hy (hE e s' t' h)

protected theorem pure {a : α} (h : Q a s t) :
    Agree (pure a : EStateM ε σ α) s (pure a : EStateM ε τ α) t Q E :=
  of_ok rfl rfl h

protected theorem throw {e : ε} (h : E e s t) :
    Agree (throw e : EStateM ε σ α) s (throw e : EStateM ε τ α) t Q E :=
  of_error rfl rfl h

protected theorem ofExcept {wrap : ε' → ε} {r : Except ε' α}
    (hok : ∀ a, r = .ok a → Q a s t) (herror : ∀ e, r = .error e → E (wrap e) s t) :
    Agree (ofExcept wrap r : EStateM ε σ α) s (ofExcept wrap r : EStateM ε τ α) t Q E := by
  cases r with
  | ok a => exact .pure (hok a rfl)
  | error e => exact .throw (herror e rfl)

/-- What follows goes on with a result of the first step. -/
theorem bind_of_ok {k : α → EStateM ε σ β} {l : α → EStateM ε τ β} {R : β → σ → τ → Prop}
    (h : Agree x s y t Q E)
    (hk : ∀ a s' t', x s = .ok a s' → Q a s' t' → Agree (k a) s' (l a) t' R E) :
    Agree (x >>= k) s (y >>= l) t R E := by
  cases h.cases with
  | inl h =>
    obtain ⟨a, s', t', hx, hy, h⟩ := h
    exact (hk a s' t' hx h).congr (Effect.bind_of_ok hx k) (Effect.bind_of_ok hy l)
  | inr h =>
    obtain ⟨e, s', t', hx, hy, h⟩ := h
    exact of_error (bind_of_error hx k) (bind_of_error hy l) h

protected theorem bind {k : α → EStateM ε σ β} {l : α → EStateM ε τ β} {R : β → σ → τ → Prop}
    (h : Agree x s y t Q E) (hk : ∀ a s' t', Q a s' t' → Agree (k a) s' (l a) t' R E) :
    Agree (x >>= k) s (y >>= l) t R E :=
  h.bind_of_ok fun a s' t' _ => hk a s' t'

protected theorem finish {cleanup : σ → σ} {cleanup' : τ → τ}
    (h : Agree x s y t (fun a s' t' => Q a (cleanup s') (cleanup' t'))
      fun e s' t' => E e (cleanup s') (cleanup' t')) :
    Agree (finish x cleanup) s (finish y cleanup') t Q E := by
  cases h.cases with
  | inl h =>
    obtain ⟨a, s', t', hx, hy, h⟩ := h
    refine of_ok (a := a) ?_ ?_ h
    · simp only [Effect.finish, hx]
    · simp only [Effect.finish, hy]
  | inr h =>
    obtain ⟨e, s', t', hx, hy, h⟩ := h
    refine of_error (e := e) ?_ ?_ h
    · simp only [Effect.finish, hx]
    · simp only [Effect.finish, hy]

/-- A failure that has become a result is the same one. -/
protected theorem reify {R : Except ε α → σ → τ → Prop} {F : ε' → σ → τ → Prop}
    (h : Agree x s y t (fun a => R (.ok a)) fun e => R (.error e)) :
    Agree (reify x : EStateM ε' σ (Except ε α)) s (reify y : EStateM ε' τ (Except ε α)) t R F := by
  cases h.cases with
  | inl h =>
    obtain ⟨a, s', t', hx, hy, h⟩ := h
    refine of_ok (a := .ok a) ?_ ?_ h
    · simp only [Effect.reify, hx]
    · simp only [Effect.reify, hy]
  | inr h =>
    obtain ⟨e, s', t', hx, hy, h⟩ := h
    refine of_ok (a := .error e) ?_ ?_ h
    · simp only [Effect.reify, hx]
    · simp only [Effect.reify, hy]

/-- Code without a state has the same outcome everywhere. -/
theorem of_stateless {x : EStateM ε σ α} {s t : σ} {Q : α → σ → σ → Prop} {E : ε → σ → σ → Prop}
    (hx : Stateless x) (hok : ∀ a, Q a s t) (herror : ∀ e, E e s t) : Agree x s x t Q E := by
  obtain ⟨r, rfl⟩ := hx
  exact .ofExcept (fun a _ => hok a) fun e _ => herror e

protected theorem zoom {υ : Type} {part : τ → σ} {put : τ → σ → τ} {part' : υ → σ}
    {put' : υ → σ → υ} {x y : EStateM ε σ α} {s : τ} {t : υ} {Q : α → τ → υ → Prop}
    {E : ε → τ → υ → Prop} (h : Agree x (part s) y (part' t)
      (fun a u v => Q a (put s u) (put' t v)) fun e u v => E e (put s u) (put' t v)) :
    Agree (zoom part put x) s (zoom part' put' y) t Q E := by
  cases h.cases with
  | inl h =>
    obtain ⟨a, u, v, hx, hy, h⟩ := h
    refine of_ok (a := a) ?_ ?_ h
    · simp only [Effect.zoom, focus, hx]
    · simp only [Effect.zoom, focus, hy]
  | inr h =>
    obtain ⟨e, u, v, hx, hy, h⟩ := h
    refine of_error (e := e) ?_ ?_ h
    · simp only [Effect.zoom, focus, hx, id]
    · simp only [Effect.zoom, focus, hy, id]

/-- Loops that go on in related states collect the same results. -/
protected theorem gather {f : β → EStateM ε σ γ} {g : β → EStateM ε τ γ} {I : σ → τ → Prop}
    {l : List β} (step : ∀ b ∈ l, ∀ s t, I s t → Agree (f b) s (g b) t (fun _ => I) E)
    (h : I s t) : Agree (gather f l) s (gather g l) t (fun _ => I) E := by
  induction l generalizing s t with
  | nil => exact .pure h
  | cons b bs ih =>
    refine (step b List.mem_cons_self s t h).bind fun c s' t' h' => ?_
    have hrest := ih (fun d hd => step d (List.mem_cons_of_mem b hd)) h'
    exact hrest.bind fun cs s'' t'' h'' => .pure h''

/-- The states that are left are related if either way out leaves related ones. -/
theorem after {R : σ → τ → Prop} (h : Agree x s y t (fun _ => R) fun _ => R) :
    R (after (x s)) (after (y t)) := by
  cases h.cases with
  | inl h =>
    obtain ⟨a, s', t', hx, hy, h⟩ := h
    rw [hx, hy]
    exact h
  | inr h =>
    obtain ⟨e, s', t', hx, hy, h⟩ := h
    rw [hx, hy]
    exact h

end Agree

/-- In any two related states the computations have the same outcome, and leave related states.
Their errors are in `E`. -/
def InStep (R : σ → τ → Prop) (E : ε → Prop) (x : EStateM ε σ α) (y : EStateM ε τ α) : Prop :=
  ∀ s t, R s t → Agree x s y t (fun _ => R) fun e s' t' => E e ∧ R s' t'

namespace InStep

variable {R : σ → τ → Prop} {E : ε → Prop} {x : EStateM ε σ α} {y : EStateM ε τ α}

protected theorem pure (a : α) :
    InStep R E (pure a : EStateM ε σ α) (pure a : EStateM ε τ α) :=
  fun _ _ h => .pure h

protected theorem throw {e : ε} (he : E e) :
    InStep R E (throw e : EStateM ε σ α) (throw e : EStateM ε τ α) :=
  fun _ _ h => .throw ⟨he, h⟩

protected theorem ofExcept {wrap : ε' → ε} {r : Except ε' α} (hE : ∀ e, r = .error e → E (wrap e)) :
    InStep R E (ofExcept wrap r : EStateM ε σ α) (ofExcept wrap r : EStateM ε τ α) :=
  fun _ _ h => .ofExcept (fun _ _ => h) fun e he => ⟨hE e he, h⟩

protected theorem modify {f : σ → σ} {g : τ → τ} (h : ∀ s t, R s t → R (f s) (g t)) :
    InStep R E (modify f : EStateM ε σ PUnit) (modify g : EStateM ε τ PUnit) :=
  fun s t hst => .of_ok rfl rfl (h s t hst)

/-- What is read from the states may differ, as long as what is done with it does not. -/
protected theorem get {k : σ → EStateM ε σ α} {l : τ → EStateM ε τ α}
    (h : ∀ s t, R s t → InStep R E (k s) (l t)) : InStep R E (get >>= k) (get >>= l) :=
  fun s t hst => h s t hst s t hst

/-- In the same state one computation is in step with itself. -/
theorem of_only {E : ε → Prop} {x : EStateM ε σ α} (h : Only E x) :
    InStep (fun s t => t = s) E x x := by
  rintro s t rfl
  exact .refl h t

/-- What follows goes on with a result of the first step. -/
theorem bind_of_ok {k : α → EStateM ε σ β} {l : α → EStateM ε τ β} (h : InStep R E x y)
    (hk : ∀ a, (∃ s s', x s = .ok a s') → InStep R E (k a) (l a)) :
    InStep R E (x >>= k) (y >>= l) :=
  fun s t hst => (h s t hst).bind_of_ok fun a s' t' hx => hk a ⟨s, s', hx⟩ s' t'

protected theorem bind {k : α → EStateM ε σ β} {l : α → EStateM ε τ β} (h : InStep R E x y)
    (hk : ∀ a, InStep R E (k a) (l a)) : InStep R E (x >>= k) (y >>= l) :=
  h.bind_of_ok fun a _ => hk a

/-- Computations that are in step on a part of two larger states are so on the whole. -/
protected theorem zoom {σ' τ' : Type} {S : σ' → τ' → Prop} {R : σ → σ → Prop}
    {part : σ' → σ} {put : σ' → σ → σ'} {part' : τ' → σ} {put' : τ' → σ → τ'}
    {x y : EStateM ε σ α} (h : InStep R E x y) (hpart : ∀ s t, S s t → R (part s) (part' t))
    (hput : ∀ s t u v, S s t → R u v → S (put s u) (put' t v)) :
    InStep S E (zoom part put x) (zoom part' put' y) := by
  intro s t hst
  refine .zoom ((h _ _ (hpart s t hst)).mono (fun _ u v => hput s t u v hst) ?_)
  exact fun e u v huv => ⟨huv.1, hput s t u v hst huv.2⟩

protected theorem finish {cleanup : σ → σ} {cleanup' : τ → τ} (h : InStep R E x y)
    (hcleanup : ∀ s t, R s t → R (cleanup s) (cleanup' t)) :
    InStep R E (finish x cleanup) (finish y cleanup') := by
  intro s t hst
  refine .finish ((h s t hst).mono (fun _ => hcleanup) ?_)
  exact fun e s' t' h' => ⟨h'.1, hcleanup s' t' h'.2⟩

protected theorem each {f : β → EStateM ε σ Unit} {g : β → EStateM ε τ Unit} {l : List β}
    (h : ∀ b ∈ l, InStep R E (f b) (g b)) : InStep R E (each f l) (each g l) := by
  induction l with
  | nil => exact .pure ()
  | cons b bs ih =>
    exact (h b List.mem_cons_self).bind fun _ => ih fun c hc => h c (List.mem_cons_of_mem b hc)

protected theorem tally {f : β → EStateM ε σ Nat} {g : β → EStateM ε τ Nat} {l : List β}
    (h : ∀ b ∈ l, InStep R E (f b) (g b)) : InStep R E (tally f l) (tally g l) := by
  induction l with
  | nil => exact .pure 0
  | cons b bs ih =>
    refine (h b List.mem_cons_self).bind fun n => ?_
    exact (ih fun c hc => h c (List.mem_cons_of_mem b hc)).bind fun m => .pure _

protected theorem times {x : EStateM ε σ Unit} {y : EStateM ε τ Unit} (h : InStep R E x y)
    (n : Nat) : InStep R E (times x n) (times y n) := by
  induction n with
  | zero => exact .pure ()
  | succ n ih => exact h.bind fun _ => ih

end InStep

/-- In any state the computations succeed with results that `V` relates, or fail with one error,
which is in `E`; either way they leave the same state. -/
def Coupled (V : α → β → Prop) (E : ε → Prop) (x : EStateM ε σ α) (y : EStateM ε σ β) : Prop :=
  ∀ s, (∃ a b t, x s = .ok a t ∧ y s = .ok b t ∧ V a b) ∨
    ∃ e t, x s = .error e t ∧ y s = .error e t ∧ E e

namespace Coupled

variable {V : α → β → Prop} {E : ε → Prop} {x : EStateM ε σ α} {y : EStateM ε σ β}

protected theorem pure {a : α} {b : β} (h : V a b) :
    Coupled V E (pure a : EStateM ε σ α) (pure b : EStateM ε σ β) :=
  fun s => .inl ⟨a, b, s, rfl, rfl, h⟩

theorem mono {W : α → β → Prop} (h : Coupled V E x y) (hW : ∀ a b, V a b → W a b) :
    Coupled W E x y := by
  intro s
  rcases h s with ⟨a, b, t, hx, hy, hab⟩ | herror
  · exact .inl ⟨a, b, t, hx, hy, hW a b hab⟩
  · exact .inr herror

theorem of_only {x : EStateM ε σ α} (h : Only E x) : Coupled (· = ·) E x x := by
  intro s
  cases hx : x s with
  | ok a t => exact .inl ⟨a, a, t, rfl, rfl, rfl⟩
  | error e t => exact .inr ⟨e, t, rfl, rfl, h s e t hx⟩

protected theorem bind {γ δ : Type} {W : γ → δ → Prop} {k : α → EStateM ε σ γ}
    {l : β → EStateM ε σ δ} (h : Coupled V E x y) (hk : ∀ a b, V a b → Coupled W E (k a) (l b)) :
    Coupled W E (x >>= k) (y >>= l) := by
  intro s
  rcases h s with ⟨a, b, t, hx, hy, hab⟩ | ⟨e, t, hx, hy, he⟩
  · rw [bind_of_ok hx, bind_of_ok hy]
    exact hk a b hab t
  · rw [bind_of_error hx, bind_of_error hy]
    exact .inr ⟨e, t, rfl, rfl, he⟩

/-- Loops over related items collect related results. -/
protected theorem gather {γ δ : Type} {W : γ → δ → Prop} {f : α → EStateM ε σ γ}
    {g : β → EStateM ε σ δ} {as : List α} {bs : List β}
    (h : List.Forall₂ (fun a b => Coupled W E (f a) (g b)) as bs) :
    Coupled (List.Forall₂ W) E (gather f as) (gather g bs) := by
  induction h with
  | nil => exact .pure .nil
  | cons hab _ ih =>
    exact hab.bind fun c d hcd => ih.bind fun cs ds hrest => .pure (.cons hcd hrest)

end Coupled

/-! ## Traversals -/

theorem forM_eq_ok_iff {f : α → Except ε Unit} {xs : List α} :
    xs.forM f = .ok () ↔ ∀ x ∈ xs, f x = .ok () := by
  induction xs with
  | nil => exact ⟨fun _ => nofun, fun _ => rfl⟩
  | cons x xs ih =>
    rw [List.forM_eq_forM, List.forM_cons, List.forall_mem_cons, ← ih, List.forM_eq_forM]
    cases f x with
    | ok u => exact (and_iff_right rfl).symm
    | error e => exact ⟨nofun, nofun⟩

/-- A traversal ends with the error of the first element that has one. -/
theorem forM_eq_error_iff {f : α → Except ε Unit} {xs : List α} {e : ε} :
    xs.forM f = .error e ↔ ∃ before x after, xs = before ++ x :: after ∧
      (∀ y ∈ before, f y = .ok ()) ∧ f x = .error e := by
  constructor
  · intro h
    induction xs with
    | nil => cases h
    | cons x xs ih =>
      cases hx : f x with
      | error e' =>
        have he : e' = e := by
          rw [List.forM_eq_forM, List.forM_cons, hx] at h
          exact Except.error.inj h
        exact ⟨[], x, xs, rfl, nofun, he ▸ hx⟩
      | ok u =>
        rw [List.forM_eq_forM, List.forM_cons, hx] at h
        obtain ⟨before, y, after, rfl, hbefore, hy⟩ := ih h
        exact ⟨x :: before, y, after, rfl, List.forall_mem_cons.2 ⟨hx, hbefore⟩, hy⟩
  · rintro ⟨before, x, after, rfl, hbefore, hx⟩
    have hskip : before.forM f = .ok () := forM_eq_ok_iff.2 hbefore
    rw [List.forM_eq_forM] at hskip ⊢
    rw [List.forM_append, hskip, List.forM_cons, hx]
    rfl

end Effect
end BeanContract
