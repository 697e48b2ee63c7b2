/-
The account of pooled drafts.

At every moment of a run the drafts made for a type are the free ones and those in use, and
there are as many as were in use at one time (`pool_accounted`).  A draft is made only when all
drafts of its type are in use, so the number made follows the greatest number in use.  If
drafts are used by creations only, each one in use is that of a level of its own, so there are
never more than the deepest level on record.

The theorem is about operations one after the other, from a new context on.  A user of a draft
may do with it what they like, as long as it stays a draft of its type (`Orderly`).
-/
import BeanContract.Proofs.Context.Moments
import BeanContract.Proofs.Draft.Pool
import BeanContract.Proofs.Factory.Generation
import Mathlib.Data.List.Induction

namespace BeanContract

open Effect (after Keeps)

variable {H : Host}

/-- The greatest number of drafts of a type that were in use at one of the moments. -/
def peak (past : List (Moment H)) (t : ValueType) : Nat :=
  past.foldr (fun m n => max (m.held.count t) n) 0

/-- The condition holds of every moment and those before it. -/
def Throughout (F : List (Moment H) → Moment H → Prop) (past : List (Moment H)) : Prop :=
  ∀ pre m post, past = pre ++ m :: post → F pre m

/-- The drafts made for each type are the free ones and those in use, and as many as were in
use at one moment. -/
def Accounted (pre : List (Moment H)) (m : Moment H) : Prop := ∀ t,
  m.context.pooled t = (m.context.pool.freeDrafts t).length + m.held.count t ∧
    m.context.pooled t = peak (pre ++ [m]) t

theorem peak_append (past : List (Moment H)) (m : Moment H) (t : ValueType) :
    peak (past ++ [m]) t = max (peak past t) (m.held.count t) := by
  unfold peak
  induction past with
  | nil => simp
  | cons n past ih =>
    simp only [List.cons_append, List.foldr_cons, ih]
    omega

theorem peak_le {past : List (Moment H)} {n : Nat} (h : ∀ m ∈ past, m.held.length ≤ n)
    (t : ValueType) : peak past t ≤ n := by
  induction past with
  | nil => exact Nat.zero_le n
  | cons m past ih =>
    have hm := h m List.mem_cons_self
    have hcount : m.held.count t ≤ m.held.length := List.count_le_length
    have hrest := ih fun m' hm' => h m' (List.mem_cons_of_mem m hm')
    show max (m.held.count t) (peak past t) ≤ n
    omega

namespace Throughout

variable {F : List (Moment H) → Moment H → Prop} {past : List (Moment H)} {m : Moment H}

protected theorem nil : Throughout F [] := by
  intro pre m post h
  simp at h

theorem append (h : Throughout F past) (hm : F past m) : Throughout F (past ++ [m]) := by
  intro pre m' post heq
  cases post using List.reverseRecOn with
  | nil =>
    obtain ⟨hpast, hlast⟩ := List.append_inj' heq rfl
    cases hlast
    rwa [← hpast]
  | append_singleton post m'' =>
    rw [← List.cons_append, ← List.append_assoc] at heq
    obtain ⟨hpast, -⟩ := List.append_inj' heq rfl
    exact h pre m' post hpast

end Throughout

/-! ## The account of all drafts -/

structure Balanced (past : List (Moment H)) (c : Context H) (held : List ValueType) : Prop where
  throughout : Throughout Accounted past
  now : ∃ pre, past = pre ++ [⟨c, held⟩]
  typed : c.pool.Holds fun t d => d.type = t

namespace Balanced

variable {past : List (Moment H)} {c c' : Context H} {held held' : List ValueType}

theorem of_empty (h : c.pool = .empty) : Balanced [⟨c, []⟩] c [] := by
  refine ⟨Throughout.nil.append fun t => ?_, ⟨[], rfl⟩, ?_⟩
  · show c.pool.allocated t = (c.pool.freeDrafts t).length + 0 ∧
      c.pool.allocated t = max (([] : List ValueType).count t) 0
    rw [h]
    simp
  · rw [h]
    exact .empty

theorem sum (h : Balanced past c held) (t : ValueType) :
    c.pooled t = (c.pool.freeDrafts t).length + held.count t := by
  obtain ⟨pre, hpast⟩ := h.now
  exact (h.throughout pre ⟨c, held⟩ [] hpast t).1

theorem most (h : Balanced past c held) (t : ValueType) : c.pooled t = peak past t := by
  obtain ⟨pre, hpast⟩ := h.now
  rw [hpast]
  exact (h.throughout pre ⟨c, held⟩ [] hpast t).2

/-- The account stays in order if more drafts are made only to have more in use than ever. -/
theorem append (h : Balanced past c held)
    (hsum : ∀ t, c'.pooled t = (c'.pool.freeDrafts t).length + held'.count t)
    (hmost : ∀ t, c'.pooled t = max (c.pooled t) (held'.count t))
    (htyped : c'.pool.Holds fun t d => d.type = t) :
    Balanced (past ++ [⟨c', held'⟩]) c' held' := by
  refine ⟨h.throughout.append fun t => ⟨hsum t, ?_⟩, ⟨past, rfl⟩, htyped⟩
  show c'.pooled t = peak (past ++ [⟨c', held'⟩]) t
  rw [peak_append, hmost, h.most]

theorem quiet (h : Balanced past c held) (hpool : c'.pool = c.pool) :
    Balanced (past ++ [⟨c', held⟩]) c' held := by
  have hpooled : ∀ t, c'.pooled t = c.pooled t := by
    intro t
    unfold Context.pooled
    rw [hpool]
  refine h.append ?_ ?_ ?_
  · intro t
    rw [hpooled, hpool, h.sum]
  · intro t
    have := h.sum t
    rw [hpooled]
    omega
  · rw [hpool]
    exact h.typed

theorem take (h : Balanced past c held) (b : Blueprint H) :
    Balanced (past ++ [⟨c.taken b, b.type :: held⟩]) (c.taken b) (b.type :: held) := by
  have hpooled : ∀ t, (c.taken b).pooled t = _ := c.pool.allocated_acquire b
  have hfree : ∀ t, (c.taken b).pool.freeDrafts t = _ := c.pool.freeDrafts_acquire b
  have hstep : ∀ t, (c.taken b).pooled t =
      ((c.taken b).pool.freeDrafts t).length + (b.type :: held).count t ∧
      (c.taken b).pooled t = max (c.pooled t) ((b.type :: held).count t) := by
    intro t
    have hsum := h.sum t
    unfold Context.pooled at hsum
    rw [hpooled, hfree]
    unfold Context.pooled
    by_cases ht : t = b.type
    · subst ht
      -- A draft is made when all others of the type are in use, so the most in use is one more.
      cases hd : c.pool.freeDrafts b.type with
      | nil => simp [hd] at hsum ⊢; omega
      | cons d ds => simp [hd] at hsum ⊢; omega
    · have hne : ¬b.type = t := fun heq => ht heq.symm
      simp [ht, hne]
      omega
  exact h.append (fun t => (hstep t).1) (fun t => (hstep t).2) (h.typed.acquire b)

theorem acquired_type (h : Balanced past c held) (b : Blueprint H) :
    (c.pool.acquire b).1.type = b.type :=
  h.typed.acquired (b := b) rfl

theorem giveBack {d : Draft H} (h : Balanced past c (d.type :: held)) :
    Balanced (past ++ [⟨c.returned d, held⟩]) (c.returned d) held := by
  have hfree : ∀ t, (c.returned d).pool.freeDrafts t = _ := c.pool.freeDrafts_release d
  have hstep : ∀ t, (c.returned d).pooled t =
      ((c.returned d).pool.freeDrafts t).length + held.count t ∧
      (c.returned d).pooled t = max (c.pooled t) (held.count t) := by
    intro t
    have hsum := h.sum t
    have hpooled : (c.returned d).pooled t = c.pooled t := rfl
    rw [hpooled, hfree]
    by_cases ht : t = d.type
    · subst ht
      simp at hsum ⊢
      omega
    · have hne : ¬d.type = t := fun heq => ht heq.symm
      simp [ht, hne] at hsum ⊢
      omega
  exact h.append (fun t => (hstep t).1) (fun t => (hstep t).2) (h.typed.release rfl)

/-- The account is kept up by every step. -/
theorem upkeep : Upkeep (fun _ => Balanced (H := H)) (fun _ => True) where
  quiet h hc := h.quiet (congrArg (·.1) hc)
  enter h := h.quiet rfl
  leave h := h.quiet rfl
  take b h := ⟨h.take b, trivial, h.acquired_type b⟩
  giveBack h _ := h.giveBack
  put _ _ _ := trivial

end Balanced

/-! ## The levels that drafts are used at -/

/-- With `k` more drafts in use than there are, each would still be that of a level of its own,
and the record has never been less than the number of drafts in use. -/
structure Shallow (k : Nat) (past : List (Moment H)) (c : Context H) (held : List ValueType) :
    Prop where
  throughout : Throughout (fun pre m => ∀ m' ∈ pre ++ [m], m'.held.length ≤ m.context.maxDepth)
    past
  record : ∀ m ∈ past, m.held.length ≤ c.maxDepth
  level : held.length + k ≤ c.depth
  deepest : c.depth ≤ c.maxDepth

namespace Shallow

variable {k l : Nat} {past : List (Moment H)} {c c' : Context H} {held held' : List ValueType}

theorem append (h : Shallow k past c held) (hrecord : c.maxDepth ≤ c'.maxDepth)
    (hlevel : held'.length + l ≤ c'.depth) (hdeepest : c'.depth ≤ c'.maxDepth) :
    Shallow l (past ++ [⟨c', held'⟩]) c' held' := by
  have hall : ∀ m ∈ past ++ [⟨c', held'⟩], m.held.length ≤ c'.maxDepth := by
    intro m hm
    rw [List.mem_append, List.mem_singleton] at hm
    cases hm with
    | inl hm =>
      have := h.record m hm
      omega
    | inr hm =>
      rw [hm]
      show held'.length ≤ c'.maxDepth
      omega
  exact ⟨h.throughout.append hall, hall, hlevel, hdeepest⟩

theorem quiet (h : Shallow k past c held) (hc : c'.account = c.account) :
    Shallow k (past ++ [⟨c', held⟩]) c' held := by
  have hdepth : c'.depth = c.depth := congrArg (·.2.1) hc
  have hrecord : c'.maxDepth = c.maxDepth := congrArg (·.2.2) hc
  have hlevel := h.level
  have hdeepest := h.deepest
  exact h.append (by omega) (by omega) (by omega)

theorem enter (h : Shallow k past c held) :
    Shallow (k + 1) (past ++ [⟨c.enter, held⟩]) c.enter held := by
  have hlevel := h.level
  refine h.append (Nat.le_max_left _ _) ?_ (Nat.le_max_right _ _)
  show held.length + (k + 1) ≤ c.depth + 1
  omega

theorem leave (h : Shallow (k + 1) past c held) :
    Shallow k (past ++ [⟨c.leave, held⟩]) c.leave held := by
  have hlevel := h.level
  have hdeepest := h.deepest
  refine h.append (Nat.le_refl _) ?_ ?_
  · show held.length + k ≤ c.depth - 1
    omega
  · show c.depth - 1 ≤ c.maxDepth
    omega

theorem take (h : Shallow (k + 1) past c held) (b : Blueprint H) :
    Shallow k (past ++ [⟨c.taken b, b.type :: held⟩]) (c.taken b) (b.type :: held) := by
  have hlevel := h.level
  refine h.append (Nat.le_refl _) ?_ h.deepest
  show held.length + 1 + k ≤ c.depth
  omega

theorem giveBack {d : Draft H} (h : Shallow k past c (d.type :: held)) :
    Shallow (k + 1) (past ++ [⟨c.returned d, held⟩]) (c.returned d) held := by
  have hlevel : held.length + 1 + k ≤ c.depth := h.level
  refine h.append (Nat.le_refl _) ?_ h.deepest
  show held.length + (k + 1) ≤ c.depth
  omega

theorem of_top (h : c.depth ≤ c.maxDepth) : Shallow 0 [⟨c, []⟩] c [] := by
  have hall : ∀ m ∈ [(⟨c, []⟩ : Moment H)], m.held.length ≤ c.maxDepth := by
    intro m hm
    rw [List.mem_singleton] at hm
    rw [hm]
    exact Nat.zero_le _
  exact ⟨Throughout.nil.append hall, hall, Nat.zero_le _, h⟩

/-- Creations use drafts at levels of their own. -/
theorem upkeep : Upkeep (fun k past c held => Balanced past c held ∧ Shallow k past c held)
    fun _ : Draft H => True where
  quiet h hc := ⟨h.1.quiet (congrArg (·.1) hc), h.2.quiet hc⟩
  enter h := ⟨h.1.quiet rfl, h.2.enter⟩
  leave h := ⟨h.1.quiet rfl, h.2.leave⟩
  take b h := ⟨⟨h.1.take b, h.2.take b⟩, trivial, h.1.acquired_type b⟩
  giveBack h _ := ⟨h.1.giveBack, h.2.giveBack⟩
  put _ _ _ := trivial

end Shallow

/-! ## Operations -/

/-- What the user of a pooled draft may do, step by step: take no draft from the pool and keep
the own one of its type, create values, catch failures and panics, and use further drafts. -/
inductive Orderly : {α : Type} → TracedStage H α → Prop where
  | step {α : Type} {x : Stage H α} : (∀ s, (after (x s)).1.type = s.1.type) →
      (∀ s, (after (x s)).2.pool = s.2.pool) → Orderly (.step Prod.snd x)
  | ask {α γ : Type} (part : Draft H × Context H → γ) {k : γ → TracedStage H α} :
      (∀ v, Orderly (k v)) → Orderly (.ask part k)
  | bind {α β : Type} {x : TracedStage H α} {k : α → TracedStage H β} : Orderly x →
      (∀ a, Orderly (k a)) → Orderly (.bind x k)
  | reify {α : Type} {x : TracedStage H α} : Orderly x → Orderly (.reify x)
  | create (f : Factory H) (channel : Channel) : Orderly (.ofRun (.create f channel))
  | pooled {α : Type} {use : TracedStage H α} (b : Blueprint H) : Orderly use →
      Orderly (.ofRun (.pooled b use))

/-- An orderly user of a draft keeps the account in order. -/
theorem Orderly.balanced {α : Type} {use : TracedStage H α} (h : Orderly use) (t : ValueType) :
    use.Maintains (Condition.beside Balanced fun d => True ∧ d.type = t) := by
  induction h generalizing t with
  | step htype hpool =>
    intro past s held hs
    exact ⟨hs.1.quiet (hpool s), trivial, (htype s).trans hs.2.2⟩
  | ask part _ ih => exact .ask fun v => ih v t
  | bind _ _ ihx ihk => exact (ihx t).bind fun a => ihk a t
  | reify _ ih => exact (ih t).reify
  | create f channel => exact .ofRun (Balanced.upkeep.create 0 f channel)
  | pooled b _ ih => exact .ofRun (Balanced.upkeep.pooled (k := 0) (ih b.type))

inductive Operation (H : Host) : Type 1 where
  | create (f : Factory H) (channel : Channel)
  /-- Use a pooled draft. -/
  | use {α : Type} (b : Blueprint H) (use : TracedStage H α) (orderly : Orderly use)
  /-- Change anything that creations and drafts are not accounted by. -/
  | change (f : Context H → Context H) (quiet : ∀ c, (f c).account = c.account)
  | reset

def Operation.IsCreation : Operation H → Prop
  | .use _ _ _ => False
  | _ => True

/-- A context, and the moments since the last reset. -/
structure Session (H : Host) where
  context : Context H
  past : List (Moment H)

namespace Session

/-- A session begins with a moment at which no draft is in use. -/
def begin (c : Context H) : Session H := ⟨c, [⟨c, []⟩]⟩

/-- What becomes of the session, whether the operation succeeds or not. -/
def perform (s : Session H) : Operation H → Session H
  | .create f channel =>
    ⟨after (Run.create f channel s.context),
      s.past ++ (Traced.create f channel).moments [] s.context⟩
  | .use b use _ =>
    ⟨after (Run.withPooled b use.run s.context),
      s.past ++ (Traced.pooled b use).moments [] s.context⟩
  | .change f _ => ⟨f s.context, s.past ++ [⟨f s.context, []⟩]⟩
  | .reset => begin s.context.reset

variable {s : Session H}

theorem balanced_perform (h : Balanced s.past s.context []) (op : Operation H) :
    Balanced (s.perform op).past (s.perform op).context [] := by
  cases op with
  | create f channel =>
    have hkept := Balanced.upkeep.create 0 f channel _ _ _ h
    rw [Traced.run_create] at hkept
    exact hkept
  | use b use orderly =>
    exact Balanced.upkeep.pooled (k := 0) (orderly.balanced b.type) _ _ _ h
  | change f quiet => exact h.quiet (congrArg (·.1) (quiet s.context))
  | reset => exact .of_empty rfl

theorem shallow_perform (h : Balanced s.past s.context [] ∧ Shallow 0 s.past s.context [])
    {op : Operation H} (hop : op.IsCreation) :
    Shallow 0 (s.perform op).past (s.perform op).context [] := by
  cases op with
  | create f channel =>
    have hkept := (Shallow.upkeep.create 0 f channel _ _ _ h).2
    rw [Traced.run_create] at hkept
    exact hkept
  | use b use orderly => exact hop.elim
  | change f quiet => exact h.2.quiet (quiet s.context)
  | reset => exact .of_top (Nat.le_refl 0)

theorem balanced_run (h : Balanced s.past s.context []) (ops : List (Operation H)) :
    Balanced (ops.foldl perform s).past (ops.foldl perform s).context [] := by
  induction ops generalizing s with
  | nil => exact h
  | cons op ops ih => exact ih (balanced_perform h op)

theorem shallow_run (h : Balanced s.past s.context [] ∧ Shallow 0 s.past s.context [])
    {ops : List (Operation H)} (hops : ∀ op ∈ ops, op.IsCreation) :
    Shallow 0 (ops.foldl perform s).past (ops.foldl perform s).context [] := by
  induction ops generalizing s with
  | nil => exact h.2
  | cons op ops ih =>
    refine ih ⟨balanced_perform h.1 op, ?_⟩ fun op' hop' => hops op' (List.mem_cons_of_mem op hop')
    exact shallow_perform h (hops op List.mem_cons_self)

end Session

def Session.played (settings : Settings) (registry : Registry H) (chance : UInt64) (w : H.World)
    (ops : List (Operation H)) : Session H :=
  ops.foldl perform (begin (.start settings registry chance w))

/-- Whatever operations a new context goes through, and however each of them ends: at every
moment since the last reset the drafts made for a type are the free ones and those in use, and
as many as were in use at one of the moments so far.  Now, between two operations, no draft is
in use.  If drafts were used by creations only, there were never more of a type than the
deepest level on record. -/
theorem pool_accounted (settings : Settings) (registry : Registry H) (chance : UInt64)
    (w : H.World) (ops : List (Operation H)) :
    Throughout Accounted (Session.played settings registry chance w ops).past ∧
    (∃ pre, (Session.played settings registry chance w ops).past =
      pre ++ [⟨(Session.played settings registry chance w ops).context, []⟩]) ∧
    ((∀ op ∈ ops, op.IsCreation) →
      ∀ m ∈ (Session.played settings registry chance w ops).past,
        ∀ t, m.context.pooled t ≤ m.context.maxDepth) := by
  have hstart : Balanced (Session.begin (Context.start settings registry chance w)).past
      (Session.begin (Context.start settings registry chance w)).context [] := .of_empty rfl
  have hbalanced := Session.balanced_run hstart ops
  refine ⟨hbalanced.throughout, hbalanced.now, ?_⟩
  intro hops m hm t
  have hshallow := Session.shallow_run ⟨hstart, .of_top (Nat.le_refl 0)⟩ hops
  obtain ⟨pre, post, hpast⟩ := List.append_of_mem hm
  rw [(hbalanced.throughout pre m post hpast t).2]
  exact peak_le (hshallow.throughout pre m post hpast) t

/-- Three links of a chain are in use at a time, and the fourth one is left out. -/
example : (Session.played Settings.standard (Link.registry true) 0 ()
    [.create (.ofBlueprint (Link.blueprint true)) .primary]).context.pooled (.object "Link") = 3 :=
  by decide +kernel

end BeanContract
