/-
Staging, step by step.

A stage changes a draft and a context.  The laws here say what each basic step leaves of
both.  Two of them carry the checks: a probe of stateless code changes nothing
(`probe_stateless`), and a reset of a draft in which only staged values were changed
gives back the draft of the primary values (`reset_of_restaged`).
-/
import BeanContract.Proofs.Draft.Bean
import BeanContract.Proofs.Context.Setup
import BeanContract.Factory.Catalog

namespace BeanContract

variable {H : Host} {α : Type}

/-! ## Picks -/

namespace Random.Engine

/-- A number is below the bound, even if no word decided it. -/
theorem belowWithin_lt {n : Nat} (hn : 0 < n) (attempts : Nat) (e : Engine) :
    (belowWithin n attempts e).1 < n := by
  induction attempts generalizing e with
  | zero => exact hn
  | succ attempts ih =>
    unfold belowWithin
    dsimp only
    split
    · have hword : e.word64.1.toNat < UInt64.size := e.word64.1.toNat_lt_size
      refine Nat.div_lt_of_lt_mul ?_
      exact Nat.mul_lt_mul_of_pos_right hword hn
    · exact ih _

theorem below_lt {n : Nat} (hn : 0 < n) (e : Engine) : (below n e).1 < n := by
  unfold below
  exact belowWithin_lt hn 4096 e

end Random.Engine

theorem Run.draw_eq (step : Random.Engine → α × Random.Engine) (c : Context H) :
    Run.draw step c = .ok (step c.engine).1 { c with engine := (step c.engine).2 } := rfl

/-- What is picked from a list is in it. -/
theorem Run.pick_mem {names : List String} (hnames : names ≠ []) {c c' : Context H} {i : Nat}
    (h : Run.below names.length c = .ok i c') : names.getD i "" ∈ names := by
  unfold Run.below at h
  rw [Run.draw_eq] at h
  have hi := Random.Engine.below_lt (List.length_pos_iff.2 hnames) c.engine
  rw [(EStateM.Result.ok.inj h).1] at hi
  rw [List.getD_eq_getElem?_getD, List.getElem?_eq_getElem hi]
  exact List.getElem_mem hi

/-! ## Steps -/

namespace Draft

/-- The staged values are those that a reset goes back to. -/
def AtPrimary (d : Draft H) : Prop := d.initial = some d.expected

def Restaged (d e : Draft H) : Prop := e = { d with expected := e.expected }

namespace Restaged

protected theorem refl (d : Draft H) : d.Restaged d := rfl

theorem put {d e : Draft H} (h : d.Restaged e) (n : String) (v : Value H) :
    d.Restaged (e.put n v) := by
  unfold Restaged at *
  rw [h]
  rfl

theorem blueprint {d e : Draft H} (h : d.Restaged e) : e.blueprint = d.blueprint := by
  rw [h]

end Restaged

end Draft

namespace Stage

variable {x : Run H α} {d e : Draft H} {c c' : Context H} {a : α}

theorem ofRun_eq_ok : ofRun x (d, c) = .ok a (e, c') ↔ e = d ∧ x c = .ok a c' := by
  unfold ofRun
  rw [Effect.zoom_eq_ok]
  constructor
  · rintro ⟨u, hx, hs⟩
    cases hs
    exact ⟨rfl, hx⟩
  · rintro ⟨rfl, hx⟩
    exact ⟨c', hx, rfl⟩

theorem draft_eq_ok {s : Draft H × Context H} :
    draft (d, c) = .ok e s ↔ e = d ∧ s = (d, c) := by
  show EStateM.Result.ok d (d, c) = .ok e s ↔ _
  simp [eq_comm]

theorem context_eq_ok {s : Draft H × Context H} :
    context (d, c) = .ok c' s ↔ c' = c ∧ s = (d, c) := by
  show EStateM.Result.ok c (d, c) = .ok c' s ↔ _
  simp [eq_comm]

theorem change_eq_ok {f : Draft H → Draft H} {u : Unit} {s : Draft H × Context H} :
    change f (d, c) = .ok u s ↔ s = (f d, c) := by
  show EStateM.Result.ok () (f d, c) = .ok u s ↔ _
  simp [eq_comm]

theorem probe_eq_ok {f : Draft H → Probe H α} :
    probe f (d, c) = .ok a (e, c') ↔
      e = d ∧ ∃ w, f d c.world = .ok a w ∧ c' = { c with world := w } := by
  show ofRun (Run.ofProbe (f d)) (d, c) = .ok a (e, c') ↔ _
  rw [ofRun_eq_ok]
  unfold Run.ofProbe
  rw [Effect.zoom_eq_ok]

/-- A probe that neither reads nor changes the world leaves everything as it is. -/
theorem probe_stateless {f : Draft H → Probe H α} (hf : Effect.Stateless (f d))
    {s : Draft H × Context H} (h : probe f (d, c) = .ok a s) :
    s = (d, c) ∧ ∀ w, f d w = .ok a w := by
  obtain ⟨e, c'⟩ := s
  obtain ⟨rfl, w, hw, rfl⟩ := probe_eq_ok.1 h
  obtain ⟨rfl, ha⟩ := hf.of_ok hw
  exact ⟨rfl, ha⟩

variable {create : Creator H}

theorem reset_of_restaged (hd : d.AtPrimary) (h : d.Restaged e) :
    reset create (e, c) = .ok () (d, c) := by
  unfold Draft.AtPrimary Draft.Restaged at *
  have he : e.initial = some d.expected := by rw [h, ← hd]
  refine Effect.bind_eq_ok.2 ⟨e, (e, c), rfl, ?_⟩
  rw [he, h]
  rfl

/-- After a reset the draft is at its primary values, and nothing else about it is new but
that it remembers them. -/
theorem reset_eq_ok {u : Unit} (h : reset create (d, c) = .ok u (e, c')) :
    e.AtPrimary ∧ e = { d with expected := e.expected, initial := e.initial } := by
  obtain ⟨d', s, hd, h⟩ := Effect.bind_eq_ok.1 h
  obtain ⟨rfl, rfl⟩ := draft_eq_ok.1 hd
  unfold Draft.AtPrimary
  cases hi : d'.initial with
  | some values =>
    simp only [hi] at h
    cases change_eq_ok.1 h
    exact ⟨hi, by simp⟩
  | none =>
    simp only [hi] at h
    obtain ⟨values, ⟨d₁, c₁⟩, hv, hc⟩ := Effect.bind_eq_ok.1 h
    obtain ⟨rfl, -⟩ := ofRun_eq_ok.1 hv
    cases change_eq_ok.1 hc
    exact ⟨rfl, rfl⟩

end Stage

def Lamp.context : Context Lamp.host :=
  .start { Settings.standard with trials := 2, randomCandidates := 1, seed := some 1 }
    Catalog.registry 0 ()

end BeanContract
