/-
The graph of what factories draw from each other.

A list or an option draws its items, and a bean the values of its staged properties
(`Registry.Draws`).  A draw is guarded if nothing is drawn at the structural depth: that of an
item, and that of a nullable property.  Nothing but the depth limit ends a chain of unguarded
draws (`Registry.Path`), so how deep creations nest is a matter of the lengths of these paths
(`Registry.Within`).
-/
import BeanContract.Proofs.Factory.Program
import BeanContract.Proofs.Factory.Registry
import BeanContract.Proofs.Bean.Description
import Mathlib.Logic.Relation

namespace BeanContract

open Effect (Ends)
open Relation (ReflTransGen TransGen)

variable {H : Host}

namespace Blueprint

/-- The value suits the property of a name: it is of its type, or null where that may be. -/
def Suits (b : Blueprint H) (n : String) (v : Value H) : Prop :=
  ∃ p, b.property? n = some p ∧ (v.type? = some p.type ∨ v = none ∧ p.flags.nullable = true)

def Suited (b : Blueprint H) (args : Args H) : Prop :=
  ∀ n, if b.isParameter n then ∃ v, args.get? n = some v ∧ b.Suits n v else args.get? n = none

structure Sturdy (b : Blueprint H) (Bean : H.Object → Prop) : Prop where
  construct : ∀ args w, b.Suited args → Ends (b.construct args) w fun o _ => Bean o
  set : ∀ p ∈ b.bean.properties, ∀ set, p.setter = some set → ∀ o v w, Bean o →
    b.Suits p.name v → Ends (set o v) w fun o' _ => Bean o'

end Blueprint

namespace Registry

/-- The factory supplies values of the type: it is registered for it, or it is the factory of
a staged property of a registered bean. -/
inductive Supplies (r : Registry H) : ValueType → Factory H → Prop where
  | type {t : ValueType} {f : Factory H} : r.get? t = some f → r.Supplies t f
  | property {b : Blueprint H} {n : String} {p : Property H} {f : Factory H} :
      r.get? b.type = some (.ofBlueprint b) → n ∈ b.staged → b.property? n = some p →
      r.forProperty b.type n p.type = .ok f → r.Supplies p.type f

inductive Generates (r : Registry H) : ValueType → Factory H → Prop where
  /-- It creates nothing, and never fails. -/
  | leaf {t : ValueType} {f : Factory H} :
      (∀ settings depth channel, (f.source channel).Yields settings depth (fun _ => False)
        fun v => v.type? = some t) → r.Generates t f
  | list {elem : ValueType} {f : Factory H} : r.get? elem = some f →
      r.Generates (.list elem) (.listOf elem)
  | option {elem : ValueType} {f : Factory H} : r.get? elem = some f →
      r.Generates (.option elem) (.optionOf elem)
  | bean {b : Blueprint H} {Bean : H.Object → Prop} : b.WellFormed → b.Sturdy Bean →
      r.get? b.type = some (.ofBlueprint b) →
      (∀ n ∈ b.staged, ∃ p f, b.property? n = some p ∧
        r.forProperty b.type n p.type = .ok f) → r.Generates b.type (.ofBlueprint b)

def Regular (r : Registry H) : Prop := ∀ t f, r.Supplies t f → r.Generates t f

/-- The first factory draws from the second one, guarded or not. -/
inductive Draws (r : Registry H) : Bool → Factory H → Factory H → Prop where
  | list {elem : ValueType} {f : Factory H} : r.get? elem = some f →
      r.Draws true (.listOf elem) f
  | option {elem : ValueType} {f : Factory H} : r.get? elem = some f →
      r.Draws true (.optionOf elem) f
  | bean {b : Blueprint H} {n : String} {p : Property H} {f : Factory H} : n ∈ b.staged →
      b.property? n = some p → r.forProperty b.type n p.type = .ok f →
      r.Draws (b.isNullable n) (.ofBlueprint b) f

/-- So many unguarded draws lead from the first factory to the second one. -/
inductive Path (r : Registry H) : Nat → Factory H → Factory H → Prop where
  | nil {f : Factory H} : r.Path 0 f f
  | cons {k : Nat} {f g h : Factory H} : r.Draws false f g → r.Path k g h →
      r.Path (k + 1) f h

end Registry

namespace Factory

theorem ofBlueprint_injective {b b' : Blueprint H}
    (h : (ofBlueprint b : Factory H) = ofBlueprint b') : b = b' := by
  have hprimary : (Program.bean b .primary Program.ofResult : Program H (Value H)) =
      .bean b' .primary Program.ofResult := congrArg primary h
  injection hprimary

end Factory

namespace Registry

variable {r : Registry H} {f g : Factory H}

/-- Only beans draw without a guard. -/
theorem exists_of_unguarded (h : r.Draws false f g) : ∃ b n p, f = .ofBlueprint b ∧
    n ∈ b.staged ∧ b.isNullable n = false ∧ b.property? n = some p ∧
    r.forProperty b.type n p.type = .ok g := by
  obtain ⟨guarded, hguarded⟩ : ∃ guarded, guarded = false := ⟨_, rfl⟩
  rw [← hguarded] at h
  cases h with
  | list _ => cases hguarded
  | option _ => cases hguarded
  | bean hn hp hf => exact ⟨_, _, _, rfl, hn, hguarded, hp, hf⟩

theorem not_unguarded_of_yields {settings : Settings} {depth : Nat} {allowed : ValueType → Prop}
    {P : Value H → Prop} (hf : (f.source .primary).Yields settings depth allowed P) :
    ¬r.Draws false f g := by
  intro hdraw
  obtain ⟨b, -, -, rfl, -⟩ := exists_of_unguarded hdraw
  exact hf

/-- Where no property has a factory of its own, the registered factories are all there are. -/
theorem type_of_supplies (hr : ∀ key, r.byProperty.get? key = none) {t : ValueType}
    (h : r.Supplies t f) : r.get? t = some f := by
  cases h with
  | type h => exact h
  | property hb hn hp hf =>
    simp only [forProperty, hr, get] at hf
    split at hf
    · rename_i hget
      cases hf
      exact hget
    · cases hf

/-- Along a cycle there are paths of every length. -/
theorem exists_path_of_cycle (hfg : ReflTransGen (r.Draws false) f g)
    (hcycle : TransGen (r.Draws false) g g) (k : Nat) : ∃ h, r.Path k f h := by
  induction k generalizing f with
  | zero => exact ⟨f, .nil⟩
  | succ k ih =>
    rcases ReflTransGen.cases_head hfg with rfl | ⟨f', hdraw, hrest⟩
    · obtain ⟨f', hdraw, hback⟩ := TransGen.head'_iff.1 hcycle
      obtain ⟨h, hpath⟩ := ih hback
      exact ⟨h, .cons hdraw hpath⟩
    · obtain ⟨h, hpath⟩ := ih hrest
      exact ⟨h, .cons hdraw hpath⟩

/-- A factory that runs at this level, and all that it draws from, runs within `M` levels, as
far as the lengths of unguarded paths tell: of those from it, and of those that start anew
after a guarded draw. -/
structure Within (r : Registry H) (settings : Settings) (M : Nat) (f : Factory H)
    (level : Nat) : Prop where
  limit : M ≤ settings.depthLimit
  anew : ∀ t g, r.Supplies t g → ∀ k h, r.Path k g h → settings.structuralDepth.toNat + k ≤ M
  here : ∀ k h, r.Path k f h → level + k ≤ M

namespace Within

variable {settings : Settings} {M level : Nat}

theorem level_le (h : r.Within settings M f level) : level ≤ M := h.here 0 f .nil

theorem unguarded (h : r.Within settings M f level) (hdraw : r.Draws false f g) :
    r.Within settings M g (level + 1) where
  limit := h.limit
  anew := h.anew
  here k g' hpath := by
    have := h.here (k + 1) g' (.cons hdraw hpath)
    omega

/-- A guarded draw is made above the structural depth only. -/
theorem guarded (h : r.Within settings M f level) {t : ValueType} (hg : r.Supplies t g)
    (hlevel : level < settings.structuralDepth.toNat) : r.Within settings M g (level + 1) where
  limit := h.limit
  anew := h.anew
  here k g' hpath := by
    have := h.anew t g hg k g' hpath
    omega

end Within
end Registry
end BeanContract
