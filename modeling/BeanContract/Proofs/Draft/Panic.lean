/-
Panics of probes.

The host's code is called with its panics caught, so that a panic of a constructor, a builder, a
getter or a setter becomes an error like any other.  Only the texts of values that go into a
message are put together without that.  The panic of a probe is therefore that of a value whose
text was asked for (`Halt.Textual`), wherever the probe was.
-/
import BeanContract.Proofs.Check.Observation
import BeanContract.Check.Equality
import BeanContract.Check.RoundTrip

namespace BeanContract

open Effect (Only)

variable {H : Host} {α : Type}

private theorem error_of_bind {ε β : Type} {x : Except ε α} {f : α → Except ε β} {e : ε}
    (h : (x >>= f) = .error e) : x = .error e ∨ ∃ a, x = .ok a ∧ f a = .error e := by
  cases x with
  | error e' =>
    cases h
    exact .inl rfl
  | ok a => exact .inr ⟨a, rfl, h⟩

/-- The halt is a failure, or the panic of a value whose text is asked for. -/
def Halt.Textual (H : Host) (h : Halt) : Prop :=
  ∀ p, h = .panic p → ∃ v : Value H, v.show? = .error p

theorem Halt.textual_failure (f : Failure) : (Halt.failure f).Textual H := by
  intro p hp
  cases hp

namespace Probe

theorem shown_only {text : Except Panic String}
    (h : ∀ p, text = .error p → ∃ v : Value H, v.show? = .error p) :
    Only (Halt.Textual H) (shown text : Probe H String) := by
  refine .ofExcept fun p hp q hq => ?_
  cases hq
  exact h p hp

theorem shown_value_only (v : Value H) : Only (Halt.Textual H) (shown v.show? : Probe H String) :=
  shown_only fun _ hp => ⟨v, hp⟩

theorem violation_only (v : Violation) :
    Only (Halt.Textual H) (violation v : Probe H α) :=
  .throw (Halt.textual_failure _)

/-- What would come after a violation does not matter. -/
theorem violation_bind_only {β : Type} (v : Violation) (rest : α → Probe H β) :
    Only (Halt.Textual H) (violation v >>= rest) :=
  .throw (Halt.textual_failure _)

theorem violationBecause_only (v : Violation) (cause : AccessError) :
    Only (Halt.Textual H) (violationBecause v cause : Probe H α) :=
  .throw (Halt.textual_failure _)

end Probe

open Probe

namespace Draft

variable (d : Draft H)

theorem stateParts?_error {names : List String} {p : Panic} (h : d.stateParts? names = .error p) :
    ∃ v : Value H, v.show? = .error p := by
  induction names with
  | nil => cases h
  | cons n names ih =>
    unfold stateParts? at h
    split at h
    · exact ih h
    · rename_i v _
      rcases error_of_bind h with hv | ⟨text, -, h⟩
      · exact ⟨v, hv⟩
      · rcases error_of_bind h with hrest | ⟨rest, -, h⟩
        · exact ih hrest
        · cases h

theorem stateText?_error {p : Panic} (h : d.stateText? = .error p) :
    ∃ v : Value H, v.show? = .error p := by
  rcases error_of_bind h with hparts | ⟨parts, -, h⟩
  · exact d.stateParts?_error hparts
  · cases h

theorem newBean_only : Only (Halt.Textual H) d.newBean := by
  refine Only.bind (.reify _) fun r => ?_
  cases r with
  | ok bean => exact .pure bean
  | error cause =>
    exact (shown_only fun _ => d.stateText?_error).bind fun _ => violationBecause_only _ _

theorem read_only (bean : Value H) (n : String) : Only (Halt.Textual H) (d.read bean n) := by
  refine Only.bind (.reify _) fun r => ?_
  cases r with
  | ok v => exact .pure v
  | error cause => exact (shown_value_only bean).bind fun _ => violationBecause_only _ _

theorem readActual_only (n : String) : Only (Halt.Textual H) (d.readActual n) := by
  unfold readActual
  split
  · exact d.newBean_only.bind fun bean => (d.read_only bean n).bind fun _ => .pure _
  · exact .pure _

end Draft

theorem Finding.expectation?_error {f : Finding H} {p : Panic} (h : f.expectation? = .error p) :
    ∃ v : Value H, v.show? = .error p := by
  unfold expectation? at h
  split at h
  · rename_i substitute _ _
    rcases error_of_bind h with hshow | ⟨text, -, h⟩
    · exact ⟨substitute, hshow⟩
    · cases h
  · cases h
  · cases h

namespace Draft

variable (d : Draft H)

theorem checkAbsent_only (n : String) (omitted : Bool) (actual : Value H) :
    Only (Halt.Textual H) (d.checkAbsent n omitted actual) := by
  unfold checkAbsent
  split
  split
  · exact .pure _
  · refine (shown_only fun _ => Finding.expectation?_error).bind fun _ => ?_
    exact (shown_value_only actual).bind fun _ => violation_only _

theorem verify_only (n : String) : Only (Halt.Textual H) (d.verify n) := by
  unfold verify
  split
  · refine d.newBean_only.bind fun bean => (d.read_only bean n).bind fun actual => ?_
    split
    · rename_i x _
      split
      · exact .pure _
      · refine (shown_value_only (some x)).bind fun _ => ?_
        exact (shown_value_only actual).bind fun _ => violation_only _
    · exact d.checkAbsent_only n false actual
    · exact d.checkAbsent_only n true actual
  · exact .pure _

theorem verifyAll_only : Only (Halt.Textual H) d.verifyAll := .each d.verify_only _

/-- Whether a bean can be built and read is not asked for as a text. -/
theorem classify_only (n : String) : Only (Halt.Textual H) (d.classify n) := by
  refine Only.bind (.reify _) fun r => ?_
  cases r with
  | error e => exact .pure _
  | ok bean =>
    dsimp only
    split
    · refine Only.bind (.reify _) fun r => ?_
      split
      · exact .pure _
      · exact .pure _
      · exact .pure _
    · exact .pure _

end Draft

namespace Check

variable (d : Draft H)

/-! ## Inference -/

theorem learn_only (b : Blueprint H) (p : Property H) (op : Absence) (o : Observation H) :
    Only (Halt.Textual H) (learn b p op o) := by
  unfold learn
  split
  · exact .pure _
  · exact .throw (Halt.textual_failure _)

theorem inferOne_only (op : Absence) (p : Property H) :
    Only (Halt.Textual H) (inferOne d op p) := by
  unfold inferOne
  split
  · exact .pure _
  · exact (Draft.classify_only _ _).bind fun _ => (learn_only _ _ _ _).bind fun _ => .pure _

theorem inferFrom_only : Only (Halt.Textual H) (inferFrom d) := by
  refine Only.bind (.gather (inferOne_only _ _) _) fun _ => ?_
  exact Only.bind (.gather (inferOne_only _ _) _) fun _ => .pure _

/-! ## Texts and comparisons -/

theorem texts_only : Only (Halt.Textual H) (texts d) := by
  refine d.newBean_only.bind fun bean => Only.bind (.reify _) fun r => ?_
  extract_lets rest
  have hrest : ∀ u, Only (Halt.Textual H) (rest u) := by
    intro u
    unfold rest
    cases d.blueprint.builderText with
    | none => exact .pure ()
    | some text =>
      refine Only.bind (.reify _) fun r => ?_
      cases r with
      | error e => exact violationBecause_only _ _
      | ok text =>
        dsimp only
        split
        · exact violation_only _
        · exact .pure ()
  cases r with
  | error e => exact (violationBecause_only _ _).bind hrest
  | ok text =>
    dsimp only
    split
    · exact (violation_only _).bind hrest
    · exact hrest ()

theorem twins_only (hashes : Bool) : Only (Halt.Textual H) (twins hashes d) := by
  unfold twins
  refine d.newBean_only.bind fun bean => ?_
  dsimp only
  split
  · refine d.newBean_only.bind fun fresh => ?_
    split
    · split
      · split
        · split
          · exact .pure _
          · exact (shown_value_only bean).bind fun _ => violation_only _
        · exact (shown_value_only bean).bind fun _ => violation_bind_only _ _
      · exact .pure _
    · refine (shown_value_only bean).bind fun _ => (shown_value_only fresh).bind fun _ => ?_
      exact violation_bind_only _ _
  · exact (shown_value_only bean).bind fun _ => violation_bind_only _ _

theorem compare_only (hashes : Bool) (n : String) (changed : Bool) (x y : Value H) :
    Only (Halt.Textual H) (compare hashes d n changed x y) := by
  have hpair : ∀ v : String → String → Violation, Only (Halt.Textual H) (do
      let a ← Probe.shown x.show?
      let b ← Probe.shown y.show?
      Probe.violation (v a b) : Probe H Unit) := fun v =>
    (shown_value_only x).bind fun _ => (shown_value_only y).bind fun _ => violation_only _
  unfold compare
  split
  · split
    · exact hpair _
    · exact .pure _
  · split
    · exact hpair _
    · split
      · exact hpair _
      · exact .pure _

theorem apart_only (hashes : Bool) (e : Draft H) (n : String) :
    Only (Halt.Textual H) (apart hashes d e n) := by
  refine d.newBean_only.bind fun first => e.newBean_only.bind fun second => ?_
  split
  · refine (d.read_only first n).bind fun x => (e.read_only second n).bind fun y => ?_
    exact compare_only d hashes n _ first second
  · exact compare_only d hashes n _ first second

theorem candidatePairs_only (hashes : Bool) (n : String) (values : List (Value H)) :
    Only (Halt.Textual H) (candidatePairs hashes d n values) := by
  refine .tally (fun ⟨v, i⟩ => .tally (fun ⟨w, j⟩ => ?_) _) _
  dsimp only
  split
  · exact .pure 0
  · exact (apart_only _ hashes _ n).bind fun _ => .pure 1

end Check
end BeanContract
