/-
Drafts of blueprints that nothing tells apart.

A draft builds the same bean for another blueprint that nothing tells from its own
(`Draft.recast`), and reads and verifies it alike, as far as tested properties go.  Every probe
of the one draft is then equal to that of the other, whatever the host's code does.
-/
import BeanContract.Proofs.Bean.Indistinct
import BeanContract.Proofs.Draft.Bean
import BeanContract.Check.Absence
import BeanContract.Check.Equality
import BeanContract.Check.RoundTrip

namespace BeanContract

variable {H : Host}

namespace Draft

def recast (d : Draft H) (b : Blueprint H) : Draft H := { d with blueprint := b }

@[simp]
theorem recast_blueprint (d : Draft H) (b : Blueprint H) : (d.recast b).blueprint = b := rfl

@[simp]
theorem recast_initial (d : Draft H) (b : Blueprint H) : (d.recast b).initial = d.initial := rfl

section

variable {d : Draft H} {b' : Blueprint H} (h : d.blueprint.Indistinct b')
include h

/-! ## Building -/

theorem beanName_recast : (d.recast b').beanName = d.beanName := h.shape.name

theorem type_recast : (d.recast b').type = d.type := h.shape.type

theorem propertyType_recast (n : String) : (d.recast b').propertyType n = d.propertyType n := by
  unfold propertyType
  rw [recast_blueprint, beanName_recast h]
  rcases h.shape.property_rel n with ⟨p, q, hp, hq, hpq⟩ | ⟨hp, hq⟩
  · simp only [hp, hq, hpq.type]
  · simp only [hp, hq]

theorem staged_recast : (d.recast b').blueprint.staged = d.blueprint.staged := h.shape.staged

theorem args_recast : (d.recast b').args = d.args := by
  refine args_congr h.shape.creator_names fun n _ => ?_
  simp only [arg?, recast, h.shape.isWritable]

theorem written_recast {p q : Property H} (hpq : p.SameShape q) :
    (d.recast b').written q = d.written p := by
  unfold written viaSetter
  rw [hpq.isWritable, hpq.ignored, hpq.name, recast_blueprint, h.shape.isParameter]
  rfl

/-- What is ignored is not written, so that its setter does not matter. -/
theorem writeAll_recast :
    (d.recast b').writeAll b'.bean.properties = d.writeAll d.blueprint.bean.properties := by
  refine (writeAll_congr (List.Forall₂.mp (fun p q hwrite hpq => ?_) h.write h.shape.bean)).symm
  refine ⟨(written_recast h hpq).symm, fun hwritten => (hwrite ?_).symm⟩
  by_contra hignored
  simp [written, viaSetter, hignored] at hwritten

theorem tryNewBean_recast : (d.recast b').tryNewBean = d.tryNewBean := by
  unfold tryNewBean
  rw [args_recast h, recast_blueprint, h.build, writeAll_recast h, h.shape.path]

theorem stateText?_recast : (d.recast b').stateText? = d.stateText? :=
  stateText?_congr h.shape.propertyNames fun _ => rfl

theorem newBean_recast : (d.recast b').newBean = d.newBean := by
  unfold newBean
  rw [tryNewBean_recast h, stateText?_recast h, beanName_recast h]

theorem texts_recast : Check.texts (d.recast b') = Check.texts d := by
  unfold Check.texts
  rw [newBean_recast h, beanName_recast h, recast_blueprint, h.builderText, args_recast h]

theorem twins_recast (hashes : Bool) : Check.twins hashes (d.recast b') = Check.twins hashes d := by
  unfold Check.twins
  rw [newBean_recast h, beanName_recast h]

/-! ## Reading what is tested -/

section

variable {n : String} (hn : d.blueprint.isTestable n = true)
include hn

theorem tryRead_recast (bean : Value H) : (d.recast b').tryRead bean n = d.tryRead bean n :=
  h.read hn bean

theorem read_recast (bean : Value H) : (d.recast b').read bean n = d.read bean n := by
  unfold read
  rw [tryRead_recast h hn, beanName_recast h]

omit hn in
theorem isReadable_recast (n : String) :
    (d.recast b').blueprint.isReadable n = d.blueprint.isReadable n :=
  h.shape.isReadable n

theorem readActual_recast : (d.recast b').readActual n = d.readActual n := by
  unfold readActual
  rw [isReadable_recast h, newBean_recast h]
  split
  · simp only [read_recast h hn]
  · rfl

theorem absence_recast (omitted : Bool) :
    (d.recast b').absence n omitted = d.absence n omitted := by
  unfold absence
  rw [recast_blueprint, h.creator? n hn, h.bean? n hn]
  rfl

theorem checkAbsent_recast (omitted : Bool) (actual : Value H) :
    (d.recast b').checkAbsent n omitted actual = d.checkAbsent n omitted actual := by
  unfold checkAbsent
  rw [absence_recast h hn, beanName_recast h]

theorem verify_recast : (d.recast b').verify n = d.verify n := by
  unfold verify
  rw [isReadable_recast h, newBean_recast h, beanName_recast h]
  simp only [read_recast h hn, checkAbsent_recast h hn]
  rfl

theorem triesNull_recast : Check.triesNull (d.recast b') n = Check.triesNull d n := by
  unfold Check.triesNull nullResponse
  rw [absence_recast h hn, recast_blueprint, h.shape.isNullable]

theorem compare_recast (hashes changed : Bool) (first second : Value H) :
    Check.compare hashes (d.recast b') n changed first second =
      Check.compare hashes d n changed first second := by
  unfold Check.compare
  rw [recast_blueprint, h.isSignificant hn, beanName_recast h]

end

theorem testable_recast : (d.recast b').blueprint.testable = d.blueprint.testable :=
  h.shape.testable

theorem verifyAll_recast : (d.recast b').verifyAll = d.verifyAll := by
  unfold verifyAll
  rw [testable_recast h]
  exact Effect.each_congr fun n hn => verify_recast h (Blueprint.isTestable_of_mem hn)

end

/-- Two drafts of the one blueprint are compared as they are for the other. -/
theorem apart_recast {b b' : Blueprint H} (h : b.Indistinct b') {d e : Draft H}
    (hd : d.blueprint = b) (he : e.blueprint = b) {n : String} (hn : b.isTestable n = true)
    (hashes : Bool) :
    Check.apart hashes (d.recast b') (e.recast b') n = Check.apart hashes d e n := by
  subst hd
  have h' : e.blueprint.Indistinct b' := he ▸ h
  have hn' : e.blueprint.isTestable n = true := he ▸ hn
  unfold Check.apart
  rw [newBean_recast h, newBean_recast h', isReadable_recast h]
  simp only [read_recast h hn, read_recast h' hn', compare_recast h hn]
  rfl

theorem candidatePairs_recast {d : Draft H} {b' : Blueprint H} (h : d.blueprint.Indistinct b')
    {n : String} (hn : d.blueprint.isTestable n = true) (hashes : Bool) (values : List (Value H)) :
    Check.candidatePairs hashes (d.recast b') n values =
      Check.candidatePairs hashes d n values := by
  have happart : ∀ v w, Check.apart hashes ((d.recast b').put n v) ((d.recast b').put n w) n =
      Check.apart hashes (d.put n v) (d.put n w) n := fun v w =>
    apart_recast (d := d.put n v) (e := d.put n w) h rfl rfl hn hashes
  unfold Check.candidatePairs
  simp only [happart]

end Draft
end BeanContract
