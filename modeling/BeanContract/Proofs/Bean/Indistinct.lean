/-
Blueprints that nothing tells apart.

The code of an ignored property is never run, and what is known about its absence is never
asked for.  Blueprints that are the same but for their ignored properties
(`Blueprint.SameUnless`), which have one shape in both, are therefore alike in everything that
building, reading and testing beans goes by (`Blueprint.Indistinct`).

Being ignored is for a customisation to say, so that descriptions are compared first by the
names of the properties in which they may differ.  Customisations keep them alike
(`Description.customiseAll_rel`), and then these properties are ignored
(`Description.ignores_customiseAll`).
-/
import BeanContract.Proofs.Bean.Description

namespace BeanContract

variable {H : Host}

/-! ## Properties that are the same or of one shape -/

namespace Property

/-- The properties are the same, except that where `off` holds of the first one they need only
be of one shape. -/
def SameUnless (off : Property H → Prop) (p q : Property H) : Prop :=
  q = p ∨ off p ∧ p.SameShape q

namespace SameUnless

variable {off off' : Property H → Prop} {p q : Property H}

theorem shape (h : p.SameUnless off q) : p.SameShape q := by
  rcases h with rfl | ⟨-, h⟩
  · exact .refl q
  · exact h

theorem eq (h : p.SameUnless off q) (hp : ¬off p) : q = p := h.resolve_right fun h => hp h.1

theorem mono (h : p.SameUnless off q) (hoff : off p → off' p) : p.SameUnless off' q :=
  h.imp_right fun h => ⟨hoff h.1, h.2⟩

end SameUnless

/-- A customisation asks for nothing but the shape of what it leaves alone. -/
theorem SameShape.apply {p q : Property H} (h : p.SameShape q) (c : Customisation H) :
    (c.apply p).SameShape (c.apply q) := by
  refine ⟨?_, ?_, ?_, ?_, ?_⟩
  · rw [c.apply_name, c.apply_name, h.name]
  · rw [c.apply_type, c.apply_type, h.type]
  · cases c with
    | response op _ r => cases op <;> exact h.flags
    | factory _ f => exact h.flags
    | _ =>
      simp only [Customisation.apply]
      rw [h.flags]
  · unfold Property.isReadable
    rw [c.apply_getter, c.apply_getter]
    exact h.isReadable
  · unfold Property.isWritable
    rw [c.apply_setter, c.apply_setter]
    exact h.isWritable

end Property

/-- What relates properties and is kept by a change relates models that are changed. -/
theorem Model.update_rel {R : Property H → Property H → Prop} {f : Property H → Property H}
    (hname : ∀ p q, R p q → q.name = p.name) (hf : ∀ p q, R p q → R (f p) (f q))
    {m m' : Model H} (h : List.Forall₂ R m.properties m'.properties) (n : String) :
    List.Forall₂ R (m.update n f).properties (m'.update n f).properties := by
  unfold update
  rw [List.forall₂_map_left_iff, List.forall₂_map_right_iff]
  refine h.imp fun p q hpq => ?_
  rw [hname p q hpq]
  split
  · exact hf p q hpq
  · exact hpq

namespace Blueprint

structure SameUnless (off : Property H → Prop) (b b' : Blueprint H) : Prop where
  name : b'.name = b.name
  path : b'.path = b.path
  construct : b'.construct = b.construct
  builderText : b'.builderText = b.builderText
  creator : List.Forall₂ (Property.SameUnless off) b.creator.properties b'.creator.properties
  bean : List.Forall₂ (Property.SameUnless off) b.bean.properties b'.bean.properties

/-- Every property of the name is ignored. -/
def Ignores (b : Blueprint H) (n : String) : Prop :=
  ∀ p, p ∈ b.creator.properties ∨ p ∈ b.bean.properties → p.name = n → p.flags.ignored = true

namespace SameUnless

variable {off off' : Property H → Prop} {b b' : Blueprint H}

theorem shape (h : b.SameUnless off b') : b.SameShape b' :=
  ⟨h.name, h.path, h.creator.imp fun _ _ => Property.SameUnless.shape,
    h.bean.imp fun _ _ => Property.SameUnless.shape⟩

theorem mono (h : b.SameUnless off b')
    (hoff : ∀ p, p ∈ b.creator.properties ∨ p ∈ b.bean.properties → off p → off' p) :
    b.SameUnless off' b' := by
  have himp : ∀ {ps qs : List (Property H)}, (∀ p ∈ ps, off p → off' p) →
      List.Forall₂ (Property.SameUnless off) ps qs →
      List.Forall₂ (Property.SameUnless off') ps qs := fun hps hpq =>
    ((List.forall₂_and_left _ _).2 ⟨hps, hpq⟩).imp fun _ _ h => h.2.mono h.1
  exact ⟨h.name, h.path, h.construct, h.builderText, himp (fun p hp => hoff p (.inl hp)) h.creator,
    himp (fun p hp => hoff p (.inr hp)) h.bean⟩

theorem customised {free : String → Prop} (h : b.SameUnless (fun p => free p.name) b')
    (c : Customisation H) :
    (b.customised c).SameUnless (fun p => free p.name) (b'.customised c) := by
  have happly : ∀ p q : Property H, p.SameUnless (fun p => free p.name) q →
      (c.apply p).SameUnless (fun p => free p.name) (c.apply q) := by
    rintro p q (rfl | ⟨hp, hshape⟩)
    · exact .inl rfl
    · refine .inr ⟨?_, hshape.apply c⟩
      show free (c.apply p).name
      rw [c.apply_name]
      exact hp
  have hname : ∀ p q : Property H, p.SameUnless (fun p => free p.name) q → q.name = p.name :=
    fun _ _ hpq => hpq.shape.name
  exact ⟨h.name, h.path, h.construct, h.builderText,
    Model.update_rel hname happly h.creator _, Model.update_rel hname happly h.bean _⟩

end SameUnless

namespace Ignores

variable {b : Blueprint H} {n : String}

theorem customised (h : b.Ignores n) (c : Customisation H) : (b.customised c).Ignores n := by
  have hkept : ∀ p : Property H, p.flags.ignored = true → (c.apply p).flags.ignored = true := by
    intro p hp
    cases c with
    | response op _ r => cases op <;> exact hp
    | ignore _ => rfl
    | _ => exact hp
  have hupdate : ∀ m : Model H, (∀ p ∈ m.properties, p.name = n → p.flags.ignored = true) →
      ∀ p ∈ (m.update c.property c.apply).properties, p.name = n → p.flags.ignored = true := by
    intro m hm p hp hname
    obtain ⟨p₀, hp₀, rfl⟩ := List.mem_map.1 hp
    split at hname
    · rw [if_pos ‹_›]
      rw [c.apply_name] at hname
      exact hkept p₀ (hm p₀ hp₀ hname)
    · rw [if_neg ‹_›]
      exact hm p₀ hp₀ hname
  rintro p (hp | hp) hname
  · exact hupdate _ (fun q hq => h q (.inl hq)) p hp hname
  · exact hupdate _ (fun q hq => h q (.inr hq)) p hp hname

theorem of_ignore (b : Blueprint H) (n : String) : (b.customised (.ignore n)).Ignores n := by
  rintro p (hp | hp) hname
  all_goals
    obtain ⟨p₀, -, rfl⟩ := List.mem_map.1 hp
    split
    · rfl
    · rename_i hne
      rw [if_neg hne] at hname
      exact absurd hname hne

end Ignores
end Blueprint

/-! ## Customisation -/

namespace Description

variable {free : String → Prop} {d d' : Description H}

structure SameUnless (free : String → Prop) (d d' : Description H) : Prop where
  blueprint : d.toBlueprint.SameUnless (fun p => free p.name) d'.toBlueprint
  factories : d'.factories = d.factories

/-- A customisation fails for both in the same way, or keeps them alike. -/
theorem customise_rel (h : d.SameUnless free d') (c : Customisation H) :
    (∃ d₁ d₁', d.customise c = .ok d₁ ∧ d'.customise c = .ok d₁' ∧ d₁.SameUnless free d₁') ∨
      ∃ e, d.customise c = .error e ∧ d'.customise c = .error e := by
  have hshape := h.blueprint.shape
  unfold customise
  rcases hshape.property_rel c.property with ⟨p, q, hp, hq, hpq⟩ | ⟨hp, hq⟩
  · rw [hp, hq]
    dsimp only
    rw [hpq.type]
    cases c with
    | factory n f =>
      dsimp only
      split
      · refine .inl ⟨_, _, rfl, rfl, h.blueprint, ?_⟩
        unfold setFactory
        rw [h.factories]
      · rw [hshape.name]
        exact .inr ⟨_, rfl, rfl⟩
    | _ => exact .inl ⟨_, _, rfl, rfl, h.blueprint.customised _, h.factories⟩
  · rw [hp, hq, hshape.name]
    exact .inr ⟨_, rfl, rfl⟩

theorem customiseAll_rel (h : d.SameUnless free d') (cs : List (Customisation H)) :
    (∃ d₁ d₁', d.customiseAll cs = .ok d₁ ∧ d'.customiseAll cs = .ok d₁' ∧
      d₁.SameUnless free d₁') ∨
      ∃ e, d.customiseAll cs = .error e ∧ d'.customiseAll cs = .error e := by
  unfold customiseAll
  induction cs generalizing d d' with
  | nil => exact .inl ⟨d, d', rfl, rfl, h⟩
  | cons c cs ih =>
    rw [List.foldlM_cons, List.foldlM_cons]
    rcases customise_rel h c with ⟨d₁, d₁', hd, hd', h₁⟩ | ⟨e, hd, hd'⟩
    · rw [hd, hd']
      exact ih h₁
    · rw [hd, hd']
      exact .inr ⟨e, rfl, rfl⟩

/-- A property is ignored once it has been customised to be, and stays so. -/
theorem ignores_customiseAll {n : String} {cs : List (Customisation H)}
    (h : d.toBlueprint.Ignores n ∨ .ignore n ∈ cs) (hd : d.customiseAll cs = .ok d') :
    d'.toBlueprint.Ignores n := by
  have hkept (b : Blueprint H) (c : Customisation H) (hb : b.Ignores n) :
      (b.customised c).Ignores n := hb.customised c
  induction cs generalizing d with
  | nil =>
    cases hd
    exact h.resolve_right List.not_mem_nil
  | cons c cs ih =>
    obtain ⟨d₁, hc, hd⟩ := customiseAll_cons.1 hd
    refine ih ?_ hd
    rcases h with h | h
    · exact .inl (customise_preserves hkept h hc)
    · rcases List.mem_cons.1 h with rfl | h
      · rcases customise_eq_ok hc with ⟨_, _, hfactory, -⟩ | rfl
        · cases hfactory
        · exact .inl (.of_ignore d.toBlueprint n)
      · exact .inr h

end Description

/-! ## Nothing tells them apart -/

namespace Blueprint

/-- The blueprints build beans alike and test the same properties, which are the same in both;
nothing else is written. -/
structure Indistinct (b b' : Blueprint H) : Prop where
  shape : b.SameShape b'
  construct : b'.construct = b.construct
  builderText : b'.builderText = b.builderText
  write : List.Forall₂ (fun p q => p.flags.ignored = false → q.write = p.write)
    b.bean.properties b'.bean.properties
  creator? : ∀ n, b.isTestable n = true → b'.creator.get? n = b.creator.get? n
  bean? : ∀ n, b.isTestable n = true → b'.bean.get? n = b.bean.get? n

namespace Indistinct

variable {b b' : Blueprint H}

protected theorem refl (b : Blueprint H) : b.Indistinct b :=
  ⟨.refl b, rfl, rfl, List.forall₂_same.2 fun _ _ _ => rfl, fun _ _ => rfl, fun _ _ => rfl⟩

theorem of_sameUnless (h : b.SameUnless (·.flags.ignored = true) b') (hb : b.WellFormed) :
    b.Indistinct b' := by
  have hfound : ∀ {found found' : Option (Property H)},
      FoundBoth (Property.SameUnless (·.flags.ignored = true)) found found' →
      (∀ p, found = some p → p.flags.ignored = false) → found' = found := by
    rintro found found' (⟨p, q, rfl, rfl, hpq⟩ | ⟨rfl, rfl⟩) hignored
    · rw [hpq.eq (by simp [hignored p rfl])]
    · rfl
  have hname : ∀ p q : Property H, p.SameUnless (·.flags.ignored = true) q → q.name = p.name :=
    fun _ _ hpq => hpq.shape.name
  refine ⟨h.shape, h.construct, h.builderText, h.bean.imp fun p q hpq hp => ?_, fun n hn => ?_,
    fun n hn => ?_⟩
  · rw [hpq.eq (by simp [hp])]
  · exact hfound (Model.get?_rel hname h.creator n) fun p hp =>
      hb.ignored_of_testable hn (.inl hp)
  · exact hfound (Model.get?_rel hname h.bean n) fun p hp =>
      hb.ignored_of_testable hn (.inr hp)

variable (h : b.Indistinct b')
include h

theorem property? {n : String} (hn : b.isTestable n = true) : b'.property? n = b.property? n := by
  unfold Blueprint.property?
  rw [h.bean? n hn, h.creator? n hn]

theorem isSignificant {n : String} (hn : b.isTestable n = true) :
    b'.isSignificant n = b.isSignificant n := by
  unfold Blueprint.isSignificant
  rw [h.property? hn]

theorem build : b'.build = b.build := by
  funext args
  unfold Blueprint.build
  rw [h.construct]

theorem read {n : String} (hn : b.isTestable n = true) (bean : Value H) :
    b'.read bean n = b.read bean n := by
  have hobject : b'.object? n bean = b.object? n bean := by
    unfold object?
    rw [h.shape.path, h.shape.type]
  unfold Blueprint.read
  rw [h.bean? n hn, hobject]

end Indistinct
end Blueprint
end BeanContract
