/-
A run that succeeds has checked the declared responses.

Inference leaves out each parameter and sets each property with a setter to null.  What is
declared about these, on either model, is what a bean of the primary values shows if
verification succeeds (`accepts_of_verify`).  A declaration about any other absence is kept
without a look: a lamp that is declared to fail without its second switch, which is no
parameter, passes (`verify_ok_unobserved`).
-/
import BeanContract.Proofs.Check.Inference
import BeanContract.Verifier

namespace BeanContract

variable {H : Host}

namespace Blueprint

/-- Whether inference looks at an absence of a property that is not ignored. -/
def observes (b : Blueprint H) (n : String) : Absence → Bool
  | .omitted => b.isParameter n
  | .setToNull => b.isWritable n

variable {b : Blueprint H} {n : String} {op : Absence} {p : Property H}

theorem get?_observed (h : b.observes n op = true) : ∃ q, (b.observed op).get? n = some q ∧
    (op = .setToNull → q.isWritable = true) := by
  cases op with
  | omitted =>
    obtain ⟨q, hq⟩ := Option.isSome_iff_exists.1 h
    exact ⟨q, hq, nofun⟩
  | setToNull =>
    unfold observes isWritable at h
    cases hq : b.bean.get? n with
    | none => simp [hq] at h
    | some q => exact ⟨q, hq, fun _ => by simpa [hq] using h⟩

/-- A response to an absence is declared for a property that is not ignored, on the parameter
or on the accessors. -/
def Declares (b : Blueprint H) (n : String) (op : Absence) (r : Response) : Prop :=
  ∃ p, (b.creator.get? n = some p ∨ b.bean.get? n = some p) ∧ p.flags.ignored = false ∧
    (p.finding op).declaration = some r

/-- A declaration that inference looks at is found on the model that it looks at. -/
theorem Declares.tested {r : Response} (h : b.Declares n op r) (hwf : b.WellFormed)
    (hb : b.WellDeclared) (hobserves : b.observes n op = true) :
    ∃ q, (b.observed op).get? n = some q ∧ q.Tested op ∧
      (q.finding op).declaration = some r := by
  obtain ⟨p, hp, hignored, hr⟩ := h
  obtain ⟨q, hq, hwritable⟩ := get?_observed hobserves
  have hq' : b.creator.get? n = some q ∨ b.bean.get? n = some q := by
    cases op with
    | omitted => exact .inl hq
    | setToNull => exact .inr hq
  have hflags := hwf.flags_eq hp hq'
  have hdeclaration := hb.declaration_eq hp hq' op
  exact ⟨q, hq, ⟨hflags ▸ hignored, hwritable⟩, hdeclaration.trans hr⟩

end Blueprint

namespace Check

/-- What inference draws for the primary values. -/
theorem drawPrimary_of_infer {b b' : Blueprint H} {c c' : Context H} (h : infer b c = .ok b' c') :
    ∃ values c₁, (Draft.ofBlueprint b).drawPrimary Run.create b.staged .empty c =
      .ok values c₁ := by
  rw [infer_eq_inferFrom] at h
  split at h
  · rename_i d c₁ hreset
    obtain ⟨d₀, s, hd, hdraw⟩ := Effect.bind_eq_ok.1 hreset
    obtain ⟨rfl, rfl⟩ := Stage.draft_eq_ok.1 hd
    obtain ⟨values, s₁, hvalues, -⟩ := Effect.bind_eq_ok.1 hdraw
    exact ⟨values, s₁.2, (Stage.ofRun_eq_ok.1 hvalues).2⟩
  · cases h

theorem accepts_of_infer {b b' : Blueprint H} (hb : b.Stateless) (hwf : b.WellFormed)
    (hdeclared : b.WellDeclared) {c c₁ c' : Context H} {values : Table String (Value H)}
    (hdraws : (Draft.ofBlueprint b).drawPrimary Run.create b.staged .empty c = .ok values c₁)
    (h : infer b c = .ok b' c') {n : String} {op : Absence} {r : Response}
    (hr : b.Declares n op r) (hobserves : b.observes n op = true) :
    ∃ o, (Draft.without b values op n).Observes n o ∧ r.accepts o.response = true := by
  obtain ⟨q, hq, htested, hdeclaration⟩ := hr.tested hwf hdeclared hobserves
  obtain ⟨hmem, rfl⟩ := Model.mem_of_get? hq
  obtain ⟨-, -, hrecords⟩ := (infer_eq_ok_iff hb hdraws).1 h
  have hexists := exists_forall₂_iff.1 ⟨_, hrecords op⟩ q hmem
  exact (exists_records_iff hb).1 hexists htested r hdeclaration

end Check

namespace Verifier

/-- The blueprint that a run infers from, once it is customised, and its primary values. -/
def Draws (v : Verifier H) (chance : UInt64) (d : Description H) (cs : List (Customisation H))
    (w : H.World) (b : Blueprint H) (values : Table String (Value H)) : Prop :=
  ∃ d' c₁ c₂, d.customiseAll cs = .ok d' ∧ d'.toBlueprint = b ∧
    prepare d' (.start v.settings v.registry chance w) = .ok () c₁ ∧
    (Draft.ofBlueprint b).drawPrimary Run.create b.staged .empty c₁ = .ok values c₂

theorem infer_of_run {d : Description H} {cs : List (Customisation H)} {c c' : Context H}
    {statistics : Statistics} (h : run d cs c = .ok statistics c') :
    ∃ d' c₁ b c₂, d.customiseAll cs = .ok d' ∧ prepare d' c = .ok () c₁ ∧
      Check.infer d'.toBlueprint c₁ = .ok b c₂ := by
  obtain ⟨d', c₀, hd', h⟩ := Effect.bind_eq_ok.1 h
  obtain ⟨hcustomised, rfl⟩ := Effect.ofExcept_eq_ok.1 hd'
  obtain ⟨u, c₁, hprepare, h⟩ := Effect.bind_eq_ok.1 h
  obtain ⟨b, c₂, hinfer, -⟩ := Effect.bind_eq_ok.1 h
  exact ⟨d', c₁, b, c₂, hcustomised, hprepare, hinfer⟩

theorem run_of_verify {v : Verifier H} {chance : UInt64} {d : Description H}
    {cs : List (Customisation H)} {statistics : Statistics} {w w' : H.World}
    (h : v.verify chance d cs w = .ok statistics w') :
    ∃ c', run d cs (.start v.settings v.registry chance w) = .ok statistics c' := by
  unfold verify inContext at h
  cases hrun : run d cs (.start v.settings v.registry chance w) with
  | ok s c' =>
    rw [hrun] at h
    cases h
    exact ⟨c', rfl⟩
  | error e c' =>
    rw [hrun] at h
    cases h

/-- Where verification succeeds, the declared response to leaving out a parameter, or to
setting a property with a setter to null, accepts what a bean of the primary values shows,
on whichever model it is declared.  Descriptions are well-formed and well-declared however
they are made (`Description.declare_wellFormed`, `Description.declare_wellDeclared`). -/
theorem accepts_of_verify {v : Verifier H} {chance : UInt64} {d : Description H}
    {cs : List (Customisation H)} {statistics : Statistics} {w w' : H.World}
    (hd : d.toBlueprint.Stateless) (hwf : d.toBlueprint.WellFormed)
    (hdeclared : d.toBlueprint.WellDeclared)
    (h : v.verify chance d cs w = .ok statistics w') :
    ∃ b values, v.Draws chance d cs w b values ∧
      ∀ n op r, b.Declares n op r → b.observes n op = true →
        ∃ o, (Draft.without b values op n).Observes n o ∧ r.accepts o.response = true := by
  obtain ⟨c', hrun⟩ := run_of_verify h
  obtain ⟨d', c₁, b, c₂, hcustomised, hprepare, hinfer⟩ := infer_of_run hrun
  obtain ⟨values, c₃, hdraws⟩ := Check.drawPrimary_of_infer hinfer
  have hd' : d'.toBlueprint.Stateless :=
    Description.customiseAll_preserves (fun _ c hb => hb.customised c) hd hcustomised
  have hwf' := Description.customiseAll_wellFormed hwf hcustomised
  have hdeclared' : d'.toBlueprint.WellDeclared :=
    Description.customiseAll_preserves (fun _ c hb => hb.customised c) hdeclared hcustomised
  refine ⟨d'.toBlueprint, values, ⟨d', c₁, c₃, hcustomised, rfl, hprepare, hdraws⟩, ?_⟩
  intro n op r hr hobserves
  exact Check.accepts_of_infer hd' hwf' hdeclared' hdraws hinfer hr hobserves

def lamps : Description Lamp.host := { Lamp.blueprint with factories := [] }

def brief : Verifier Lamp.host :=
  ⟨{ Settings.standard with trials := 0, randomCandidates := 0, seed := some 1 },
    Catalog.registry⟩

theorem lamps_wellDeclared : lamps.toBlueprint.WellDeclared := by
  refine Blueprint.wellDeclared_of_plain fun n p hp => ?_
  have hmem : p ∈ lamps.creator.properties ∨ p ∈ lamps.bean.properties :=
    hp.imp (fun h => (Model.mem_of_get? h).1) fun h => (Model.mem_of_get? h).1
  obtain rfl | rfl | rfl : p = _ ∨ p = _ ∨ p = _ := by
    simpa [lamps, Lamp.blueprint] using hmem
  all_goals exact ⟨rfl, rfl, rfl⟩

def shownResponses : List (Customisation Lamp.host) :=
  [.response .omitted "on" .varyingNullable, .response .setToNull "dim" .null]

theorem accepts_of_verify_lamps :
    lamps.toBlueprint.Stateless ∧ lamps.toBlueprint.WellFormed ∧
      lamps.toBlueprint.WellDeclared ∧
      (∃ statistics w, brief.verify 0 lamps shownResponses () = .ok statistics w) ∧
      ∃ b values, brief.Draws 0 lamps shownResponses () b values ∧
        ∀ n op r, b.Declares n op r → b.observes n op = true →
          ∃ o, (Draft.without b values op n).Observes n o ∧ r.accepts o.response = true := by
  have hverify : ∃ statistics w, brief.verify 0 lamps shownResponses () = .ok statistics w :=
    Effect.isSome_result?.1 (by decide +kernel)
  obtain ⟨statistics, w, h⟩ := hverify
  exact ⟨Lamp.stateless, Lamp.wellFormed, lamps_wellDeclared, ⟨statistics, w, h⟩,
    accepts_of_verify Lamp.stateless Lamp.wellFormed lamps_wellDeclared h⟩

/-- Lamps fail without the second switch, which is no parameter, and when the first one, which
has no setter, is set to null. -/
def unseenResponses : List (Customisation Lamp.host) :=
  [.response .omitted "dim" .error, .response .setToNull "on" .error]

/-- Lamps pass although they do not fail. -/
theorem verify_ok_unobserved :
    (∃ statistics w, brief.verify 0 lamps unseenResponses () = .ok statistics w) ∧
      ∃ b values, brief.Draws 0 lamps unseenResponses () b values ∧
        (b.Declares "dim" .omitted .error ∧
          ¬∃ o, (Draft.without b values .omitted "dim").Observes "dim" o ∧
            Response.error.accepts o.response = true) ∧
        b.Declares "on" .setToNull .error ∧
          ¬∃ o, (Draft.without b values .setToNull "on").Observes "on" o ∧
            Response.error.accepts o.response = true := by
  have hverify : ∃ statistics w, brief.verify 0 lamps unseenResponses () = .ok statistics w :=
    Effect.isSome_result?.1 (by decide +kernel)
  have hshown : ∀ {d : Draft Lamp.host} {n}, d.classify n () = .ok ⟨.null, none⟩ () →
      ¬∃ o, d.Observes n o ∧ Response.error.accepts o.response = true := by
    rintro d n hclassify ⟨o, ho, haccepts⟩
    have hsame := (Draft.classify_of_observes ho ()).symm.trans hclassify
    cases hsame
    cases haccepts
  exact ⟨hverify, _, _, ⟨_, _, _, rfl, rfl, rfl, rfl⟩,
    ⟨⟨_, .inr rfl, rfl, rfl⟩, hshown rfl⟩, ⟨_, .inl rfl, rfl, rfl⟩, hshown rfl⟩

end Verifier
end BeanContract
