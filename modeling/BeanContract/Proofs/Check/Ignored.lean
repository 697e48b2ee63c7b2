/-
Ignored properties do not interfere.

The accessors of an ignored property may do anything, and its significance and its declared
responses may be any: two descriptions that differ in these only are verified alike, with the same
result and the same effects on the world (`Verifier.verify_of_ignored`).  What the descriptions
become by customisation is not told apart, inference learns of both what is not told apart
(`Check.infersAlike_of_sameUnless`), and validation passes over what is ignored.  The accessors are
not even called, since then they could leave a mark in the world.
-/
import BeanContract.Proofs.Check.Inference
import BeanContract.Proofs.Check.Indistinct

namespace BeanContract

open Effect (Coupled)

variable {H : Host}

/-! ## Inference -/

theorem Draft.classify_recast {d : Draft H} {b' : Blueprint H} (h : d.blueprint.Indistinct b')
    {n : String} (hn : d.blueprint.isTestable n = true) :
    (d.recast b').classify n = d.classify n := by
  unfold classify
  rw [tryNewBean_recast h, isReadable_recast h]
  simp only [tryRead_recast h hn]

namespace Check

section

variable {E : Halt → Prop} (hE : ∀ e : Halt, e.Textual H → E e)
include hE

/-- A property is learned of alike, or passed over for both blueprints. -/
theorem coupled_inferOne {d : Draft H} {b' : Blueprint H} (h : d.blueprint.Indistinct b')
    {op : Absence} {p q : Property H} (hp : p.Tested op → d.blueprint.isTestable p.name = true)
    (hpq : p.SameUnless (·.flags.ignored = true) q) :
    Coupled (Property.SameUnless (·.flags.ignored = true)) E (inferOne d op p)
      (inferOne (d.recast b') op q) := by
  by_cases htested : p.Tested op
  · have hq : q = p := hpq.eq (by simp [htested.1])
    have hclassify : (absent op (d.recast b') p.name).classify p.name =
        (absent op d p.name).classify p.name := by
      cases op with
      | omitted => exact Draft.classify_recast (d := d.leaveOut p.name) h (hp htested)
      | setToNull => exact Draft.classify_recast (d := d.put p.name none) h (hp htested)
    have hlearn : learn (d.recast b').blueprint p op = learn d.blueprint p op := by
      funext o
      unfold learn
      rw [Draft.recast_blueprint, h.shape.name]
    have hsame : inferOne (d.recast b') op p = inferOne d op p := by
      unfold inferOne
      rw [hclassify, hlearn]
    rw [hq, hsame]
    exact (Coupled.of_only ((inferOne_only d op p).mono hE)).mono fun _ _ h => .inl h.symm
  · have htested' : ¬q.Tested op := by
      unfold Property.Tested at htested ⊢
      rwa [hpq.shape.ignored, hpq.shape.isWritable]
    unfold inferOne
    rw [if_pos (skips_iff.2 htested), if_pos (skips_iff.2 htested')]
    exact .pure hpq

/-- What is inferred is the same but for ignored properties, if what it is inferred from is. -/
theorem coupled_inferFrom {d : Draft H} {b' : Blueprint H} (hwf : d.blueprint.WellFormed)
    (hb : d.blueprint.SameUnless (·.flags.ignored = true) b') :
    Coupled (Blueprint.SameUnless (·.flags.ignored = true)) E (inferFrom d)
      (inferFrom (d.recast b')) := by
  have h : d.blueprint.Indistinct b' := .of_sameUnless hb hwf
  have hcreator : ∀ p ∈ d.blueprint.creator.properties, p.Tested .omitted →
      d.blueprint.isTestable p.name = true := by
    intro p hp htested
    have hget := Model.get?_of_mem hwf.creator hp
    refine hwf.isTestable_of_ignored (.inl hget) htested.1 (.inl ?_)
    simp [Blueprint.isParameter, Model.contains, hget]
  have hbean : ∀ p ∈ d.blueprint.bean.properties, p.Tested .setToNull →
      d.blueprint.isTestable p.name = true := by
    intro p hp htested
    have hget := Model.get?_of_mem hwf.bean hp
    refine hwf.isTestable_of_ignored (.inr hget) htested.1 (.inr ?_)
    simp [Blueprint.isWritable, hget, htested.2 rfl]
  have hparameters := ((List.forall₂_and_left _ _).2 ⟨hcreator, hb.creator⟩).imp
    fun p q hpq => coupled_inferOne hE (d := d.prefer .creator) h hpq.1 hpq.2
  have hproperties := ((List.forall₂_and_left _ _).2 ⟨hbean, hb.bean⟩).imp
    fun p q hpq => coupled_inferOne hE (d := d.prefer .setters) h hpq.1 hpq.2
  refine (Coupled.gather hparameters).bind fun ps qs hps => ?_
  refine (Coupled.gather hproperties).bind fun ps' qs' hps' => ?_
  exact .pure ⟨hb.name, hb.path, hb.construct, hb.builderText, hps, hps'⟩

omit hE in
/-- What is ignored is passed over. -/
theorem validate_of_sameUnless {b b' : Blueprint H}
    (h : b.SameUnless (·.flags.ignored = true) b') : validate b' = validate b := by
  have hname : validateOne b' = validateOne b := by
    funext p op
    unfold validateOne
    rw [h.name]
  unfold validate
  simp only [hname, List.forM_eq_forM]
  have hall := List.rel_append h.creator h.bean
  dsimp only at hall
  generalize b.creator.properties ++ b.bean.properties = ps,
    b'.creator.properties ++ b'.bean.properties = qs at hall
  induction hall with
  | nil => rfl
  | cons hpq _ ih =>
    rw [List.forM_cons, List.forM_cons, ih]
    rcases hpq with rfl | ⟨hignored, hpq⟩
    · rfl
    · simp [hignored, hpq.ignored]

theorem infersAlike_of_sameUnless {b b' : Blueprint H} (hwf : b.WellFormed)
    (h : b.SameUnless (·.flags.ignored = true) b') : InfersAlike E b b' := by
  rintro d rfl w
  rcases coupled_inferFrom hE hwf h w with ⟨b₁, b₁', w', hw, hw', hb₁⟩ | herror
  · have hwf₁ := (sameCode_of_inferFrom hw).wellFormed hwf
    exact .inl ⟨b₁, b₁', w', hw, hw', .of_sameUnless hb₁ hwf₁, validate_of_sameUnless hb₁⟩
  · exact .inr herror

end

end Check

/-! ## Marks -/

/-- The property whose accessors change the world whenever they are called. -/
def Property.marked (mark : H.World → H.World) (p : Property H) : Property H :=
  { p with
    getter := p.getter.map fun get o => do
      modify mark
      get o
    setter := p.setter.map fun set o v => do
      modify mark
      set o v }

theorem Property.sameShape_marked (mark : H.World → H.World) (p : Property H) :
    p.SameShape (p.marked mark) :=
  ⟨rfl, rfl, rfl, Option.isSome_map, Option.isSome_map⟩

namespace Description

variable {free : String → Prop} {d d' : Description H} {cs : List (Customisation H)}

/-- The description where the accessors of properties of some names change the world. -/
def marked (free : String → Prop) [DecidablePred free] (mark : H.World → H.World)
    (d : Description H) : Description H :=
  { d with
    creator := ⟨d.creator.properties.map fun p => if free p.name then p.marked mark else p⟩
    bean := ⟨d.bean.properties.map fun p => if free p.name then p.marked mark else p⟩ }

theorem sameUnless_marked [DecidablePred free] (mark : H.World → H.World) (d : Description H) :
    d.SameUnless free (d.marked free mark) := by
  have hall : ∀ ps : List (Property H), List.Forall₂ (Property.SameUnless fun p => free p.name) ps
      (ps.map fun p => if free p.name then p.marked mark else p) := by
    intro ps
    refine List.forall₂_map_right_iff.2 (List.forall₂_same.2 fun p _ => ?_)
    split
    · exact .inr ⟨‹_›, p.sameShape_marked mark⟩
    · exact .inl rfl
  exact ⟨⟨rfl, rfl, rfl, rfl, hall _, hall _⟩, rfl⟩

/-- Customised descriptions that differ in what is ignored are not told apart. -/
theorem paired_customiseAll {E : Halt → Prop} (hE : ∀ e, E e) (hwf : d.toBlueprint.WellFormed)
    (h : d.SameUnless free d')
    (hignored : ∀ n, free n → d.toBlueprint.Ignores n ∨ .ignore n ∈ cs) :
    Paired (Description.Alike E) (d.customiseAll cs) (d'.customiseAll cs) := by
  rcases customiseAll_rel h cs with ⟨d₁, d₁', hd, hd', hsame⟩ | ⟨e, hd, hd'⟩
  · have hwf₁ := customiseAll_wellFormed hwf hd
    have hb : d₁.toBlueprint.SameUnless (·.flags.ignored = true) d₁'.toBlueprint :=
      hsame.blueprint.mono fun p hp hfree =>
        ignores_customiseAll (hignored p.name hfree) hd p hp rfl
    refine .inl ⟨d₁, d₁', hd, hd', ⟨.of_sameUnless hb hwf₁, hsame.factories, fun entry _ => ?_⟩, ?_⟩
    · exact .of_forall hE entry.2
    · exact Check.infersAlike_of_sameUnless (fun e _ => hE e) hwf₁ hb
  · exact .inr ⟨e, hd, hd'⟩

end Description

/-! ## Verification -/

namespace Verifier

variable {free : String → Prop} {d d' : Description H} {cs : List (Customisation H)}

theorem verify_of_sameUnless (hwf : d.toBlueprint.WellFormed) (h : d.SameUnless free d')
    (hignored : ∀ n, free n → d.toBlueprint.Ignores n ∨ .ignore n ∈ cs) (v : Verifier H)
    (chance : UInt64) (w : H.World) : v.verify chance d' cs w = v.verify chance d cs w := by
  have hall : ∀ e : Halt, (fun _ => True) e := fun _ => trivial
  have hv := Registry.Indistinct.of_haltsIn (.of_forall hall v.registry)
  have hpaired := Description.paired_customiseAll hall hwf h hignored
  have hagree := agree_verify (fun e _ => hall e) hv (fun _ => trivial) hpaired chance w
  rcases hagree.cases with ⟨s, w₁, _, hw, hw', rfl⟩ | ⟨e, w₁, _, hw, hw', -, rfl⟩
  · rw [hw, hw']
  · rw [hw, hw']

/-- Ignored properties do not interfere with a verification, whatever their accessors do and
whatever is declared of their significance and of their absence: the result and the world
afterwards are the same.  The accessors are not called either, in the run itself or for nested
beans, as no mark that they leave in the world shows.  All that is declared is well-formed
(`Description.declare_wellFormed`). -/
theorem verify_of_ignored [DecidablePred free] (hwf : d.toBlueprint.WellFormed)
    (h : d.SameUnless free d')
    (hignored : ∀ n, free n → d.toBlueprint.Ignores n ∨ .ignore n ∈ cs) (v : Verifier H)
    (chance : UInt64) (w : H.World) :
    v.verify chance d' cs w = v.verify chance d cs w ∧
      ∀ mark : H.World → H.World,
        v.verify chance (d.marked free mark) cs w = v.verify chance d cs w :=
  ⟨verify_of_sameUnless hwf h hignored v chance w, fun mark =>
    verify_of_sameUnless hwf (d.sameUnless_marked mark) hignored v chance w⟩

end Verifier

/-! ## Nodes of a list -/

namespace Node

def host : Host where
  Object := Unit
  World := Nat
  same _ _ := true
  digest _ := []
  show? _ := .ok "Node"

def description (note : Property host) : Description host where
  name := "Node"
  path := "Node"
  creator := ⟨[
    { name := "next", type := .object "Node",
      flags := { nullable := true, significant := false } }]⟩
  bean := ⟨[note]⟩
  construct := fun _ => pure ()
  builderText := none
  factories := []

def plain : Description host := description
  { name := "note", type := .bool, getter := some fun _ => pure none,
    setter := some fun _ _ => pure () }

/-- The note cannot be read and panics when it is set, as is declared.  The calls are counted. -/
def noisy : Description host := description
  { name := "note", type := .bool, flags := { significant := false }
    onNull := { response := some .error, declared := true }
    getter := some fun _ calls => .error (.error (.rejected "no note")) (Nat.succ calls)
    setter := some fun _ _ calls => .error (.panic (.ofText "no note")) (Nat.succ calls) }

def verifier : Verifier host :=
  ⟨{ Settings.standard with trials := 1, randomCandidates := 0 }, .empty⟩

theorem plain_wellFormed : plain.toBlueprint.WellFormed where
  creator := List.pairwise_singleton _ _
  bean := List.pairwise_singleton _ _
  agree n p q hp hq := by
    have hnext : p.name = "next" := by simp [List.mem_singleton.1 (Model.mem_of_get? hp).1]
    have hnote : q.name = "note" := by simp [List.mem_singleton.1 (Model.mem_of_get? hq).1]
    rw [(Model.mem_of_get? hp).2, ← (Model.mem_of_get? hq).2, hnote] at hnext
    simp at hnext

theorem sameUnless_noisy : plain.SameUnless (· = "note") noisy where
  blueprint := ⟨rfl, rfl, rfl, rfl, .cons (.inl rfl) .nil,
    .cons (.inr ⟨rfl, rfl, rfl, rfl, rfl, rfl⟩) .nil⟩
  factories := rfl

/-- The counting notes are as good as the others, for nodes that are followed by nodes. -/
theorem verify_of_ignored_noisy :
    plain.toBlueprint.WellFormed ∧ plain.SameUnless (· = "note") noisy ∧
    (∀ n, n = "note" → plain.toBlueprint.Ignores n ∨
      .ignore n ∈ [(.ignore "note" : Customisation host)]) ∧
    (∃ statistics calls, verifier.verify 0 noisy [.ignore "note"] (0 : Nat) =
      .ok statistics calls) ∧
    ∀ chance calls,
      verifier.verify chance noisy [.ignore "note"] calls =
        verifier.verify chance plain [.ignore "note"] calls ∧
      ∀ mark, verifier.verify chance (plain.marked (· = "note") mark) [.ignore "note"] calls =
        verifier.verify chance plain [.ignore "note"] calls := by
  have hignored : ∀ n, n = "note" → plain.toBlueprint.Ignores n ∨
      .ignore n ∈ [(.ignore "note" : Customisation host)] := fun n hn =>
    .inr (hn ▸ List.mem_singleton_self _)
  refine ⟨plain_wellFormed, sameUnless_noisy, hignored, ?_, fun chance calls => ?_⟩
  · exact Effect.isSome_result?.1 (by decide +kernel)
  · exact Verifier.verify_of_ignored plain_wellFormed sameUnless_noisy hignored verifier chance
      calls

end Node
end BeanContract
