/-
The random candidates of a property.

After the two fixed values, the candidates of a property have a slot for each random value that
the settings ask for.  Random values are drawn for a slot until one comes that is not among
the candidates so far, or until the attempts are used up; the last one drawn fills the slot.
`Draft.chosen_iff` says so of a whole list of candidates: it determines which values were drawn,
in which order, and for which slot.
-/
import BeanContract.Proofs.Draft.Candidates

namespace BeanContract

variable {H : Host} {f : Factory H} {c c' : Context H}

inductive Factory.Draws (f : Factory H) : Context H → List (Value H) → Context H → Prop where
  | nil (c : Context H) : f.Draws c [] c
  | cons {c c₁ c₂ : Context H} {v : Value H} {vs : List (Value H)} :
      Run.create f .random c = .ok v c₁ → f.Draws c₁ vs c₂ → f.Draws c (v :: vs) c₂

theorem Factory.draws_append {vs ws : List (Value H)} :
    f.Draws c (vs ++ ws) c' ↔ ∃ c₁, f.Draws c vs c₁ ∧ f.Draws c₁ ws c' := by
  induction vs generalizing c with
  | nil =>
    constructor
    · exact fun h => ⟨c, .nil c, h⟩
    · rintro ⟨c₁, h, hws⟩
      cases h
      exact hws
  | cons v vs ih =>
    constructor
    · intro h
      cases h with
      | cons hv h =>
        obtain ⟨c₂, hvs, hws⟩ := ih.1 h
        exact ⟨c₂, .cons hv hvs, hws⟩
    · rintro ⟨c₂, h, hws⟩
      cases h with
      | cons hv hvs => exact .cons hv (ih.2 ⟨c₂, hvs, hws⟩)

/-- A value is among those that were found before. -/
def Value.Repeats (found : List (Value H)) (v : Value H) : Prop := ∃ u ∈ found, u.same v = true

theorem Value.repeats_iff {found : List (Value H)} {v : Value H} :
    v.Repeats found ↔ found.any (fun u => u.same v) = true :=
  List.any_eq_true.symm

instance (found : List (Value H)) (v : Value H) : Decidable (v.Repeats found) :=
  decidable_of_iff _ Value.repeats_iff.symm

/-- How many values may be drawn for one slot: one only if there are few to choose from. -/
def Factory.attempts (f : Factory H) (settings : Settings) : Nat :=
  if f.lowCardinality then 1 else max settings.distinctAttempts 1

/-! ## One slot -/

/-- A slot for a random value: the values that were drawn and passed over, and the one that was
drawn last and taken. -/
structure Slot (H : Host) where
  passed : List (Value H)
  taken : Value H

namespace Slot

def draws (s : Slot H) : List (Value H) := s.passed ++ [s.taken]

/-- The slot is filled after the values `found`: each value that was passed over is among them,
and so is the one that was taken only if no further attempt was left. -/
structure Fills (s : Slot H) (found : List (Value H)) (attempts : Nat) : Prop where
  passed : ∀ v ∈ s.passed, v.Repeats found
  within : s.draws.length ≤ attempts
  last : s.taken.Repeats found → s.draws.length = attempts

def Exhausted (s : Slot H) (found : List (Value H)) (attempts : Nat) : Prop :=
  s.draws.length = attempts ∧ ∀ v ∈ s.draws, v.Repeats found

theorem Fills.not_repeats {s : Slot H} {found : List (Value H)} {attempts : Nat}
    (h : s.Fills found attempts) (hs : ¬s.Exhausted found attempts) : ¬s.taken.Repeats found := by
  intro htaken
  refine hs ⟨h.last htaken, fun v hv => ?_⟩
  rcases List.mem_append.1 hv with hv | hv
  · exact h.passed v hv
  · rwa [List.mem_singleton.1 hv]

/-- A slot is as one with an attempt less after a first value that is passed over. -/
theorem fills_pass {v u : Value H} {vs found : List (Value H)} {attempts : Nat} :
    Fills ⟨v :: vs, u⟩ found (attempts + 1) ↔ v.Repeats found ∧ Fills ⟨vs, u⟩ found attempts := by
  constructor
  · intro h
    obtain ⟨hv, hvs⟩ := List.forall_mem_cons.1 h.passed
    exact ⟨hv, hvs, by simpa [draws] using h.within, fun hu => by simpa [draws] using h.last hu⟩
  · rintro ⟨hv, hvs⟩
    refine ⟨List.forall_mem_cons.2 ⟨hv, hvs.passed⟩, ?_, fun hu => ?_⟩
    · simpa [draws] using hvs.within
    · simpa [draws] using hvs.last hu

end Slot

namespace Run

/-- The first of up to `n + 1` random values that is apart from others, or the last one. -/
theorem createApart_eq_ok {avoid : List (Value H)} {n : Nat} {v : Value H} :
    createApart f avoid n c = .ok v c' ↔
      ∃ s : Slot H, f.Draws c s.draws c' ∧ s.taken = v ∧ s.Fills avoid (n + 1) := by
  induction n generalizing c with
  | zero =>
    constructor
    · intro h
      exact ⟨⟨[], v⟩, .cons h (.nil c'), rfl, nofun, le_rfl, fun _ => rfl⟩
    · rintro ⟨⟨passed, u⟩, hdraws, rfl, hfills⟩
      have hpassed : passed = [] := by
        simpa [Slot.draws] using hfills.within
      subst hpassed
      cases hdraws with
      | cons hu hnil =>
        cases hnil
        exact hu
  | succ n ih =>
    constructor
    · intro h
      obtain ⟨w, c₁, hw, h⟩ := Effect.bind_eq_ok.1 h
      split at h
      · rename_i hrepeats
        obtain ⟨s, hdraws, htaken, hfills⟩ := ih.1 h
        refine ⟨⟨w :: s.passed, s.taken⟩, .cons hw hdraws, htaken, Slot.fills_pass.2 ⟨?_, hfills⟩⟩
        exact Value.repeats_iff.2 hrepeats
      · rename_i hrepeats
        obtain ⟨rfl, rfl⟩ := Effect.pure_eq_ok.1 h
        refine ⟨⟨[], w⟩, .cons hw (.nil c₁), rfl, nofun, Nat.le_add_left 1 _, fun hw' => ?_⟩
        exact absurd (Value.repeats_iff.1 hw') hrepeats
    · rintro ⟨⟨passed, u⟩, hdraws, rfl, hfills⟩
      cases passed with
      | nil =>
        cases hdraws with
        | cons hu hnil =>
          cases hnil
          refine Effect.bind_eq_ok.2 ⟨u, c', hu, ?_⟩
          have hnew : ¬avoid.any (fun a => a.same u) = true := fun hrepeats => by
            have hlength := hfills.last (Value.repeats_iff.2 hrepeats)
            simp [Slot.draws] at hlength
          rw [if_neg hnew]
          rfl
      | cons w passed =>
        cases hdraws with
        | cons hw hdraws =>
          obtain ⟨hrepeats, hfills⟩ := Slot.fills_pass.1 hfills
          refine Effect.bind_eq_ok.2 ⟨w, _, hw, ?_⟩
          rw [if_pos (Value.repeats_iff.1 hrepeats)]
          exact ih.2 ⟨⟨passed, u⟩, hdraws, rfl, hfills⟩

theorem createDistinct_eq_ok {found : List (Value H)} {v : Value H} :
    createDistinct f found c = .ok v c' ↔ ∃ s : Slot H,
      f.Draws c s.draws c' ∧ s.taken = v ∧ s.Fills found (f.attempts c.settings) := by
  show createApart f found (if f.lowCardinality then 0 else c.settings.distinctAttempts - 1) c =
    .ok v c' ↔ _
  have hattempts : f.attempts c.settings =
      (if f.lowCardinality then 0 else c.settings.distinctAttempts - 1) + 1 := by
    unfold Factory.attempts
    split
    · rfl
    · omega
  rw [createApart_eq_ok, hattempts]

end Run

/-! ## All slots -/

namespace Slot

/-- Slots are filled one after the other, after the values `found`: `P` holds of each of them and
the values before it. -/
def Each (P : Slot H → List (Value H) → Prop) (found : List (Value H)) (slots : List (Slot H)) :
    Prop :=
  ∀ before s after, slots = before ++ s :: after → P s (found ++ before.map taken)

variable {P : Slot H → List (Value H) → Prop} {found : List (Value H)}

theorem each_nil : Each P found [] := fun before s after h => by simp at h

theorem each_cons {s : Slot H} {slots : List (Slot H)} :
    Each P found (s :: slots) ↔ P s found ∧ Each P (found ++ [s.taken]) slots := by
  constructor
  · intro h
    refine ⟨by simpa using h [] s slots rfl, fun before s' after hslots => ?_⟩
    simpa using h (s :: before) s' after (by rw [hslots]; rfl)
  · rintro ⟨hs, hslots⟩ before s' after heq
    cases before with
    | nil =>
      cases heq
      simpa using hs
    | cons s₀ before =>
      cases heq
      simpa using hslots before s' after rfl

end Slot

namespace Draft

theorem extendApart_iff {n : Nat} {found values : List (Value H)} :
    extendApart f n found c = .ok values c' ↔ ∃ slots : List (Slot H), slots.length = n ∧
      f.Draws c (slots.flatMap Slot.draws) c' ∧
      Slot.Each (Slot.Fills · · (f.attempts c.settings)) found slots ∧
      values = found ++ slots.map Slot.taken := by
  induction n generalizing found c with
  | zero =>
    constructor
    · intro h
      obtain ⟨rfl, rfl⟩ := Effect.pure_eq_ok.1 h
      exact ⟨[], rfl, .nil c, Slot.each_nil, by simp⟩
    · rintro ⟨slots, hn, hdraws, -, rfl⟩
      cases List.length_eq_zero_iff.1 hn
      cases hdraws
      exact Effect.pure_eq_ok.2 ⟨by simp, rfl⟩
  | succ n ih =>
    -- The attempts stay the same from slot to slot, since draws keep the settings.
    have hsettings : ∀ {v c₁}, Run.createDistinct f found c = .ok v c₁ →
        c₁.settings = c.settings := fun h =>
      congrArg (·.1) ((Run.createDistinct_keeps f found).of_ok h)
    constructor
    · intro h
      obtain ⟨v, c₁, hv, h⟩ := Effect.bind_eq_ok.1 h
      obtain ⟨s, hdraws, rfl, hfills⟩ := Run.createDistinct_eq_ok.1 hv
      obtain ⟨slots, rfl, hrest, horder, rfl⟩ := ih.1 h
      rw [hsettings hv] at horder
      refine ⟨s :: slots, rfl, ?_, Slot.each_cons.2 ⟨hfills, horder⟩, by simp⟩
      exact Factory.draws_append.2 ⟨c₁, hdraws, hrest⟩
    · rintro ⟨slots, hn, hdraws, horder, rfl⟩
      cases slots with
      | nil => cases hn
      | cons s slots =>
        obtain ⟨c₁, hs, hrest⟩ := Factory.draws_append.1 hdraws
        obtain ⟨hfills, horder⟩ := Slot.each_cons.1 horder
        have hv := Run.createDistinct_eq_ok.2 ⟨s, hs, rfl, hfills⟩
        rw [← hsettings hv] at horder
        refine Effect.bind_eq_ok.2 ⟨s.taken, c₁, hv, ih.2 ⟨slots, ?_, hrest, horder, by simp⟩⟩
        exact Nat.succ.inj hn

/-- How a list of candidates comes about: the factory of the property, the two fixed values, and
the slots of the random ones.  Null takes the last slot, or a place of its own. -/
structure Chosen (d : Draft H) (n : String) (null : Bool) (c : Context H)
    (values : List (Value H)) (c' : Context H) (f : Factory H) (primary secondary : Value H)
    (slots : List (Slot H)) : Prop where
  factory : d.factory n c = .ok f c
  draws : ∃ c₁ c₂, Run.create f .primary c = .ok primary c₁ ∧
    Run.create f .secondary c₁ = .ok secondary c₂ ∧ f.Draws c₂ (slots.flatMap Slot.draws) c'
  count : slots.length = c.settings.randomCandidates
  order : Slot.Each (Slot.Fills · · (f.attempts c.settings)) [primary, secondary] slots
  values : values = primary :: secondary ::
    if null then (slots.map Slot.taken).dropLast ++ [none] else slots.map Slot.taken

theorem withNull_eq (a b : Value H) (randoms : List (Value H)) :
    withNull randoms.length (a :: b :: randoms) = a :: b :: (randoms.dropLast ++ [none]) := by
  unfold withNull
  by_cases hr : randoms = []
  · simp [hr]
  · simp [hr, List.dropLast_cons_of_ne_nil]

theorem withNull_slots (a b : Value H) {slots : List (Slot H)} {r : Nat} (hr : slots.length = r)
    (null : Bool) :
    (if null then withNull r (a :: b :: slots.map Slot.taken)
      else a :: b :: slots.map Slot.taken) =
      a :: b :: if null then (slots.map Slot.taken).dropLast ++ [none]
        else slots.map Slot.taken := by
  cases null with
  | false => rfl
  | true =>
    have hlength : (slots.map Slot.taken).length = r := by rw [List.length_map, hr]
    rw [if_pos rfl, if_pos rfl, ← hlength]
    exact withNull_eq a b _

/-- The two fixed values are drawn under the settings of the random ones. -/
theorem settings_of_fixed {a b : Value H} {c₁ c₂ : Context H}
    (ha : Run.create f .primary c = .ok a c₁) (hb : Run.create f .secondary c₁ = .ok b c₂) :
    c₂.settings = c.settings :=
  congrArg (·.1) (((Run.create_keeps f .secondary).of_ok hb).trans
    ((Run.create_keeps f .primary).of_ok ha))

theorem chosen_iff {d : Draft H} {n : String} {null : Bool} {values : List (Value H)} :
    d.candidates n null c = .ok values c' ↔
      ∃ f primary secondary slots, d.Chosen n null c values c' f primary secondary slots := by
  constructor
  · intro h
    obtain ⟨f, c₀, hf, hdraws⟩ := Effect.bind_eq_ok.1 h
    obtain ⟨rfl, -⟩ := factory_eq_ok.1 hf
    obtain ⟨a, c₁, ha, hdraws⟩ := Effect.bind_eq_ok.1 hdraws
    obtain ⟨b, c₂, hb, hdraws⟩ := Effect.bind_eq_ok.1 hdraws
    obtain ⟨c₃, c₄, hget, hrandoms⟩ := Effect.bind_eq_ok.1 hdraws
    obtain ⟨rfl, rfl⟩ := Effect.get_eq_ok.1 hget
    obtain ⟨found, c₅, hfound, hend⟩ := Effect.bind_eq_ok.1 hrandoms
    obtain ⟨rfl, rfl⟩ := Effect.pure_eq_ok.1 hend
    obtain ⟨slots, hcount, hslots, horder, rfl⟩ := extendApart_iff.1 hfound
    rw [settings_of_fixed ha hb] at hcount horder
    refine ⟨f, a, b, slots, hf, ⟨c₁, c₂, ha, hb, hslots⟩, hcount, horder, ?_⟩
    rw [settings_of_fixed ha hb]
    exact withNull_slots a b hcount null
  · rintro ⟨f, a, b, slots, hf, ⟨c₁, c₂, ha, hb, hdraws⟩, hcount, horder, rfl⟩
    rw [← settings_of_fixed ha hb] at hcount horder
    have hfound := extendApart_iff.2 ⟨slots, hcount, hdraws, horder, rfl⟩
    refine Effect.bind_eq_ok.2 ⟨f, c, hf, Effect.bind_eq_ok.2 ⟨a, c₁, ha, ?_⟩⟩
    refine Effect.bind_eq_ok.2 ⟨b, c₂, hb, Effect.bind_eq_ok.2 ⟨c₂, c₂, rfl, ?_⟩⟩
    exact Effect.bind_eq_ok.2
      ⟨_, c', hfound, Effect.pure_eq_ok.2 ⟨withNull_slots a b hcount null, rfl⟩⟩

section

variable {d : Draft H} {n : String} {null : Bool} {values : List (Value H)}
  {primary secondary : Value H} {slots : List (Slot H)}

/-- Of two values that were drawn for a property, the later one is apart from the earlier one if
it is random and its slot was not exhausted. -/
theorem apart_of_order {attempts : Nat}
    (horder : Slot.Each (Slot.Fills · · attempts) [primary, secondary] slots)
    (hslots : Slot.Each (¬Slot.Exhausted · · attempts) [primary, secondary] slots)
    {i j : Nat} {u v : Value H} (hij : i < j) (hj : 2 ≤ j)
    (hu : (primary :: secondary :: slots.map Slot.taken)[i]? = some u)
    (hv : (primary :: secondary :: slots.map Slot.taken)[j]? = some v) : u.same v = false := by
  obtain ⟨k, rfl⟩ := Nat.exists_eq_add_of_le' hj
  rw [List.getElem?_cons_succ, List.getElem?_cons_succ, List.getElem?_map] at hv
  obtain ⟨s, hs, rfl⟩ := Option.map_eq_some_iff.1 hv
  obtain ⟨hk, rfl⟩ := List.getElem?_eq_some_iff.1 hs
  have hsplit : slots = slots.take k ++ slots[k] :: slots.drop (k + 1) := by simp
  have hnew := (horder _ _ _ hsplit).not_repeats (hslots _ _ _ hsplit)
  -- The earlier value is one of those that the slot was filled after.
  have hmem : u ∈ [primary, secondary] ++ (slots.take k).map Slot.taken := by
    have htake : (primary :: secondary :: slots.map Slot.taken).take (k + 2) =
        [primary, secondary] ++ (slots.take k).map Slot.taken := by
      simp [List.map_take]
    rw [← htake]
    refine List.mem_of_getElem? (i := i) ?_
    rw [List.getElem?_take_of_lt hij, hu]
  exact Bool.eq_false_iff.2 fun hsame => hnew ⟨u, hmem, hsame⟩

/-- Null takes a place behind all that is kept of the values that were drawn. -/
theorem Chosen.getElem? {c c' : Context H} {f : Factory H}
    (h : d.Chosen n null c values c' f primary secondary slots) {j : Nat} {v : Value H}
    (hv : values[j]? = some v) (hne : v ≠ none) {i : Nat} (hij : i ≤ j) :
    values[i]? = (primary :: secondary :: slots.map Slot.taken)[i]? := by
  have hvalues := h.values
  cases null with
  | false => rw [hvalues, if_neg Bool.false_ne_true]
  | true =>
    let kept := primary :: secondary :: (slots.map Slot.taken).dropLast
    have hkept : values = kept ++ [none] := by rw [hvalues, if_pos rfl]; rfl
    obtain ⟨rest, hdrawn⟩ : kept <+: primary :: secondary :: slots.map Slot.taken := by
      simpa [kept] using List.dropLast_prefix (slots.map Slot.taken)
    have hj : j < kept.length := by
      by_contra hj
      rw [hkept, List.getElem?_append_right (Nat.le_of_not_lt hj), List.getElem?_singleton] at hv
      split at hv
      · exact hne (Option.some.inj hv).symm
      · cases hv
    have hi : i < kept.length := Nat.lt_of_le_of_lt hij hj
    rw [hkept, ← hdrawn, List.getElem?_append_left hi, List.getElem?_append_left hi]

end

/-- A list of candidates is chosen by filling slots one after the other, and nothing is drawn
beyond the values of the slots.  A random candidate whose slot was not exhausted is apart from
all candidates before it. -/
theorem candidates_fill_slots (d : Draft H) (n : String) (null : Bool) (c c' : Context H)
    (values : List (Value H)) :
    (d.candidates n null c = .ok values c' ↔
      ∃ f primary secondary slots, d.Chosen n null c values c' f primary secondary slots) ∧
    ∀ f primary secondary slots, d.Chosen n null c values c' f primary secondary slots →
      Slot.Each (¬Slot.Exhausted · · (f.attempts c.settings)) [primary, secondary] slots →
      ∀ i j u v, i < j → 2 ≤ j → values[i]? = some u → values[j]? = some v → v ≠ none →
        u.same v = false := by
  refine ⟨chosen_iff, fun f primary secondary slots h hslots i j u v hij hj hu hv hne => ?_⟩
  rw [h.getElem? hv hne (Nat.le_of_lt hij)] at hu
  rw [h.getElem? hv hne (Nat.le_refl j)] at hv
  exact apart_of_order h.order hslots hij hj hu hv

end Draft

/-! ## A dispenser of tickets -/

namespace Ticket

def host : Host where
  Object := Unit
  World := Nat
  same _ _ := true
  digest _ := []
  show? _ := .ok "Ticket"

def number (n : Nat) : Value host := some (.int (.signed 32) n)

def tickets : Factory host where
  type := .int (.signed 32)
  primary := .done (number 1)
  secondary := .done (number 2)
  random := .world fun (given : Nat) => .setWorld (given + 1 : Nat) (.done (number (given / 2)))

def blueprint : Blueprint host where
  name := "Ticket"
  path := "Ticket"
  creator := ⟨[{ name := "number", type := .int (.signed 32) }]⟩
  bean := ⟨[]⟩
  construct _ := pure ()
  builderText := none

def context : Context host :=
  .start { Settings.standard with randomCandidates := 2 } (Registry.empty.register tickets) 0
    (0 : Nat)

/-- The first random ticket is new.  The second slot passes over five tickets that were seen
before. -/
def slots : List (Slot host) :=
  [⟨[], number 0⟩, ⟨[number 0, number 1, number 1, number 2, number 2], number 3⟩]

/-- Null takes the place of the second random ticket, and the one that stays is apart from the two
fixed ones. -/
theorem candidates_fill_slots_ticket :
    ∃ c', (Draft.ofBlueprint blueprint).candidates "number" true context =
        .ok [number 1, number 2, number 0, none] c' ∧
      (Draft.ofBlueprint blueprint).Chosen "number" true context
        [number 1, number 2, number 0, none] c' tickets (number 1) (number 2) slots ∧
      (number 1).same (number 0) = false ∧ (number 2).same (number 0) = false := by
  obtain ⟨c', hdraws⟩ : ∃ c' c₁ c₂, Run.create tickets .primary context = .ok (number 1) c₁ ∧
      Run.create tickets .secondary c₁ = .ok (number 2) c₂ ∧
      tickets.Draws c₂ (slots.flatMap Slot.draws) c' :=
    ⟨_, _, _, rfl, rfl, .cons rfl <| .cons rfl <| .cons rfl <| .cons rfl <| .cons rfl <|
      .cons rfl <| .cons rfl <| .nil _⟩
  have horder : Slot.Each (Slot.Fills · · (tickets.attempts context.settings))
      [number 1, number 2] slots := by
    refine Slot.each_cons.2 ⟨⟨nofun, by decide, by decide⟩, Slot.each_cons.2 ⟨?_, Slot.each_nil⟩⟩
    exact ⟨by decide, by decide, by decide⟩
  have hchosen : (Draft.ofBlueprint blueprint).Chosen "number" true context
      [number 1, number 2, number 0, none] c' tickets (number 1) (number 2) slots :=
    ⟨rfl, hdraws, rfl, horder, rfl⟩
  have hslots : Slot.Each (¬Slot.Exhausted · · (tickets.attempts context.settings))
      [number 1, number 2] slots :=
    Slot.each_cons.2 ⟨fun h => absurd h.1 (by decide),
      Slot.each_cons.2 ⟨fun h => absurd h.1 (by decide), Slot.each_nil⟩⟩
  obtain ⟨hcandidates, hapart⟩ := Draft.candidates_fill_slots (.ofBlueprint blueprint) "number"
    true context c' [number 1, number 2, number 0, none]
  have hapart' := hapart _ _ _ _ hchosen hslots
  exact ⟨c', hcandidates.2 ⟨_, _, _, _, hchosen⟩, hchosen,
    hapart' 0 2 _ _ (by decide) (by decide) rfl rfl nofun,
    hapart' 1 2 _ _ (by decide) (by decide) rfl rfl nofun⟩

end Ticket
end BeanContract
