/-
What a successful check of equality proves.

The equality of beans follows their significant properties, whatever relation the host
supplies: if the check succeeds, then for each tested property and each ordered pair of
its candidates the beans built from them are unequal exactly if the property is
significant and shows the difference (`separated_of_equality`).  The property that
is being tested has its candidates staged and its value restored at the end, so that each
property is tested on the primary values of all others.
-/
import BeanContract.Proofs.Draft.Candidates
import BeanContract.Check.Equality

namespace BeanContract

variable {H : Host}

namespace Draft

/-- Whether two beans built from `v` and `w` show different values of a property: what its
getter reads or, without a getter, what was staged. -/
def Shows (d : Draft H) (n : String) (v w x y : Value H) (changed : Bool) : Prop :=
  if d.blueprint.isReadable n then
    ∃ a b, d.Reads x n a ∧ d.Reads y n b ∧ changed = !Value.same a b
  else changed = !Value.same v w

/-- Beans apart in one property at most are unequal if it changed and is significant, and
otherwise equal, with hash codes that agree if these count. -/
def Complies (hashes : Bool) (d : Draft H) (n : String) (changed : Bool) (x y : Value H) :
    Prop :=
  if changed && d.blueprint.isSignificant n then Value.same x y = false
  else Value.same x y = true ∧ (hashes = true → x.hashCode.agrees y.hashCode = true)

/-- The beans that `v` and `w` give are built, and compare as they should. -/
def Compares (hashes : Bool) (d : Draft H) (n : String) (v w : Value H) : Prop :=
  ∃ x y changed, (d.put n v).Builds x ∧ (d.put n w).Builds y ∧ d.Shows n v w x y changed ∧
    d.Complies hashes n changed x y

end Draft

namespace Check

/-! ## Comparisons -/

/-- A violation is one whatever texts are shown for it first. -/
theorem shown_fails {α : Type} {f : String → Probe H α} (hf : ∀ text, Effect.Fails (f text))
    (text : Except Panic String) : Effect.Fails (Probe.shown text >>= f) :=
  .bind_right hf _

theorem violation_fails {α : Type} (v : Violation) :
    Effect.Fails (Probe.violation v : Probe H α) :=
  .throw _

theorem twins_eq_ok {hashes : Bool} {d : Draft H} (hd : d.blueprint.Stateless)
    {w w' : H.World} {u : Unit} (h : twins hashes d w = .ok u w') :
    w' = w ∧ ∃ x, d.Builds x ∧ Value.same x x = true := by
  obtain ⟨x, w₁, hx, hrest⟩ := Effect.bind_eq_ok.1 h
  obtain ⟨rfl, -⟩ := (Draft.newBean_stateless hd).of_ok hx
  dsimp only at hrest
  by_cases hself : Value.same x x = true
  · refine ⟨?_, x, Draft.builds_of_newBean hd hx, hself⟩
    rw [if_pos hself] at hrest
    obtain ⟨y, w₂, hy, hend⟩ := Effect.bind_eq_ok.1 hrest
    obtain ⟨rfl, -⟩ := (Draft.newBean_stateless hd).of_ok hy
    split at hend
    · split at hend
      · split at hend
        · split at hend
          · exact (Effect.pure_eq_ok.1 hend).2.symm
          · exact absurd hend (shown_fails (fun _ => violation_fails _) _ _ _ _)
        · exact absurd hend (shown_fails (fun _ => (violation_fails _).bind_left _) _ _ _ _)
      · exact (Effect.pure_eq_ok.1 hend).2.symm
    · exact absurd hend (shown_fails (fun _ =>
        shown_fails (fun _ => (violation_fails _).bind_left _) _) _ _ _ _)
  · rw [if_neg hself] at hrest
    exact absurd hrest (shown_fails (fun _ => (violation_fails _).bind_left _) _ _ _ _)

theorem compare_eq_ok {hashes : Bool} {d : Draft H} {n : String} {changed : Bool}
    {x y : Value H} {w w' : H.World} {u : Unit}
    (h : compare hashes d n changed x y w = .ok u w') :
    w' = w ∧ d.Complies hashes n changed x y := by
  have hfail : ∀ v : String → String → Violation, Effect.Fails (do
      let a ← Probe.shown x.show?
      let b ← Probe.shown y.show?
      Probe.violation (v a b) : Probe H Unit) := fun v =>
    shown_fails (fun _ => shown_fails (fun _ => violation_fails _) _) _
  unfold compare at h
  unfold Draft.Complies
  by_cases hc : (changed && d.blueprint.isSignificant n) = true
  · rw [if_pos hc] at h ⊢
    by_cases hs : Value.same x y = true
    · rw [if_pos hs] at h
      exact absurd h (hfail _ _ _ _)
    · rw [if_neg hs] at h
      obtain ⟨-, rfl⟩ := Effect.pure_eq_ok.1 h
      exact ⟨rfl, by simpa using hs⟩
  · rw [if_neg hc] at h ⊢
    by_cases hs : Value.same x y = true
    · rw [if_neg (by simp [hs])] at h
      by_cases hh : (hashes && !x.hashCode.agrees y.hashCode) = true
      · rw [if_pos hh] at h
        exact absurd h (hfail _ _ _ _)
      · rw [if_neg hh] at h
        obtain ⟨-, rfl⟩ := Effect.pure_eq_ok.1 h
        exact ⟨rfl, hs, fun hhashes => by simpa [hhashes] using hh⟩
    · rw [if_pos (by simpa using hs)] at h
      exact absurd h (hfail _ _ _ _)

theorem apart_eq_ok {hashes : Bool} {d : Draft H} (hd : d.blueprint.Stateless) {p : String}
    {v w : Value H} {u u' : H.World} {r : Unit}
    (h : apart hashes (d.put p v) (d.put p w) p u = .ok r u') :
    u' = u ∧ d.Compares hashes p v w := by
  have hv : (d.put p v).blueprint.Stateless := hd
  have hw : (d.put p w).blueprint.Stateless := hd
  obtain ⟨x, u₁, hx, hrest⟩ := Effect.bind_eq_ok.1 h
  obtain ⟨rfl, -⟩ := (Draft.newBean_stateless hv).of_ok hx
  obtain ⟨y, u₂, hy, hrest'⟩ := Effect.bind_eq_ok.1 hrest
  obtain ⟨rfl, -⟩ := (Draft.newBean_stateless hw).of_ok hy
  have hbuilds := And.intro (Draft.builds_of_newBean hv hx) (Draft.builds_of_newBean hw hy)
  by_cases hr : d.blueprint.isReadable p = true
  · rw [if_pos (show (d.put p v).blueprint.isReadable p = true from hr)] at hrest'
    obtain ⟨a, u₃, ha, hrest''⟩ := Effect.bind_eq_ok.1 hrest'
    obtain ⟨rfl, -⟩ := (Draft.read_stateless hv x p).of_ok ha
    obtain ⟨b, u₄, hb, hcompare⟩ := Effect.bind_eq_ok.1 hrest''
    obtain ⟨rfl, -⟩ := (Draft.read_stateless hw y p).of_ok hb
    obtain ⟨rfl, hcomplies⟩ := compare_eq_ok hcompare
    refine ⟨rfl, x, y, _, hbuilds.1, hbuilds.2, ?_, hcomplies⟩
    unfold Draft.Shows
    rw [if_pos hr]
    exact ⟨a, b, Draft.reads_of_read hv ha, Draft.reads_of_read hw hb, rfl⟩
  · rw [if_neg (show ¬ (d.put p v).blueprint.isReadable p = true from hr)] at hrest'
    obtain ⟨rfl, hcomplies⟩ := compare_eq_ok hrest'
    refine ⟨rfl, x, y, _, hbuilds.1, hbuilds.2, ?_, hcomplies⟩
    unfold Draft.Shows
    rw [if_neg hr]
    simp [Draft.get?_put, Value.sameOption]

/-! ## One property -/

/-- What the test of one property on the values of a draft has shown of its candidates. -/
structure Separated (hashes : Bool) (s : Draft H) (p : String) (values : List (Value H)) :
    Prop where
  selfEqual : ∀ v ∈ values, ∃ x, (s.put p v).Builds x ∧ Value.same x x = true
  apart : ∀ (i j : Nat) (v w : Value H), values[i]? = some v → values[j]? = some w → i ≠ j →
    s.Compares hashes p v w

/-- Each place of a list but one counts. -/
theorem sum_others {α : Type} (l : List α) (i k : Nat) :
    ((l.zipIdx k).map fun e => if i = e.2 then 0 else 1).sum =
      if k ≤ i ∧ i < k + l.length then l.length - 1 else l.length := by
  induction l generalizing k with
  | nil => simp
  | cons a l ih =>
    rw [List.zipIdx_cons, List.map_cons, List.sum_cons, ih, List.length_cons]
    by_cases hi : i = k
    · rw [if_pos hi, if_neg (by omega), if_pos (by omega)]
      omega
    · rw [if_neg hi]
      by_cases hin : k + 1 ≤ i ∧ i < k + 1 + l.length
      · rw [if_pos hin, if_pos (by omega)]
        omega
      · rw [if_neg hin, if_neg (by omega)]
        omega

theorem add_pairs (n : Nat) : n + n * (n - 1) = n ^ 2 := by
  cases n with
  | zero => rfl
  | succ n => rw [Nat.add_sub_cancel, Nat.pow_two, Nat.mul_succ, Nat.add_comm]

theorem candidatePairs_eq_ok {hashes : Bool} {d : Draft H} (hd : d.blueprint.Stateless)
    {p : String} {values : List (Value H)} {n : Nat} {u u' : H.World}
    (h : candidatePairs hashes d p values u = .ok n u') :
    u' = u ∧ (∀ (i j : Nat) (v w : Value H), values[i]? = some v → values[j]? = some w →
      i ≠ j → d.Compares hashes p v w) ∧ n = values.length * (values.length - 1) := by
  have hcell : ∀ (e f : Value H × Nat) (s t : H.World) (m : Nat), s = u →
      (if e.2 = f.2 then pure 0 else do
        apart hashes (d.put p e.1) (d.put p f.1) p
        pure 1 : Probe H Nat) s = .ok m t →
      t = u ∧ (e.2 ≠ f.2 → d.Compares hashes p e.1 f.1) ∧ m = if e.2 = f.2 then 0 else 1 := by
    rintro e f s t m rfl hm
    by_cases hef : e.2 = f.2
    · rw [if_pos hef] at hm
      obtain ⟨rfl, rfl⟩ := Effect.pure_eq_ok.1 hm
      exact ⟨rfl, fun hne => absurd hef hne, by rw [if_pos hef]⟩
    · rw [if_neg hef] at hm
      obtain ⟨_, s₁, hapart, hend⟩ := Effect.bind_eq_ok.1 hm
      obtain ⟨rfl, hc⟩ := apart_eq_ok hd hapart
      obtain ⟨rfl, rfl⟩ := Effect.pure_eq_ok.1 hend
      exact ⟨rfl, fun _ => hc, by rw [if_neg hef]⟩
  have hrow : ∀ e ∈ values.zipIdx, ∀ (s t : H.World) (m : Nat), s = u →
      Effect.tally (fun f => if e.2 = f.2 then pure 0 else do
        apart hashes (d.put p e.1) (d.put p f.1) p
        pure 1) values.zipIdx s = .ok m t →
      t = u ∧ (∀ f ∈ values.zipIdx, e.2 ≠ f.2 → d.Compares hashes p e.1 f.1) ∧
        m = values.length - 1 := by
    intro e he s t m hs hm
    obtain ⟨ht, hcompares, hsum⟩ :=
      Effect.tally_eq_ok (fun f _ s m t hs hm => hcell e f s t m hs hm) hs hm
    have hi := List.snd_lt_of_mem_zipIdx he
    rw [sum_others, if_pos (by simpa using hi)] at hsum
    exact ⟨ht, hcompares, hsum⟩
  obtain ⟨hu, hcompares, hn⟩ :=
    Effect.tally_eq_ok (fun e he s m t hs hm => hrow e he s t m hs hm) rfl h
  refine ⟨hu, fun i j v w hv hw hij => ?_, by simpa using hn⟩
  have hi := List.mk_mem_zipIdx_iff_getElem?.2 hv
  have hj := List.mk_mem_zipIdx_iff_getElem?.2 hw
  exact hcompares (v, i) hi (w, j) hj hij

/-- Comparisons depend on what is staged for other properties. -/
theorem compares_of_alikeBut {hashes : Bool} {d e : Draft H} {p : String} {v w : Value H}
    (hde : d.AlikeBut p e) (h : d.Compares hashes p v w) : e.Compares hashes p v w := by
  obtain ⟨x, y, changed, hx, hy, hshows, hcomplies⟩ := h
  have hb : d.blueprint = e.blueprint := hde.blueprint
  refine ⟨x, y, changed, (hde.put v).builds hx, (hde.put w).builds hy, ?_, ?_⟩
  · unfold Draft.Shows Draft.Reads Draft.tryRead at *
    rwa [← hb]
  · unfold Draft.Complies at *
    rwa [← hb]

theorem property_eq_ok {hashes : Bool} {s d d' : Draft H} {c c' : Context H} {p : String}
    {n : Nat} (hb : s.blueprint.Stateless) (hd : d.Alike s)
    (h : property hashes p (d, c) = .ok n (d', c')) :
    ∃ values, s.candidates p (s.blueprint.isNullable p) c = .ok values c' ∧
      Separated hashes s p values ∧ d'.Alike s ∧ n = values.length ^ 2 := by
  obtain ⟨d₀, t₀, hdraft, h⟩ := Effect.bind_eq_ok.1 h
  obtain ⟨rfl, rfl⟩ := Stage.draft_eq_ok.1 hdraft
  obtain ⟨values, ⟨d₁, c₁⟩, hvalues, hrest⟩ := Effect.bind_eq_ok.1 h
  obtain ⟨rfl, hvalues'⟩ := Stage.ofRun_eq_ok.1 hvalues
  rw [Draft.candidates_congr (.of_eq hd.blueprint), hd.blueprint] at hvalues'
  obtain ⟨m, ⟨d₂, c₂⟩, hself, hrest'⟩ := Effect.bind_eq_ok.1 hrest
  -- While candidates are staged, everything but this property stays as it is.
  have hround : ∀ v ∈ values, ∀ t k t', t.1.AlikeBut p s ∧ t.2 = c₁ →
      (do Stage.change (·.put p v); Stage.probe (twins hashes); pure 1 : Stage H Nat) t =
        .ok k t' →
      (t'.1.AlikeBut p s ∧ t'.2 = c₁) ∧
        (∃ x, (s.put p v).Builds x ∧ Value.same x x = true) ∧ k = 1 := by
    rintro v - ⟨e, c₃⟩ k t' ⟨he, rfl⟩ hk
    obtain ⟨_, t₁, hput, hk⟩ := Effect.bind_eq_ok.1 hk
    obtain rfl := Stage.change_eq_ok.1 hput
    obtain ⟨_, ⟨e', c₄⟩, htwins, hk⟩ := Effect.bind_eq_ok.1 hk
    obtain ⟨rfl, w, htwins', rfl⟩ := Stage.probe_eq_ok.1 htwins
    have heb : (e.put p v).blueprint.Stateless := by rwa [(he.put v).blueprint]
    obtain ⟨rfl, x, hx, hsame⟩ := twins_eq_ok heb htwins'
    obtain ⟨rfl, rfl⟩ := Effect.pure_eq_ok.1 hk
    exact ⟨⟨he.put_left v, rfl⟩, ⟨x, (he.put v).builds hx, hsame⟩, rfl⟩
  obtain ⟨⟨hd₂, hc₂⟩, hselves, hm⟩ :=
    Effect.tally_eq_ok hround ⟨.of_alike hd p, rfl⟩ hself
  obtain ⟨k, ⟨d₃, c₃⟩, hpairs, hrest''⟩ := Effect.bind_eq_ok.1 hrest'
  obtain ⟨rfl, w, hpairs', rfl⟩ := Stage.probe_eq_ok.1 hpairs
  have hb₂ : d₃.blueprint.Stateless := by rwa [show d₃.blueprint = s.blueprint from hd₂.blueprint]
  obtain ⟨rfl, hcompares, hk⟩ := candidatePairs_eq_ok hb₂ hpairs'
  obtain ⟨_, t₄, hrestore, hend⟩ := Effect.bind_eq_ok.1 hrest''
  obtain rfl := Stage.change_eq_ok.1 hrestore
  obtain ⟨hn, hstate⟩ := Effect.pure_eq_ok.1 hend
  cases hstate
  subst hc₂
  refine ⟨values, hvalues', ⟨hselves, fun i j v w hv hw hij => ?_⟩, ?_, ?_⟩
  · exact compares_of_alikeBut hd₂ (hcompares i j v w hv hw hij)
  · rw [hd.expected p]
    exact hd₂.restore
  · have hm' : m = values.length := by simpa using hm
    rw [← hn, hm', hk, add_pairs]

/-! ## All properties -/

def candidateLists (d : Draft H) (names : List String) : Run H (List (List (Value H))) :=
  Effect.gather (fun p => d.candidates p (d.blueprint.isNullable p)) names

theorem properties_eq_ok {hashes : Bool} {s d d' : Draft H} {c c' : Context H}
    {names : List String} {n : Nat} (hb : s.blueprint.Stateless) (hd : d.Alike s)
    (h : Effect.tally (property hashes) names (d, c) = .ok n (d', c')) :
    ∃ lists, candidateLists s names c = .ok lists c' ∧
      List.Forall₂ (Separated hashes s) names lists ∧ d'.Alike s ∧
      n = (lists.map fun values => values.length ^ 2).sum := by
  induction names generalizing d c n with
  | nil =>
    obtain ⟨rfl, hstate⟩ := Effect.pure_eq_ok.1 h
    cases hstate
    exact ⟨[], rfl, .nil, hd, rfl⟩
  | cons p names ih =>
    obtain ⟨m, ⟨d₁, c₁⟩, hp, h⟩ := Effect.bind_eq_ok.1 h
    obtain ⟨k, ⟨d₂, c₂⟩, hnames, h⟩ := Effect.bind_eq_ok.1 h
    obtain ⟨rfl, hstate⟩ := Effect.pure_eq_ok.1 h
    cases hstate
    obtain ⟨values, hvalues, hseparated, hd₁, rfl⟩ := property_eq_ok hb hd hp
    obtain ⟨lists, hlists, hall, hd₂, rfl⟩ := ih hd₁ hnames
    refine ⟨values :: lists, ?_, .cons hseparated hall, hd₂, by simp⟩
    exact Effect.bind_eq_ok.2 ⟨values, c₁, hvalues,
      Effect.bind_eq_ok.2 ⟨lists, _, hlists, rfl⟩⟩

/-- The equality of two beans, given by two values of one property, does not follow that
property. -/
inductive Unlawful (d : Draft H) (p : String) (v w x y : Value H) : Prop where
  | dropped : d.blueprint.isSignificant p = true → d.Shows p v w x y true →
      Value.same x y = true → Unlawful d p v w x y
  | watched : d.blueprint.isSignificant p = false → Value.same x y = false →
      Unlawful d p v w x y
  | asymmetric (changed : Bool) : d.Shows p v w x y changed → d.Shows p w v y x changed →
      Value.same x y ≠ Value.same y x → Unlawful d p v w x y

theorem shows_unique [Nonempty H.World] {d : Draft H} {p : String} {v w x y : Value H}
    {changed changed' : Bool} (h : d.Shows p v w x y changed) (h' : d.Shows p v w x y changed') :
    changed = changed' := by
  unfold Draft.Shows at h h'
  split at h
  · obtain ⟨a, b, ha, hb, rfl⟩ := h
    rename_i hr
    rw [if_pos hr] at h'
    obtain ⟨a', b', ha', hb', rfl⟩ := h'
    rw [Draft.Reads.unique ha ha', Draft.Reads.unique hb hb']
  · rename_i hr
    rw [if_neg hr] at h'
    rw [h, h']

/-- Where beans compare as they should in both orders, nothing is unlawful. -/
theorem not_unlawful [Nonempty H.World] {hashes : Bool} {d : Draft H} {p : String}
    {v w x y : Value H} (hx : (d.put p v).Builds x) (hy : (d.put p w).Builds y)
    (h : d.Compares hashes p v w) (h' : d.Compares hashes p w v) : ¬ Unlawful d p v w x y := by
  obtain ⟨x₁, y₁, changed, hx₁, hy₁, hshows, hcomplies⟩ := h
  obtain ⟨y₂, x₂, changed', hy₂, hx₂, hshows', hcomplies'⟩ := h'
  obtain rfl := hx.unique hx₁
  obtain rfl := hy.unique hy₁
  obtain rfl := hx.unique hx₂
  obtain rfl := hy.unique hy₂
  unfold Draft.Complies at hcomplies hcomplies'
  rintro (⟨hsig, htrue, hsame⟩ | ⟨hsig, hsame⟩ | ⟨c, hc, hc', hne⟩)
  · rw [← shows_unique htrue hshows, hsig,
      if_pos (by decide), hsame] at hcomplies
    cases hcomplies
  · rw [hsig, Bool.and_false, if_neg Bool.false_ne_true, hsame] at hcomplies
    cases hcomplies.1
  · obtain rfl := shows_unique hc hshows
    obtain rfl := shows_unique hc' hshows'
    split at hcomplies
    · rename_i hchanged
      rw [if_pos hchanged] at hcomplies'
      exact hne (hcomplies.trans hcomplies'.symm)
    · rename_i hchanged
      rw [if_neg hchanged] at hcomplies'
      exact hne (hcomplies.1.trans hcomplies'.1.symm)

/-- The lists of candidates begin with the two fixed values of their properties. -/
theorem candidateLists_fixed {d : Draft H} {names : List String} {c c' : Context H}
    {lists : List (List (Value H))} (h : candidateLists d names c = .ok lists c') :
    List.Forall₂ (fun p values => ∀ v w, d.Fixed c.registry p .primary v →
      d.Fixed c.registry p .secondary w → ∃ rest, values = v :: w :: rest) names lists := by
  have hround : ∀ p ∈ names, ∀ c₁ values c₂, c₁.registry = c.registry →
      d.candidates p (d.blueprint.isNullable p) c₁ = .ok values c₂ →
      c₂.registry = c.registry ∧ ∀ v w, d.Fixed c.registry p .primary v →
        d.Fixed c.registry p .secondary w → ∃ rest, values = v :: w :: rest := by
    intro p _ c₁ values c₂ hc₁ hvalues
    have hc₂ : c₂.registry = c₁.registry :=
      congrArg (·.2.1) ((Draft.candidates_keeps d p _).of_ok hvalues)
    refine ⟨hc₂.trans hc₁, fun v w hv hw => ?_⟩
    obtain ⟨a, b, rest, c₃, c₄, ha, hb, rfl⟩ := Draft.candidates_eq_ok hvalues
    have hc₃ : c₃.registry = c₁.registry :=
      congrArg (·.2.1) ((Draft.draw_keeps Run.create_keeps d p .primary).of_ok ha)
    rw [hv c₁ a c₃ hc₁ ha, hw c₃ b c₄ (hc₃.trans hc₁) hb]
    exact ⟨rest, rfl⟩
  exact (Effect.gather_eq_ok hround rfl h).2

/-- Every trial makes one comparison. -/
theorem equalityTrials_eq_ok {hashes : Bool} {names : List String} {trials m : Nat}
    {previous : Value H} {s t : Draft H × Context H}
    (h : equalityTrials hashes names trials previous s = .ok m t) : m = trials := by
  induction trials generalizing previous s t m with
  | zero => exact (Effect.pure_eq_ok.1 h).1.symm
  | succ trials ih =>
    obtain ⟨current, s₁, -, h⟩ := Effect.bind_eq_ok.1 h
    obtain ⟨k, s₂, hk, h⟩ := Effect.bind_eq_ok.1 h
    have hcount := (Effect.pure_eq_ok.1 h).1
    have := ih hk
    omega

theorem equality_eq_ok {d : Draft H} {c : Context H} (hb : d.blueprint.Stateless) {n : Nat}
    {t : Draft H × Context H} (h : equality (d, c) = .ok n t) :
    ∃ s c₀ lists c₁, Stage.reset Run.create (d, c) = .ok () (s, c₀) ∧
      candidateLists s d.blueprint.testable c₀ = .ok lists c₁ ∧
      List.Forall₂ (Separated c.settings.testHashCode s) d.blueprint.testable lists ∧
      n = (lists.map fun values => values.length ^ 2).sum +
        if d.blueprint.testable = [] then 0 else c.settings.trials := by
  obtain ⟨c', t₁, hcontext, h⟩ := Effect.bind_eq_ok.1 h
  obtain ⟨rfl, rfl⟩ := Stage.context_eq_ok.1 hcontext
  obtain ⟨_, ⟨s, c₀⟩, hreset, hrest⟩ := Effect.bind_eq_ok.1 h
  obtain ⟨-, hsd⟩ := Stage.reset_eq_ok hreset
  have hblueprint : s.blueprint = d.blueprint := by rw [hsd]
  obtain ⟨s', t₂, hdraft, hrest'⟩ := Effect.bind_eq_ok.1 hrest
  obtain ⟨rfl, rfl⟩ := Stage.draft_eq_ok.1 hdraft
  obtain ⟨m, ⟨d₁, c₁⟩, hproperties, htrials⟩ := Effect.bind_eq_ok.1 hrest'
  rw [hblueprint] at hproperties htrials
  obtain ⟨lists, hlists, hall, -, rfl⟩ :=
    properties_eq_ok (by rwa [hblueprint]) (.refl s') hproperties
  refine ⟨s', c₀, lists, c₁, hreset, hlists, hall, ?_⟩
  by_cases hnames : d.blueprint.testable = []
  · rw [if_pos (List.isEmpty_iff.2 hnames)] at htrials
    rw [if_pos hnames, (Effect.pure_eq_ok.1 htrials).1, Nat.add_zero]
  · rw [if_neg fun h => hnames (List.isEmpty_iff.1 h)] at htrials
    obtain ⟨_, t₃, -, htrials⟩ := Effect.bind_eq_ok.1 htrials
    obtain ⟨_, t₄, hcount, htrials⟩ := Effect.bind_eq_ok.1 htrials
    rw [if_neg hnames, ← (Effect.pure_eq_ok.1 htrials).1, equalityTrials_eq_ok hcount]

/-- If the check of equality succeeds, the candidates of every tested property have been
separated, and the result counts the comparisons and trials.  Hence it does not succeed
where the fixed values of a tested property give beans whose equality is unlawful. -/
theorem separated_of_equality (d : Draft H) (c : Context H) (hb : d.blueprint.Stateless) :
    (∀ n t, equality (d, c) = .ok n t →
      ∃ s c₀ lists c₁, Stage.reset Run.create (d, c) = .ok () (s, c₀) ∧
        candidateLists s d.blueprint.testable c₀ = .ok lists c₁ ∧
        List.Forall₂ (Separated c.settings.testHashCode s) d.blueprint.testable lists ∧
        n = (lists.map fun values => values.length ^ 2).sum +
          if d.blueprint.testable = [] then 0 else c.settings.trials) ∧
    ∀ s c₀, Stage.reset Run.create (d, c) = .ok () (s, c₀) →
      ∀ p ∈ d.blueprint.testable, ∀ v w x y,
        s.Fixed c.registry p .primary v → s.Fixed c.registry p .secondary w →
        (s.put p v).Builds x → (s.put p w).Builds y →
        Unlawful s p v w x y ∨ Unlawful s p w v y x → ∀ n t, equality (d, c) ≠ .ok n t := by
  refine ⟨fun n t h => equality_eq_ok hb h, ?_⟩
  intro s c₀ hreset p hp v w x y hv hw hx hy hunlawful n t h
  obtain ⟨s', c₀', lists, c₁, hreset', hlists, hall, -⟩ := equality_eq_ok hb h
  rw [hreset] at hreset'
  cases hreset'
  have hregistry : c₀.registry = c.registry :=
    congrArg (·.2.1) ((Stage.reset_keeps Run.create_keeps).of_ok hreset)
  have hfixed := candidateLists_fixed hlists
  rw [hregistry] at hfixed
  -- The first two candidates of the property are compared in both orders.
  obtain ⟨values, hvalues, hseparated, rest, rfl⟩ : ∃ values, values ∈ lists ∧
      Separated c.settings.testHashCode s p values ∧ ∃ rest, values = v :: w :: rest := by
    obtain ⟨i, hi, rfl⟩ := List.mem_iff_getElem.1 hp
    have hi' : i < lists.length := by rwa [← hall.length_eq]
    exact ⟨lists[i], List.getElem_mem hi', hall.get hi hi', hfixed.get hi hi' v w hv hw⟩
  have hvw := hseparated.apart 0 1 v w rfl rfl (by decide)
  have hwv := hseparated.apart 1 0 w v rfl rfl (by decide)
  have : Nonempty H.World := ⟨c.world⟩
  rcases hunlawful with hu | hu
  · exact not_unlawful hx hy hvw hwv hu
  · exact not_unlawful hy hx hwv hvw hu

def watchedLamp : Blueprint Lamp.host :=
  { Lamp.blueprint with
    bean := ⟨[
      { name := "on", type := .bool, getter := some fun o => pure (Lamp.ofSwitch o.1) },
      { name := "dim", type := .bool, flags := { significant := false },
        getter := some fun o => pure (Lamp.ofSwitch o.2),
        setter := some fun o v => pure (o.1, Lamp.toSwitch v) }]⟩ }

theorem watchedLamp_stateless : watchedLamp.Stateless where
  construct _ := .pure _
  builderText _ h := by cases h
  getter p hp get hg o := by
    obtain rfl | rfl : p = _ ∨ p = _ := by simpa [watchedLamp] using hp
    · cases hg
      exact .pure _
    · cases hg
      exact .pure _
  setter p hp set hs o v := by
    obtain rfl | rfl : p = _ ∨ p = _ := by simpa [watchedLamp] using hp
    · cases hs
    · cases hs
      exact .pure _

/-- The lamp passes with nine comparisons of each property and two trials; the lamp whose
second switch should not count is reported. -/
theorem separated_of_equality_lamps :
    (Lamp.blueprint.Stateless ∧
      ∃ t, equality (.ofBlueprint Lamp.blueprint, Lamp.context) = .ok 20 t ∧
      ∃ s c₀ lists c₁,
        Stage.reset Run.create (.ofBlueprint Lamp.blueprint, Lamp.context) = .ok () (s, c₀) ∧
        candidateLists s Lamp.blueprint.testable c₀ = .ok lists c₁ ∧
        List.Forall₂ (Separated Lamp.context.settings.testHashCode s) Lamp.blueprint.testable
          lists ∧
        20 = (lists.map fun values => values.length ^ 2).sum +
          if Lamp.blueprint.testable = [] then 0 else Lamp.context.settings.trials) ∧
    watchedLamp.Stateless ∧
      (∃ s c₀, Stage.reset Run.create (.ofBlueprint watchedLamp, Lamp.context) = .ok () (s, c₀) ∧
        ∃ v w x y, s.Fixed Lamp.context.registry "dim" .primary v ∧
          s.Fixed Lamp.context.registry "dim" .secondary w ∧ (s.put "dim" v).Builds x ∧
          (s.put "dim" w).Builds y ∧ Unlawful s "dim" v w x y) ∧
      ∀ n t, equality (.ofBlueprint watchedLamp, Lamp.context) ≠ .ok n t := by
  have hrun : Effect.result? (equality (.ofBlueprint Lamp.blueprint, Lamp.context)) =
      some 20 := by decide +kernel
  obtain ⟨t, ht⟩ := Effect.result?_eq_some.1 hrun
  obtain ⟨s, c₀, hreset, hs, ht', hx, hy⟩ : ∃ s c₀,
      Stage.reset Run.create (.ofBlueprint watchedLamp, Lamp.context) = .ok () (s, c₀) ∧
      s.blueprint = watchedLamp ∧ s.propertyType "dim" = .ok .bool ∧
      (s.put "dim" (some (.bool true))).Builds
        (some (.object "Lamp" (some true, some true))) ∧
      (s.put "dim" (some (.bool false))).Builds
        (some (.object "Lamp" (some true, some false))) :=
    ⟨_, _, rfl, rfl, rfl, fun _ => rfl, fun _ => rfl⟩
  have hfactory : Lamp.context.registry.forProperty s.type "dim" .bool =
      .ok Catalog.bools := by
    unfold Draft.type
    rw [hs]
    rfl
  have hprimary : s.Fixed Lamp.context.registry "dim" .primary (some (.bool true)) :=
    Draft.fixed_of_done ht' hfactory rfl
  have hsecondary : s.Fixed Lamp.context.registry "dim" .secondary (some (.bool false)) :=
    Draft.fixed_of_done ht' hfactory rfl
  have hunlawful : Unlawful s "dim" (some (.bool true)) (some (.bool false))
      (some (.object "Lamp" (some true, some true)))
      (some (.object "Lamp" (some true, some false))) := .watched (by rw [hs]; rfl) rfl
  refine ⟨⟨Lamp.stateless, t, ht, (separated_of_equality _ _ Lamp.stateless).1 20 t ht⟩,
    watchedLamp_stateless,
    ⟨s, c₀, hreset, _, _, _, _, hprimary, hsecondary, hx, hy, hunlawful⟩, ?_⟩
  exact (separated_of_equality _ _ watchedLamp_stateless).2 s c₀ hreset "dim" (by decide) _ _ _ _
    hprimary hsecondary hx hy (.inl hunlawful)

end Check
end BeanContract
