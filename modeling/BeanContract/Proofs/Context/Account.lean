/-
The account of nested creations.

Running a factory may ask for further creations, in contexts one level deeper (`Nested`).
Since the depth limit bounds the levels, requests do not nest forever (`nested_wellFounded`).
However a creation ends, it has left every level that it entered, and the deepest level on
record is the deepest one at which a factory ran (`create_accounts`).

What a program asks for is followed constructor by constructor (`Program.Asks`); a bean asks
for the values of its properties one after the other (`Stage.Asks`).
-/
import BeanContract.Proofs.Context.Recursion
import BeanContract.Proofs.Draft.Candidates
import Mathlib.Logic.Relation
import Mathlib.Order.Bounds.Basic

namespace BeanContract

open Relation (ReflTransGen)

variable {H : Host} {α β : Type}

structure Request (H : Host) where
  factory : Factory H
  channel : Channel
  context : Context H

/-- The creations that staging some properties from a channel asks for. -/
inductive Stage.Asks (channel : Channel) :
    List String → Draft H × Context H → Request H → Prop where
  | here {n : String} {names : List String} {d : Draft H} {c : Context H} {f : Factory H} :
      (d.blueprint.isNullable n && c.atStructuralDepth) = false → d.factory n c = .ok f c →
      Stage.Asks channel (n :: names) (d, c) ⟨f, channel, c⟩
  | later {n : String} {names : List String} {d : Draft H} {c c' : Context H} {v : Value H}
      {q : Request H} : Stage.valueFor Run.create channel false d n c = .ok v c' →
      Stage.Asks channel names (d.put n v, c') q → Stage.Asks channel (n :: names) (d, c) q

/-- The creations that a program asks for when it runs in a context. -/
inductive Program.Asks : Program H α → Context H → Request H → Prop where
  | engine {next : Random.Engine → Program H α} {c : Context H} {q : Request H} :
      (next c.engine).Asks c q → (Program.engine next).Asks c q
  | setEngine {e : Random.Engine} {next : Program H α} {c : Context H} {q : Request H} :
      next.Asks { c with engine := e } q → (Program.setEngine e next).Asks c q
  | world {next : H.World → Program H α} {c : Context H} {q : Request H} :
      (next c.world).Asks c q → (Program.world next).Asks c q
  | setWorld {w : H.World} {next : Program H α} {c : Context H} {q : Request H} :
      next.Asks { c with world := w } q → (Program.setWorld w next).Asks c q
  | sequence {next : Nat → Program H α} {c : Context H} {q : Request H} :
      (next (c.sequence + 1)).Asks { c with sequence := c.sequence + 1 } q →
      (Program.sequence next).Asks c q
  | depth {next : Nat → Program H α} {c : Context H} {q : Request H} :
      (next c.depth).Asks c q → (Program.depth next).Asks c q
  | settings {next : Settings → Program H α} {c : Context H} {q : Request H} :
      (next c.settings).Asks c q → (Program.settings next).Asks c q
  | create {t : ValueType} {channel : Channel} {next : Except Failure (Value H) → Program H α}
      {c : Context H} {f : Factory H} : c.registry.get t = .ok f →
      (Program.create t channel next).Asks c ⟨f, channel, c⟩
  | afterCreate {t : ValueType} {channel : Channel}
      {next : Except Failure (Value H) → Program H α} {c c' : Context H}
      {r : Except Failure (Value H)} {q : Request H} :
      Run.caught (Run.createBy Run.create t channel) c = .ok r c' → (next r).Asks c' q →
      (Program.create t channel next).Asks c q
  | bean {b : Blueprint H} {channel : Channel} {next : Except Failure (Value H) → Program H α}
      {c : Context H} {q : Request H} :
      Stage.Asks channel (c.pool.acquire b).1.blueprint.staged
        ((c.pool.acquire b).1, { c with pool := (c.pool.acquire b).2 }) q →
      (Program.bean b channel next).Asks c q
  | afterBean {b : Blueprint H} {channel : Channel}
      {next : Except Failure (Value H) → Program H α} {c c' : Context H}
      {r : Except Failure (Value H)} {q : Request H} :
      Run.caught (Run.buildBy Run.create b channel) c = .ok r c' → (next r).Asks c' q →
      (Program.bean b channel next).Asks c q

namespace Request

def outcome (q : Request H) : EStateM.Result Halt (Context H) (Value H) :=
  Run.create q.factory q.channel q.context

def Granted (q : Request H) : Prop := q.context.atDepthLimit = false

/-- The depth at which the factory of a granted request runs. -/
def level (q : Request H) : Nat := q.context.depth + 1

/-- Running the factory of the first request asks for the second one. -/
def Nested (q q' : Request H) : Prop :=
  q.Granted ∧ (q.factory.source q.channel).Asks q.context.enter q'

/-- A factory runs at a level while a request is answered. -/
def RunsAt (q : Request H) (n : Nat) : Prop :=
  ∃ q', ReflTransGen Nested q q' ∧ q'.Granted ∧ q'.level = n

end Request

namespace Program

variable {c : Context H} {q : Request H}

@[simp]
theorem not_done_asks {a : α} : ¬(Program.done a : Program H α).Asks c q := nofun

@[simp]
theorem not_halt_asks {h : Halt} : ¬(Program.halt h : Program H α).Asks c q := nofun

@[simp]
theorem engine_asks {next : Random.Engine → Program H α} :
    (Program.engine next).Asks c q ↔ (next c.engine).Asks c q :=
  ⟨fun | .engine h => h, .engine⟩

@[simp]
theorem setEngine_asks {e : Random.Engine} {next : Program H α} :
    (Program.setEngine e next).Asks c q ↔ next.Asks { c with engine := e } q :=
  ⟨fun | .setEngine h => h, .setEngine⟩

@[simp]
theorem world_asks {next : H.World → Program H α} :
    (Program.world next).Asks c q ↔ (next c.world).Asks c q :=
  ⟨fun | .world h => h, .world⟩

@[simp]
theorem setWorld_asks {w : H.World} {next : Program H α} :
    (Program.setWorld w next).Asks c q ↔ next.Asks { c with world := w } q :=
  ⟨fun | .setWorld h => h, .setWorld⟩

@[simp]
theorem sequence_asks {next : Nat → Program H α} : (Program.sequence next).Asks c q ↔
    (next (c.sequence + 1)).Asks { c with sequence := c.sequence + 1 } q :=
  ⟨fun | .sequence h => h, .sequence⟩

@[simp]
theorem depth_asks {next : Nat → Program H α} :
    (Program.depth next).Asks c q ↔ (next c.depth).Asks c q :=
  ⟨fun | .depth h => h, .depth⟩

@[simp]
theorem settings_asks {next : Settings → Program H α} :
    (Program.settings next).Asks c q ↔ (next c.settings).Asks c q :=
  ⟨fun | .settings h => h, .settings⟩

end Program

/-! ## Requests are made in contexts of the same setup -/

theorem Stage.Asks.setup {channel : Channel} {names : List String} {s : Draft H × Context H}
    {q : Request H} (h : Stage.Asks channel names s q) : q.context.setup = s.2.setup := by
  induction h with
  | here _ _ => rfl
  | later hv _ ih => exact ih.trans ((valueFor_keeps Run.create_keeps _ _ _ _).of_ok hv)

theorem Program.Asks.setup {p : Program H α} {c : Context H} {q : Request H} (h : p.Asks c q) :
    q.context.setup = c.setup := by
  induction h with
  | create _ => rfl
  | bean hq => exact hq.setup
  | afterCreate hr _ ih =>
    exact ih.trans ((Run.caught_keeps (Run.createBy_keeps Run.create_keeps _ _)).of_ok hr)
  | afterBean hr _ ih =>
    exact ih.trans ((Run.caught_keeps (Run.buildBy_keeps Run.create_keeps _ _)).of_ok hr)
  | _ => assumption

namespace Request

variable {q q' : Request H}

theorem Nested.settings (h : q.Nested q') : q'.context.settings = q.context.settings :=
  congrArg (·.1) h.2.setup

theorem Nested.depth (h : q.Nested q') : q'.context.depth = q.context.depth + 1 :=
  congrArg (·.2.2.2) h.2.setup

theorem settings_of_reflTransGen (h : ReflTransGen Nested q q') :
    q'.context.settings = q.context.settings := by
  induction h with
  | refl => rfl
  | tail _ hnested ih => exact hnested.settings.trans ih

/-- Requests do not nest forever, since each one is a level closer to the depth limit. -/
theorem nested_wellFounded : WellFounded fun q' q : Request H => q.Nested q' := by
  refine Subrelation.wf ?_
    (measure fun q : Request H => q.context.settings.depthLimit - q.context.depth).wf
  intro q' q h
  have hgranted := Run.atDepthLimit_eq_false.1 h.1
  show q'.context.settings.depthLimit - q'.context.depth <
    q.context.settings.depthLimit - q.context.depth
  rw [h.settings, h.depth]
  omega

theorem runsAt_iff {n : Nat} : q.RunsAt n ↔
    q.Granted ∧ (q.level = n ∨
      ∃ q', (q.factory.source q.channel).Asks q.context.enter q' ∧ q'.RunsAt n) := by
  constructor
  · rintro ⟨q', hq', hgranted, hn⟩
    rcases ReflTransGen.cases_head hq' with rfl | ⟨q₁, hnested, hrest⟩
    · exact ⟨hgranted, .inl hn⟩
    · exact ⟨hnested.1, .inr ⟨q₁, hnested.2, q', hrest, hgranted, hn⟩⟩
  · rintro ⟨hgranted, hn | ⟨q₁, hasks, q', hrest, hgranted', hn⟩⟩
    · exact ⟨q, .refl, hgranted, hn⟩
    · exact ⟨q', .head ⟨hgranted, hasks⟩ hrest, hgranted', hn⟩

end Request

/-! ## The deepest level on record -/

/-- Between the contexts the record of the deepest level grew by the levels in `levels`. -/
def Context.Records (c : Context H) (levels : Set Nat) (c' : Context H) : Prop :=
  IsGreatest (insert c.maxDepth levels) c'.maxDepth

namespace Context.Records

variable {c c₁ c₂ : Context H} {A B : Set Nat}

theorem congr (h : c.Records A c₁) (hAB : ∀ n, n ∈ A ↔ n ∈ B) : c.Records B c₁ := by
  rwa [← Set.ext hAB]

theorem of_eq (h : c₁.maxDepth = c.maxDepth) (hA : ∀ n, n ∉ A) : c.Records A c₁ := by
  rw [Records, h, Set.eq_empty_of_forall_notMem hA]
  exact ⟨Set.mem_insert _ _, by simp [upperBounds]⟩

theorem trans (h : c.Records A c₁) (h' : c₁.Records B c₂) : c.Records (A ∪ B) c₂ := by
  have hle : c₁.maxDepth ≤ c₂.maxDepth := h'.2 (Set.mem_insert _ _)
  constructor
  · rcases h'.1 with heq | hB
    · rw [heq]
      rcases h.1 with heq' | hA
      · exact .inl heq'
      · exact .inr (.inl hA)
    · exact .inr (.inr hB)
  · rintro n (rfl | hA | hB)
    · exact (h.2 (Set.mem_insert _ _)).trans hle
    · exact (h.2 (.inr hA)).trans hle
    · exact h'.2 (.inr hB)

end Context.Records

open Effect (Keeps after)

namespace Run

theorem after_caught (x : Run H α) (c : Context H) : after (caught x c) = after (x c) := by
  unfold caught
  rcases x c with ⟨a, c'⟩ | ⟨_ | _, c'⟩ <;> rfl

/-- The record of two steps is that of the first, and of the second if there is one. -/
theorem records_bind {x : Run H α} {k : α → Run H β} {c : Context H} {A : Set Nat}
    {B : α → Context H → Set Nat} (hx : c.Records A (after (x c)))
    (hk : ∀ a c', x c = .ok a c' → c'.Records (B a c') (after (k a c'))) :
    c.Records (A ∪ {n | ∃ a c', x c = .ok a c' ∧ n ∈ B a c'}) (after ((x >>= k) c)) := by
  show c.Records _ (after (EStateM.bind x k c))
  cases hr : x c with
  | ok a c' =>
    rw [hr] at hx
    have hkept := hx.trans (hk a c' hr)
    simp only [EStateM.bind, hr]
    exact hkept.congr fun n => by simp
  | error e c' =>
    rw [hr] at hx
    simp only [EStateM.bind, hr]
    exact hx.congr fun n => by simp

end Run

/-! ## The record of a creation -/

def Stage.setEach (create : Creator H) (channel : Channel) : List String → Stage H Unit :=
  Effect.each fun n => do
    let d ← draft
    let v ← ofRun (valueFor create channel false d n)
    change (·.put n v)

section

variable {v : Settings × Registry H × UInt64 × Nat}
  (hcreate : ∀ q : Request H, q.context.setup = v →
    q.context.Records {n | q.RunsAt n} (after q.outcome))
include hcreate

theorem Draft.draw_records (d : Draft H) (n : String) (channel : Channel) {c : Context H}
    (hc : c.setup = v) : c.Records
      {k | ∃ f, d.factory n c = .ok f c ∧ Request.RunsAt ⟨f, channel, c⟩ k}
      (after (d.draw Run.create n channel c)) := by
  have hfactory : c.Records ∅ (after (d.factory n c)) :=
    .of_eq (Keeps.bind (.ofExcept _) (fun _ => Keeps.get.bind fun _ => .ofExcept _) c) (by simp)
  refine (Run.records_bind (k := fun f => Run.create f channel)
    (B := fun f c' => {k | Request.RunsAt ⟨f, channel, c'⟩ k}) hfactory ?_).congr fun k => ?_
  · intro f c' hf
    obtain rfl := (Draft.factory_eq_ok.1 hf).1
    exact hcreate ⟨f, channel, c'⟩ hc
  · constructor
    · rintro (hk | ⟨f, c', hf, hk⟩)
      · exact absurd hk (Set.notMem_empty k)
      · obtain rfl := (Draft.factory_eq_ok.1 hf).1
        exact ⟨f, hf, hk⟩
    · rintro ⟨f, hf, hk⟩
      exact .inr ⟨f, c, hf, hk⟩

theorem Stage.valueFor_records (d : Draft H) (n : String) (channel : Channel) {c : Context H}
    (hc : c.setup = v) : c.Records
      {k | (d.blueprint.isNullable n && c.atStructuralDepth) = false ∧
        ∃ f, d.factory n c = .ok f c ∧ Request.RunsAt ⟨f, channel, c⟩ k}
      (after (valueFor Run.create channel false d n c)) := by
  rw [valueFor_eq]
  cases d.blueprint.isNullable n && c.atStructuralDepth with
  | true => exact .of_eq rfl (by simp)
  | false => exact (Draft.draw_records hcreate d n channel hc).congr fun k => by simp

namespace Stage

omit hcreate in
/-- Staging goes on after a value, with the draft that holds it. -/
theorem after_setEach_cons (create : Creator H) (channel : Channel) (n : String)
    (names : List String) (d : Draft H) (c : Context H) :
    after (setEach create channel (n :: names) (d, c)) =
      match valueFor create channel false d n c with
      | .ok v c' => after (setEach create channel names (d.put n v, c'))
      | .error _ c' => (d, c') := by
  have hone : (draft >>= fun d => ofRun (valueFor create channel false d n) >>=
      fun v => change (·.put n v) : Stage H Unit) (d, c) =
      match valueFor create channel false d n c with
      | .ok v c' => .ok () (d.put n v, c')
      | .error e c' => .error e (d, c') := by
    show EStateM.bind (ofRun (valueFor create channel false d n)) _ (d, c) = _
    cases hv : valueFor create channel false d n c with
    | ok v c' =>
      simp only [EStateM.bind, ofRun, Effect.zoom, Effect.focus, hv]
      rfl
    | error e c' => simp only [EStateM.bind, ofRun, Effect.zoom, Effect.focus, hv, id]
  show after (EStateM.bind _ (fun _ => setEach create channel names) (d, c)) = _
  unfold EStateM.bind
  rw [hone]
  cases valueFor create channel false d n c with
  | ok v c' => rfl
  | error e c' => rfl

omit hcreate in
theorem probe_keeps_maxDepth (f : Draft H → Probe H α) :
    Keeps (fun s : Draft H × Context H => s.2.maxDepth) (probe f) := by
  refine Keeps.bind (fun _ => rfl) fun d => Keeps.zoom (g := Context.maxDepth) ?_ ?_ ?_
  · intro s c
    rfl
  · intro s
    rfl
  · refine Keeps.zoom_of_put ?_ _
    intro c w
    rfl

theorem setEach_records (channel : Channel) (names : List String) (d : Draft H) {c : Context H}
    (hc : c.setup = v) : c.Records {k | ∃ q, Asks channel names (d, c) q ∧ q.RunsAt k}
      (after (setEach Run.create channel names (d, c))).2 := by
  induction names generalizing d c with
  | nil => exact .of_eq rfl (by rintro k ⟨q, hq, -⟩; cases hq)
  | cons n names ih =>
    have hvalue := valueFor_records hcreate d n channel hc
    rw [after_setEach_cons]
    cases hv : valueFor Run.create channel false d n c with
    | ok u c' =>
      rw [hv] at hvalue
      have hc' := (valueFor_keeps Run.create_keeps channel false d n).of_ok hv
      refine (hvalue.trans (ih (d.put n u) (hc'.trans hc))).congr fun k => ⟨?_, ?_⟩
      · rintro (⟨hdrawn, f, hf, hk⟩ | ⟨q, hq, hk⟩)
        · exact ⟨_, .here hdrawn hf, hk⟩
        · exact ⟨q, .later hv hq, hk⟩
      · rintro ⟨q, hq, hk⟩
        cases hq with
        | here hdrawn hf => exact .inl ⟨hdrawn, _, hf, hk⟩
        | later hv' hq =>
          cases hv.symm.trans hv'
          exact .inr ⟨q, hq, hk⟩
    | error e c' =>
      rw [hv] at hvalue
      refine hvalue.congr fun k => ⟨?_, ?_⟩
      · rintro ⟨hdrawn, f, hf, hk⟩
        exact ⟨_, .here hdrawn hf, hk⟩
      · rintro ⟨q, hq, hk⟩
        cases hq with
        | here hdrawn hf => exact ⟨hdrawn, _, hf, hk⟩
        | later hv' hq => cases hv.symm.trans hv'

end Stage

namespace Run

omit hcreate in
theorem withPooled_maxDepth (b : Blueprint H) (use : Stage H α) (c : Context H) :
    (after (withPooled b use c)).maxDepth =
      (after (use ((c.pool.acquire b).1, c.taken b))).2.maxDepth := by
  rw [withPooled_eq]
  cases use ((c.pool.acquire b).1, c.taken b) with
  | ok a s => rfl
  | error e s => rfl

theorem buildBy_records (b : Blueprint H) (channel : Channel) {c : Context H}
    (hc : c.setup = v) : c.Records
      {k | ∃ q, Stage.Asks channel (c.pool.acquire b).1.blueprint.staged
        ((c.pool.acquire b).1, { c with pool := (c.pool.acquire b).2 }) q ∧ q.RunsAt k}
      (after (buildBy create b channel c)) := by
  have hstaged := Stage.setEach_records hcreate channel (c.pool.acquire b).1.blueprint.staged
    (c.pool.acquire b).1 (c := { c with pool := (c.pool.acquire b).2 }) hc
  unfold Context.Records at hstaged ⊢
  have hall := Keeps.after_bind (x := Stage.setAll create channel false)
    (fun _ => Stage.probe_keeps_maxDepth Draft.newBean)
    ((c.pool.acquire b).1, { c with pool := (c.pool.acquire b).2 })
  have : (after (buildBy create b channel c)).maxDepth = _ :=
    (withPooled_maxDepth b _ c).trans hall
  rw [this]
  exact hstaged

theorem createBy_records (t : ValueType) (channel : Channel) {c : Context H}
    (hc : c.setup = v) : c.Records
      {k | ∃ f, c.registry.get t = .ok f ∧ Request.RunsAt ⟨f, channel, c⟩ k}
      (after (createBy create t channel c)) := by
  show c.Records _ (after (EStateM.bind (ofResult (c.registry.get t))
    (fun f => create f channel) c))
  cases hf : c.registry.get t with
  | ok f => exact (hcreate ⟨f, channel, c⟩ hc).congr fun k => by simp
  | error e => exact .of_eq rfl (by simp)

theorem program_records (p : Program H α) {c : Context H} (hc : c.setup = v) :
    c.Records {k | ∃ q, p.Asks c q ∧ q.RunsAt k} (after (program create p c)) := by
  induction p generalizing c with
  | done a => exact .of_eq rfl (by simp)
  | halt h => exact .of_eq rfl (by simp)
  | engine next ih => exact (ih c.engine hc).congr fun k => by simp
  | setEngine e next ih => exact (ih (c := { c with engine := e }) hc).congr fun k => by simp
  | world next ih => exact (ih c.world hc).congr fun k => by simp
  | setWorld w next ih => exact (ih (c := { c with world := w }) hc).congr fun k => by simp
  | sequence next ih =>
    exact (ih (c.sequence + 1) (c := { c with sequence := c.sequence + 1 }) hc).congr
      fun k => by simp
  | depth next ih => exact (ih c.depth hc).congr fun k => by simp
  | settings next ih => exact (ih c.settings hc).congr fun k => by simp
  | create t channel next ih =>
    have hnested := createBy_records hcreate t channel hc
    rw [← after_caught] at hnested
    refine (records_bind hnested fun r c' hr => ih r ?_).congr fun k => ⟨?_, ?_⟩
    · exact ((caught_keeps (createBy_keeps create_keeps t channel)).of_ok hr).trans hc
    · rintro (⟨f, hf, hk⟩ | ⟨r, c', hr, q, hq, hk⟩)
      · exact ⟨_, .create hf, hk⟩
      · exact ⟨q, .afterCreate hr hq, hk⟩
    · rintro ⟨q, hq, hk⟩
      cases hq with
      | create hf => exact .inl ⟨_, hf, hk⟩
      | afterCreate hr hq => exact .inr ⟨_, _, hr, q, hq, hk⟩
  | bean b channel next ih =>
    have hnested := buildBy_records hcreate b channel hc
    rw [← after_caught] at hnested
    refine (records_bind hnested fun r c' hr => ih r ?_).congr fun k => ⟨?_, ?_⟩
    · exact ((caught_keeps (buildBy_keeps create_keeps b channel)).of_ok hr).trans hc
    · rintro (⟨q, hq, hk⟩ | ⟨r, c', hr, q, hq, hk⟩)
      · exact ⟨q, .bean hq, hk⟩
      · exact ⟨q, .afterBean hr hq, hk⟩
    · rintro ⟨q, hq, hk⟩
      cases hq with
      | bean hq => exact .inl ⟨q, hq, hk⟩
      | afterBean hr hq => exact .inr ⟨_, _, hr, q, hq, hk⟩

end Run

end

namespace Request

variable {q q' : Request H}

theorem not_runsAt_of_refused (h : ¬q.Granted) (n : Nat) : ¬q.RunsAt n :=
  fun hn => h (runsAt_iff.1 hn).1

/-- The record of a creation: its own level, and what the levels inside it add. -/
theorem outcome_records (q : Request H) :
    q.context.Records {n | q.RunsAt n} (after q.outcome) := by
  induction hn : q.context.settings.depthLimit - q.context.depth using Nat.strong_induction_on
    generalizing q with
  | _ n ih =>
    by_cases hgranted : q.Granted
    · have hbelow := Run.atDepthLimit_eq_false.1 hgranted
      have hcreate : ∀ q' : Request H, q'.context.setup = q.context.enter.setup →
          q'.context.Records {n | q'.RunsAt n} (after q'.outcome) := by
        intro q' hq'
        have hsettings : q'.context.settings = q.context.settings := congrArg (·.1) hq'
        have hdepth : q'.context.depth = q.context.depth + 1 := congrArg (·.2.2.2) hq'
        exact ih _ (by rw [hsettings, hdepth]; omega) q' rfl
      have hprogram := Run.program_records hcreate (q.factory.source q.channel) rfl
      have henter : q.context.Records {q.level} q.context.enter := by
        show IsGreatest {q.context.maxDepth, q.level} (max q.context.maxDepth q.level)
        exact isGreatest_pair
      have hleave : (after q.outcome).maxDepth =
          (after (Run.program Run.create (q.factory.source q.channel) q.context.enter)).maxDepth := by
        rw [outcome, Run.create_of_granted hgranted, Effect.after_finish]
        rfl
      have hall : q.context.Records {n | q.RunsAt n} _ :=
        (henter.trans hprogram).congr fun n => by
          show n ∈ _ ↔ q.RunsAt n
          rw [runsAt_iff, Set.mem_union, Set.mem_singleton_iff, eq_comm]
          exact (and_iff_right hgranted).symm
      unfold Context.Records at hall ⊢
      rwa [hleave]
    · have hrefused : q.context.atDepthLimit = true := by simpa [Granted] using hgranted
      have houtcome : after q.outcome = q.context := by
        rw [outcome, Run.create_of_refused hrefused]
        rfl
      rw [houtcome]
      exact .of_eq rfl (not_runsAt_of_refused hgranted)

end Request

/-- The account of a creation with the structural depth `s`.  Its nested creations do not
nest forever.  Each of them, and the creation itself, runs its factory exactly below depth
`s + 8`, and so at levels up to `s + 8`; at depth `s + 8` it fails and changes nothing.  On
every way out the depth is what it was and the record is the greatest of the old one and the
levels at which a factory ran. -/
theorem create_accounts (q : Request H) {s : Nat}
    (hs : q.context.settings.structuralDepth.toNat = s) (hword : s + 8 < 2 ^ 64) :
    WellFounded (fun q₂ q₁ : Request H => q₁.Nested q₂) ∧
    (∀ q', ReflTransGen Request.Nested q q' →
      (q'.Granted ↔ q'.context.depth < s + 8) ∧
      (q'.Granted → q'.outcome = Effect.finish (Run.program Run.create
        (q'.factory.source q'.channel)) Context.leave q'.context.enter) ∧
      (s + 8 ≤ q'.context.depth →
        q'.outcome = .error (.configuration (.tooDeep q'.factory.type q'.context.depth))
          q'.context ∧ ∀ n, ¬q'.RunsAt n)) ∧
    (∀ n, q.RunsAt n → n ≤ s + 8) ∧
    (after q.outcome).depth = q.context.depth ∧
    IsGreatest (insert q.context.maxDepth {n | q.RunsAt n}) (after q.outcome).maxDepth := by
  have hgranted : ∀ q', ReflTransGen Request.Nested q q' →
      (q'.Granted ↔ q'.context.depth < s + 8) := by
    intro q' hq'
    rw [Request.Granted, Run.atDepthLimit_eq_false, Request.settings_of_reflTransGen hq',
      Settings.depthLimit_eq (by omega), hs]
  refine ⟨Request.nested_wellFounded, fun q' hq' => ⟨hgranted q' hq', ?_, fun hdepth => ?_⟩,
    ?_, ?_, q.outcome_records⟩
  · exact Run.create_of_granted
  · have hrefused : ¬q'.Granted := by
      rw [hgranted q' hq']
      omega
    have hlimit : q'.context.atDepthLimit = true := by simpa [Request.Granted] using hrefused
    refine ⟨?_, Request.not_runsAt_of_refused hrefused⟩
    rw [Request.outcome, Run.create_of_refused hlimit, Context.refusal_of_fits]
    rw [Request.settings_of_reflTransGen hq']
    omega
  · rintro n ⟨q', hq', hrun, rfl⟩
    have hbelow := (hgranted q' hq').1 hrun
    show q'.context.depth + 1 ≤ s + 8
    omega
  · exact congrArg (·.2.2.2) (Run.create_keeps q.factory q.channel q.context)

def endlessUnits : Factory Lamp.host :=
  .ofChannel .unit fun channel => .create .unit channel Program.ofResult

def endlessRequest : Request Lamp.host where
  factory := endlessUnits
  channel := .primary
  context := .start { Settings.standard with structuralDepth := 3 }
    (Registry.empty.register endlessUnits) 0 ()

/-- Endless units run at every level down to the limit, where their creation ends. -/
theorem create_accounts_endless : 3 + 8 < 2 ^ 64 ∧
    endlessRequest.context.settings.structuralDepth.toNat = 3 ∧
    (after endlessRequest.outcome).depth = 0 ∧ (after endlessRequest.outcome).maxDepth = 11 ∧
    IsGreatest (insert 0 {n | endlessRequest.RunsAt n}) 11 := by
  have h := create_accounts endlessRequest (s := 3) rfl (by decide)
  have hdeepest : (after endlessRequest.outcome).maxDepth = 11 := by rfl
  obtain ⟨-, -, -, hdepth, hgreatest⟩ := h
  rw [hdeepest] at hgreatest
  exact ⟨by decide, rfl, hdepth, hdeepest, hgreatest⟩

end BeanContract
