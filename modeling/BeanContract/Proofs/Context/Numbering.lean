/-
Structures and their numbers.

A call from outside that finds a factory begins a structure, whatever becomes of it, and the
numbers given out while it runs are 1, 2, 3 and so on, over all levels of nested creations in the
order in which they are asked for.  A nested creation begins no structure and goes on with the
numbers (`numbers_of_calls`).  A call that finds no factory fails before anything is begun, and
leaves the count of structures as it was (`structures_of_idle_calls`); so does one that panics since
the depth limit overflows.

One invariant carries this through a structure (`Numbered`): the numbers written down so far are
those from the first one up to the last one given out.
-/
import BeanContract.Proofs.Context.Journal
import BeanContract.Proofs.Context.Replay

namespace BeanContract

open Effect (after)
open Journaled (Holds)

variable {H : Host} {α : Type}

/-! ## Within a structure -/

/-- The context is `k` levels above depth `depth`, in the structure numbered `structures`, and the
journal has the numbers after `start` up to the last one given out. -/
structure Numbered (settings : Settings) (depth structures start k : Nat) (past : List (Entry H))
    (c : Context H) : Prop where
  settings : c.settings = settings
  depth : c.depth = depth + k
  structures : c.structures = structures
  le : start ≤ c.sequence
  numbers : Entry.numbers past = List.range' (start + 1) (c.sequence - start)

namespace Numbered

variable {settings : Settings} {depth structures start k : Nat} {past : List (Entry H)}
  {c : Context H}

/-- What does not touch the account of creations does not touch the numbering. -/
theorem congr (h : Numbered settings depth structures start k past c) {c' : Context H}
    {past' : List (Entry H)} (hsettings : c'.settings = c.settings) (hdepth : c'.depth = c.depth)
    (hstructures : c'.structures = c.structures) (hsequence : c'.sequence = c.sequence)
    (hnumbers : Entry.numbers past' = Entry.numbers past) :
    Numbered settings depth structures start k past' c' :=
  ⟨hsettings.trans h.settings, hdepth.trans h.depth, hstructures.trans h.structures,
    hsequence ▸ h.le, by rw [hnumbers, hsequence, h.numbers]⟩

theorem next (h : Numbered settings depth structures start k past c) :
    Numbered settings depth structures start k (past ++ [.number (c.sequence + 1)])
      { c with sequence := c.sequence + 1 } := by
  refine ⟨h.settings, h.depth, h.structures, Nat.le_succ_of_le h.le, ?_⟩
  have hlength : c.sequence + 1 - start = c.sequence - start + 1 := by have := h.le; omega
  have hlast : start + 1 + 1 * (c.sequence - start) = c.sequence + 1 := by have := h.le; omega
  have happend : Entry.numbers (past ++ [.number (c.sequence + 1)]) =
      Entry.numbers past ++ [c.sequence + 1] := List.filterMap_append
  rw [happend, h.numbers]
  show _ = List.range' (start + 1) (c.sequence + 1 - start)
  rw [hlength, List.range'_concat, hlast]

/-- Above depth 0 a creation begins no structure. -/
theorem enter (h : Numbered settings (depth + 1) structures start k past c) :
    Numbered settings (depth + 1) structures start (k + 1) past c.enter := by
  have hdepth : c.depth ≠ 0 := by have := h.depth; omega
  have hsequence : c.enter.sequence = c.sequence := by simp [Context.enter, hdepth]
  refine ⟨h.settings, ?_, ?_, hsequence ▸ h.le, by rw [hsequence, h.numbers]⟩
  · show c.depth + 1 = depth + 1 + (k + 1)
    rw [h.depth]
    omega
  · simp [Context.enter, hdepth, h.structures]

theorem leave (h : Numbered settings depth structures start (k + 1) past c) :
    Numbered settings depth structures start k past c.leave := by
  refine ⟨h.settings, ?_, h.structures, h.le, h.numbers⟩
  show c.depth - 1 = depth + k
  rw [h.depth]
  omega

theorem regime (settings : Settings) (depth structures start : Nat) :
    Regime (H := H) (settings.depthLimit - (depth + 1)) (fun _ => True) (fun _ _ => True)
      (fun _ => True) (fun _ => True) (Numbered settings (depth + 1) structures start) where
  engine _ h := h.congr rfl rfl rfl rfl rfl
  world _ h := h.congr rfl rfl rfl rfl rfl
  number h := h.next
  draft h _ := h.congr rfl rfl rfl rfl (by simp [Entry.numbers, Entry.number?])
  enter h := h.enter
  leave h := h.leave
  take h _ := ⟨h.congr rfl rfl rfl rfl rfl, trivial⟩
  giveBack h _ := h.congr rfl rfl rfl rfl rfl
  levels h := by rw [h.settings, h.depth, Nat.sub_sub]
  lookUp _ _ := trivial
  own _ _ _ := ⟨trivial, fun _ _ _ _ _ => trivial⟩
  null _ := trivial
  describes _ _ := Program.describes_of_forall (fun _ => trivial) _
  gives _ _ _ := trivial

end Numbered

/-- From the first context to the second one the numbers in the journal were given out, in one
structure and without leaving the level. -/
structure Context.Counts (c : Context H) (numbers : List Nat) (c' : Context H) : Prop where
  depth : c'.depth = c.depth
  structures : c'.structures = c.structures
  numbers : ∃ k, c'.sequence = c.sequence + k ∧ numbers = List.range' (c.sequence + 1) k

namespace Journaled

/-- Above depth 0, what keeps up the numbering counts on. -/
theorem counts_of_holds {c : Context H} {x : JournaledRun H α} {Q : α → Prop}
    (hdepth : 0 < c.depth)
    (h : Holds (Numbered c.settings (c.depth - 1 + 1) c.structures c.sequence 0) Q x) :
    c.Counts (Entry.numbers (x.journal c)) (after (x.run c)) := by
  have hstart : Numbered c.settings (c.depth - 1 + 1) c.structures c.sequence 0 [] c :=
    ⟨rfl, by omega, rfl, Nat.le_refl _, by simp [Entry.numbers]⟩
  have hend : Numbered c.settings (c.depth - 1 + 1) c.structures c.sequence 0 (x.journal c)
      (after (x.run c)) := by
    have hx := h [] c hstart
    rw [List.nil_append] at hx
    exact Effect.Meets.after (hx.mono (fun _ _ ha => ha.1) fun _ _ he => he)
  refine ⟨by rw [hend.depth]; omega, hend.structures, _, ?_, hend.numbers⟩
  have := hend.le
  omega

/-- A nested creation begins no structure, and goes on with the numbers. -/
theorem counts_create (f : Factory H) (channel : Channel) {c : Context H} (hdepth : 0 < c.depth) :
    c.Counts (Entry.numbers ((create f channel).journal c)) (after (Run.create f channel c)) := by
  have hcounts := counts_of_holds (x := create f channel) hdepth
    ((Numbered.regime _ _ _ _).create trivial channel)
  rwa [run_create] at hcounts

/-- A creation from outside is the run of its program in a new structure. -/
theorem create_outside (f : Factory H) (channel : Channel) {c : Context H} (hdepth : c.depth = 0)
    {levels : Nat} (hlimit : c.settings.depthLimit = levels + 1) :
    (create f channel).journal c =
        (program (createWithin levels) (f.source channel)).journal c.enter ∧
      after (Run.create f channel c) =
        (after ((program (createWithin levels) (f.source channel)).run c.enter)).leave := by
  have hlevels : c.settings.depthLimit - c.depth = levels + 1 := by omega
  have hgranted : c.atDepthLimit = false := Run.atDepthLimit_eq_false.2 (by omega)
  have hwithin : createWithin (c.settings.depthLimit - c.depth) f channel =
      createWithin (levels + 1) f channel := by rw [hlevels]
  have hinside : (if c.atDepthLimit then quiet (Run.refuse f)
      else inside (program (createWithin levels) (f.source channel)) : JournaledRun H _) =
      inside (program (createWithin levels) (f.source channel)) := by
    rw [if_neg (by simp [hgranted])]
  have hjournal : (create f channel).journal c =
      (inside (program (createWithin levels) (f.source channel))).journal c := by
    show (createWithin (c.settings.depthLimit - c.depth) f channel).journal c = _
    rw [hwithin, ← hinside]
    rfl
  refine ⟨hjournal, ?_⟩
  rw [← run_create]
  show after ((createWithin (c.settings.depthLimit - c.depth) f channel).run c) = _
  have hrun : (createWithin (levels + 1) f channel).run c =
      (inside (program (createWithin levels) (f.source channel))).run c := by
    rw [← hinside]
    rfl
  rw [hwithin, hrun]
  show after (Effect.finish _ Context.leave c.enter) = _
  unfold Effect.finish
  cases (program (createWithin levels) (f.source channel)).run c.enter with
  | ok a c' => rfl
  | error e c' => rfl

/-- A creation from outside begins one structure, however it ends, and gives out numbers from 1
on. -/
theorem create_begins (f : Factory H) (channel : Channel) {c : Context H} (hdepth : c.depth = 0)
    (hword : c.settings.structuralDepth.toNat + 8 < 2 ^ 64) :
    (after (Run.create f channel c)).depth = 0 ∧
      (after (Run.create f channel c)).structures = c.structures + 1 ∧
      ∃ k, Entry.numbers ((create f channel).journal c) = List.range' 1 k := by
  obtain ⟨levels, hlevels⟩ : ∃ levels, c.settings.depthLimit = levels + 1 :=
    ⟨_, Settings.depthLimit_eq hword⟩
  obtain ⟨hjournal, hafter⟩ := create_outside f channel hdepth hlevels
  have hentered : c.enter.depth = 1 := by simp [Context.enter, hdepth]
  have hprogram : Holds (Numbered c.enter.settings (c.enter.depth - 1 + 1) c.enter.structures
      c.enter.sequence 0) (fun _ => True) (program (createWithin levels) (f.source channel)) := by
    have regime := Numbered.regime (H := H) c.enter.settings (c.enter.depth - 1)
      c.enter.structures c.enter.sequence
    have hnested : levels = c.enter.settings.depthLimit - (c.enter.depth - 1 + 1) - 0 := by
      show levels = c.settings.depthLimit - (c.enter.depth - 1 + 1) - 0
      omega
    exact regime.program (fun g ch _ => regime.createWithin hnested trivial ch)
      (Program.describes_of_forall (fun _ => trivial) _)
  have hcounts := counts_of_holds (by omega) hprogram
  obtain ⟨k, -, hnumbers⟩ := hcounts.numbers
  rw [hjournal, hafter]
  refine ⟨?_, ?_, k, ?_⟩
  · show (after _ : Context H).depth - 1 = 0
    rw [hcounts.depth, hentered]
  · show (after _ : Context H).structures = _
    rw [hcounts.structures]
    simp [Context.enter, hdepth]
  · rw [hnumbers]
    simp [Context.enter, hdepth]

end Journaled

/-! ## Calls from outside -/

namespace Call

def factory? (r : Registry H) : Call H → Except Failure (Factory H)
  | ofType t _ => r.get t
  | ofProperty owner n t _ => r.forProperty owner n t
  | ofFactory f _ => .ok f

def channel : Call H → Channel
  | ofType _ channel => channel
  | ofProperty _ _ _ channel => channel
  | ofFactory _ channel => channel

def journaled (q : Call H) : JournaledRun H (Value H) := do
  let c ← Journaled.quiet get
  let f ← Journaled.quiet (Run.ofResult (q.factory? c.registry))
  Journaled.create f q.channel

variable {q : Call H} {c : Context H}

theorem run_eq (q : Call H) (c : Context H) :
    q.run c = (Run.ofResult (q.factory? c.registry) >>= fun f => Run.create f q.channel) c := by
  cases q with
  | ofType t channel => rfl
  | ofProperty owner n t channel => rfl
  | ofFactory f channel => rfl

/-- The journal is kept beside the call, which it does not change. -/
theorem run_journaled (q : Call H) : q.journaled.run = q.run := by
  funext c
  rw [run_eq]
  show (Run.ofResult (q.factory? c.registry) >>= fun f => (Journaled.create f q.channel).run) c = _
  simp only [Journaled.run_create]

theorem journal_eq (q : Call H) (c : Context H) : q.journaled.journal c =
    (Journaled.quiet (Run.ofResult (q.factory? c.registry)) >>= fun f =>
      Journaled.create f q.channel : JournaledRun H (Value H)).journal c := rfl

/-- A call that finds a factory is a creation with it. -/
theorem run_of_found {f : Factory H} (h : q.factory? c.registry = .ok f) :
    q.run c = Run.create f q.channel c ∧
      q.journaled.journal c = (Journaled.create f q.channel).journal c := by
  rw [run_eq, journal_eq, h]
  exact ⟨rfl, rfl⟩

/-- A call that finds none fails and changes nothing. -/
theorem run_of_unknown {e : Failure} (h : q.factory? c.registry = .error e) :
    q.run c = .error (.failure e) c ∧ q.journaled.journal c = [] := by
  rw [run_eq, journal_eq, h]
  exact ⟨rfl, rfl⟩

theorem run_keeps (q : Call H) : Effect.Keeps Context.setup q.run := by
  intro c
  cases h : q.factory? c.registry with
  | ok f =>
    rw [(run_of_found h).1]
    exact Run.create_keeps f q.channel c
  | error e =>
    rw [(run_of_unknown h).1]
    rfl

/-- Calls and the contexts in which they are made, one after the other. -/
def turns : List (Call H) → Context H → List (Call H × Context H)
  | [], _ => []
  | q :: qs, c => (q, c) :: turns qs (after (q.run c))

theorem setup_of_turn {calls : List (Call H)} {c c' : Context H}
    (h : (q, c') ∈ turns calls c) : c'.setup = c.setup := by
  induction calls generalizing c with
  | nil => cases h
  | cons p calls ih =>
    rcases List.mem_cons.1 h with heq | h
    · cases heq
      rfl
    · exact (ih h).trans (run_keeps p c)

end Call

section

variable {q : Call H} {c : Context H} (hdepth : c.depth = 0)
  (hword : c.settings.structuralDepth.toNat + 8 < 2 ^ 64)
include hdepth hword

/-- A call from outside begins a structure if it finds a factory. -/
theorem Call.begins (q : Call H) : (after (q.run c)).depth = 0 ∧
    (after (q.run c)).structures =
      c.structures + (if (q.factory? c.registry).toOption.isSome then 1 else 0) ∧
    ∃ k, Entry.numbers (q.journaled.journal c) = List.range' 1 k := by
  cases h : q.factory? c.registry with
  | ok f =>
    obtain ⟨hrun, hjournal⟩ := Call.run_of_found h
    rw [hrun, hjournal]
    exact Journaled.create_begins f q.channel hdepth hword
  | error e =>
    obtain ⟨hrun, hjournal⟩ := Call.run_of_unknown h
    rw [hrun, hjournal]
    exact ⟨hdepth, rfl, 0, rfl⟩

/-- All calls are replied to, and those that find factories are counted. -/
theorem Run.structures_of_replies (calls : List (Call H)) :
    ∃ replies c', replies.length = calls.length ∧ Run.replies calls c = .ok replies c' ∧
      c'.structures = c.structures +
        calls.countP fun q => (q.factory? c.registry).toOption.isSome := by
  induction calls generalizing c with
  | nil => exact ⟨[], c, rfl, rfl, rfl⟩
  | cons q calls ih =>
    have hsetup := Call.run_keeps q c
    have hregistry : (after (q.run c)).registry = c.registry := congrArg (·.2.1) hsetup
    have hsettings : (after (q.run c)).settings = c.settings := congrArg (·.1) hsetup
    obtain ⟨hdepth', hstructures, -⟩ := Call.begins hdepth hword q
    obtain ⟨replies, c', hlength, hreplies, hcount⟩ := ih hdepth' (hsettings ▸ hword)
    obtain ⟨reply, hreply⟩ : ∃ reply, (Effect.reify q.run : Run H (Except Halt (Value H))) c =
        .ok reply (after (q.run c)) := by
      unfold Effect.reify
      cases q.run c with
      | ok v c₁ => exact ⟨_, rfl⟩
      | error e c₁ => exact ⟨_, rfl⟩
    refine ⟨reply :: replies, c', by rw [List.length_cons, List.length_cons, hlength], ?_, ?_⟩
    · exact Effect.bind_eq_ok.2 ⟨_, _, hreply, Effect.bind_eq_ok.2 ⟨_, _, hreplies, rfl⟩⟩
    · rw [hcount, hstructures, hregistry, List.countP_cons]
      omega

/-- Calls from outside, whatever becomes of them, give out the numbers 1, 2, 3 and so on, each call
anew, and leave no level entered.  One that finds a factory begins one structure; one that finds
none fails and changes nothing.  The creations nested in them begin no structures, and go on with
the numbers where they are.  The numbers are those in the journals of the calls. -/
theorem numbers_of_calls (calls : List (Call H)) :
    (∀ q c', (q, c') ∈ Call.turns calls c →
      q.journaled.run = q.run ∧ c'.depth = 0 ∧ (after (q.run c')).depth = 0 ∧
      (∀ f, q.factory? c.registry = .ok f → (after (q.run c')).structures = c'.structures + 1) ∧
      (∀ e, q.factory? c.registry = .error e → q.run c' = .error (.failure e) c') ∧
      ∃ k, Entry.numbers (q.journaled.journal c') = List.range' 1 k) ∧
    (∃ replies c', replies.length = calls.length ∧ Run.replies calls c = .ok replies c' ∧
      c'.structures = c.structures +
        calls.countP fun q => (q.factory? c.registry).toOption.isSome) ∧
    ∀ (f : Factory H) (channel : Channel) (c' : Context H), 0 < c'.depth →
      c'.Counts (Entry.numbers ((Journaled.create f channel).journal c'))
        (after (Run.create f channel c')) := by
  refine ⟨fun q c' hturn => ?_, Run.structures_of_replies hdepth hword calls,
    fun f channel c' => Journaled.counts_create f channel⟩
  have hsetup := Call.setup_of_turn hturn
  have hregistry : c'.registry = c.registry := congrArg (·.2.1) hsetup
  have hsettings : c'.settings = c.settings := congrArg (·.1) hsetup
  have hdepth' : c'.depth = 0 := (congrArg (·.2.2.2) hsetup).trans hdepth
  obtain ⟨hleft, hstructures, hnumbers⟩ := Call.begins hdepth' (hsettings ▸ hword) q
  rw [hregistry] at hstructures
  refine ⟨q.run_journaled, hdepth', hleft, fun f hf => ?_, fun e he => ?_, hnumbers⟩
  · rw [hstructures, hf]
    rfl
  · rw [← hregistry] at he
    exact (Call.run_of_unknown he).1

end

/-! ## Texts with a unit between their numbers -/

def numberedTexts : Factory Lamp.host :=
  .ofChannel .string fun channel =>
    .sequence fun n => .create .unit channel fun _ => .sequence fun m =>
      .done (some (.string (toString n ++ toString m)))

def faultyUnits : Factory Lamp.host :=
  .ofChannel .unit fun channel => .sequence fun n =>
    match channel with
    | .random => .halt (.panic ⟨some "no unit"⟩)
    | _ => .halt (.configuration (.stated (toString n)))

def numberedContext : Context Lamp.host :=
  .start Settings.standard ((Registry.empty.register numberedTexts).register faultyUnits) 0 ()

/-- Of four calls the first one succeeds, the second one fails within a structure, the third one
panics within another one, and the last one finds no factory. -/
def mixedCalls : List (Call Lamp.host) :=
  [.ofType .string .primary, .ofType .unit .secondary, .ofType .string .random,
    .ofType .bool .primary]

/-- Three of the calls begin structures, with three numbers in the first one, one in the second
one and two in the third one. -/
theorem numbers_of_calls_mixed :
    numberedContext.depth = 0 ∧ numberedContext.settings.structuralDepth.toNat + 8 < 2 ^ 64 ∧
    (∃ replies c', Run.replies mixedCalls numberedContext = .ok replies c' ∧ c'.structures = 3) ∧
    ((Call.turns mixedCalls numberedContext).map fun turn =>
      Entry.numbers (turn.1.journaled.journal turn.2)) = [[1, 2, 3], [1], [1, 2], []] ∧
    ∀ q c', (q, c') ∈ Call.turns mixedCalls numberedContext →
      ∃ k, Entry.numbers (q.journaled.journal c') = List.range' 1 k := by
  have hword : numberedContext.settings.structuralDepth.toNat + 8 < 2 ^ 64 := by decide
  obtain ⟨hturns, ⟨replies, c', -, hreplies, hcount⟩, -⟩ :=
    numbers_of_calls (c := numberedContext) rfl hword mixedCalls
  refine ⟨rfl, hword, ⟨replies, c', hreplies, hcount⟩, by decide +kernel, fun q c' hturn => ?_⟩
  exact (hturns q c' hturn).2.2.2.2.2

/-- A call for a type that has no factory begins no structure, also where there is a depth limit;
and where there is none, a call that finds a factory does not either. -/
theorem structures_of_idle_calls :
    (¬∀ (c : Context Lamp.host) (calls : List (Call Lamp.host)), c.depth = 0 →
      c.settings.structuralDepth.toNat + 8 < 2 ^ 64 → ∀ q c', (q, c') ∈ Call.turns calls c →
        (after (q.run c')).structures = c'.structures + 1) ∧
    ¬∀ (c : Context Lamp.host) (calls : List (Call Lamp.host)), c.depth = 0 →
      ∀ q c', (q, c') ∈ Call.turns calls c → (∃ f, q.factory? c'.registry = .ok f) →
        (after (q.run c')).structures = c'.structures + 1 := by
  refine ⟨fun h => ?_, fun h => ?_⟩
  · have hraised := h Lamp.context [.ofType (.list (.int (.signed 32))) .primary] rfl (by decide)
      _ _ List.mem_cons_self
    exact absurd hraised (by decide +kernel)
  · have hraised := h (Lamp.context.setStructuralDepth 18446744073709551608)
      [.ofType .bool .primary] rfl _ _ List.mem_cons_self ⟨_, rfl⟩
    exact absurd hraised (by decide +kernel)

end BeanContract
