/-
The bean of a draft.

A bean depends on what is looked up in its draft and on nothing else (`Alike`), however
the draft came to be.  Where the code of the blueprint is stateless, a draft always
builds the same bean and a property of it always reads the same (`Builds`, `Reads`), so
that what one probe saw holds of every later one.
-/
import BeanContract.Proofs.Bean.Description
import BeanContract.Draft.Basic

namespace BeanContract

variable {H : Host} {α : Type}

/-! ## Stateless code -/

/-- The code of a blueprint is a function of its inputs: it neither reads nor changes the
state outside the objects. -/
structure Blueprint.Stateless (b : Blueprint H) : Prop where
  construct : ∀ args, Effect.Stateless (b.construct args)
  builderText : ∀ text, b.builderText = some text → ∀ args, Effect.Stateless (text args)
  getter : ∀ p ∈ b.bean.properties, ∀ get, p.getter = some get → ∀ o, Effect.Stateless (get o)
  setter : ∀ p ∈ b.bean.properties, ∀ set, p.setter = some set →
    ∀ o v, Effect.Stateless (set o v)

theorem Blueprint.Stateless.customised {b : Blueprint H} (hb : b.Stateless)
    (c : Customisation H) : (b.customised c).Stateless := by
  have hcode : ∀ p ∈ (b.customised c).bean.properties, ∃ p₀ ∈ b.bean.properties,
      p.getter = p₀.getter ∧ p.setter = p₀.setter := by
    intro p hp
    obtain ⟨p₀, hp₀, rfl⟩ := List.mem_map.1 hp
    refine ⟨p₀, hp₀, ?_⟩
    split
    · exact ⟨c.apply_getter p₀, c.apply_setter p₀⟩
    · exact ⟨rfl, rfl⟩
  refine ⟨hb.construct, hb.builderText, fun p hp get hget => ?_, fun p hp set hset => ?_⟩
  · obtain ⟨p₀, hp₀, hgetter, -⟩ := hcode p hp
    exact hb.getter p₀ hp₀ get (hgetter ▸ hget)
  · obtain ⟨p₀, hp₀, -, hsetter⟩ := hcode p hp
    exact hb.setter p₀ hp₀ set (hsetter ▸ hset)

theorem guarded_eq_ok {x : Adapter H α} {w w' : H.World} {a : α} :
    guarded x w = .ok a w' ↔ x w = .ok a w' := by
  unfold guarded
  cases x w with
  | ok b v => simp
  | error f v => simp

theorem guarded_stateless {x : Adapter H α} (h : Effect.Stateless x) :
    Effect.Stateless (guarded x) := by
  obtain ⟨r, rfl⟩ := h
  cases r with
  | ok a => exact ⟨.ok a, rfl⟩
  | error f => exact ⟨.error f.caught, rfl⟩

namespace Property

theorem read_stateless {p : Property H} {o : H.Object}
    (h : ∀ get, p.getter = some get → Effect.Stateless (get o)) : Effect.Stateless (p.read o) := by
  unfold read
  cases hg : p.getter with
  | none => exact .throw _
  | some get => exact (guarded_stateless (h get hg)).bind fun v => .ofExcept id _

theorem write_stateless {p : Property H} {o : H.Object} {v : Value H}
    (h : ∀ set, p.setter = some set → ∀ v, Effect.Stateless (set o v)) :
    Effect.Stateless (p.write o v) := by
  unfold write
  cases hs : p.setter with
  | none => exact .throw _
  | some set => exact (Effect.Stateless.ofExcept id _).bind fun v => guarded_stateless (h set hs v)

end Property

theorem Blueprint.Stateless.read {b : Blueprint H} (h : b.Stateless) (bean : Value H)
    (n : String) : Effect.Stateless (b.read bean n) := by
  unfold Blueprint.read
  cases hp : b.bean.get? n with
  | none => exact .throw _
  | some p =>
    refine (Effect.Stateless.ofExcept id _).bind fun o => Property.read_stateless fun get hg => ?_
    exact h.getter p (Model.mem_of_get? hp).1 get hg o

namespace Draft

theorem writeAll_stateless {d : Draft H} {ps : List (Property H)}
    (h : ∀ p ∈ ps, ∀ set, p.setter = some set → ∀ o v, Effect.Stateless (set o v)) :
    ∀ o, Effect.Stateless (d.writeAll ps o) := by
  induction ps with
  | nil => exact fun o => .pure o
  | cons p ps ih =>
    intro o
    have hps := ih fun q hq => h q (List.mem_cons_of_mem p hq)
    have hp : ∀ v, Effect.Stateless (p.write o v) := fun v =>
      Property.write_stateless fun set hs v => h p List.mem_cons_self set hs o v
    rw [writeAll]
    split
    · split
      · exact (hp _).bind hps
      · exact hps o
    · exact hps o

theorem tryNewBean_stateless {d : Draft H} (h : d.blueprint.Stateless) :
    Effect.Stateless d.tryNewBean :=
  (guarded_stateless (h.construct _)).bind fun o =>
    (writeAll_stateless h.setter o).bind fun _ => .pure _

theorem shown_stateless (text : Except Panic String) :
    Effect.Stateless (Probe.shown (H := H) text) := .ofExcept _ _

theorem newBean_stateless {d : Draft H} (h : d.blueprint.Stateless) :
    Effect.Stateless d.newBean := by
  refine (tryNewBean_stateless h).reify.bind fun r => ?_
  cases r with
  | ok bean => exact .pure bean
  | error e => exact (shown_stateless _).bind fun _ => .throw _

theorem read_stateless {d : Draft H} (h : d.blueprint.Stateless) (bean : Value H) (n : String) :
    Effect.Stateless (d.read bean n) := by
  refine (h.read bean n).reify.bind fun r => ?_
  cases r with
  | ok v => exact .pure v
  | error e => exact (shown_stateless _).bind fun _ => .throw _

theorem checkAbsent_stateless (d : Draft H) (n : String) (omitted : Bool) (v : Value H) :
    Effect.Stateless (d.checkAbsent n omitted v) := by
  unfold checkAbsent
  split
  split
  · exact .pure _
  · exact (shown_stateless _).bind fun _ => (shown_stateless _).bind fun _ => .throw _

theorem verify_stateless {d : Draft H} (h : d.blueprint.Stateless) (n : String) :
    Effect.Stateless (d.verify n) := by
  unfold verify
  split
  · refine (newBean_stateless h).bind fun bean => (read_stateless h bean n).bind fun v => ?_
    split
    · split
      · exact .pure _
      · exact (shown_stateless _).bind fun _ => (shown_stateless _).bind fun _ => .throw _
    · exact checkAbsent_stateless d n false v
    · exact checkAbsent_stateless d n true v
  · exact .pure _

theorem get?_put (d : Draft H) (n m : String) (v : Value H) :
    (d.put n v).expected.get? m = if m = n then some v else d.expected.get? m :=
  Table.get?_insert _ _ _ _

/-! ## What a draft builds -/

def Builds (d : Draft H) (bean : Value H) : Prop := ∀ w, d.tryNewBean w = .ok bean w

def Reads (d : Draft H) (bean : Value H) (n : String) (v : Value H) : Prop :=
  ∀ w, d.tryRead bean n w = .ok v w

theorem tryNewBean_of_newBean {d : Draft H} {w w' : H.World} {bean : Value H}
    (h : d.newBean w = .ok bean w') : d.tryNewBean w = .ok bean w' := by
  obtain ⟨r, w₁, hr, h⟩ := Effect.bind_eq_ok.1 h
  rcases Effect.reify_eq_ok.1 hr with ⟨bean', rfl, ht⟩ | ⟨e, rfl, -⟩
  · obtain ⟨rfl, rfl⟩ := Effect.pure_eq_ok.1 h
    exact ht
  · obtain ⟨_, _, -, h⟩ := Effect.bind_eq_ok.1 h
    exact absurd h Effect.throw_ne_ok

theorem tryRead_of_read {d : Draft H} {w w' : H.World} {bean v : Value H} {n : String}
    (h : d.read bean n w = .ok v w') : d.tryRead bean n w = .ok v w' := by
  obtain ⟨r, w₁, hr, h⟩ := Effect.bind_eq_ok.1 h
  rcases Effect.reify_eq_ok.1 hr with ⟨v', rfl, ht⟩ | ⟨e, rfl, -⟩
  · obtain ⟨rfl, rfl⟩ := Effect.pure_eq_ok.1 h
    exact ht
  · obtain ⟨_, _, -, h⟩ := Effect.bind_eq_ok.1 h
    exact absurd h Effect.throw_ne_ok

theorem builds_of_newBean {d : Draft H} (h : d.blueprint.Stateless) {w w' : H.World}
    {bean : Value H} (hw : d.newBean w = .ok bean w') : d.Builds bean :=
  ((tryNewBean_stateless h).of_ok (tryNewBean_of_newBean hw)).2

theorem reads_of_read {d : Draft H} (h : d.blueprint.Stateless) {w w' : H.World}
    {bean v : Value H} {n : String} (hw : d.read bean n w = .ok v w') : d.Reads bean n v :=
  ((h.read bean n).of_ok (tryRead_of_read hw)).2

theorem newBean_of_builds {d : Draft H} {bean : Value H} (h : d.Builds bean) (w : H.World) :
    d.newBean w = .ok bean w := by
  refine Effect.bind_eq_ok.2 ⟨.ok bean, w, ?_, rfl⟩
  exact Effect.reify_eq_ok.2 (.inl ⟨bean, rfl, h w⟩)

theorem read_of_reads {d : Draft H} {bean v : Value H} {n : String} (h : d.Reads bean n v)
    (w : H.World) : d.read bean n w = .ok v w := by
  refine Effect.bind_eq_ok.2 ⟨.ok v, w, ?_, rfl⟩
  exact Effect.reify_eq_ok.2 (.inl ⟨v, rfl, h w⟩)

theorem read_fails {d : Draft H} {bean : Value H} {n : String} {e : AccessError}
    (h : ∀ w, d.tryRead bean n w = .error e w) : Effect.Fails (d.read bean n) := by
  intro w v w' hv
  have hread := tryRead_of_read hv
  rw [h w] at hread
  cases hread

theorem checkAbsent_eq_ok {d : Draft H} {n : String} {omitted : Bool} {v : Value H}
    {w w' : H.World} {u : Unit} :
    d.checkAbsent n omitted v w = .ok u w' ↔
      w' = w ∧ (d.absence n omitted).2.allows v = true := by
  unfold checkAbsent
  dsimp only
  by_cases h : (d.absence n omitted).2.allows v = true
  · rw [if_pos h, Effect.pure_eq_ok, h]
    simp [eq_comm]
  · rw [if_neg h]
    refine ⟨fun hw => ?_, fun hw => absurd hw.2 h⟩
    obtain ⟨_, _, -, hw⟩ := Effect.bind_eq_ok.1 hw
    obtain ⟨_, _, -, hw⟩ := Effect.bind_eq_ok.1 hw
    exact absurd hw Effect.throw_ne_ok

theorem Builds.unique {d : Draft H} {x y : Value H} [Nonempty H.World] (hx : d.Builds x)
    (hy : d.Builds y) : x = y := by
  obtain ⟨w⟩ := ‹Nonempty H.World›
  have := (hx w).symm.trans (hy w)
  simpa using this

theorem Reads.unique {d : Draft H} {bean v w : Value H} {n : String} [Nonempty H.World]
    (hv : d.Reads bean n v) (hw : d.Reads bean n w) : v = w := by
  obtain ⟨u⟩ := ‹Nonempty H.World›
  have := (hv u).symm.trans (hw u)
  simpa using this

/-! ## Drafts that build the same bean -/

def written (d : Draft H) (p : Property H) : Option (Value H) :=
  if d.viaSetter p then d.expected.get? p.name else none

theorem writeAll_cons (d : Draft H) (p : Property H) (ps : List (Property H)) (o : H.Object) :
    d.writeAll (p :: ps) o =
      match d.written p with
      | some v => p.write o v >>= d.writeAll ps
      | none => d.writeAll ps o := by
  rw [writeAll, written]
  split
  · rfl
  · rfl

/-- Two lists of properties are written alike if each member of one gets the value of its
partner in the other, and has its setter if there is a value to set. -/
theorem writeAll_congr {d e : Draft H} {ps qs : List (Property H)}
    (h : List.Forall₂ (fun p q => d.written p = e.written q ∧
      ((d.written p).isSome = true → p.write = q.write)) ps qs) :
    d.writeAll ps = e.writeAll qs := by
  induction h with
  | nil => rfl
  | cons hpq _ ih =>
    obtain ⟨hwritten, hwrite⟩ := hpq
    funext o
    rw [writeAll_cons, writeAll_cons, ← hwritten, ih]
    split
    · rename_i v hv
      rw [hwrite (by rw [hv]; rfl)]
    · rfl

theorem args_congr {d e : Draft H} (hn : d.blueprint.creator.names = e.blueprint.creator.names)
    (h : ∀ n ∈ d.blueprint.creator.names, d.arg? n = e.arg? n) : d.args = e.args := by
  unfold args
  rw [← hn]
  generalize hl : d.blueprint.creator.names = l at h
  clear hn hl
  generalize (Table.empty : Args H) = t
  induction l generalizing t with
  | nil => rfl
  | cons n l ih =>
    rw [List.foldl_cons, List.foldl_cons, h n List.mem_cons_self]
    exact ih (fun m hm => h m (List.mem_cons_of_mem n hm)) _

theorem get?_args (d : Draft H) (n : String) :
    d.args.get? n = if n ∈ d.blueprint.creator.names then d.arg? n else none := by
  have hfold : ∀ (l : List String) (t : Args H),
      (l.foldl (fun args m => match d.arg? m with
        | some v => args.insert m v
        | none => args) t).get? n = if n ∈ l then d.arg? n <|> t.get? n else t.get? n := by
    intro l
    induction l with
    | nil => intro t; rfl
    | cons m l ih =>
      intro t
      rw [List.foldl_cons, ih]
      by_cases hm : m = n
      · subst hm
        cases hv : d.arg? m with
        | none => simp
        | some v => simp [Table.get?_insert]
      · have hget : (match d.arg? m with
            | some v => t.insert m v
            | none => t).get? n = t.get? n := by
          cases d.arg? m with
          | none => rfl
          | some v => simp [Table.get?_insert, Ne.symm hm]
        simp [hget, Ne.symm hm]
  refine (hfold _ _).trans ?_
  simp

/-- Arguments without that of one parameter are those of a draft that leaves it out. -/
theorem erase_args {d e : Draft H} {n : String}
    (hn : d.blueprint.creator.names = e.blueprint.creator.names) (he : e.arg? n = none)
    (h : ∀ m ∈ d.blueprint.creator.names, m ≠ n → d.arg? m = e.arg? m) :
    d.args.erase n = e.args := by
  unfold args
  rw [← hn]
  generalize hl : d.blueprint.creator.names = l at h
  clear hn hl
  have hempty : (Table.empty : Args H) = Table.empty.erase n := rfl
  conv => rhs; rw [hempty]
  generalize (Table.empty : Args H) = t
  induction l generalizing t with
  | nil => rfl
  | cons m l ih =>
    have ih := ih fun k hk => h k (List.mem_cons_of_mem m hk)
    rw [List.foldl_cons, List.foldl_cons]
    by_cases hm : m = n
    · rw [hm, he]
      cases hd : d.arg? n with
      | none => exact ih t
      | some v => simpa [Table.erase_insert] using ih (t.insert n v)
    · rw [h m List.mem_cons_self hm]
      cases hv : e.arg? m with
      | none => exact ih t
      | some v => simpa [Table.erase_insert, hm] using ih (t.insert m v)

/-- Drafts of blueprints with the same code build the same bean if the constructor takes
their arguments alike and their setters get the same values. -/
theorem tryNewBean_congr {d e : Draft H} (h : d.blueprint.SameCode e.blueprint)
    (hargs : d.blueprint.construct d.args = d.blueprint.construct e.args)
    (hwritten : ∀ p ∈ d.blueprint.bean.properties, ∀ q, p.SameCode q →
      d.written p = e.written q) : d.tryNewBean = e.tryNewBean := by
  have hbuild : d.blueprint.build d.args = e.blueprint.build e.args := by
    rw [h.build]
    unfold Blueprint.build
    rw [hargs]
  have hwrite : d.writeAll d.blueprint.bean.properties =
      e.writeAll e.blueprint.bean.properties := by
    refine writeAll_congr ?_
    refine ((List.forall₂_and_left _ _).2 ⟨hwritten, h.bean⟩).imp fun p q hpq => ?_
    exact ⟨hpq.1 q hpq.2, fun _ => hpq.2.write.symm⟩
  unfold tryNewBean
  rw [hbuild, hwrite, h.path]

/-- Drafts of one blueprint in which every look-up has the same result. -/
structure Alike (d e : Draft H) : Prop where
  blueprint : d.blueprint = e.blueprint
  initial : d.initial = e.initial
  preference : d.preference = e.preference
  expected : ∀ n, d.expected.get? n = e.expected.get? n

namespace Alike

variable {d e : Draft H}

protected theorem refl (d : Draft H) : d.Alike d := ⟨rfl, rfl, rfl, fun _ => rfl⟩

protected theorem trans {f : Draft H} (h : d.Alike e) (h' : e.Alike f) : d.Alike f :=
  ⟨h.blueprint.trans h'.blueprint, h.initial.trans h'.initial, h.preference.trans h'.preference,
    fun n => (h.expected n).trans (h'.expected n)⟩

theorem arg? (h : d.Alike e) (n : String) : d.arg? n = e.arg? n := by
  simp only [Draft.arg?, h.preference, h.blueprint, h.initial, h.expected]

theorem written (h : d.Alike e) (p : Property H) : d.written p = e.written p := by
  have hvia : d.viaSetter p = e.viaSetter p := by
    unfold viaSetter
    rw [h.preference, h.blueprint]
  unfold Draft.written
  rw [hvia, h.expected]

theorem tryNewBean (h : d.Alike e) : d.tryNewBean = e.tryNewBean := by
  have hargs : d.args = e.args := args_congr (by rw [h.blueprint]) fun n _ => h.arg? n
  have hwrite : ∀ ps, d.writeAll ps = e.writeAll ps := fun ps =>
    writeAll_congr (List.forall₂_same.2 fun p _ => ⟨h.written p, fun _ => rfl⟩)
  simp only [Draft.tryNewBean, h.blueprint, hargs, hwrite]

theorem builds (h : d.Alike e) {bean : Value H} (hd : d.Builds bean) : e.Builds bean := by
  unfold Builds at *
  rwa [← h.tryNewBean]

end Alike

theorem stateText?_congr {d e : Draft H}
    (hb : d.blueprint.propertyNames = e.blueprint.propertyNames)
    (h : ∀ n, d.expected.get? n = e.expected.get? n) : d.stateText? = e.stateText? := by
  have hparts : ∀ names, d.stateParts? names = e.stateParts? names := by
    intro names
    induction names with
    | nil => rfl
    | cons n names ih =>
      unfold stateParts?
      rw [h, ih]
  unfold stateText?
  rw [hparts, hb]

/-- Where parameters get their values through the constructor, only what is staged matters, and
not what a reset would go back to. -/
theorem newBean_congr {d e : Draft H} (hb : d.blueprint = e.blueprint)
    (hd : d.preference = .creator) (he : e.preference = .creator)
    (h : ∀ n, d.expected.get? n = e.expected.get? n) : d.newBean = e.newBean := by
  have hargs : d.args = e.args :=
    args_congr (by rw [hb]) fun n _ => by simp [Draft.arg?, hd, he, h]
  have hwritten : ∀ p, d.written p = e.written p := by
    intro p
    unfold written viaSetter
    rw [hd, he, hb, h]
  have hwrite : ∀ ps, d.writeAll ps = e.writeAll ps := fun ps =>
    writeAll_congr (List.forall₂_same.2 fun p _ => ⟨hwritten p, fun _ => rfl⟩)
  have htry : d.tryNewBean = e.tryNewBean := by
    simp only [tryNewBean, hb, hargs, hwrite]
  unfold newBean
  rw [htry, stateText?_congr (by rw [hb]) h]
  simp only [beanName, hb]

/-- Drafts that are alike but for the value staged for one property. -/
def AlikeBut (n : String) (d e : Draft H) : Prop := (d.leaveOut n).Alike (e.leaveOut n)

namespace AlikeBut

variable {n : String} {d e : Draft H}

theorem of_alike (h : d.Alike e) (n : String) : AlikeBut n d e := by
  refine ⟨h.blueprint, h.initial, h.preference, fun m => ?_⟩
  simp only [leaveOut, Table.get?_erase, h.expected]

theorem expected (h : AlikeBut n d e) {m : String} (hm : m ≠ n) :
    d.expected.get? m = e.expected.get? m := by
  have := Alike.expected h m
  simpa [leaveOut, Table.get?_erase, hm] using this

theorem put_left (h : AlikeBut n d e) (v : Value H) : AlikeBut n (d.put n v) e := by
  refine ⟨h.blueprint, h.initial, h.preference, fun m => ?_⟩
  simp only [leaveOut, Draft.put, Table.get?_erase, Table.get?_insert]
  by_cases hm : m = n
  · simp [hm]
  · simp [hm, h.expected hm]

theorem put (h : AlikeBut n d e) (v : Value H) : (d.put n v).Alike (e.put n v) := by
  refine ⟨h.blueprint, h.initial, h.preference, fun m => ?_⟩
  simp only [Draft.put, Table.get?_insert]
  by_cases hm : m = n
  · simp [hm]
  · simp [hm, h.expected hm]

theorem restore (h : AlikeBut n d e) : (d.restore n (e.expected.get? n)).Alike e := by
  refine ⟨h.blueprint, h.initial, h.preference, fun m => ?_⟩
  simp only [Draft.restore, Table.get?_put?]
  by_cases hm : m = n
  · simp [hm]
  · simp [hm, h.expected hm]

end AlikeBut

end Draft

/-! ## A bean of two switches -/

namespace Lamp

def host : Host where
  Object := Option Bool × Option Bool
  World := Unit
  same a b := a = b
  digest o := [.byte (if o.1 = some true then 1 else 0), .byte (if o.2 = some true then 1 else 0)]
  show? _ := .ok "Lamp"

def ofSwitch (s : Option Bool) : Value host := s.map .bool

def toSwitch : Value host → Option Bool
  | some (.bool b) => some b
  | _ => none

def blueprint : Blueprint host where
  name := "Lamp"
  path := "Lamp"
  creator := ⟨[{ name := "on", type := .bool }]⟩
  bean := ⟨[
    { name := "on", type := .bool, getter := some fun o => pure (ofSwitch o.1) },
    { name := "dim", type := .bool, getter := some fun o => pure (ofSwitch o.2),
      setter := some fun o v => pure (o.1, toSwitch v) }]⟩
  construct := fun args => pure (toSwitch ((args.get? "on").getD none), none)
  builderText := none

theorem wellFormed : blueprint.WellFormed where
  creator := by decide
  bean := by decide
  agree n p q hp hq := by
    obtain ⟨hp', rfl⟩ := Model.mem_of_get? hp
    obtain rfl : p = { name := "on", type := .bool } := by simpa [blueprint] using hp'
    cases hq
    exact ⟨rfl, rfl⟩

theorem stateless : blueprint.Stateless where
  construct _ := .pure _
  builderText _ h := by cases h
  getter p hp get hg o := by
    obtain rfl | rfl : p = _ ∨ p = _ := by simpa [blueprint] using hp
    · cases hg
      exact .pure _
    · cases hg
      exact .pure _
  setter p hp set hs o v := by
    obtain rfl | rfl : p = _ ∨ p = _ := by simpa [blueprint] using hp
    · cases hs
    · cases hs
      exact .pure _

/-- The first switch is unset whether it is left out or set to null. -/
theorem construct_erase (args : Args host) (n : String) (h : args.get? n = some none) :
    blueprint.construct args = blueprint.construct (args.erase n) := by
  have hget : (args.get? "on").getD none = ((args.erase n).get? "on").getD none := by
    rw [Table.get?_erase]
    by_cases hn : "on" = n
    · rw [if_pos hn, hn, h]
      rfl
    · rw [if_neg hn]
  show pure _ = pure _
  rw [hget]

end Lamp
end BeanContract
