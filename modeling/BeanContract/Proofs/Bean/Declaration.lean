/-
Which declarations make up a description.

Declarations make up a description exactly if they do not contradict each other
(`Declaration.Consistent`), in whatever order they come; it then has what was declared and
nothing else (`Description.MadeOf`), and otherwise they are misconfigured
(`Description.declare_ok_iff`).

A declaration is faulted when it clashes with an earlier one (`Declaration.Clashes`).  So the proof
follows the declarations from the first to the last: as long as none clashes, the models say what
was declared (`Assembly.Reflects`), and what is left to the end, the types of properties that are
parameters too and the customisations, is checked against these.
-/
import BeanContract.Proofs.Bean.Customisation
import Mathlib.Data.List.Induction
import Mathlib.Data.List.Nodup

namespace BeanContract

variable {H : Host}

namespace Declaration

/-! ## What is declared -/

def constructor? : Declaration H → Option (Args H → Adapter H H.Object)
  | .constructor construct | .builder construct _ => some construct
  | _ => none

def builderText? : Declaration H → Option (Args H → Adapter H String)
  | .builder _ text => some text
  | _ => none

def parameter? : Declaration H → Option (String × ValueType)
  | .parameter name type => some (name, type)
  | _ => none

def accessor? : Declaration H → Option (String × ValueType)
  | .getter name type _ | .setter name type _ => some (name, type)
  | _ => none

def getter? : Declaration H → Option String
  | .getter name _ _ => some name
  | _ => none

def setter? : Declaration H → Option String
  | .setter name _ _ => some name
  | _ => none

def customisation? : Declaration H → Option (Customisation H)
  | .customise c => some c
  | _ => none

section Lists

variable (xs : List (Declaration H))

/-- What constructs beans, each time that something was declared to. -/
def constructors : List (Args H → Adapter H H.Object) := xs.filterMap constructor?

def builderTexts : List (Args H → Adapter H String) := xs.filterMap builderText?

def parameters : List (String × ValueType) := xs.filterMap parameter?

def accessed : List (String × ValueType) := xs.filterMap accessor?

def getters : List String := xs.filterMap getter?

def setters : List String := xs.filterMap setter?

def customisations : List (Customisation H) := xs.filterMap customisation?

end Lists

/-- The declarations do not contradict each other. -/
structure Consistent (xs : List (Declaration H)) : Prop where
  /-- Beans are constructed in exactly one way. -/
  construct : (constructors xs).length = 1
  /-- No parameter is declared twice. -/
  oneParameter : ((parameters xs).map Prod.fst).Nodup
  /-- A property has one getter at most. -/
  oneGetter : (getters xs).Nodup
  /-- A property has one setter at most. -/
  oneSetter : (setters xs).Nodup
  /-- The accessors of a property use one type. -/
  oneType : ∀ a ∈ accessed xs, ∀ b ∈ accessed xs, a.1 = b.1 → a.2 = b.2
  /-- A property that is a parameter too has one type. -/
  agree : ∀ a ∈ parameters xs, ∀ b ∈ accessed xs, a.1 = b.1 → a.2 = b.2
  /-- A customisation names a declared property, whose type it suits. -/
  customisable : ∀ c ∈ customisations xs,
    ∃ a ∈ parameters xs ++ accessed xs, a.1 = c.property ∧ c.Suits a.2

instance (xs : List (Declaration H)) : Decidable (Consistent xs) :=
  decidable_of_iff
    ((constructors xs).length = 1 ∧ ((parameters xs).map Prod.fst).Nodup ∧
      (getters xs).Nodup ∧ (setters xs).Nodup ∧
      (∀ a ∈ accessed xs, ∀ b ∈ accessed xs, a.1 = b.1 → a.2 = b.2) ∧
      (∀ a ∈ parameters xs, ∀ b ∈ accessed xs, a.1 = b.1 → a.2 = b.2) ∧
      ∀ c ∈ customisations xs,
        ∃ a ∈ parameters xs ++ accessed xs, a.1 = c.property ∧ c.Suits a.2)
    ⟨fun ⟨h₁, h₂, h₃, h₄, h₅, h₆, h₇⟩ => ⟨h₁, h₂, h₃, h₄, h₅, h₆, h₇⟩,
      fun ⟨h₁, h₂, h₃, h₄, h₅, h₆, h₇⟩ => ⟨h₁, h₂, h₃, h₄, h₅, h₆, h₇⟩⟩

/-! ## Clashes -/

section Concat

variable (xs : List (Declaration H)) (x : Declaration H)

private theorem filterMap_concat {α : Type} (f : Declaration H → Option α) :
    (xs ++ [x]).filterMap f = xs.filterMap f ++ (f x).toList := by
  rw [List.filterMap_append]
  cases h : f x <;> simp [h]

theorem constructors_concat :
    constructors (xs ++ [x]) = constructors xs ++ (constructor? x).toList := filterMap_concat xs x _

theorem builderTexts_concat :
    builderTexts (xs ++ [x]) = builderTexts xs ++ (builderText? x).toList := filterMap_concat xs x _

theorem parameters_concat :
    parameters (xs ++ [x]) = parameters xs ++ (parameter? x).toList := filterMap_concat xs x _

theorem accessed_concat :
    accessed (xs ++ [x]) = accessed xs ++ (accessor? x).toList := filterMap_concat xs x _

theorem getters_concat :
    getters (xs ++ [x]) = getters xs ++ (getter? x).toList := filterMap_concat xs x _

theorem setters_concat :
    setters (xs ++ [x]) = setters xs ++ (setter? x).toList := filterMap_concat xs x _

theorem customisations_concat :
    customisations (xs ++ [x]) = customisations xs ++ (customisation? x).toList :=
  filterMap_concat xs x _

end Concat

/-- The declaration contradicts one of those before it. -/
def Clashes (xs : List (Declaration H)) : Declaration H → Prop
  | .constructor _ | .builder _ _ => constructors xs ≠ []
  | .parameter name _ => name ∈ (parameters xs).map Prod.fst
  | .getter name type _ => (∃ a ∈ accessed xs, a.1 = name ∧ a.2 ≠ type) ∨ name ∈ getters xs
  | .setter name type _ => (∃ a ∈ accessed xs, a.1 = name ∧ a.2 ≠ type) ∨ name ∈ setters xs
  | .customise _ => False

@[mk_iff]
structure Compatible (xs : List (Declaration H)) : Prop where
  construct : (constructors xs).length ≤ 1
  oneParameter : ((parameters xs).map Prod.fst).Nodup
  oneGetter : (getters xs).Nodup
  oneSetter : (setters xs).Nodup
  oneType : ∀ a ∈ accessed xs, ∀ b ∈ accessed xs, a.1 = b.1 → a.2 = b.2

variable {xs : List (Declaration H)} {x : Declaration H}

private theorem nodup_concat {α : Type} {l : List α} {a : α} :
    (l ++ [a]).Nodup ↔ l.Nodup ∧ a ∉ l := by
  rw [← List.concat_eq_append, List.nodup_concat, and_comm]

private theorem oneType_concat {l : List (String × ValueType)} {n : String} {t : ValueType} :
    (∀ a ∈ l ++ [(n, t)], ∀ b ∈ l ++ [(n, t)], a.1 = b.1 → a.2 = b.2) ↔
      (∀ a ∈ l, ∀ b ∈ l, a.1 = b.1 → a.2 = b.2) ∧ ¬∃ a ∈ l, a.1 = n ∧ a.2 ≠ t := by
  constructor
  · refine fun h => ⟨fun a ha b hb => h a ?_ b ?_, fun ⟨a, ha, hname, htype⟩ => htype ?_⟩
    · exact List.mem_append_left _ ha
    · exact List.mem_append_left _ hb
    · exact h a (List.mem_append_left _ ha) (n, t) (by simp) hname
  · rintro ⟨hl, hnew⟩ a ha b hb hname
    have htype : ∀ a ∈ l, a.1 = n → a.2 = t := fun a ha hname => by
      by_contra hne
      exact hnew ⟨a, ha, hname, hne⟩
    rcases List.mem_append.1 ha with ha | ha
    · rcases List.mem_append.1 hb with hb | hb
      · exact hl a ha b hb hname
      · rw [List.mem_singleton.1 hb] at hname ⊢
        exact htype a ha hname
    · rw [List.mem_singleton.1 ha] at hname ⊢
      rcases List.mem_append.1 hb with hb | hb
      · exact (htype b hb hname.symm).symm
      · rw [List.mem_singleton.1 hb]

theorem compatible_concat : Compatible (xs ++ [x]) ↔ Compatible xs ∧ ¬Clashes xs x := by
  have hsecond : (constructors xs).length + 1 ≤ 1 ↔
      (constructors xs).length ≤ 1 ∧ ¬constructors xs ≠ [] := by
    rw [not_not, ← List.length_eq_zero_iff]
    omega
  rw [compatible_iff, compatible_iff]
  simp only [constructors_concat, parameters_concat, getters_concat, setters_concat,
    accessed_concat]
  cases x with
  | constructor c =>
    simp only [constructor?, parameter?, getter?, setter?, accessor?, Option.toList, Clashes,
      List.append_nil, List.length_append, List.length_singleton, hsecond]
    tauto
  | builder c t =>
    simp only [constructor?, parameter?, getter?, setter?, accessor?, Option.toList, Clashes,
      List.append_nil, List.length_append, List.length_singleton, hsecond]
    tauto
  | parameter n t =>
    simp only [constructor?, parameter?, getter?, setter?, accessor?, Option.toList, Clashes,
      List.append_nil, List.map_append, List.map_singleton, nodup_concat]
    tauto
  | getter n t g =>
    simp only [constructor?, parameter?, getter?, setter?, accessor?, Option.toList, Clashes,
      List.append_nil, nodup_concat, oneType_concat, not_or]
    grind
  | setter n t g =>
    simp only [constructor?, parameter?, getter?, setter?, accessor?, Option.toList, Clashes,
      List.append_nil, nodup_concat, oneType_concat, not_or]
    grind
  | customise c =>
    simp only [constructor?, parameter?, getter?, setter?, accessor?, Option.toList, Clashes,
      List.append_nil, not_false_eq_true, and_true]

end Declaration

/-! ## What the models say -/

structure Property.DeclaredBy (p : Property H) (xs : List (Declaration H)) : Prop where
  getter : ∀ get, p.getter = some get ↔ .getter p.name p.type get ∈ xs
  setter : ∀ set, p.setter = some set ↔ .setter p.name p.type set ∈ xs

namespace Declaration

variable {xs : List (Declaration H)} {n : String} {t : ValueType}

theorem mem_accessed : (n, t) ∈ accessed xs ↔
    (∃ get, .getter n t get ∈ xs) ∨ ∃ set, .setter n t set ∈ xs := by
  have haccessor (x : Declaration H) : x.accessor? = some (n, t) ↔
      (∃ get, x = .getter n t get) ∨ ∃ set, x = .setter n t set := by
    cases x <;> simp [accessor?]
  simp only [accessed, List.mem_filterMap, haccessor]
  grind

theorem mem_getters : n ∈ getters xs ↔ ∃ t get, .getter n t get ∈ xs := by
  have hgetter (x : Declaration H) : x.getter? = some n ↔ ∃ t get, x = .getter n t get := by
    cases x <;> simp [getter?]
  simp only [getters, List.mem_filterMap, hgetter]
  grind

theorem mem_setters : n ∈ setters xs ↔ ∃ t set, .setter n t set ∈ xs := by
  have hsetter (x : Declaration H) : x.setter? = some n ↔ ∃ t set, x = .setter n t set := by
    cases x <;> simp [setter?]
  simp only [setters, List.mem_filterMap, hsetter]
  grind

end Declaration

/-! ## Taking in the declarations -/

namespace Property.DeclaredBy

open Declaration (accessor? accessed getters setters)

variable {p : Property H} {xs : List (Declaration H)} {x : Declaration H}

/-- Nothing is declared for a property that is not accessed. -/
protected theorem empty {n : String} {t : ValueType} (h : (n, t) ∉ accessed xs) :
    ({ name := n, type := t } : Property H).DeclaredBy xs where
  getter get := ⟨nofun, fun hx => absurd (Declaration.mem_accessed.2 (.inl ⟨get, hx⟩)) h⟩
  setter set := ⟨nofun, fun hx => absurd (Declaration.mem_accessed.2 (.inr ⟨set, hx⟩)) h⟩

/-- A declaration about something else changes nothing for the property. -/
theorem concat (h : p.DeclaredBy xs) (hx : x.accessor? ≠ some (p.name, p.type)) :
    p.DeclaredBy (xs ++ [x]) := by
  have hget : ∀ get, x ≠ .getter p.name p.type get := by
    rintro get rfl
    exact hx rfl
  have hset : ∀ set, x ≠ .setter p.name p.type set := by
    rintro set rfl
    exact hx rfl
  refine ⟨fun get => ?_, fun set => ?_⟩
  · simp [h.getter get, (hget get).symm]
  · simp [h.setter set, (hset set).symm]

theorem getter_eq_none (h : p.DeclaredBy xs) (hp : p.name ∉ getters xs) : p.getter = none := by
  rw [Option.eq_none_iff_forall_ne_some]
  exact fun get hget => hp (Declaration.mem_getters.2 ⟨_, get, (h.getter get).1 hget⟩)

theorem setter_eq_none (h : p.DeclaredBy xs) (hp : p.name ∉ setters xs) : p.setter = none := by
  rw [Option.eq_none_iff_forall_ne_some]
  exact fun set hset => hp (Declaration.mem_setters.2 ⟨_, set, (h.setter set).1 hset⟩)

theorem withGetter (h : p.DeclaredBy xs) (hp : p.getter = none)
    (get : H.Object → Adapter H (Value H)) :
    { p with getter := some get }.DeclaredBy
      (xs ++ [Declaration.getter p.name p.type get]) where
  getter get' := by
    have hnew : Declaration.getter p.name p.type get' ∉ xs := fun hx => by
      have := (h.getter get').2 hx
      rw [hp] at this
      cases this
    simp [hnew, eq_comm]
  setter set := by simp [h.setter set]

theorem withSetter (h : p.DeclaredBy xs) (hp : p.setter = none)
    (set : H.Object → Value H → Adapter H H.Object) :
    { p with setter := some set }.DeclaredBy
      (xs ++ [Declaration.setter p.name p.type set]) where
  getter get := by simp [h.getter get]
  setter set' := by
    have hnew : Declaration.setter p.name p.type set' ∉ xs := fun hx => by
      have := (h.setter set').2 hx
      rw [hp] at this
      cases this
    simp [hnew, eq_comm]

end Property.DeclaredBy

/-- The assembly says what was declared. -/
structure Assembly.Reflects (a : Assembly H) (xs : List (Declaration H)) : Prop where
  construct : Declaration.constructors xs = a.construct.toList
  builderText : Declaration.builderTexts xs = a.builderText.toList
  creator : a.creator.properties =
    (Declaration.parameters xs).map fun e => { name := e.1, type := e.2 }
  customisations : a.customisations = Declaration.customisations xs
  names : a.bean.names = ((Declaration.accessed xs).map Prod.fst).eraseDups
  bean : ∀ p ∈ a.bean.properties, (p.name, p.type) ∈ Declaration.accessed xs ∧ p.DeclaredBy xs

namespace Assembly

open Declaration

variable {a : Assembly H} {xs : List (Declaration H)} {x : Declaration H} {n : String}
  {t : ValueType}

private theorem eraseDups_concat {α : Type} [DecidableEq α] (l : List α) (a : α) :
    (l ++ [a]).eraseDups = l.eraseDups ++ if a ∈ l then [] else [a] := by
  rw [List.eraseDups_append]
  by_cases ha : a ∈ l
  · simp [List.removeAll, ha]
  · simp [List.removeAll, ha, List.eraseDups_cons]

namespace Reflects

protected theorem empty : ({} : Assembly H).Reflects [] where
  construct := rfl
  builderText := rfl
  creator := rfl
  customisations := rfl
  names := rfl
  bean _ hp := by cases hp

theorem isParameter (ha : a.Reflects xs) :
    a.creator.contains n = true ↔ n ∈ (parameters xs).map Prod.fst := by
  rw [Model.contains_iff]
  unfold Model.names
  rw [ha.creator, List.map_map]
  rfl

theorem isAccessed (ha : a.Reflects xs) : n ∈ a.bean.names ↔ ∃ t, (n, t) ∈ accessed xs := by
  rw [ha.names, List.mem_eraseDups, List.mem_map]
  exact ⟨fun ⟨e, he, hname⟩ => ⟨e.2, hname ▸ he⟩, fun ⟨t, ht⟩ => ⟨_, ht, rfl⟩⟩

end Reflects

section Accessor

variable {declared : Property H → Bool} {second : DeclarationFault}
  {set : Property H → Property H}

/-- An accessor changes the properties with accessors and the faults only. -/
theorem setAccessor_eq (a : Assembly H) (n : String) (t : ValueType)
    (declared : Property H → Bool) (second : DeclarationFault) (set : Property H → Property H) :
    ∃ m fs, a.setAccessor n t declared second set =
      { a with bean := m, faults := a.faults ++ fs } := by
  unfold setAccessor
  split
  · exact ⟨_, [], by rw [List.append_nil]⟩
  · split
    · exact ⟨a.bean, _, rfl⟩
    · split
      · exact ⟨a.bean, _, rfl⟩
      · exact ⟨_, [], by rw [List.append_nil]⟩

/-- An accessor that does not clash is added to its property. -/
theorem setAccessor_bean (ha : a.Reflects xs) (hx : x.accessor? = some (n, t))
    (hone : ¬∃ b ∈ accessed xs, b.1 = n ∧ b.2 ≠ t)
    (hset : ∀ p, p.name = n → p.type = t → p.DeclaredBy xs →
      declared p = false ∧ (set p).name = n ∧ (set p).type = t ∧
        (set p).DeclaredBy (xs ++ [x])) :
    (a.setAccessor n t declared second set).faults = a.faults ∧
      (a.setAccessor n t declared second set).bean.names =
        ((accessed (xs ++ [x])).map Prod.fst).eraseDups ∧
      ∀ p ∈ (a.setAccessor n t declared second set).bean.properties,
        (p.name, p.type) ∈ accessed (xs ++ [x]) ∧ p.DeclaredBy (xs ++ [x]) := by
  have haccessed : accessed (xs ++ [x]) = accessed xs ++ [(n, t)] := by
    rw [accessed_concat, hx, Option.toList]
  have hnames : ((accessed xs ++ [(n, t)]).map Prod.fst).eraseDups =
      a.bean.names ++ if n ∈ a.bean.names then [] else [n] := by
    rw [List.map_append, List.map_singleton, eraseDups_concat, ha.names]
    simp only [List.mem_eraseDups]
  have hother : ∀ p ∈ a.bean.properties, p.name ≠ n →
      (p.name, p.type) ∈ accessed xs ++ [(n, t)] ∧ p.DeclaredBy (xs ++ [x]) := fun p hp hname => by
    refine ⟨List.mem_append_left _ (ha.bean p hp).1, (ha.bean p hp).2.concat fun heq => hname ?_⟩
    rw [hx] at heq
    exact (congrArg Prod.fst (Option.some.inj heq)).symm
  rw [haccessed, hnames]
  unfold setAccessor
  cases hp : a.bean.get? n with
  | none =>
    have hnew : n ∉ a.bean.names := by
      rw [← Model.contains_iff, Model.contains, hp]
      exact Bool.false_ne_true
    obtain ⟨-, hname, htype, hdeclared⟩ :=
      hset _ rfl rfl (.empty fun ht => hnew (ha.isAccessed.2 ⟨t, ht⟩))
    refine ⟨rfl, ?_, fun p hp => ?_⟩
    · rw [Model.names_add, hname, if_neg hnew]
    · rcases List.mem_append.1 hp with hp | hp
      · exact hother p hp fun heq => hnew (heq ▸ List.mem_map_of_mem hp)
      · rw [List.mem_singleton.1 hp, hname, htype]
        exact ⟨by simp, hdeclared⟩
  | some p =>
    have hset' : ∀ q ∈ a.bean.properties, q.name = n → q.type = t ∧ declared q = false ∧
        (set q).name = n ∧ (set q).type = t ∧ (set q).DeclaredBy (xs ++ [x]) :=
      fun q hq hname => by
        have htype : q.type = t := by
          by_contra hne
          exact hone ⟨_, (ha.bean q hq).1, hname, hne⟩
        exact ⟨htype, hset q hname htype (ha.bean q hq).2⟩
    obtain ⟨hp, hname⟩ := Model.mem_of_get? hp
    obtain ⟨htype, hfree, -⟩ := hset' p hp hname
    have hold : n ∈ a.bean.names := hname ▸ List.mem_map_of_mem hp
    dsimp only
    rw [if_neg (not_not.2 htype), if_neg (by simp [hfree]), if_pos hold, List.append_nil]
    refine ⟨rfl, ?_, fun q hq => ?_⟩
    · unfold Model.update Model.names
      rw [List.map_map]
      refine List.map_congr_left fun q hq => ?_
      by_cases hqname : q.name = n
      · simp [hqname, (hset' q hq hqname).2.2.1]
      · simp [hqname]
    · obtain ⟨r, hr, rfl⟩ := List.mem_map.1 hq
      by_cases hrname : r.name = n
      · obtain ⟨-, -, hrname', hrtype, hdeclared⟩ := hset' r hr hrname
        rw [if_pos hrname, hrname', hrtype]
        exact ⟨by simp, hdeclared⟩
      · rw [if_neg hrname]
        exact hother r hr hrname

/-- An accessor that clashes is a fault. -/
theorem setAccessor_faulted (ha : a.Reflects xs) (hxs : Compatible xs)
    (hn : ∃ u, (n, u) ∈ accessed xs)
    (h : (∃ b ∈ accessed xs, b.1 = n ∧ b.2 ≠ t) ∨
      ∀ p ∈ a.bean.properties, p.name = n → declared p = true) :
    (a.setAccessor n t declared second set).faults ≠ [] := by
  unfold setAccessor
  cases hp : a.bean.get? n with
  | none =>
    have hold := ha.isAccessed.2 hn
    rw [← Model.contains_iff, Model.contains, hp] at hold
    cases hold
  | some p =>
    obtain ⟨hp, hname⟩ := Model.mem_of_get? hp
    dsimp only
    split
    · exact List.append_ne_nil_of_right_ne_nil _ (by simp)
    · rename_i htype
      split
      · exact List.append_ne_nil_of_right_ne_nil _ (by simp)
      · rename_i hfree
        rcases h with ⟨b, hb, hbname, hbtype⟩ | h
        · have := hxs.oneType b hb _ (ha.bean p hp).1 (hbname.trans hname.symm)
          exact absurd (this.trans (not_not.1 htype)) hbtype
        · exact absurd (h p hp hname) hfree

end Accessor

/-- The property of a declared getter can be read. -/
theorem isReadable_of_getters (ha : a.Reflects xs) (hxs : Compatible xs) {p : Property H}
    (hp : p ∈ a.bean.properties) (h : p.name ∈ getters xs) : p.isReadable = true := by
  obtain ⟨t, get, hget⟩ := mem_getters.1 h
  obtain ⟨haccessed, hdeclared⟩ := ha.bean p hp
  have htype : t = p.type :=
    hxs.oneType (p.name, t) (mem_accessed.2 (.inl ⟨get, hget⟩)) _ haccessed rfl
  rw [htype, ← hdeclared.getter] at hget
  rw [Property.isReadable, hget, Option.isSome_some]

/-- The property of a declared setter can be written. -/
theorem isWritable_of_setters (ha : a.Reflects xs) (hxs : Compatible xs) {p : Property H}
    (hp : p ∈ a.bean.properties) (h : p.name ∈ setters xs) : p.isWritable = true := by
  obtain ⟨t, set, hset⟩ := mem_setters.1 h
  obtain ⟨haccessed, hdeclared⟩ := ha.bean p hp
  have htype : t = p.type :=
    hxs.oneType (p.name, t) (mem_accessed.2 (.inr ⟨set, hset⟩)) _ haccessed rfl
  rw [htype, ← hdeclared.setter] at hset
  rw [Property.isWritable, hset, Option.isSome_some]

/-- Faults stay. -/
theorem faults_add (a : Assembly H) (x : Declaration H) : a.faults <+: (a.add x).faults := by
  have hconstructor : ∀ construct, a.faults <+: (a.setConstructor construct).faults := by
    intro construct
    unfold setConstructor
    split
    · exact List.prefix_append _ _
    · exact List.prefix_rfl
  have haccessor : ∀ n t declared second set,
      a.faults <+: (a.setAccessor n t declared second set).faults := by
    intro n t declared second set
    obtain ⟨m, fs, h⟩ := a.setAccessor_eq n t declared second set
    rw [h]
    exact List.prefix_append _ _
  cases x with
  | constructor construct => exact hconstructor construct
  | builder construct text => exact hconstructor construct
  | parameter n t =>
    unfold add
    dsimp only
    split
    · exact List.prefix_append _ _
    · exact List.prefix_rfl
  | getter n t get => exact haccessor ..
  | setter n t set => exact haccessor ..
  | customise c => exact List.prefix_rfl

/-- A declaration that clashes with earlier ones is a fault. -/
theorem add_faulted (ha : a.Reflects xs) (hxs : Compatible xs) (hx : Clashes xs x) :
    (a.add x).faults ≠ [] := by
  have hconstructor : constructors xs ≠ [] → ∀ construct,
      (a.setConstructor construct).faults ≠ [] := by
    intro h construct
    have hsome : a.construct.isSome = true := by
      rw [ha.construct] at h
      cases hc : a.construct with
      | none => simp [hc] at h
      | some _ => rfl
    unfold setConstructor
    rw [if_pos hsome]
    exact List.append_ne_nil_of_right_ne_nil _ (by simp)
  cases x with
  | constructor construct => exact hconstructor hx construct
  | builder construct text => exact hconstructor hx construct
  | parameter n t =>
    unfold add
    dsimp only
    rw [if_pos (ha.isParameter.2 hx)]
    exact List.append_ne_nil_of_right_ne_nil _ (by simp)
  | getter n t get =>
    refine setAccessor_faulted ha hxs ?_ (hx.imp_right fun h p hp hname => ?_)
    · rcases hx with ⟨⟨m, u⟩, hb, rfl, -⟩ | h
      · exact ⟨u, hb⟩
      · obtain ⟨u, get', h⟩ := mem_getters.1 h
        exact ⟨u, mem_accessed.2 (.inl ⟨get', h⟩)⟩
    · exact isReadable_of_getters ha hxs hp (hname ▸ h)
  | setter n t set =>
    refine setAccessor_faulted ha hxs ?_ (hx.imp_right fun h p hp hname => ?_)
    · rcases hx with ⟨⟨m, u⟩, hb, rfl, -⟩ | h
      · exact ⟨u, hb⟩
      · obtain ⟨u, set', h⟩ := mem_setters.1 h
        exact ⟨u, mem_accessed.2 (.inr ⟨set', h⟩)⟩
    · exact isWritable_of_setters ha hxs hp (hname ▸ h)
  | customise c => exact hx.elim

/-- What the assembly has to take in for one more declaration. -/
theorem Reflects.concat {a' : Assembly H} (ha : a.Reflects xs)
    (hconstruct : a'.construct.toList = a.construct.toList ++ (constructor? x).toList)
    (hbuilder : a'.builderText.toList = a.builderText.toList ++ (builderText? x).toList)
    (hcreator : a'.creator.properties = a.creator.properties ++
      (parameter? x).toList.map fun e => { name := e.1, type := e.2 })
    (hcustomisations : a'.customisations = a.customisations ++ (customisation? x).toList)
    (hbean : a'.bean.names = ((accessed (xs ++ [x])).map Prod.fst).eraseDups ∧
      ∀ p ∈ a'.bean.properties,
        (p.name, p.type) ∈ accessed (xs ++ [x]) ∧ p.DeclaredBy (xs ++ [x])) :
    a'.Reflects (xs ++ [x]) where
  construct := by rw [hconstruct, constructors_concat, ha.construct]
  builderText := by rw [hbuilder, builderTexts_concat, ha.builderText]
  creator := by rw [hcreator, parameters_concat, ha.creator, List.map_append]
  customisations := by rw [hcustomisations, customisations_concat, ha.customisations]
  names := hbean.1
  bean := hbean.2

/-- A declaration that is no accessor leaves the properties with accessors as they are. -/
theorem Reflects.bean_concat (ha : a.Reflects xs) (hx : x.accessor? = none) :
    a.bean.names = ((accessed (xs ++ [x])).map Prod.fst).eraseDups ∧
      ∀ p ∈ a.bean.properties,
        (p.name, p.type) ∈ accessed (xs ++ [x]) ∧ p.DeclaredBy (xs ++ [x]) := by
  have haccessed : accessed (xs ++ [x]) = accessed xs := by
    rw [accessed_concat, hx, Option.toList, List.append_nil]
  rw [haccessed]
  refine ⟨ha.names, fun p hp => ⟨(ha.bean p hp).1, (ha.bean p hp).2.concat ?_⟩⟩
  rw [hx]
  exact nofun

/-- An accessor that does not clash is taken in. -/
theorem setAccessor_reflects {declared : Property H → Bool} {second : DeclarationFault}
    {set : Property H → Property H} (ha : a.Reflects xs) (hx : x.accessor? = some (n, t))
    (hone : ¬∃ b ∈ accessed xs, b.1 = n ∧ b.2 ≠ t)
    (hset : ∀ p, p.name = n → p.type = t → p.DeclaredBy xs →
      declared p = false ∧ (set p).name = n ∧ (set p).type = t ∧
        (set p).DeclaredBy (xs ++ [x])) :
    (a.setAccessor n t declared second set).Reflects (xs ++ [x]) ∧
      (a.setAccessor n t declared second set).faults = a.faults := by
  have hnil : ∀ {α : Type} {l : List α}, l = l ++ [] := (List.append_nil _).symm
  obtain ⟨hfaults, hbean⟩ := setAccessor_bean ha hx hone hset
  obtain ⟨m, fs, h⟩ := a.setAccessor_eq n t declared second set
  rw [h] at hfaults hbean ⊢
  cases x with
  | getter => exact ⟨ha.concat hnil hnil hnil hnil hbean, hfaults⟩
  | setter => exact ⟨ha.concat hnil hnil hnil hnil hbean, hfaults⟩
  | _ => cases hx

/-- Nothing constructs beans before something was declared to. -/
theorem Reflects.construct_eq_none (ha : a.Reflects xs) (h : constructors xs = []) :
    a.construct = none ∧ a.builderText = none := by
  have hbuilder : builderTexts xs = [] := by
    unfold builderTexts
    unfold constructors at h
    rw [List.filterMap_eq_nil_iff] at h ⊢
    intro y hy
    cases y with
    | builder construct text => cases h _ hy
    | _ => rfl
  rw [ha.construct, Option.toList_eq_nil_iff] at h
  rw [ha.builderText, Option.toList_eq_nil_iff] at hbuilder
  exact ⟨h, hbuilder⟩

/-- A declaration that does not clash with earlier ones is taken in. -/
theorem add_reflects (ha : a.Reflects xs) (hx : ¬Clashes xs x) :
    (a.add x).Reflects (xs ++ [x]) ∧ (a.add x).faults = a.faults := by
  have hnil : ∀ {α : Type} {l : List α}, l = l ++ [] := (List.append_nil _).symm
  cases x with
  | constructor construct =>
    obtain ⟨hnone, -⟩ := ha.construct_eq_none (not_not.1 hx)
    unfold add setConstructor
    rw [hnone]
    exact ⟨ha.concat (by rw [hnone]; rfl) hnil hnil hnil (ha.bean_concat rfl), rfl⟩
  | builder construct text =>
    obtain ⟨hnone, htext⟩ := ha.construct_eq_none (not_not.1 hx)
    unfold add setConstructor
    rw [hnone]
    exact ⟨ha.concat (by rw [hnone]; rfl) (by rw [htext]; rfl) hnil hnil (ha.bean_concat rfl), rfl⟩
  | parameter n t =>
    unfold add
    dsimp only
    rw [if_neg (mt ha.isParameter.1 hx)]
    exact ⟨ha.concat hnil hnil rfl hnil (ha.bean_concat rfl), rfl⟩
  | getter n t get =>
    obtain ⟨hone, hnew⟩ := not_or.1 hx
    have haccessor : (Declaration.getter n t get).accessor? = some (n, t) := rfl
    unfold add
    dsimp only
    refine setAccessor_reflects ha haccessor hone fun p hname htype hp => ?_
    subst hname htype
    have hnone := hp.getter_eq_none hnew
    exact ⟨by rw [Property.isReadable, hnone, Option.isSome_none], rfl, rfl,
      hp.withGetter hnone get⟩
  | setter n t set =>
    obtain ⟨hone, hnew⟩ := not_or.1 hx
    have haccessor : (Declaration.setter n t set).accessor? = some (n, t) := rfl
    unfold add
    dsimp only
    refine setAccessor_reflects ha haccessor hone fun p hname htype hp => ?_
    subst hname htype
    have hnone := hp.setter_eq_none hnew
    exact ⟨by rw [Property.isWritable, hnone, Option.isSome_none], rfl, rfl,
      hp.withSetter hnone set⟩
  | customise c =>
    exact ⟨ha.concat hnil hnil hnil rfl (ha.bean_concat rfl), rfl⟩

/-- There is no fault as long as no declaration clashes, and the assembly then says what was
declared. -/
theorem foldl_reflects (xs : List (Declaration H)) :
    ((xs.foldl add ({} : Assembly H)).faults = [] ↔ Compatible xs) ∧
      (Compatible xs → (xs.foldl add ({} : Assembly H)).Reflects xs) := by
  -- The assembly takes the declarations in one by one, so the induction adds the last one.
  induction xs using List.reverseRecOn with
  | nil =>
    have hnil : Compatible ([] : List (Declaration H)) :=
      ⟨Nat.zero_le 1, List.nodup_nil, List.nodup_nil, List.nodup_nil, nofun⟩
    exact ⟨⟨fun _ => hnil, fun _ => rfl⟩, fun _ => .empty⟩
  | append_singleton xs x ih =>
    obtain ⟨hfaults, hreflects⟩ := ih
    rw [List.foldl_concat, compatible_concat]
    generalize xs.foldl add {} = a at hfaults hreflects ⊢
    refine ⟨⟨fun h => ?_, fun ⟨hxs, hx⟩ => ?_⟩, fun ⟨hxs, hx⟩ => ?_⟩
    · have hxs := hfaults.1 (List.prefix_nil.1 (h ▸ a.faults_add x))
      exact ⟨hxs, fun hx => add_faulted (hreflects hxs) hxs hx h⟩
    · rw [(add_reflects (hreflects hxs) hx).2]
      exact hfaults.2 hxs
    · exact (add_reflects (hreflects hxs) hx).1

/-! ## Types and customisations -/

namespace Reflects

theorem mem_creator (ha : a.Reflects xs) {p : Property H} (hp : p ∈ a.creator.properties) :
    (p.name, p.type) ∈ parameters xs ∧ p.getter = none ∧ p.setter = none := by
  rw [ha.creator] at hp
  obtain ⟨e, he, rfl⟩ := List.mem_map.1 hp
  exact ⟨he, rfl, rfl⟩

theorem get?_creator (ha : a.Reflects xs) (hxs : Compatible xs) (h : (n, t) ∈ parameters xs) :
    ∃ p, a.creator.get? n = some p ∧ p.type = t := by
  have hnames : a.creator.names = (parameters xs).map Prod.fst := by
    unfold Model.names
    rw [ha.creator, List.map_map]
    rfl
  have hmem : ({ name := n, type := t } : Property H) ∈ a.creator.properties := by
    rw [ha.creator]
    exact List.mem_map_of_mem h
  exact ⟨_, Model.get?_of_mem (hnames ▸ hxs.oneParameter) hmem, rfl⟩

theorem get?_bean (ha : a.Reflects xs) (hxs : Compatible xs) (h : (n, t) ∈ accessed xs) :
    ∃ p, a.bean.get? n = some p ∧ p.type = t := by
  have hn := ha.isAccessed.2 ⟨t, h⟩
  rw [← Model.contains_iff, Model.contains] at hn
  obtain ⟨p, hp⟩ := Option.isSome_iff_exists.1 hn
  obtain ⟨hmem, hname⟩ := Model.mem_of_get? hp
  exact ⟨p, hp, hxs.oneType _ (ha.bean p hmem).1 _ h hname⟩

/-- The models agree on the types if the declarations do. -/
theorem typeFaults_eq_nil_iff (ha : a.Reflects xs) (hxs : Compatible xs) :
    a.typeFaults = [] ↔ ∀ b ∈ parameters xs, ∀ c ∈ accessed xs, b.1 = c.1 → b.2 = c.2 := by
  constructor
  · rintro h ⟨n, t⟩ hb ⟨m, u⟩ hc rfl
    obtain ⟨p, hp, rfl⟩ := ha.get?_creator hxs hb
    obtain ⟨q, hq, rfl⟩ := ha.get?_bean hxs hc
    exact (type_eq_of_typeFaults h hp hq).symm
  · intro h
    unfold typeFaults
    rw [List.filterMap_eq_nil_iff]
    intro q hq
    cases hp : a.creator.get? q.name with
    | none => rfl
    | some p =>
      obtain ⟨hmem, hname⟩ := Model.mem_of_get? hp
      exact if_pos (h _ (ha.mem_creator hmem).1 _ (ha.bean q hq).1 hname)

end Reflects

/-- No fault was found, whether on the way or at the end. -/
theorem allFaults_eq_nil_iff (xs : List (Declaration H)) :
    (xs.foldl add ({} : Assembly H)).allFaults = [] ↔
      Compatible xs ∧ constructors xs ≠ [] ∧
        ∀ b ∈ parameters xs, ∀ c ∈ accessed xs, b.1 = c.1 → b.2 = c.2 := by
  obtain ⟨hfaults, hreflects⟩ := foldl_reflects xs
  generalize xs.foldl add {} = a at hfaults hreflects ⊢
  unfold allFaults
  rw [List.append_eq_nil_iff, List.append_eq_nil_iff, hfaults, and_assoc]
  refine and_congr_right fun hxs => ?_
  have ha := hreflects hxs
  rw [ha.typeFaults_eq_nil_iff hxs, ha.construct, and_comm]
  refine and_congr_left fun _ => ?_
  cases a.construct <;> simp

end Assembly

/-! ## Descriptions -/

structure Blueprint.Reflects (b : Blueprint H) (xs : List (Declaration H)) : Prop where
  construct : Declaration.constructors xs = [b.construct]
  builderText : Declaration.builderTexts xs = b.builderText.toList
  /-- The parameters are in the order in which they were declared. -/
  creator : b.creator.signature = Declaration.parameters xs
  /-- A parameter has no accessors. -/
  unaccessed : ∀ p ∈ b.creator.properties, p.getter = none ∧ p.setter = none
  /-- The properties are in the order of the first accessor of each. -/
  names : b.bean.names = ((Declaration.accessed xs).map Prod.fst).eraseDups
  /-- A property has the declared type and the declared accessors. -/
  bean : ∀ p ∈ b.bean.properties, (p.name, p.type) ∈ Declaration.accessed xs ∧ p.DeclaredBy xs

/-- The description has what was declared, each name once in a model and once in all. -/
structure Description.MadeOf (d : Description H) (name path : String)
    (xs : List (Declaration H)) : Prop extends d.toBlueprint.Reflects xs where
  name : d.name = name
  path : d.path = path
  distinctCreator : d.creator.names.Nodup
  distinctBean : d.bean.names.Nodup
  /-- The parameters come first, and then the other properties. -/
  propertyNames : d.propertyNames = (Declaration.parameters xs).map Prod.fst ++
    ((Declaration.accessed xs).map Prod.fst).eraseDups.filter
      fun n => n ∉ (Declaration.parameters xs).map Prod.fst
  distinct : d.propertyNames.Nodup

theorem Model.names_eq_map_signature (m : Model H) : m.names = m.signature.map Prod.fst := by
  unfold names signature
  rw [List.map_map]
  rfl

namespace Blueprint

open Declaration

variable {b : Blueprint H} {xs : List (Declaration H)}

theorem Reflects.customised (hb : b.Reflects xs) (c : Customisation H) :
    (b.customised c).Reflects xs where
  construct := hb.construct
  builderText := hb.builderText
  creator := (Model.signature_update c.apply_name c.apply_type _ _).trans hb.creator
  unaccessed p hp := by
    obtain ⟨q, hq, rfl⟩ := List.mem_map.1 hp
    split
    · rw [c.apply_getter, c.apply_setter]
      exact hb.unaccessed q hq
    · exact hb.unaccessed q hq
  names := (Model.names_update c.apply_name _ _).trans hb.names
  bean p hp := by
    obtain ⟨q, hq, rfl⟩ := List.mem_map.1 hp
    obtain ⟨haccessed, hget, hset⟩ := hb.bean q hq
    split
    · rw [c.apply_name, c.apply_type]
      refine ⟨haccessed, ?_, ?_⟩
      · rwa [c.apply_getter, c.apply_name, c.apply_type]
      · rwa [c.apply_setter, c.apply_name, c.apply_type]
    · exact ⟨haccessed, hget, hset⟩

theorem Reflects.propertyNames (hb : b.Reflects xs) : b.propertyNames =
    (parameters xs).map Prod.fst ++ ((accessed xs).map Prod.fst).eraseDups.filter
      fun n => n ∉ (parameters xs).map Prod.fst := by
  have hnames : b.creator.names = (parameters xs).map Prod.fst := by
    rw [Model.names_eq_map_signature, hb.creator]
  unfold Blueprint.propertyNames
  rw [← hnames, hb.names]
  refine congrArg _ (List.filter_congr fun n _ => ?_)
  rw [Bool.eq_iff_iff, decide_eq_true_iff, ← Model.contains_iff]
  simp

theorem WellFormed.distinct (hb : b.WellFormed) : b.propertyNames.Nodup := by
  unfold Blueprint.propertyNames
  refine hb.creator.append (hb.bean.filter _) fun n hn hn' => ?_
  have hother := (List.mem_filter.1 hn').2
  rw [Model.contains_iff.2 hn] at hother
  cases hother

end Blueprint

/-- Sound models are those of a well-formed blueprint if their types agree. -/
theorem Assembly.Sound.wellFormed {a : Assembly H} (ha : a.Sound) (htypes : a.typeFaults = [])
    {name path : String} {construct : Args H → Adapter H H.Object}
    {text : Option (Args H → Adapter H String)} :
    (Blueprint.mk name path a.creator a.bean construct text).WellFormed where
  creator := ha.creator
  bean := ha.bean
  agree n p q hp hq := ⟨Assembly.type_eq_of_typeFaults htypes hp hq, by
    rw [(ha.plain n p (.inl hp)).1, (ha.plain n q (.inr hq)).1]⟩

namespace Description

open Declaration

variable {name path : String} {xs : List (Declaration H)} {d : Description H}

/-- Declarations either have a fault or make up what they say, up to the customisations. -/
theorem declare_cases (name path : String) (xs : List (Declaration H)) :
    (∃ d₀ : Description H, (xs.foldl Assembly.add ({} : Assembly H)).allFaults = [] ∧
      d₀.name = name ∧ d₀.path = path ∧ d₀.Plain ∧ d₀.toBlueprint.Reflects xs ∧
        declare name path xs = d₀.customiseAll (customisations xs)) ∨
    ((xs.foldl Assembly.add ({} : Assembly H)).allFaults ≠ [] ∧
      ∃ m, declare name path xs = .error (.configuration m [])) := by
  have hfaultless := Assembly.allFaults_eq_nil_iff xs
  have hsound := Assembly.foldl_sound Assembly.empty_sound xs
  obtain ⟨-, hreflects⟩ := Assembly.foldl_reflects xs
  unfold declare
  dsimp only
  generalize xs.foldl Assembly.add {} = a at hfaultless hsound hreflects ⊢
  cases hfaults : a.allFaults with
  | cons fault faults =>
    refine .inr ⟨nofun, ?_⟩
    cases a.construct <;> exact ⟨_, rfl⟩
  | nil =>
    obtain ⟨hxs, hsome, hagree⟩ := hfaultless.1 hfaults
    have ha := hreflects hxs
    have htypes := (ha.typeFaults_eq_nil_iff hxs).2 hagree
    cases hconstruct : a.construct with
    | none =>
      rw [ha.construct, hconstruct] at hsome
      exact absurd rfl hsome
    | some construct =>
      refine .inl ⟨_, rfl, rfl, rfl, ⟨hsound.wellFormed htypes, hsound.plain, rfl⟩,
        ⟨?_, ha.builderText, ?_, ?_, ha.names, ha.bean⟩, congrArg _ ha.customisations⟩
      · rw [ha.construct, hconstruct]
        rfl
      · unfold Model.signature
        rw [ha.creator, List.map_map]
        exact List.map_id _
      · exact fun p hp => (ha.mem_creator hp).2

/-- A name is declared with one type at most. -/
theorem one_type (hxs : Compatible xs)
    (hagree : ∀ b ∈ parameters xs, ∀ c ∈ accessed xs, b.1 = c.1 → b.2 = c.2) :
    ∀ b ∈ parameters xs ++ accessed xs, ∀ c ∈ parameters xs ++ accessed xs,
      b.1 = c.1 → b.2 = c.2 := by
  intro b hb c hc hname
  rcases List.mem_append.1 hb with hb | hb
  · rcases List.mem_append.1 hc with hc | hc
    · exact congrArg Prod.snd (List.inj_on_of_nodup_map hxs.oneParameter hb hc hname)
    · exact hagree b hb c hc hname
  · rcases List.mem_append.1 hc with hc | hc
    · exact (hagree c hc b hb hname.symm).symm
    · exact hxs.oneType b hb c hc hname

/-- A property is declared if the blueprint has it, and has its declared type. -/
theorem declared?_of_reflects {b : Blueprint H} (hb : b.Reflects xs)
    (hone : ∀ b ∈ parameters xs ++ accessed xs, ∀ c ∈ parameters xs ++ accessed xs,
      b.1 = c.1 → b.2 = c.2) {n : String} {t : ValueType} :
    b.declared? n = some t ↔ (n, t) ∈ parameters xs ++ accessed xs := by
  have hproperty : ∀ p, b.property? n = some p → (n, p.type) ∈ parameters xs ++ accessed xs := by
    intro p hp
    rcases Blueprint.models_of_property? hp with hp | hp
    · obtain ⟨hmem, rfl⟩ := Model.mem_of_get? hp
      rw [← hb.creator]
      exact List.mem_append_left _ (List.mem_map_of_mem hmem)
    · obtain ⟨hmem, rfl⟩ := Model.mem_of_get? hp
      exact List.mem_append_right _ (hb.bean p hmem).1
  unfold Blueprint.declared?
  constructor
  · intro h
    obtain ⟨p, hp, rfl⟩ := Option.map_eq_some_iff.1 h
    exact hproperty p hp
  · intro h
    obtain ⟨p, hp⟩ : ∃ p, b.property? n = some p := by
      unfold Blueprint.property?
      rcases List.mem_append.1 h with h | h
      · have hn : n ∈ b.creator.names := by
          rw [Model.names_eq_map_signature, hb.creator]
          exact List.mem_map_of_mem h
        rw [← Model.contains_iff, Model.contains, Option.isSome_iff_exists] at hn
        obtain ⟨p, hp⟩ := hn
        cases hbean : b.bean.get? n with
        | some q => exact ⟨q, rfl⟩
        | none => exact ⟨p, hp⟩
      · have hn : n ∈ b.bean.names := by
          rw [hb.names, List.mem_eraseDups]
          exact List.mem_map_of_mem h
        rw [← Model.contains_iff, Model.contains, Option.isSome_iff_exists] at hn
        obtain ⟨p, hp⟩ := hn
        exact ⟨p, by rw [hp]; rfl⟩
    rw [hp]
    exact congrArg some (hone _ (hproperty p hp) _ h rfl)

theorem madeOf_of_declare (h : declare name path xs = .ok d) : d.MadeOf name path xs := by
  have hwf := declare_wellFormed h
  rcases declare_cases name path xs with ⟨d₀, -, rfl, rfl, -, hreflects, heq⟩ | ⟨-, m, heq⟩
  · rw [heq] at h
    obtain ⟨hname, hpath, hd⟩ := customiseAll_preserves
      (P := fun b => b.name = d₀.name ∧ b.path = d₀.path ∧ b.Reflects xs)
      (fun b c hb => ⟨hb.1, hb.2.1, hb.2.2.customised c⟩) ⟨rfl, rfl, hreflects⟩ h
    exact ⟨hd, hname, hpath, hwf.creator, hwf.bean, hd.propertyNames, hwf.distinct⟩
  · rw [heq] at h
    cases h

/-- Declarations make up a description exactly if they do not contradict each other.  It then has
what was declared; otherwise they are misconfigured. -/
theorem declare_ok_iff (name path : String) (xs : List (Declaration H)) :
    ((∃ d, declare name path xs = .ok d) ↔ Consistent xs) ∧
    (∀ d, declare name path xs = .ok d → d.MadeOf name path xs) ∧
    ∀ f, declare name path xs = .error f → ∃ m, f = .configuration m [] := by
  have hfaultless := Assembly.allFaults_eq_nil_iff xs
  refine ⟨?_, fun d => madeOf_of_declare, fun f h => ?_⟩
  · rcases declare_cases name path xs with ⟨d₀, hfaults, -, -, -, hd₀, heq⟩ | ⟨hfaults, m, heq⟩
    · obtain ⟨hxs, -, hagree⟩ := hfaultless.1 hfaults
      have hdeclared := @declared?_of_reflects H xs _ hd₀ (one_type hxs hagree)
      rw [heq, customiseAll_ok_iff]
      constructor
      · refine fun hadmits => ⟨by rw [hd₀.construct]; rfl, hxs.oneParameter, hxs.oneGetter,
          hxs.oneSetter, hxs.oneType, hagree, fun c hc => ?_⟩
        obtain ⟨t, ht, hsuits⟩ := hadmits c hc
        exact ⟨_, hdeclared.1 ht, rfl, hsuits⟩
      · intro h c hc
        obtain ⟨⟨n, t⟩, ha, rfl, hsuits⟩ := h.customisable c hc
        exact ⟨t, hdeclared.2 ha, hsuits⟩
    · refine ⟨fun ⟨d, h⟩ => ?_, fun h => ?_⟩
      · rw [heq] at h
        cases h
      · have hxs : Compatible xs :=
          ⟨Nat.le_of_eq h.construct, h.oneParameter, h.oneGetter, h.oneSetter, h.oneType⟩
        refine absurd (hfaultless.2 ⟨hxs, fun hnil => ?_, h.agree⟩) hfaults
        have hlength := h.construct
        rw [hnil] at hlength
        cases hlength
  · rcases declare_cases name path xs with ⟨d₀, -, -, -, -, -, heq⟩ | ⟨-, m, heq⟩
    · exact customiseAll_error (heq ▸ h)
    · rw [heq] at h
      cases h
      exact ⟨m, rfl⟩

/-- Accessors may come before the constructor, but two of one property have to use one type. -/
example : ∀ t ∈ [ValueType.bool, .option .bool],
    Consistent ([.setter "on" t fun o _ => pure o, .getter "on" .bool fun _ => pure none,
      .constructor fun _ => pure (none, none)] : List (Declaration Lamp.host)) ↔ t = .bool := by
  decide

end Description
end BeanContract
