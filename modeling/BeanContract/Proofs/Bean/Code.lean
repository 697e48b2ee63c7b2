/-
Blueprints of the same shape, and with the same code.

What is tested, and with values of which types, is a matter of the shape of a blueprint
(`Blueprint.SameShape`): the names of its properties, their types, all switches but that for
significance, and which of them have getters and setters.

Learning about the absence of properties leaves everything else about them alone.  Two
blueprints that differ in that knowledge only (`Blueprint.SameCode`) have the same shape, and
construct, read and write alike.
-/
import BeanContract.Proofs.Effect
import BeanContract.Bean.Blueprint

namespace BeanContract

variable {H : Host}

namespace Property

/-- The properties differ at most in their code, in their significance and in what is known
about their absence. -/
structure SameShape (p q : Property H) : Prop where
  name : q.name = p.name
  type : q.type = p.type
  flags : q.flags = { p.flags with significant := q.flags.significant }
  isReadable : q.isReadable = p.isReadable
  isWritable : q.isWritable = p.isWritable

protected theorem SameShape.refl (p : Property H) : p.SameShape p := ⟨rfl, rfl, rfl, rfl, rfl⟩

theorem SameShape.ignored {p q : Property H} (h : p.SameShape q) :
    q.flags.ignored = p.flags.ignored := by
  rw [h.flags]

/-- The properties differ at most in what is known about their absence. -/
def SameCode (p q : Property H) : Prop := q = { p with onNull := q.onNull, onOmit := q.onOmit }

theorem sameCode_setFinding (p : Property H) (op : Absence) (f : Finding H) :
    p.SameCode (p.setFinding op f) := by
  cases op with
  | omitted => rfl
  | setToNull => rfl

theorem finding_setFinding (p : Property H) (op op' : Absence) (f : Finding H) :
    (p.setFinding op f).finding op' = if op' = op then f else p.finding op' := by
  cases op <;> cases op' <;> rfl

namespace SameCode

variable {p q : Property H}

theorem shape (h : p.SameCode q) : p.SameShape q := by
  rw [h]
  exact ⟨rfl, rfl, rfl, rfl, rfl⟩

theorem name (h : p.SameCode q) : q.name = p.name := h.shape.name

theorem type (h : p.SameCode q) : q.type = p.type := h.shape.type

theorem flags (h : p.SameCode q) : q.flags = p.flags := by
  rw [h]

theorem isWritable (h : p.SameCode q) : q.isWritable = p.isWritable := h.shape.isWritable

theorem read (h : p.SameCode q) : q.read = p.read := by
  funext o
  rw [h]
  rfl

theorem write (h : p.SameCode q) : q.write = p.write := by
  funext o v
  rw [h]
  rfl

end SameCode
end Property

/-- Each property of the second list has a partner in the first. -/
theorem exists_of_forall₂ {R : Property H → Property H → Prop} {ps qs : List (Property H)}
    (h : List.Forall₂ R ps qs) {q : Property H} (hq : q ∈ qs) : ∃ p ∈ ps, R p q := by
  induction h with
  | nil => cases hq
  | @cons p q' ps qs hpq _ ih =>
    rcases List.mem_cons.1 hq with rfl | hq
    · exact ⟨p, List.mem_cons_self, hpq⟩
    · obtain ⟨p', hp', hpq'⟩ := ih hq
      exact ⟨p', List.mem_cons_of_mem p hp', hpq'⟩

/-- There is a list of partners if each property has a partner. -/
theorem exists_forall₂_iff {R : Property H → Property H → Prop} {ps : List (Property H)} :
    (∃ qs, List.Forall₂ R ps qs) ↔ ∀ p ∈ ps, ∃ q, R p q := by
  constructor
  · rintro ⟨qs, h⟩
    induction h with
    | nil => simp
    | cons hpq _ ih => exact List.forall_mem_cons.2 ⟨⟨_, hpq⟩, ih⟩
  · intro h
    induction ps with
    | nil => exact ⟨[], .nil⟩
    | cons p ps ih =>
      obtain ⟨q, hpq⟩ := h p List.mem_cons_self
      obtain ⟨qs, hqs⟩ := ih fun p' hp' => h p' (List.mem_cons_of_mem p hp')
      exact ⟨q :: qs, .cons hpq hqs⟩

def FoundBoth {β : Type} (R : β → β → Prop) (found found' : Option β) : Prop :=
  (∃ p q, found = some p ∧ found' = some q ∧ R p q) ∨ found = none ∧ found' = none

namespace Model

variable {R : Property H → Property H → Prop}

/-- Models whose properties are related one by one, under the same names, give related
results when a name is looked up. -/
theorem get?_rel (hR : ∀ p q, R p q → q.name = p.name) {m m' : Model H}
    (h : List.Forall₂ R m.properties m'.properties) (n : String) :
    FoundBoth R (m.get? n) (m'.get? n) := by
  obtain ⟨ps⟩ := m
  obtain ⟨qs⟩ := m'
  unfold get?
  dsimp only at h ⊢
  induction h with
  | nil => exact .inr ⟨rfl, rfl⟩
  | @cons p q ps qs hpq _ ih =>
    rw [List.find?_cons, List.find?_cons, hR p q hpq]
    by_cases hn : p.name = n
    · simp only [hn, decide_true]
      exact .inl ⟨p, q, rfl, rfl, hpq⟩
    · simp only [hn, decide_false]
      exact ih

theorem names_eq (hR : ∀ p q, R p q → q.name = p.name) {m m' : Model H}
    (h : List.Forall₂ R m.properties m'.properties) : m'.names = m.names := by
  obtain ⟨ps⟩ := m
  obtain ⟨qs⟩ := m'
  unfold names
  dsimp only at h ⊢
  induction h with
  | nil => rfl
  | @cons p q ps qs hpq _ ih => rw [List.map_cons, List.map_cons, ih, hR p q hpq]

end Model

namespace Blueprint

/-- Where look-ups in the models find related properties, look-ups in both at once do. -/
theorem property?_rel {R : Property H → Property H → Prop} {b b' : Blueprint H} {n : String}
    (hcreator : FoundBoth R (b.creator.get? n) (b'.creator.get? n))
    (hbean : FoundBoth R (b.bean.get? n) (b'.bean.get? n)) :
    FoundBoth R (b.property? n) (b'.property? n) := by
  unfold property?
  rcases hbean with ⟨p, q, hp, hq, hpq⟩ | ⟨hp, hq⟩
  · rw [hp, hq]
    exact .inl ⟨p, q, rfl, rfl, hpq⟩
  · rw [hp, hq]
    exact hcreator

structure SameShape (b b' : Blueprint H) : Prop where
  name : b'.name = b.name
  path : b'.path = b.path
  creator : List.Forall₂ Property.SameShape b.creator.properties b'.creator.properties
  bean : List.Forall₂ Property.SameShape b.bean.properties b'.bean.properties

namespace SameShape

variable {b b' : Blueprint H}

protected theorem refl (b : Blueprint H) : b.SameShape b :=
  ⟨rfl, rfl, List.forall₂_same.2 fun p _ => .refl p, List.forall₂_same.2 fun p _ => .refl p⟩

theorem creator_rel (h : b.SameShape b') (n : String) :
    FoundBoth Property.SameShape (b.creator.get? n) (b'.creator.get? n) :=
  Model.get?_rel (fun _ _ => Property.SameShape.name) h.creator n

theorem bean_rel (h : b.SameShape b') (n : String) :
    FoundBoth Property.SameShape (b.bean.get? n) (b'.bean.get? n) :=
  Model.get?_rel (fun _ _ => Property.SameShape.name) h.bean n

theorem property_rel (h : b.SameShape b') (n : String) :
    FoundBoth Property.SameShape (b.property? n) (b'.property? n) :=
  property?_rel (h.creator_rel n) (h.bean_rel n)

theorem creator_names (h : b.SameShape b') : b'.creator.names = b.creator.names :=
  Model.names_eq (fun _ _ => Property.SameShape.name) h.creator

theorem bean_names (h : b.SameShape b') : b'.bean.names = b.bean.names :=
  Model.names_eq (fun _ _ => Property.SameShape.name) h.bean

theorem type (h : b.SameShape b') : b'.type = b.type := by
  unfold Blueprint.type
  rw [h.path]

theorem isParameter (h : b.SameShape b') (n : String) : b'.isParameter n = b.isParameter n := by
  unfold Blueprint.isParameter Model.contains
  rcases h.creator_rel n with ⟨p, q, hp, hq, -⟩ | ⟨hp, hq⟩
  · rw [hp, hq]
    rfl
  · rw [hp, hq]

theorem isReadable (h : b.SameShape b') (n : String) : b'.isReadable n = b.isReadable n := by
  unfold Blueprint.isReadable
  rcases h.bean_rel n with ⟨p, q, hp, hq, hpq⟩ | ⟨hp, hq⟩
  · rw [hp, hq]
    exact hpq.isReadable
  · rw [hp, hq]

theorem isWritable (h : b.SameShape b') (n : String) : b'.isWritable n = b.isWritable n := by
  unfold Blueprint.isWritable
  rcases h.bean_rel n with ⟨p, q, hp, hq, hpq⟩ | ⟨hp, hq⟩
  · rw [hp, hq]
    exact hpq.isWritable
  · rw [hp, hq]

/-- A test of the flags of a property that does not ask for its significance has the same
result. -/
theorem any_flags (h : b.SameShape b') (n : String) (test : Flags → Bool)
    (htest : ∀ flags s, test { flags with significant := s } = test flags) :
    (b'.property? n).any (fun p => test p.flags) =
      (b.property? n).any (fun p => test p.flags) := by
  rcases h.property_rel n with ⟨p, q, hp, hq, hpq⟩ | ⟨hp, hq⟩
  · rw [hp, hq]
    exact (congrArg test hpq.flags).trans (htest p.flags _)
  · rw [hp, hq]

theorem isNullable (h : b.SameShape b') (n : String) : b'.isNullable n = b.isNullable n :=
  h.any_flags n (·.nullable) fun _ _ => rfl

theorem isTestable (h : b.SameShape b') (n : String) : b'.isTestable n = b.isTestable n := by
  unfold Blueprint.isTestable
  rw [h.any_flags n (!·.ignored) fun _ _ => rfl, h.isParameter, h.isWritable]

theorem propertyNames (h : b.SameShape b') : b'.propertyNames = b.propertyNames := by
  have hcontains : b'.creator.contains = b.creator.contains := funext h.isParameter
  unfold Blueprint.propertyNames
  rw [h.creator_names, h.bean_names, hcontains]

theorem testable (h : b.SameShape b') : b'.testable = b.testable := by
  unfold Blueprint.testable
  rw [h.propertyNames, funext h.isTestable]

theorem staged (h : b.SameShape b') : b'.staged = b.staged := by
  unfold Blueprint.staged
  rw [h.propertyNames, funext h.isTestable, funext h.isParameter]

end SameShape

/-- The blueprints differ at most in what is known about the absence of properties. -/
structure SameCode (b b' : Blueprint H) : Prop where
  name : b'.name = b.name
  path : b'.path = b.path
  construct : b'.construct = b.construct
  builderText : b'.builderText = b.builderText
  creator : List.Forall₂ Property.SameCode b.creator.properties b'.creator.properties
  bean : List.Forall₂ Property.SameCode b.bean.properties b'.bean.properties

namespace SameCode

variable {b b' : Blueprint H}

theorem of_eq (h : b = b') : b.SameCode b' := by
  subst h
  exact ⟨rfl, rfl, rfl, rfl, List.forall₂_same.2 fun _ _ => rfl,
    List.forall₂_same.2 fun _ _ => rfl⟩

theorem shape (h : b.SameCode b') : b.SameShape b' :=
  ⟨h.name, h.path, h.creator.imp fun _ _ => Property.SameCode.shape,
    h.bean.imp fun _ _ => Property.SameCode.shape⟩

theorem creator_rel (h : b.SameCode b') (n : String) :
    FoundBoth Property.SameCode (b.creator.get? n) (b'.creator.get? n) :=
  Model.get?_rel (fun _ _ => Property.SameCode.name) h.creator n

theorem bean_rel (h : b.SameCode b') (n : String) :
    FoundBoth Property.SameCode (b.bean.get? n) (b'.bean.get? n) :=
  Model.get?_rel (fun _ _ => Property.SameCode.name) h.bean n

theorem property_rel (h : b.SameCode b') (n : String) :
    FoundBoth Property.SameCode (b.property? n) (b'.property? n) :=
  property?_rel (h.creator_rel n) (h.bean_rel n)

theorem creator_names (h : b.SameCode b') : b'.creator.names = b.creator.names :=
  h.shape.creator_names

theorem bean_names (h : b.SameCode b') : b'.bean.names = b.bean.names := h.shape.bean_names

theorem type (h : b.SameCode b') : b'.type = b.type := h.shape.type

theorem isParameter (h : b.SameCode b') (n : String) : b'.isParameter n = b.isParameter n :=
  h.shape.isParameter n

theorem isReadable (h : b.SameCode b') (n : String) : b'.isReadable n = b.isReadable n :=
  h.shape.isReadable n

/-- A test of the flags of a property has the same result. -/
theorem any_flags (h : b.SameCode b') (n : String) (test : Flags → Bool) :
    (b'.property? n).any (fun p => test p.flags) =
      (b.property? n).any (fun p => test p.flags) := by
  rcases h.property_rel n with ⟨p, q, hp, hq, hpq⟩ | ⟨hp, hq⟩
  · rw [hp, hq]
    exact congrArg test hpq.flags
  · rw [hp, hq]

theorem isTestable (h : b.SameCode b') (n : String) : b'.isTestable n = b.isTestable n :=
  h.shape.isTestable n

theorem staged (h : b.SameCode b') : b'.staged = b.staged := h.shape.staged

theorem build (h : b.SameCode b') : b'.build = b.build := by
  funext args
  unfold Blueprint.build
  rw [h.construct]

theorem read (h : b.SameCode b') (bean : Value H) (n : String) :
    b'.read bean n = b.read bean n := by
  have hobject : b'.object? n bean = b.object? n bean := by
    unfold object?
    rw [h.path, h.type]
  unfold Blueprint.read
  rcases h.bean_rel n with ⟨p, q, hp, hq, hpq⟩ | ⟨hp, hq⟩
  · rw [hp, hq, hobject]
    dsimp only
    rw [hpq.read]
  · rw [hp, hq]

end SameCode
end Blueprint
end BeanContract
