/-
Where customisations can be attached.

A customisation can be declared along with the rest of a description, anywhere among the other
declarations, or be handed over with the description when it is verified.  Declared ones are
applied after everything else (`Description.declare_customised`), and a verification applies those
it gets before it does anything (`Verifier.verify_append`).  So it does not matter where a list of
customisations is cut into declared ones and later ones, and a list that cannot be applied fails
with the same misconfiguration wherever it is cut (`Description.settled_wherever_attached`).
-/
import BeanContract.Proofs.Bean.Declaration
import BeanContract.Proofs.Check.Ignored

namespace BeanContract

variable {H : Host}

namespace Declaration

def uncustomised (xs : List (Declaration H)) : List (Declaration H) :=
  xs.filter fun x => x.customisation?.isNone

variable (xs : List (Declaration H)) {x : Declaration H}

theorem uncustomised_concat_of_none (hx : x.customisation? = none) :
    uncustomised (xs ++ [x]) = uncustomised xs ++ [x] := by
  unfold uncustomised
  rw [List.filter_append, List.filter_singleton, hx, Option.isNone_none, cond_true]

theorem uncustomised_concat_of_some {c : Customisation H} (hx : x.customisation? = some c) :
    uncustomised (xs ++ [x]) = uncustomised xs := by
  unfold uncustomised
  rw [List.filter_append, List.filter_singleton, hx, Option.isNone_some, cond_false,
    List.append_nil]

theorem customisations_uncustomised : customisations (uncustomised xs) = [] := by
  unfold customisations uncustomised
  rw [List.filterMap_eq_nil_iff]
  exact fun x hx => Option.isNone_iff_eq_none.1 (List.mem_filter.1 hx).2

end Declaration

namespace Assembly

open Declaration

variable {a : Assembly H} {x : Declaration H} {cs : List (Customisation H)}

/-- The assembly with other customisations put aside for the end. -/
def attach (a : Assembly H) (cs : List (Customisation H)) : Assembly H :=
  { a with customisations := cs }

/-- The other declarations are taken in without a look at the customisations. -/
theorem add_attach (a : Assembly H) (cs : List (Customisation H)) (hx : x.customisation? = none) :
    (a.attach cs).add x = (a.add x).attach cs := by
  have hconstructor : ∀ construct,
      (a.attach cs).setConstructor construct = (a.setConstructor construct).attach cs := by
    intro construct
    unfold setConstructor attach
    dsimp only
    split <;> rfl
  have haccessor : ∀ n t declared second set, (a.attach cs).setAccessor n t declared second set =
      (a.setAccessor n t declared second set).attach cs := by
    intro n t declared second set
    unfold setAccessor attach
    dsimp only
    split
    · rfl
    · split
      · rfl
      · split <;> rfl
  cases x with
  | constructor construct => exact hconstructor construct
  | builder construct text =>
    unfold add
    dsimp only
    rw [hconstructor]
    rfl
  | parameter n t =>
    unfold add attach
    dsimp only
    split <;> rfl
  | getter n t get =>
    exact haccessor n t Property.isReadable (.secondGetter n) fun p => { p with getter := some get }
  | setter n t set =>
    exact haccessor n t Property.isWritable (.secondSetter n) fun p => { p with setter := some set }
  | customise c => cases hx

/-- It does not matter where the customisations stand among the declarations. -/
theorem foldl_uncustomised (xs : List (Declaration H)) : xs.foldl add ({} : Assembly H) =
    ((uncustomised xs).foldl add {}).attach (Declaration.customisations xs) := by
  induction xs using List.reverseRecOn with
  | nil => rfl
  | append_singleton xs x ih =>
    rw [List.foldl_concat, ih, customisations_concat]
    cases hx : x.customisation? with
    | none =>
      rw [uncustomised_concat_of_none xs hx, List.foldl_concat, add_attach _ _ hx, Option.toList,
        List.append_nil]
    | some c =>
      rw [uncustomised_concat_of_some xs hx]
      cases x with
      | customise c' =>
        cases hx
        rfl
      | _ => cases hx

end Assembly

namespace Description

open Declaration

/-- Declared customisations are applied to what the other declarations make up. -/
theorem declare_customised (name path : String) (xs : List (Declaration H)) :
    declare name path xs =
      declare name path (uncustomised xs) >>= fun d => d.customiseAll (customisations xs) := by
  have hplain : ((uncustomised xs).foldl Assembly.add ({} : Assembly H)).customisations = [] := by
    rw [Assembly.foldl_uncustomised]
    exact customisations_uncustomised xs
  unfold declare
  dsimp only
  rw [hplain, Assembly.foldl_uncustomised xs]
  generalize (uncustomised xs).foldl Assembly.add {} = a
  have hconstruct : (a.attach (customisations xs)).construct = a.construct := rfl
  have hfaults : (a.attach (customisations xs)).allFaults = a.allFaults := rfl
  rw [hconstruct, hfaults]
  cases a.construct with
  | none => rfl
  | some construct =>
    cases a.allFaults with
    | nil => rfl
    | cons fault faults => rfl

theorem plain_of_declare {name path : String} {xs : List (Declaration H)} {d : Description H}
    (hxs : customisations xs = []) (h : declare name path xs = .ok d) : d.Plain := by
  rcases declare_cases name path xs with ⟨d₀, -, -, -, hplain, -, heq⟩ | ⟨-, m, heq⟩
  · rw [heq, hxs] at h
    cases h
    exact hplain
  · rw [heq] at h
    cases h

end Description

/-! ## Verification -/

/-- A verification applies its customisations before it does anything. -/
theorem Verifier.verify_append (v : Verifier H) (chance : UInt64) {d d' : Description H}
    {cs : List (Customisation H)} (h : d.customiseAll cs = .ok d') (cs' : List (Customisation H)) :
    v.verify chance d (cs ++ cs') = v.verify chance d' cs' := by
  have hrun : run d (cs ++ cs') = run d' cs' := by
    unfold run
    rw [Description.customiseAll_append, h]
    rfl
  unfold verify
  rw [hrun]

/-- Customisations that cannot be applied end a verification before it does anything. -/
theorem Verifier.verify_append_of_error (v : Verifier H) (chance : UInt64) {d : Description H}
    {cs : List (Customisation H)} {f : Failure} (h : d.customiseAll cs = .error f)
    (cs' : List (Customisation H)) (w : H.World) :
    v.verify chance d (cs ++ cs') w = .error (.failure f) w := by
  obtain ⟨m, rfl⟩ := Description.customiseAll_error h
  unfold verify inContext run
  rw [Description.customiseAll_append, h]
  rfl

/-- Customisations settle a description that was declared without any, and only the order among
those of one property matters.  It does not matter either how many of them are declared, and among
which other declarations, and how many are handed over for the verification: that is the same
computation, or ends in the misconfiguration that the declaration ends in. -/
theorem Description.settled_wherever_attached {name path : String} {xs : List (Declaration H)}
    {d : Description H} (hxs : Declaration.customisations xs = [])
    (h : declare name path xs = .ok d) :
    (∀ cs d', d.customiseAll cs = .ok d' → d.Settled cs d') ∧
    (∀ cs cs' d', (∀ n, cs'.filter (fun c => c.property = n) = cs.filter fun c => c.property = n) →
      d.customiseAll cs = .ok d' → ∃ d'', d.customiseAll cs' = .ok d'' ∧
        d''.creator = d'.creator ∧ d''.bean = d'.bean) ∧
    ∀ ys cs cs', Declaration.uncustomised ys = xs → Declaration.customisations ys = cs →
      ∀ (v : Verifier H) (chance : UInt64), match declare name path ys with
        | .ok d' => v.verify chance d' cs' = v.verify chance d (cs ++ cs')
        | .error f => (∃ m, f = .configuration m []) ∧
          ∀ w, v.verify chance d (cs ++ cs') w = .error (.failure f) w := by
  refine ⟨fun cs d' => settled_of_customiseAll (plain_of_declare hxs h),
    fun cs cs' d' => customiseAll_reordered, ?_⟩
  rintro ys cs cs' rfl rfl v chance
  have heq : declare name path ys = d.customiseAll (Declaration.customisations ys) := by
    rw [declare_customised, h]
    rfl
  rw [heq]
  cases hd : d.customiseAll (Declaration.customisations ys) with
  | ok d' => exact (v.verify_append chance hd cs').symm
  | error f => exact ⟨customiseAll_error hd, v.verify_append_of_error chance hd cs'⟩

namespace Node

def declarations : List (Declaration host) :=
  [.constructor fun _ => pure (), .getter "note" .bool fun _ => pure none,
    .setter "note" .bool fun _ _ => pure ()]

def noted (flags : Flags) : Description host where
  name := "Node"
  path := "Node"
  creator := .empty
  bean := ⟨[
    { name := "note", type := .bool, flags := flags,
      getter := some fun _ => pure none, setter := some fun _ _ => pure () }]⟩
  construct := fun _ => pure ()
  builderText := none
  factories := []

/-- The later of two customisations counts, and both can be declared or handed over. -/
theorem settled_wherever_attached_note :
    Declaration.customisations declarations = [] ∧
    Description.declare "Node" "Node" declarations = .ok (noted {}) ∧
    (noted {}).Settled [.notNull "note", .nullable "note"] (noted { nullable := true }) ∧
    (∃ statistics calls, verifier.verify 0 (noted { nullable := true }) [.ignore "note"] (0 : Nat) =
      .ok statistics calls) ∧
    ∀ chance, verifier.verify chance (noted { nullable := true }) [.ignore "note"] =
      verifier.verify chance (noted {}) [.notNull "note", .nullable "note", .ignore "note"] := by
  have hplain : Declaration.customisations declarations = [] := rfl
  have hdeclared : Description.declare "Node" "Node" declarations = .ok (noted {}) := rfl
  obtain ⟨hsettled, -, hattached⟩ := Description.settled_wherever_attached hplain hdeclared
  refine ⟨hplain, hdeclared, hsettled _ _ rfl, ?_, fun chance => ?_⟩
  · exact Effect.isSome_result?.1 (by decide +kernel)
  · exact hattached (.customise (.notNull "note") :: declarations ++ [.customise (.nullable "note")])
      _ [.ignore "note"] rfl rfl verifier chance

end Node
end BeanContract
