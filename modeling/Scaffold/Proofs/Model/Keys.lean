import Mathlib.Data.List.Basic
import Scaffold.Storage.Capabilities

/-! When questions to a capability bag and to the key of an entity have an answer, and which. A
storage rule that asks for more than one of these succeeds just when all of them have answers. -/

namespace Scaffold

namespace Bag
variable {μ α : Type} (bag : Bag μ) (T : MarkerType μ α)

theorem getAll_eq_nil_iff : bag.getAll T = [] ↔ bag.has T = false := by
  rw [← Bool.not_eq_true, has_iff, ne_eq, not_not]

theorem get_eq_ok_iff (answer : Option α) :
    bag.get T = .ok answer ↔ bag.getAll T = answer.toList := by
  rw [get, getMatching_eq, getAllMatching, List.filter_eq_self.2 fun _ _ => rfl]
  rcases bag.getAll T with _ | ⟨a, _ | ⟨b, rest⟩⟩ <;> cases answer <;> simp [eq_comm]

theorem get_congr {bag other : Bag μ} {T : MarkerType μ α} (same : bag.getAll T = other.getAll T) :
    bag.get T = other.get T := by
  rw [get, get, getMatching_eq, getMatching_eq, getAllMatching, getAllMatching, same]

theorem exists_get_iff : (∃ answer, bag.get T = .ok answer) ↔ (bag.getAll T).length ≤ 1 := by
  simp only [get_eq_ok_iff]
  rcases bag.getAll T with _ | ⟨a, _ | ⟨b, rest⟩⟩
  · exact iff_of_true ⟨none, rfl⟩ (Nat.zero_le 1)
  · exact iff_of_true ⟨some a, rfl⟩ (Nat.le_refl 1)
  · refine iff_of_false ?_ (by simp)
    rintro ⟨_ | c, same⟩
    · cases same
    · cases same

theorem require_eq_ok_iff (context : String) (a : α) :
    bag.require T context = .ok a ↔ bag.getAll T = [a] := by
  unfold require
  cases found : bag.get T with
  | error fault =>
    refine iff_of_false nofun fun single => ?_
    rw [(bag.get_eq_ok_iff T (some a)).2 single] at found
    cases found
  | ok answer =>
    rw [(bag.get_eq_ok_iff T answer).1 found]
    cases answer <;> simp

end Bag

namespace Model.Entity
variable (e : Entity)

theorem singleKey_eq_ok_iff (rule : String) (field : Field) :
    e.singleKey rule = .ok field ↔ e.keyFields = [field] := by
  unfold singleKey keyStrategy KeyStrategy.resolve
  rcases e.keyFields with _ | ⟨first, _ | ⟨second, rest⟩⟩ <;> simp

theorem exists_keyCode_iff (qualifier? : Option String) :
    (∃ key, e.keyCode qualifier? = .ok key) ↔ e.keyFields ≠ [] := by
  unfold keyCode keyStrategy KeyStrategy.resolve
  rcases e.keyFields with _ | ⟨first, _ | ⟨second, rest⟩⟩ <;> simp

theorem keyCode_of_single {e : Entity} {field : Field} (single : e.keyFields = [field])
    (qualifier? : Option String) : e.keyCode qualifier? = .ok field.type := by
  rw [keyCode, keyStrategy, single, KeyStrategy.resolve]

theorem keyStrategy_of_composite {e : Entity} (composite : 2 ≤ e.keyFields.length) :
    e.keyStrategy = .composite (e.name ++ "Key") e.keyFields := by
  unfold keyStrategy KeyStrategy.resolve
  rcases fields : e.keyFields with _ | ⟨first, _ | ⟨second, rest⟩⟩
  · simp [fields] at composite
  · simp [fields] at composite
  · rfl

theorem keyCode_of_composite {e : Entity} (composite : 2 ≤ e.keyFields.length)
    (qualifier? : Option String) :
    e.keyCode qualifier? = .ok (qualify (qualifier?.getD "") (e.name ++ "Key")) := by
  rw [keyCode, keyStrategy_of_composite composite]

theorem keyDeclaration?_of_not_composite {e : Entity} (plain : ¬2 ≤ e.keyFields.length) :
    e.keyDeclaration? = none := by
  unfold keyDeclaration? keyStrategy KeyStrategy.resolve
  rcases fields : e.keyFields with _ | ⟨first, _ | ⟨second, rest⟩⟩
  · rfl
  · rfl
  · simp [fields] at plain

end Model.Entity

namespace Storage
open Model
variable (e : Entity)

theorem singleKeyOf_eq_ok_iff (rule : String) (field : Field) :
    singleKeyOf e rule = .ok field ↔ e.keyFields = [field] :=
  mapError_eq_ok.trans (e.singleKey_eq_ok_iff rule field)

theorem exists_singleKeyOf_iff (rule : String) :
    (∃ field, singleKeyOf e rule = .ok field) ↔ e.keyFields.length = 1 := by
  simp only [singleKeyOf_eq_ok_iff, List.length_eq_one_iff]

theorem exists_keyOf_iff (qualifier : String) :
    (∃ key, keyOf e qualifier = .ok key) ↔ e.keyFields ≠ [] := by
  simp only [keyOf, mapError_eq_ok, Entity.exists_keyCode_iff]

theorem keyOf_of_single {e : Entity} {field : Field} (single : e.keyFields = [field])
    (qualifier : String) : keyOf e qualifier = .ok field.type :=
  mapError_eq_ok.2 (Entity.keyCode_of_single single _)

theorem exists_namesOf_iff (inflector : Inflector) :
    (∃ names, namesOf e inflector = .ok names) ↔
      (e.capabilities.getAll Capability.storageType).length ≤ 1 := by
  rw [← Bag.exists_get_iff]
  simp only [namesOf, mapError_eq_ok, Names.of, bind_eq_ok]
  constructor
  · rintro ⟨names, options?, found, -⟩
    exact ⟨options?, found⟩
  · rintro ⟨options?, found⟩
    exact ⟨_, options?, found, rfl⟩

theorem exists_of_namesOf {e : Entity} {inflector : Inflector} {names : Names}
    (named : namesOf e inflector = .ok names) :
    ∃ table contextScope?, names = ⟨e.name, e.internalName, e.interfaceName ++ "Impl",
      e.interfaceName ++ "Params", "new_" ++ inflector.snake e.name ++ "_repository",
      inflector.snake e.name, table, contextScope?⟩ := by
  obtain ⟨options?, -, made⟩ := bind_eq_ok.1 (mapError_eq_ok.1 named)
  exact ⟨_, _, (Except.ok.inj made).symm⟩

end Storage
end Scaffold
