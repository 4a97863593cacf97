import Scaffold.Proofs.Interface.Traits
import Scaffold.Proofs.Model.Markers
import Scaffold.Proofs.Rules.SameEffect

/-! The methods of a trait depend on the capabilities of the entity only through the answers of its
bag: bags with the same answers give the same methods, or the same failure. -/

namespace Scaffold.Interface
open Model Code Rules

section Groups
variable {inflector : Inflector} {bag other : Bag (Capability Entity)}

theorem crudMethods_of_storedOperations (e : Entity) :
    (if e.has Capability.crudType then crudMethods e else .ok []) =
      (do
        let operations ← (storedOperations e.capabilities).mapError Failure.bag
        let methods ← operations.mapM fun op => (operationMethods e op).mapError Failure.key
        return methods.flatten) := by
  unfold storedOperations
  cases marked : e.has Capability.crudType with
  | false =>
    have none := (Bag.getAll_eq_nil_iff e.capabilities Capability.crudType).2 marked
    rw [(Bag.get_eq_ok_iff _ _ Option.none).2 none]
    rfl
  | true =>
    rw [if_pos rfl, crudMethods, Bag.require]
    cases found : e.capabilities.get Capability.crudType with
    | error fault => rfl
    | ok answer =>
      cases answer with
      | none =>
        have none := (Bag.get_eq_ok_iff _ _ _).1 found
        exact absurd none ((Bag.has_iff _ _).1 marked)
      | some set => rfl

theorem lines_congr (same : SameAnswers bag other) {answers : Answers parts} (e : Entity)
    (slots : Fragment) : ∀ rule ∈ fragmentRules .interfaceMethods,
      Rule.lines (V := parts) (k := Part.interfaceMethods) answers inflector slots
          ⟨e.withCapabilities bag⟩ rule =
        Rule.lines (V := parts) (k := Part.interfaceMethods) answers inflector slots
          ⟨e.withCapabilities other⟩ rule := by
  intro rule hr
  simp only [fragmentRules, List.mem_cons, List.not_mem_nil, or_false] at hr
  rcases hr with rfl | rfl | rfl | rfl | rfl
  · rw [lines_carrying fun acc => value_crudBody inflector acc _,
      lines_carrying fun acc => value_crudBody inflector acc _,
      crudMethods_of_storedOperations, crudMethods_of_storedOperations]
    simp only [Entity.withCapabilities, same.operations]
    rfl
  · rw [lines_carrying fun acc => value_searchBody inflector acc _,
      lines_carrying fun acc => value_searchBody inflector acc _, Entity.has_congr same.search]
    rfl
  · rw [lines_carrying fun acc => value_associateBody inflector acc _,
      lines_carrying fun acc => value_associateBody inflector acc _, Entity.has_congr same.associate]
    simp only [associateMethods, Entity.withCapabilities, same.associate]
    rfl
  · rw [lines_carrying fun acc => value_filterKeysBody inflector acc _,
      lines_carrying fun acc => value_filterKeysBody inflector acc _, Entity.has_congr same.filterKeys]
    rfl
  · rw [lines_carrying fun acc => value_listByAssociatedKeyBody inflector acc _,
      lines_carrying fun acc => value_listByAssociatedKeyBody inflector acc _,
      Entity.has_congr same.listings]
    simp only [listByMethods, Entity.withCapabilities, same.listings]
    rfl

theorem buildFragment_congr (same : SameAnswers bag other) (e : Entity) (acc : Fragment)
    (w : World) :
    (registry.withInflector inflector).buildFragment (V := parts) (k := .interfaceMethods) acc
        ⟨e.withCapabilities bag⟩ w =
      (registry.withInflector inflector).buildFragment (V := parts) (k := .interfaceMethods) acc
        ⟨e.withCapabilities other⟩ w := by
  rw [buildFragment_eq_answers, buildFragment_eq_answers, answers_buildFragment,
    answers_buildFragment]
  rw [value_fragmentScript_congr additive_fragmentRules (lines_congr same e acc)]

end Groups
end Scaffold.Interface
