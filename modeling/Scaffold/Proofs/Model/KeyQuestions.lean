import Scaffold.Model.KeyMemory
import Scaffold.Proofs.Model.Keys

/-! The questions about a key agree with one another. Every answer depends on the key fields of the
entity alone, in the order of their declaration, and their number decides which questions have one.
What was asked before, of the entity or of a shape of it, changes no answer: a strategy that is known
is the one that would be found again. -/

namespace Scaffold.Model

namespace Entity
variable (e : Entity)

/-! ## Answers and key fields -/

theorem keyStrategy_eq_none_iff : e.keyStrategy = .none ↔ e.keyFields.length = 0 := by
  unfold keyStrategy KeyStrategy.resolve
  rcases e.keyFields with _ | ⟨first, _ | ⟨second, rest⟩⟩ <;> simp

theorem keyStrategy_eq_direct_iff (field : Field) :
    e.keyStrategy = .direct field ↔ e.keyFields = [field] := by
  unfold keyStrategy KeyStrategy.resolve
  rcases e.keyFields with _ | ⟨first, _ | ⟨second, rest⟩⟩ <;> simp

theorem keyStrategy_eq_composite_iff (typeName : String) (fields : List Field) :
    e.keyStrategy = .composite typeName fields ↔
      2 ≤ e.keyFields.length ∧ typeName = e.name ++ "Key" ∧ fields = e.keyFields := by
  unfold keyStrategy KeyStrategy.resolve
  rcases e.keyFields with _ | ⟨first, _ | ⟨second, rest⟩⟩
  · simp
  · simp
  · simp [eq_comm]

theorem count_keyStrategy : e.keyStrategy.count = e.keyFields.length := by
  unfold keyStrategy KeyStrategy.resolve
  rcases e.keyFields with _ | ⟨first, _ | ⟨second, rest⟩⟩ <;> rfl

theorem keyCode_eq_error_iff (qualifier? : Option String) (fault : KeyFault) :
    e.keyCode qualifier? = .error fault ↔ e.keyFields = [] ∧ fault = .noKeyFields e.name := by
  unfold keyCode keyStrategy KeyStrategy.resolve
  rcases e.keyFields with _ | ⟨first, _ | ⟨second, rest⟩⟩
  · simp [eq_comm]
  · simp
  · simp

theorem keyCode_const_iff :
    (∃ field ∈ e.keyFields, ∀ qualifier?, e.keyCode qualifier? = .ok field.type) ↔
      e.keyFields.length = 1 := by
  constructor
  · rintro ⟨field, member, same⟩
    have some_key : 1 ≤ e.keyFields.length := List.length_pos_of_mem member
    refine Nat.le_antisymm (Nat.le_of_not_lt fun composite => ?_) some_key
    have plain := same none
    have qualified := same (some "m")
    rw [keyCode_of_composite composite] at plain qualified
    have texts := congrArg String.length
      ((Except.ok.inj qualified).trans (Except.ok.inj plain).symm)
    simp [qualify] at texts
  · intro one
    obtain ⟨field, single⟩ := List.length_eq_one_iff.1 one
    exact ⟨field, by simp [single], keyCode_of_single single⟩

def keyHead : String :=
  "/// " ++ (e.name ++ "Key") ++ " is the key for " ++ e.name ++ "\n"
    ++ "#[derive(Debug, Clone, PartialEq, Eq, Hash)]\n" ++ "pub struct " ++ (e.name ++ "Key")

theorem keyDeclaration?_eq_some_iff (text : String) :
    e.keyDeclaration? = some text ↔ 2 ≤ e.keyFields.length ∧
      text = block e.keyHead (Text.Lines.join
        (e.keyFields.map fun f => "    pub " ++ f.name ++ ": " ++ f.type ++ ",")) := by
  change _ ↔ _ ∧ text = block e.keyHead (Text.Lines.join (e.keyFields.map KeyStrategy.declarationLine))
  by_cases composite : 2 ≤ e.keyFields.length
  · rw [keyDeclaration?, keyStrategy_of_composite composite, KeyStrategy.declaration?,
      Option.some_inj, eq_comm, and_iff_right composite]
    simp only [block, keyHead, String.append_assoc]
  · rw [keyDeclaration?_of_not_composite composite]
    exact iff_of_false nofun fun h => composite h.1

theorem singleKey_of_ne_one (rule : String) (other : e.keyFields.length ≠ 1) :
    e.singleKey rule = .error (.singleKeyRequired e.name rule e.keyFields.length) := by
  unfold singleKey keyStrategy KeyStrategy.resolve
  rcases fields : e.keyFields with _ | ⟨first, _ | ⟨second, rest⟩⟩
  · rfl
  · simp [fields] at other
  · rfl

/-- What an entity answers, told by its key fields. -/
structure KeyedBy (e : Entity) (K : List Field) : Prop where
  none_iff : e.keyStrategy = .none ↔ K.length = 0
  direct_iff : ∀ field, e.keyStrategy = .direct field ↔ K = [field]
  composite_iff : ∀ typeName fields, e.keyStrategy = .composite typeName fields ↔
    2 ≤ K.length ∧ typeName = e.name ++ "Key" ∧ fields = K
  count : e.keyStrategy.count = K.length
  code_error_iff : ∀ qualifier? fault, e.keyCode qualifier? = .error fault ↔
    K = [] ∧ fault = .noKeyFields e.name
  code_own_iff : (∃ field ∈ K, ∀ qualifier?, e.keyCode qualifier? = .ok field.type) ↔ K.length = 1
  code_qualified : 2 ≤ K.length → ∃ plain, e.keyCode none = .ok plain ∧
    ∀ module, e.keyCode (some module) = .ok (qualify module plain)
  declaration_iff : ∀ text, e.keyDeclaration? = some text ↔ 2 ≤ K.length ∧
    text = block e.keyHead
      (Text.Lines.join (K.map fun f => "    pub " ++ f.name ++ ": " ++ f.type ++ ","))
  single_iff : ∀ rule field, e.singleKey rule = .ok field ↔ K = [field]
  single_error : ∀ rule, K.length ≠ 1 →
    e.singleKey rule = .error (.singleKeyRequired e.name rule K.length)

theorem keyedBy_keyFields : e.KeyedBy e.keyFields where
  none_iff := e.keyStrategy_eq_none_iff
  direct_iff := e.keyStrategy_eq_direct_iff
  composite_iff := e.keyStrategy_eq_composite_iff
  count := e.count_keyStrategy
  code_error_iff := e.keyCode_eq_error_iff
  code_own_iff := e.keyCode_const_iff
  code_qualified composite :=
    ⟨e.name ++ "Key", keyCode_of_composite composite none,
      fun module => keyCode_of_composite composite (some module)⟩
  declaration_iff := e.keyDeclaration?_eq_some_iff
  single_iff := e.singleKey_eq_ok_iff
  single_error := e.singleKey_of_ne_one

theorem build_ok {name typePath : String} {fields : List Field}
    {capabilities : Bag (Capability Entity)} {e : Entity}
    (built : build name typePath fields capabilities = .ok e) : e.name = name ∧ e.fields = fields := by
  unfold build at built
  split at built
  · cases built
  · split at built
    · cases built
    · obtain rfl := Except.ok.inj built
      exact ⟨rfl, rfl⟩

/-! ## Answers and memory -/

theorem answer_keyStrategy (q : KeyQuestion) : e.keyStrategy.answer e.name q = e.answer q := by
  cases q <;> rfl

end Entity

namespace KnownEntity
variable {k : KnownEntity} {e : Entity}

/-- What is known is what would be found: the strategy of an entity that answers alike. -/
structure Faithful (k : KnownEntity) (e : Entity) : Prop where
  name : k.entity.name = e.name
  found : k.entity.keyStrategy = e.keyStrategy
  known : ∀ s, k.strategy? = some s → s = e.keyStrategy

namespace Faithful

theorem unasked (e : Entity) : (KnownEntity.unasked e).Faithful e :=
  ⟨rfl, rfl, nofun⟩

theorem keyStrategy (faithful : k.Faithful e) :
    k.keyStrategy.1 = e.keyStrategy ∧ k.keyStrategy.2.Faithful e := by
  unfold KnownEntity.keyStrategy
  split
  next s known => exact ⟨faithful.known s known, faithful⟩
  next =>
    refine ⟨faithful.found, faithful.name, faithful.found, ?_⟩
    rintro s ⟨⟩
    exact faithful.found

theorem ask (faithful : k.Faithful e) (q : KeyQuestion) : (k.ask q).1 = e.answer q := by
  rw [KnownEntity.ask, faithful.keyStrategy.1, faithful.name, e.answer_keyStrategy]

theorem shape (faithful : k.Faithful e) : k.shape.Faithful e :=
  ⟨faithful.name, faithful.found, faithful.known⟩

theorem step (faithful : k.Faithful e) (s : Step) : (k.step s).Faithful e :=
  match s with
  | .ask _ => faithful.keyStrategy.2
  | .shape => faithful.shape

theorem after (faithful : k.Faithful e) (steps : List Step) : (k.after steps).Faithful e := by
  induction steps generalizing k with
  | nil => exact faithful
  | cons s rest ih => exact ih (faithful.step s)

end Faithful
end KnownEntity

/-- The questions about the key of an entity that was built agree: all are answered by the key-tagged
fields in their order, and all alike by the entity and by a shape of it, whatever was asked and
whichever shapes were taken before. -/
theorem Entity.key_questions_agree {name typePath : String} {fields : List Field}
    {capabilities : Bag (Capability Entity)} {e : Entity}
    (built : Entity.build name typePath fields capabilities = .ok e) :
    e.KeyedBy (fields.filter (·.tags.key)) ∧ e.shape.KeyedBy (fields.filter (·.tags.key)) ∧
      ∀ (steps : List KnownEntity.Step) (q : KeyQuestion),
        (((KnownEntity.unasked e).after steps).ask q).1 = e.answer q ∧
          (((KnownEntity.unasked e).after steps).shape.ask q).1 = e.answer q := by
  obtain ⟨-, rfl⟩ := Entity.build_ok built
  refine ⟨e.keyedBy_keyFields, e.shape.keyedBy_keyFields, fun steps q => ?_⟩
  have faithful := (KnownEntity.Faithful.unasked e).after steps
  exact ⟨faithful.ask q, faithful.shape.ask q⟩

def priceFields : List Field :=
  [⟨"sku", "String", ⟨true⟩⟩, ⟨"amount", "u32", ⟨false⟩⟩, ⟨"region", "Region", ⟨true⟩⟩]

/-- A shape that was taken after the strategy was found, and one that was taken before. -/
theorem Entity.key_questions_agree_price :
    ∃ e, Entity.build "Price" "" priceFields .empty = .ok e ∧
      e.keyStrategy = .composite "PriceKey"
        [⟨"sku", "String", ⟨true⟩⟩, ⟨"region", "Region", ⟨true⟩⟩] ∧
      (((KnownEntity.unasked e).after [.ask .count]).shape.ask (.code (some "model"))).1 =
        .ok "model::PriceKey" ∧
      (((KnownEntity.unasked e).after []).shape.ask (.single "search")).1 =
        .error (.singleKeyRequired "Price" "search" 2) := by
  have built : Entity.build "Price" "" priceFields .empty = .ok ⟨"Price", "Price", priceFields, .empty⟩ :=
    rfl
  obtain ⟨keyed, -, answers⟩ := Entity.key_questions_agree built
  have two : 2 ≤ (priceFields.filter (·.tags.key)).length := by decide
  refine ⟨_, built, (keyed.composite_iff _ _).2 ⟨two, rfl, rfl⟩, ?_, ?_⟩
  · obtain ⟨plain, unqualified, qualified⟩ := keyed.code_qualified two
    obtain rfl : "PriceKey" = plain := Except.ok.inj unqualified
    exact (answers [.ask .count] (.code (some "model"))).2.trans (qualified "model")
  · exact (answers [] (.single "search")).2.trans (keyed.single_error "search" (by decide))

end Scaffold.Model
