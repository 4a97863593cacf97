import Scaffold.Proofs.Model.Dependence

/-! Why a document does not resolve. Two passes look for different faults: the first scans the
declarations one after the other, each for a blank name, a repeated field and a name already taken;
only when it finds nothing are the references looked up, among the names of all declarations. That
a document resolves therefore does not depend on the order of its declarations, but the fault that
is reported does. -/

namespace Scaffold.Model

def CapabilitySpec.Within (names : List String) (capability : CapabilitySpec) : Prop :=
  ∀ name, capability.target? = some name → name ∈ names

namespace EntitySpec

/-- Nothing in the declaration by itself is at fault. -/
structure Sound (spec : EntitySpec) : Prop where
  named : ∃ c ∈ spec.name.toList, Text.Blank.isBlank c = false
  fields : (spec.fields.map (·.name)).Nodup

/-- What is first found to be wrong with a declaration that comes after others, whose names are
given. -/
inductive Flaw (declared : List String) (spec : EntitySpec) : Failure → Prop
  | blankName (blank : ∀ c ∈ spec.name.toList, Text.Blank.isBlank c = true) :
      Flaw declared spec (.model .blankName)
  | repeatedField {front back : List String} {field : String}
      (named : ∃ c ∈ spec.name.toList, Text.Blank.isBlank c = false)
      (fields : spec.fields.map (·.name) = front ++ field :: back) (distinct : front.Nodup)
      (repeated : field ∈ front) : Flaw declared spec (.key (.duplicateField spec.name field))
  | repeatedEntity (sound : spec.Sound) (repeated : spec.name ∈ declared) :
      Flaw declared spec (.model (.repeatedEntity spec.name))

end EntitySpec

namespace Document

/-- The fault that is met first. -/
inductive FirstFault (d : Document) : Failure → Prop
  | declaration {before after : List EntitySpec} {spec : EntitySpec} {fault : Failure}
      (entities : d.entities = before ++ spec :: after) (sound : ∀ other ∈ before, other.Sound)
      (distinct : (before.map (·.name)).Nodup) (flaw : spec.Flaw (before.map (·.name)) fault) :
      FirstFault d fault
  | reference {before after : List EntitySpec} {spec : EntitySpec}
      {front back : List CapabilitySpec} {capability : CapabilitySpec} {name : String}
      (sound : ∀ other ∈ d.entities, other.Sound) (distinct : (d.entities.map (·.name)).Nodup)
      (entities : d.entities = before ++ spec :: after)
      (earlier : ∀ other ∈ before, ∀ c ∈ other.capabilities, c.Within (d.entities.map (·.name)))
      (capabilities : spec.capabilities = front ++ capability :: back)
      (first : ∀ c ∈ front, c.Within (d.entities.map (·.name)))
      (target : capability.target? = some name) (unknown : name ∉ d.entities.map (·.name)) :
      FirstFault d (.model (.unknownEntity spec.name name))

end Document

/-! ## One declaration -/

theorem isBlankText_eq_false_iff {text : String} :
    Text.Blank.isBlankText text = false ↔ ∃ c ∈ text.toList, Text.Blank.isBlank c = false := by
  rw [Text.Blank.isBlankText, List.all_eq_false]
  simp only [Bool.not_eq_true]

namespace Entity
variable {seen : List String} {fields : List Field}

theorem repeatedField?_eq_none_iff (distinct : seen.Nodup) :
    repeatedField? seen fields = none ↔ (seen ++ fields.map (·.name)).Nodup := by
  induction fields generalizing seen with
  | nil => simpa [repeatedField?] using distinct
  | cons field rest ih =>
    rw [repeatedField?, List.map_cons]
    split
    · rename_i taken
      refine iff_of_false (Option.some_ne_none _) fun nodup => ?_
      exact not_mem_front_of_nodup nodup (List.contains_iff_mem.1 taken)
    · rename_i fresh
      have fresh : field.name ∉ seen := fun taken => fresh (List.contains_iff_mem.2 taken)
      rw [ih (List.concat_eq_append ▸ distinct.concat fresh), List.append_assoc,
        List.singleton_append]

theorem repeatedField?_eq_some_iff (distinct : seen.Nodup) {name : String} :
    repeatedField? seen fields = some name ↔ ∃ front field back,
      fields.map (·.name) = front ++ field :: back ∧
        (seen ++ front).Nodup ∧ field ∈ seen ++ front ∧ field = name := by
  induction fields generalizing seen with
  | nil => exact iff_of_false (Option.some_ne_none name).symm not_exists_split_nil
  | cons field rest ih =>
    rw [repeatedField?, List.map_cons, exists_split_cons_iff, List.append_nil]
    split
    · rename_i taken
      have taken := List.contains_iff_mem.1 taken
      constructor
      · exact fun found => .inl ⟨distinct, taken, Option.some.inj found⟩
      · rintro (⟨-, -, rfl⟩ | ⟨_, _, _, -, nodup, -⟩)
        · rfl
        · exact absurd taken (not_mem_front_of_nodup nodup)
    · rename_i fresh
      have fresh : field.name ∉ seen := fun taken => fresh (List.contains_iff_mem.2 taken)
      rw [ih (List.concat_eq_append ▸ distinct.concat fresh)]
      simp only [List.append_assoc, List.singleton_append]
      exact (or_iff_right fun first => fresh first.2.1).symm

end Entity

namespace EntitySpec
variable {spec : EntitySpec} {capabilities : List (Capability Entity)} {declared : List String}
  {fault : Failure}

theorem map_name_fields : (spec.fields.map FieldSpec.field).map (·.name) =
    spec.fields.map (·.name) := by
  rw [List.map_map]
  rfl

theorem repeatedField?_eq_none_iff :
    Entity.repeatedField? [] (spec.fields.map FieldSpec.field) = none ↔
      (spec.fields.map (·.name)).Nodup := by
  rw [Entity.repeatedField?_eq_none_iff List.nodup_nil, List.nil_append, map_name_fields]

theorem repeatedField?_eq_some_iff {field : String} :
    Entity.repeatedField? [] (spec.fields.map FieldSpec.field) = some field ↔
      ∃ front back, spec.fields.map (·.name) = front ++ field :: back ∧ front.Nodup ∧
        field ∈ front := by
  simp only [Entity.repeatedField?_eq_some_iff List.nodup_nil, List.nil_append, map_name_fields]
  constructor
  · rintro ⟨front, _, back, split, distinct, taken, rfl⟩
    exact ⟨front, back, split, distinct, taken⟩
  · rintro ⟨front, back, split, distinct, taken⟩
    exact ⟨front, field, back, split, distinct, taken, rfl⟩

theorem exists_build_iff : (∃ e, spec.build capabilities = .ok e) ↔ spec.Sound := by
  rw [build, Entity.build]
  split
  · rename_i blank
    refine iff_of_false not_exists_error_eq_ok fun sound => ?_
    rw [isBlankText_eq_false_iff.2 sound.named] at blank
    cases blank
  · rename_i named
    have named := isBlankText_eq_false_iff.1 (Bool.not_eq_true _ ▸ named)
    split
    · rename_i repeated
      refine iff_of_false not_exists_error_eq_ok fun sound => ?_
      rw [repeatedField?_eq_none_iff.2 sound.fields] at repeated
      cases repeated
    · rename_i none
      exact iff_of_true ⟨_, rfl⟩ ⟨named, repeatedField?_eq_none_iff.1 none⟩

theorem flaw_of_build (failed : spec.build capabilities = .error fault) : spec.Flaw [] fault := by
  rw [build, Entity.build] at failed
  split at failed
  · rename_i blank
    exact Except.error.inj failed ▸ .blankName (List.all_eq_true.1 blank)
  · rename_i named
    have named := isBlankText_eq_false_iff.1 (Bool.not_eq_true _ ▸ named)
    split at failed
    · rename_i repeated
      obtain ⟨front, back, split, distinct, taken⟩ := repeatedField?_eq_some_iff.1 repeated
      exact Except.error.inj failed ▸ .repeatedField named split distinct taken
    · cases failed

theorem Flaw.build (flaw : spec.Flaw [] fault) : spec.build capabilities = .error fault := by
  rw [EntitySpec.build, Entity.build]
  cases flaw with
  | blankName blank => exact if_pos (List.all_eq_true.2 blank)
  | repeatedField named split distinct taken =>
    rw [isBlankText_eq_false_iff.2 named,
      repeatedField?_eq_some_iff.2 ⟨_, _, split, distinct, taken⟩]
    rfl
  | repeatedEntity _ taken => cases taken

theorem build_eq_error_iff : spec.build capabilities = .error fault ↔ spec.Flaw [] fault :=
  ⟨flaw_of_build, Flaw.build⟩

theorem flaw_iff : spec.Flaw declared fault ↔ spec.Flaw [] fault ∨
    spec.Sound ∧ spec.name ∈ declared ∧ fault = .model (.repeatedEntity spec.name) := by
  constructor
  · rintro (blank | ⟨named, split, distinct, taken⟩ | ⟨sound, taken⟩)
    · exact .inl (.blankName blank)
    · exact .inl (.repeatedField named split distinct taken)
    · exact .inr ⟨sound, taken, rfl⟩
  · rintro ((blank | ⟨named, split, distinct, taken⟩ | ⟨-, taken⟩) | ⟨sound, taken, rfl⟩)
    · exact .blankName blank
    · exact .repeatedField named split distinct taken
    · cases taken
    · exact .repeatedEntity sound taken

theorem not_sound_of_flaw (flaw : spec.Flaw [] fault) : ¬ spec.Sound := by
  intro sound
  obtain ⟨e, built⟩ : ∃ e, spec.build [] = .ok e := exists_build_iff.2 sound
  cases (Flaw.build flaw).symm.trans built

end EntitySpec

/-! ## The scan of the declarations -/

section Scan
variable {shapes : List (String × Entity)} {specs : List EntitySpec} {fault : Failure}

theorem collectShapes_eq_error_iff (distinct : (shapes.map (·.1)).Nodup) :
    Document.collectShapes shapes specs = .error fault ↔ ∃ before spec after,
      specs = before ++ spec :: after ∧ (∀ other ∈ before, other.Sound) ∧
        (shapes.map (·.1) ++ before.map (·.name)).Nodup ∧
        spec.Flaw (shapes.map (·.1) ++ before.map (·.name)) fault := by
  induction specs generalizing shapes with
  | nil => exact iff_of_false error_ne_ok.symm not_exists_split_nil
  | cons spec rest ih =>
    rw [Document.collectShapes, exists_split_cons_iff]
    simp only [List.map_nil, List.append_nil, List.map_cons, List.forall_mem_cons]
    cases shaped : spec.shape with
    | error fault' =>
      have unsound := EntitySpec.not_sound_of_flaw (EntitySpec.flaw_of_build shaped)
      have flaw : spec.Flaw (shapes.map (·.1)) fault ↔ spec.shape = .error fault := by
        rw [EntitySpec.flaw_iff, EntitySpec.shape, EntitySpec.build_eq_error_iff]
        exact or_iff_left fun taken => unsound taken.1
      constructor
      · intro failed
        obtain rfl := Except.error.inj failed
        exact .inl ⟨List.forall_mem_nil _, distinct, flaw.2 shaped⟩
      · rintro (⟨-, -, first⟩ | ⟨_, _, _, -, ⟨sound, -⟩, -⟩)
        · rw [Except.error.inj (shaped.symm.trans (flaw.1 first))]
        · exact absurd sound unsound
    | ok shape =>
      have sound := EntitySpec.exists_build_iff.1 ⟨shape, shaped⟩
      have flaw : spec.Flaw (shapes.map (·.1)) fault ↔
          spec.name ∈ shapes.map (·.1) ∧ fault = .model (.repeatedEntity spec.name) := by
        rw [EntitySpec.flaw_iff, and_iff_right sound]
        exact or_iff_right fun flaw => EntitySpec.not_sound_of_flaw flaw sound
      simp only [flaw, sound, true_and, isSome_lookup_iff]
      split
      · rename_i taken
        constructor
        · intro failed
          exact .inl ⟨List.forall_mem_nil _, distinct, taken, (Except.error.inj failed).symm⟩
        · rintro (⟨-, -, -, rfl⟩ | ⟨_, _, _, -, -, nodup, -⟩)
          · rfl
          · exact absurd taken (not_mem_front_of_nodup nodup)
      · rename_i fresh
        rw [ih (nodup_keys_concat distinct fresh shape), List.map_append, List.map_singleton]
        simp only [List.append_assoc, List.singleton_append]
        exact (or_iff_right fun first => fresh first.2.2.1).symm

theorem collectShapes_nil_eq_error_iff : Document.collectShapes [] specs = .error fault ↔
    ∃ before spec after, specs = before ++ spec :: after ∧ (∀ other ∈ before, other.Sound) ∧
      (before.map (·.name)).Nodup ∧ spec.Flaw (before.map (·.name)) fault := by
  have none : (([] : List (String × Entity)).map (·.1)).Nodup := List.nodup_nil
  rw [collectShapes_eq_error_iff none, List.map_nil]
  simp only [List.nil_append]

theorem exists_shapesOf_iff : (∃ shapes, ShapesOf specs shapes) ↔
    (∀ spec ∈ specs, spec.Sound) ∧ (specs.map (·.name)).Nodup := by
  constructor
  · rintro ⟨shapes, of⟩
    refine ⟨fun spec hs => ?_, of.map_name ▸ of.distinct⟩
    obtain ⟨entry, -, -, shaped⟩ := exists_of_forall₂ of.each.flip hs
    exact EntitySpec.exists_build_iff.1 ⟨_, shaped⟩
  · rintro ⟨sound, distinct⟩
    cases collected : Document.collectShapes [] specs with
    | ok shapes => exact ⟨shapes, collectShapes_nil_eq_ok_iff.1 collected⟩
    | error fault =>
      obtain ⟨before, spec, after, rfl, -, -, flaw⟩ := collectShapes_nil_eq_error_iff.1 collected
      rcases EntitySpec.flaw_iff.1 flaw with flaw | ⟨-, taken, -⟩
      · exact absurd (sound spec (by simp)) (EntitySpec.not_sound_of_flaw flaw)
      · rw [List.map_append, List.map_cons] at distinct
        exact absurd taken (not_mem_front_of_nodup distinct)

end Scan

/-! ## The references -/

section References
variable {shapes : List (String × Entity)} {fault : Failure}

theorem CapabilitySpec.exists_shapeOf_iff {owner name : String} :
    (∃ shape, shapeOf owner shapes name = .ok shape) ↔ name ∈ shapes.map (·.1) := by
  rw [← isSome_lookup_iff, shapeOf]
  cases shapes.lookup name with
  | some shape => exact iff_of_true ⟨shape, rfl⟩ rfl
  | none => exact iff_of_false not_exists_error_eq_ok Bool.false_ne_true

theorem CapabilitySpec.shapeOf_eq_error_iff {owner name : String} :
    shapeOf owner shapes name = .error fault ↔
      name ∉ shapes.map (·.1) ∧ fault = .model (.unknownEntity owner name) := by
  rw [← isSome_lookup_iff, shapeOf]
  cases shapes.lookup name with
  | some shape => exact iff_of_false error_ne_ok.symm fun unknown => unknown.1 rfl
  | none =>
    constructor
    · exact fun failed => ⟨Bool.false_ne_true, (Except.error.inj failed).symm⟩
    · exact fun unknown => unknown.2 ▸ rfl

theorem CapabilitySpec.resolve_of_target (owner : String) (shapes : List (String × Entity))
    {name : String} {capability : CapabilitySpec} (target : capability.target? = some name) :
    ∃ marker, capability.resolve owner shapes = (shapeOf owner shapes name).map marker := by
  cases capability with
  | associate child =>
    obtain rfl := Option.some.inj target
    exact ⟨_, rfl⟩
  | listByAssociatedKey associated reversed =>
    obtain rfl := Option.some.inj target
    exact ⟨_, rfl⟩
  | _ => cases target

theorem CapabilitySpec.resolve_of_no_target (owner : String) (shapes : List (String × Entity))
    {capability : CapabilitySpec} (none : capability.target? = none) :
    ∃ resolved, capability.resolve owner shapes = .ok resolved := by
  cases capability with
  | associate child => cases none
  | listByAssociatedKey associated reversed => cases none
  | _ => exact ⟨_, rfl⟩

theorem CapabilitySpec.exists_resolve_iff {owner : String} {capability : CapabilitySpec} :
    (∃ resolved, capability.resolve owner shapes = .ok resolved) ↔
      capability.Within (shapes.map (·.1)) := by
  unfold Within
  cases target : capability.target? with
  | none => exact iff_of_true (resolve_of_no_target owner shapes target) fun _ other => by cases other
  | some name =>
    obtain ⟨marker, resolved⟩ := resolve_of_target owner shapes target
    rw [resolved, exists_map_iff, exists_shapeOf_iff]
    simp only [Option.some.injEq, forall_eq']

theorem CapabilitySpec.resolve_eq_error_iff {owner : String} {capability : CapabilitySpec} :
    capability.resolve owner shapes = .error fault ↔ ∃ name, capability.target? = some name ∧
      name ∉ shapes.map (·.1) ∧ fault = .model (.unknownEntity owner name) := by
  cases target : capability.target? with
  | none =>
    obtain ⟨marker, resolved⟩ := resolve_of_no_target owner shapes target
    rw [resolved]
    exact iff_of_false error_ne_ok.symm (by simp)
  | some name =>
    obtain ⟨marker, resolved⟩ := resolve_of_target owner shapes target
    rw [resolved, map_eq_error, shapeOf_eq_error_iff]
    simp only [Option.some.injEq, exists_eq_left']

theorem EntitySpec.exists_resolve_iff {spec : EntitySpec} (sound : spec.Sound) :
    (∃ e, spec.resolve shapes = .ok e) ↔
      ∀ capability ∈ spec.capabilities, capability.Within (shapes.map (·.1)) := by
  have built (capabilities) : (∃ e, spec.build capabilities = .ok e) ↔ True :=
    iff_true_intro (exists_build_iff.2 sound)
  rw [resolve, exists_bind_iff_of built, and_true, exists_mapM_iff]
  simp only [CapabilitySpec.exists_resolve_iff]

theorem EntitySpec.resolve_eq_error_iff {spec : EntitySpec} (sound : spec.Sound) :
    spec.resolve shapes = .error fault ↔ ∃ front capability back,
      spec.capabilities = front ++ capability :: back ∧
        (∀ c ∈ front, c.Within (shapes.map (·.1))) ∧ ∃ name, capability.target? = some name ∧
          name ∉ shapes.map (·.1) ∧ fault = .model (.unknownEntity spec.name name) := by
  have built (capabilities) : spec.build capabilities ≠ .error fault := by
    obtain ⟨e, built⟩ := exists_build_iff.2 sound
    rw [built]
    exact error_ne_ok.symm
  have gathered : ¬ ∃ made, spec.capabilities.mapM (CapabilitySpec.resolve spec.name shapes) =
      .ok made ∧ spec.build made = .error fault := by
    rintro ⟨made, -, failed⟩
    exact built made failed
  rw [resolve, bind_eq_error, or_iff_left gathered, mapM_eq_error_iff]
  simp only [CapabilitySpec.exists_resolve_iff, CapabilitySpec.resolve_eq_error_iff]

end References

/-! ## The document -/

namespace Document
variable {d : Document} {fault : Failure}

theorem resolve_eq_error_iff : d.resolve = .error fault ↔ d.FirstFault fault := by
  rw [resolve, bind_eq_error, collectShapes_nil_eq_error_iff]
  simp only [collectShapes_nil_eq_ok_iff, mapM_eq_error_iff]
  constructor
  · rintro (⟨before, spec, after, split, sound, distinct, flaw⟩ |
      ⟨shapes, of, before, spec, after, split, resolved, failed⟩)
    · exact .declaration split sound distinct flaw
    · obtain ⟨sound, distinct⟩ := exists_shapesOf_iff.1 ⟨shapes, of⟩
      have sound' : ∀ other ∈ before ++ spec :: after, other.Sound := split ▸ sound
      obtain ⟨front, capability, back, capabilities, first, name, target, unknown, rfl⟩ :=
        (EntitySpec.resolve_eq_error_iff (sound' spec (by simp))).1 failed
      rw [of.map_name] at first unknown
      refine .reference sound distinct split (fun other ho => ?_) capabilities first target unknown
      rw [← of.map_name]
      exact (EntitySpec.exists_resolve_iff (sound' other (by simp [ho]))).1 (resolved other ho)
  · rintro (⟨split, sound, distinct, flaw⟩ |
      ⟨sound, distinct, split, earlier, capabilities, first, target, unknown⟩)
    · exact .inl ⟨_, _, _, split, sound, distinct, flaw⟩
    · obtain ⟨shapes, of⟩ := exists_shapesOf_iff.2 ⟨sound, distinct⟩
      rw [← of.map_name] at first unknown earlier
      rw [split] at sound
      refine .inr ⟨shapes, of, _, _, _, split, fun other ho => ?_, ?_⟩
      · exact (EntitySpec.exists_resolve_iff (sound other (by simp [ho]))).2 (earlier other ho)
      · exact (EntitySpec.resolve_eq_error_iff (sound _ (by simp))).2
          ⟨_, _, _, capabilities, first, _, target, unknown, rfl⟩

theorem exists_resolve_iff : (∃ entities, d.resolve = .ok entities) ↔
    (∀ spec ∈ d.entities, spec.Sound) ∧ (d.entities.map (·.name)).Nodup ∧
      ∀ spec ∈ d.entities, ∀ capability ∈ spec.capabilities,
        capability.Within (d.entities.map (·.name)) := by
  rw [resolve, exists_bind_iff]
  simp only [collectShapes_nil_eq_ok_iff, exists_mapM_iff]
  constructor
  · rintro ⟨shapes, of, resolved⟩
    obtain ⟨sound, distinct⟩ := exists_shapesOf_iff.1 ⟨shapes, of⟩
    refine ⟨sound, distinct, fun spec hs => ?_⟩
    rw [← of.map_name]
    exact (EntitySpec.exists_resolve_iff (sound spec hs)).1 (resolved spec hs)
  · rintro ⟨sound, distinct, within⟩
    obtain ⟨shapes, of⟩ := exists_shapesOf_iff.2 ⟨sound, distinct⟩
    rw [← of.map_name] at within
    exact ⟨shapes, of, fun spec hs =>
      (EntitySpec.exists_resolve_iff (sound spec hs)).2 (within spec hs)⟩

/-- A document resolves when no name is blank, no two fields of an entity and no two entities have
one name, and every reference is to a declared entity. Otherwise the first fault is reported. -/
theorem resolve_outcome (d : Document) :
    ((∃ entities, d.resolve = .ok entities) ↔
      (∀ spec ∈ d.entities, ∃ c ∈ spec.name.toList, Text.Blank.isBlank c = false) ∧
      (∀ spec ∈ d.entities, (spec.fields.map (·.name)).Nodup) ∧
      (d.entities.map (·.name)).Nodup ∧
      ∀ spec ∈ d.entities, ∀ capability ∈ spec.capabilities, ∀ name,
        capability.target? = some name → name ∈ d.entities.map (·.name)) ∧
    ∀ fault, d.resolve = .error fault ↔ d.FirstFault fault := by
  refine ⟨?_, fun fault => resolve_eq_error_iff⟩
  rw [exists_resolve_iff]
  constructor
  · rintro ⟨sound, distinct, within⟩
    exact ⟨fun spec hs => (sound spec hs).named, fun spec hs => (sound spec hs).fields, distinct,
      within⟩
  · rintro ⟨named, fields, distinct, within⟩
    exact ⟨fun spec hs => ⟨named spec hs, fields spec hs⟩, distinct, within⟩

end Document
end Scaffold.Model
