import Scaffold.Proofs.Generation.Failures
import Scaffold.Proofs.Generation.Runs

/-! Runs that end in a failure of the input. Planning ends in no other failure, and what is dispatched
after it ends in none of them: the directory rule repeats the check of the file names under the
inflector of the plan, so it succeeds again. Such a run has therefore not begun to write. -/

namespace Scaffold
open Model Files Rules Settings

/-! ## Planning -/

namespace Model

theorem Entity.failsWithin_build (name typePath : String) (fields : List Field)
    (capabilities : Bag (Capability Entity)) :
    FailsWithin (·.ofInput) (build name typePath fields capabilities) := by
  unfold build
  split
  · exact failsWithin_error rfl
  · split
    · exact failsWithin_error rfl
    · exact failsWithin_ok _

theorem CapabilitySpec.failsWithin_resolve (owner : String) (shapes : List (String × Entity))
    (s : CapabilitySpec) : FailsWithin (·.ofInput) (s.resolve owner shapes) := by
  have named : ∀ name, FailsWithin (·.ofInput) (shapeOf owner shapes name) := by
    intro name
    unfold shapeOf
    split
    · exact failsWithin_ok _
    · exact failsWithin_error rfl
  cases s with
  | associate child => exact (named child).map _
  | listByAssociatedKey associated reversed => exact (named associated).map _
  | _ => exact failsWithin_ok _

theorem EntitySpec.failsWithin_resolve (shapes : List (String × Entity)) (s : EntitySpec) :
    FailsWithin (·.ofInput) (s.resolve shapes) :=
  (failsWithin_mapM (CapabilitySpec.failsWithin_resolve s.name shapes) s.capabilities).bind
    fun _ => Entity.failsWithin_build _ _ _ _

theorem Document.failsWithin_collectShapes (shapes : List (String × Entity))
    (specs : List EntitySpec) : FailsWithin (·.ofInput) (collectShapes shapes specs) := by
  induction specs generalizing shapes with
  | nil => exact failsWithin_ok shapes
  | cons spec rest ih =>
    have shaped : FailsWithin (·.ofInput) spec.shape := Entity.failsWithin_build _ _ _ _
    rw [collectShapes]
    split
    · rename_i e failed
      exact failsWithin_error (shaped e failed)
    · split
      · exact failsWithin_error rfl
      · exact ih _

theorem Document.failsWithin_resolve (d : Document) : FailsWithin (·.ofInput) d.resolve :=
  (failsWithin_collectShapes [] d.entities).bind fun shapes =>
    failsWithin_mapM (EntitySpec.failsWithin_resolve shapes) d.entities

end Model

theorem Generator.failsWithin_plan (g : Generator) (d : Document) (output : Output) (root : Path) :
    FailsWithin (·.ofInput) (g.plan d output root) := by
  have settings : FailsWithin (·.ofInput)
      (output.check.mapError fun fault => Failure.settings (.output fault)) :=
    FailsWithin.mapError fun _ _ => rfl
  have names : ∀ directory : StorageDirectory, FailsWithin (·.ofInput)
      ((directory.checkFiles g.storage.inflector).mapError Failure.model) :=
    fun _ => FailsWithin.mapError fun _ _ => rfl
  refine settings.bind fun _ => d.failsWithin_resolve.bind fun entities => ?_
  cases d.storage? with
  | none => exact failsWithin_ok _
  | some target => exact (names _).bind fun _ => failsWithin_ok _

/-! ## Writing -/

namespace Generator

def bundled (interfaces storage : Inflector) : Generator where
  interfaces := Interface.registry.withInflector interfaces
  storage := Storage.registry.withInflector storage

section Writing
variable {g : Generator} {p : Plan}

theorem failsWithin_writeStorage (rules : g.storage.tables.FailWithin Failure.Later)
    (filled : g.storage.tables.directory.rulesFor .storageDirectory =
      Storage.directoryRules .storageDirectory)
    (checked : ∀ path directory, p.storage? = some (path, directory) →
      directory.checkFiles g.storage.inflector = .ok ()) (w : World) :
    FailsWithin Failure.Later (g.writeStorage p w).1 := by
  unfold writeStorage
  split
  · exact failsWithin_ok ()
  · rename_i path directory stored
    refine Registry.failsWithin_emitDirectoryAt (V := parts) (k := Part.storageDirectory)
      (Registry.failWithin_recording rules log) Failure.later_ofDispatch (fun rule hr => ?_) w
    change rule ∈ g.storage.tables.directory.rulesFor .storageDirectory at hr
    rw [filled] at hr
    obtain rfl := List.mem_singleton.1 hr
    exact Storage.failsWithin_directoryBody _ (checked path directory stored) path

theorem failsWithin_write (interfaces : g.interfaces.tables.FailWithin Failure.Later)
    (storage : ∀ w, FailsWithin Failure.Later (g.writeStorage p w).1) (w : World) :
    FailsWithin Failure.Later (g.write p w).1 := by
  have first := Registry.failsWithin_emitFileAt (V := parts) (k := Part.interfaceFile)
    (Registry.failWithin_recording interfaces log) Failure.later_ofDispatch p.interfaceFile
    p.interfaces w
  rw [write_eq, inTurn]
  split
  · rename_i e w failed
    rw [failed] at first
    exact failsWithin_error (first e rfl)
  · exact storage _

end Writing

theorem checkFiles_of_plan {g : Generator} {d : Document} {output : Output} {root : Path} {p : Plan}
    (planned : g.plan d output root = .ok p) {path : Path} {directory : StorageDirectory}
    (stored : p.storage? = some (path, directory)) :
    directory.checkFiles g.storage.inflector = .ok () := by
  obtain ⟨entities, -, -, free, rfl⟩ := plan_ok planned
  obtain ⟨target, named, same⟩ := Option.map_eq_some_iff.1 stored
  obtain ⟨-, rfl⟩ := Prod.mk.inj same
  exact free target named

/-- A run ends in a failure of the input just when planning does, and then it has changed nothing. -/
theorem run_input_failure_writes_nothing {interfaces storage : Inflector} {d : Document}
    {output : Output} {root : Path} {files after : FileTree} {e : Failure}
    (h : (bundled interfaces storage).run d output root files = (.error e, after)) :
    (e.ofInput = true ↔ (bundled interfaces storage).plan d output root = .error e) ∧
      (e.ofInput = true → after = files) := by
  unfold run at h
  cases planned : (bundled interfaces storage).plan d output root with
  | error e' =>
    have input := failsWithin_plan _ d output root e' planned
    rw [planned] at h
    obtain ⟨same, rfl⟩ := Prod.mk.inj h
    obtain rfl := Except.error.inj same
    exact ⟨⟨fun _ => rfl, fun _ => input⟩, fun _ => rfl⟩
  | ok p =>
    have stored := failsWithin_writeStorage
      (Registry.failWithin_withInflector Storage.failWithin_registry storage)
      (Storage.rulesFor_directory .storageDirectory) (fun _ _ => checkFiles_of_plan planned)
    have later := failsWithin_write (g := bundled interfaces storage)
      (Registry.failWithin_withInflector Interface.failWithin_registry interfaces) stored
      { files := files }
    rw [planned] at h
    simp only at h
    have no : e.ofInput ≠ true := by
      split at h
      · rename_i e' w failed
        rw [failed] at later
        obtain ⟨same, -⟩ := Prod.mk.inj h
        obtain rfl := Except.error.inj same
        have rejected := later e' rfl
        rw [rejected]
        exact nofun
      · cases h
    exact ⟨⟨fun input => absurd input no, nofun⟩, fun input => absurd input no⟩

/-- Two entities whose storage files would be one. -/
def clashing : Document where
  interfaces := { module := "model", path := "model.rs" }
  storage? := some { module := "store", path := "store" }
  entities := [{ name := "PetShop" }, { name := "pet_shop" }]

theorem run_input_failure_writes_nothing_clashing :
    ∃ after, run (bundled .english .shouting) clashing {} "out" ⟨[(["out"], .directory)]⟩ =
        (.error (.model (.sharedFile "entity PetShop" "entity pet_shop" "pet_shop_gen.rs")), after) ∧
      after = ⟨[(["out"], .directory)]⟩ := by
  have fails : (match run (bundled .english .shouting) clashing {} "out"
      ⟨[(["out"], .directory)]⟩ with
      | (.error e, _) => some e
      | (.ok _, _) => none) =
      some (.model (.sharedFile "entity PetShop" "entity pet_shop" "pet_shop_gen.rs")) := by
    decide +kernel
  cases h : run (bundled .english .shouting) clashing {} "out" ⟨[(["out"], .directory)]⟩ with
  | mk result after =>
    rw [h] at fails
    cases result with
    | ok report => cases fails
    | error e =>
      obtain rfl := Option.some.inj fails
      exact ⟨after, rfl, (run_input_failure_writes_nothing h).2 rfl⟩

end Generator
end Scaffold
