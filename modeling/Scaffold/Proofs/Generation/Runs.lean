import Scaffold.Generation
import Scaffold.Proofs.Generation.Layers
import Scaffold.Proofs.Rules.Emission

/-! Generation runs with the bundled registries. The plan of a run lists its files with their texts
before anything is written. A run carries its plan out: if it succeeds the report lists the planned
paths, each of which holds its text, and if it fails some first files of the plan are written
completely and no other file has changed.

The tree has no working directory: a relative path is walked from the root like an absolute one, so
what is said here of a relative root is about runs whose working directory is the root. -/

namespace Scaffold
open Model Code Files Rules Settings

namespace StorageDirectory

def storageFile (d : StorageDirectory) (e : Entity) : StorageFile :=
  ⟨d.package, d.interfaceModule, d.header?, e⟩

def storageIndex (d : StorageDirectory) : StorageIndex :=
  ⟨d.package, d.indexModule, d.header?, d.entities⟩

/-- The files of a storage directory with their texts, in the order of writing. -/
def files (r : Registry parts) (path : Path) (d : StorageDirectory) : List PlannedFile :=
  d.entities.map (fun e =>
    ⟨path.join (d.fileName r.inflector e), r.rendering (k := Part.storageFile) (d.storageFile e)⟩)
  ++ if d.generateIndex then
    [⟨path.join d.indexFile, r.rendering (k := Part.storageIndex) d.storageIndex⟩]
  else []

theorem paths_files (r : Registry parts) (path : Path) (d : StorageDirectory) :
    (d.files r path).map (·.path) = (d.plannedFiles r.inflector).map path.join := by
  unfold files plannedFiles
  cases d.generateIndex <;> simp

theorem storageFile_mem_files (r : Registry parts) (path : Path) {d : StorageDirectory} {e : Entity}
    (h : e ∈ d.entities) :
    ⟨path.join (d.fileName r.inflector e), r.rendering (k := Part.storageFile) (d.storageFile e)⟩ ∈
      d.files r path :=
  List.mem_append_left _ (List.mem_map.2 ⟨e, h, rfl⟩)

end StorageDirectory

namespace Generator

def Plan.files (g : Generator) (p : Plan) : List PlannedFile :=
  ⟨p.interfaceFile, g.interfaces.rendering (k := Part.interfaceFile) p.interfaces⟩ ::
    match p.storage? with
    | none => []
    | some (path, directory) => directory.files g.storage path

/-- The locations on the way to a planned file, and those on the way to the storage directory, which
is one of them. -/
def Plan.OnTheWay (g : Generator) (p : Plan) (l : Location) : Prop :=
  (∃ f ∈ p.files g, f.path.Passes l) ∨
    ∃ path directory, p.storage? = some (path, directory) ∧ path.Passes l

/-- What filling a storage directory does, task by task. -/
def storageTasks (r : Registry parts) (path : Path) (d : StorageDirectory) : List Task :=
  .directory path :: .check ((d.checkFiles r.inflector).mapError Failure.model) ::
    (d.files r path).map .file

def Plan.tasks (g : Generator) (p : Plan) : List Task :=
  .file ⟨p.interfaceFile, g.interfaces.rendering (k := Part.interfaceFile) p.interfaces⟩ ::
    match p.storage? with
    | none => []
    | some (path, directory) => storageTasks g.storage path directory

/-- Generators with layered rules whose storage directory is filled as the bundled rules do it. -/
structure Standard (g : Generator) : Prop where
  interfaces : g.interfaces.tables.Layered Part.rank
  storage : g.storage.tables.Layered Part.rank
  directory : g.storage.tables.directory.rulesFor .storageDirectory =
    [⟨Part.storageDirectory.always, Storage.directoryBody⟩]

theorem standard_bundled : Standard {} where
  interfaces := Interface.layered_registry
  storage := Storage.layered_registry
  directory := rfl

section Tasks
variable {r : Registry parts} {path : Path} {d : StorageDirectory} {depth : Nat}

theorem run_storageFiles (layered : r.tables.Layered Part.rank) (deep : 2 ≤ depth) :
    Program.run ((r.recording log).dispatch (depth + 1))
        (d.entities.forM fun e => Script.emitFileAt (V := parts) (k := .storageFile)
          (path.join (d.fileName r.inflector e)) (d.storageFile e)).run =
      performAll log (d.entities.map fun e => .file ⟨path.join (d.fileName r.inflector e),
        r.rendering (k := Part.storageFile) (d.storageFile e)⟩) :=
  Script.run_forM fun e _ =>
    Registry.run_emitFileAt (V := parts) (k := Part.storageFile) layered log
      (path.join (d.fileName r.inflector e)) rfl deep (by decide)

theorem run_storageIndex (layered : r.tables.Layered Part.rank) :
    Program.run ((r.recording log).dispatch (depth + 1))
        (if d.generateIndex then
          Script.emitFileAt (V := parts) (k := .storageIndex) (path.join d.indexFile) d.storageIndex
          else pure () : Script parts Unit).run =
      performAll log ((if d.generateIndex then
        [⟨path.join d.indexFile, r.rendering (k := Part.storageIndex) d.storageIndex⟩]
        else []).map .file) := by
  cases d.generateIndex with
  | false => rfl
  | true =>
    have index := Registry.run_emitFileAt (V := parts) (k := Part.storageIndex)
      (d := d.storageIndex) layered log (path.join d.indexFile) rfl (Nat.zero_le depth) (by decide)
    exact index.trans (performAll_singleton log _).symm

theorem run_directoryBody (layered : r.tables.Layered Part.rank) (deep : 2 ≤ depth) :
    Program.run ((r.recording log).dispatch (depth + 1))
        (Storage.directoryBody r.inflector path d).run =
      performAll log (.check ((d.checkFiles r.inflector).mapError Failure.model) ::
        (d.files r path).map .file) := by
  rw [StorageDirectory.files, List.map_append, List.map_map, performAll, performAll_append]
  refine (Script.run_bind _ _ _).trans (congrArg (inTurn _) ?_)
  refine (Script.run_bind _ _ _).trans ?_
  rw [← run_storageIndex layered]
  exact congrArg (inTurn · _) (run_storageFiles layered deep)

end Tasks

def writeStorage (g : Generator) (p : Plan) (w : World) : Except Failure Unit × World :=
  match p.storage? with
  | none => (.ok (), w)
  | some (path, directory) =>
    (g.storage.recording log).emitDirectoryAt (k := Part.storageDirectory) path directory w

theorem write_eq (g : Generator) (p : Plan) :
    g.write p = inTurn ((g.interfaces.recording log).emitFileAt (k := Part.interfaceFile)
      p.interfaceFile p.interfaces) (g.writeStorage p) := rfl

theorem write_eq_performAll {g : Generator} (standard : g.Standard) (p : Plan) :
    g.write p = performAll log (p.tasks g) := by
  have interfaces : (g.interfaces.recording log).emitFileAt (k := Part.interfaceFile)
      p.interfaceFile p.interfaces = Task.perform log (.file
        ⟨p.interfaceFile, g.interfaces.rendering (k := Part.interfaceFile) p.interfaces⟩) :=
    Registry.emitFileAt_eq_perform (V := parts) (k := Part.interfaceFile) standard.interfaces log
      p.interfaceFile rfl (by decide) (by decide)
  have storage : g.writeStorage p = performAll log (p.tasks g).tail := by
    obtain ⟨file, declared, storage?⟩ := p
    cases storage? with
    | none => rfl
    | some storage =>
      have deep : 2 ≤ Registry.depthLimit - 2 := by decide
      exact Registry.emitDirectoryAt_eq_performAll (V := parts) (k := Part.storageDirectory)
        (r := g.storage.recording log) standard.directory
        (run_directoryBody standard.storage deep)
  rw [write_eq, interfaces, storage]
  rfl

theorem Plan.files_tasks (g : Generator) (p : Plan) : Task.files (p.tasks g) = p.files g := by
  obtain ⟨file, declared, storage?⟩ := p
  cases storage? with
  | none => rfl
  | some storage =>
    obtain ⟨path, directory⟩ := storage
    exact congrArg (_ :: ·) (Task.files_map_file (directory.files g.storage path))

theorem Plan.onTheWay_of_task {g : Generator} {p : Plan} {task : Task} (h : task ∈ p.tasks g)
    {path : Path} (leads : task.path? = some path) (l : Location) (passes : path.Passes l) :
    p.OnTheWay g l := by
  obtain ⟨file, declared, storage?⟩ := p
  rcases List.mem_cons.1 h with rfl | h
  · cases leads
    exact .inl ⟨_, List.mem_cons_self, passes⟩
  · cases storage? with
    | none => cases h
    | some storage =>
      rcases List.mem_cons.1 h with rfl | h
      · cases leads
        exact .inr ⟨_, _, rfl, passes⟩
      · rcases List.mem_cons.1 h with rfl | h
        · cases leads
        · obtain ⟨f, hf, rfl⟩ := List.mem_map.1 h
          cases leads
          exact .inl ⟨f, List.mem_cons_of_mem _ hf, passes⟩

theorem carriesOut_write {g : Generator} (standard : g.Standard) (p : Plan) (t : FileTree) :
    CarriesOut (p.OnTheWay g) t log (p.files g) (g.write p) := by
  rw [write_eq_performAll standard, ← p.files_tasks g]
  exact carriesOut_performAll fun task h path => Plan.onTheWay_of_task h

theorem write_outcome {g : Generator} (standard : g.Standard) (p : Plan) (files : FileTree) :
    ∃ writes, Written (p.OnTheWay g) files writes (g.write p { files := files }).2.files ∧
      (g.write p { files := files }).2.logged log = writes.map (·.1) ∧
      writes.map .written <+: p.files g ∧
      ((g.write p { files := files }).1 = .ok () → writes.map .written = p.files g) := by
  have begun : Progress (p.OnTheWay g) files log [] { files := files } :=
    ⟨Written.start _ files, rfl⟩
  obtain ⟨writes, progress, part, whole⟩ := carriesOut_write standard p files [] _ begun
  exact ⟨writes, progress.written, progress.logged, part, whole⟩

/-! ## Plans -/

theorem plan_ok {g : Generator} {d : Document} {output : Output} {root : Path} {p : Plan}
    (h : g.plan d output root = .ok p) :
    ∃ entities, d.resolve = .ok entities ∧ output.check = .ok () ∧
      (∀ target, d.storage? = some target →
        (directoryOf d target output entities).checkFiles g.storage.inflector = .ok ()) ∧
      p = ⟨root.join d.interfaces.path, ⟨d.interfaces.module, output.header?, entities⟩,
        d.storage?.map fun target =>
          (root.join target.path, directoryOf d target output entities)⟩ := by
  obtain ⟨_, checked, h⟩ := bind_eq_ok.1 h
  obtain ⟨entities, resolved, h⟩ := bind_eq_ok.1 h
  refine ⟨entities, resolved, mapError_eq_ok.1 checked, ?_⟩
  cases hs : d.storage? with
  | none =>
    rw [hs] at h
    exact ⟨nofun, (Except.ok.inj h).symm⟩
  | some target =>
    rw [hs] at h
    obtain ⟨_, free, h⟩ := bind_eq_ok.1 h
    refine ⟨fun target' eq => ?_, (Except.ok.inj h).symm⟩
    cases eq
    exact mapError_eq_ok.1 free

theorem Plan.paths_files (g : Generator) (p : Plan) :
    (p.files g).map (·.path) = p.interfaceFile ::
      match p.storage? with
      | none => []
      | some (path, directory) => (directory.plannedFiles g.storage.inflector).map path.join := by
  obtain ⟨file, declared, storage?⟩ := p
  cases storage? with
  | none => rfl
  | some storage => exact congrArg _ (storage.2.paths_files g.storage storage.1)

/-! ## Results -/

def Plan.report (g : Generator) (p : Plan) : Report :=
  ⟨p.interfaces.entities.length, p.interfaceFile, p.storage?.map (·.1), (p.files g).map (·.path)⟩

theorem run_of_plan {g : Generator} (standard : g.Standard) {d : Document} {output : Output}
    {root : Path} {p : Plan} (planned : g.plan d output root = .ok p) (files : FileTree) :
    g.run d output root files =
      ((performAll log (p.tasks g) { files := files }).1.map fun _ => p.report g,
        (performAll log (p.tasks g) { files := files }).2.files) := by
  obtain ⟨writes, -, logged, -, whole⟩ := write_outcome standard p files
  unfold run
  simp only [planned, ← write_eq_performAll standard p]
  generalize g.write p { files := files } = ran at logged whole
  obtain ⟨e | _, w⟩ := ran
  · rfl
  · have listed : w.logged log = (p.files g).map (·.path) := by
      rw [logged, ← whole rfl, List.map_map]
      rfl
    simp only [listed]
    rfl

theorem run_eq_ok_iff {g : Generator} (standard : g.Standard) {d : Document} {output : Output}
    {root : Path} {files after : FileTree} {report : Report} :
    g.run d output root files = (.ok report, after) ↔ ∃ p v, g.plan d output root = .ok p ∧
      performAll log (p.tasks g) { files := files } = (.ok (), v) ∧ p.report g = report ∧
      v.files = after := by
  constructor
  · intro h
    cases planned : g.plan d output root with
    | error e =>
      simp only [run, planned] at h
      cases h
    | ok p =>
      rw [run_of_plan standard planned] at h
      cases performed : performAll log (p.tasks g) { files := files } with
      | mk result v =>
        rw [performed] at h
        cases result with
        | error e => cases h
        | ok _ =>
          obtain ⟨reported, left⟩ := Prod.mk.inj h
          exact ⟨p, v, rfl, performed, Except.ok.inj reported, left⟩
  · rintro ⟨p, v, planned, performed, rfl, rfl⟩
    rw [run_of_plan standard planned, performed]
    rfl

theorem run_ok {g : Generator} (standard : g.Standard) {d : Document} {output : Output}
    {root : Path} {files after : FileTree} {report : Report}
    (h : g.run d output root files = (.ok report, after)) :
    ∃ p writes, g.plan d output root = .ok p ∧ Written (p.OnTheWay g) files writes after ∧
      writes.map .written = p.files g ∧ report.entities = p.interfaces.entities.length ∧
      report.files = (p.files g).map (·.path) := by
  obtain ⟨p, v, planned, performed, rfl, rfl⟩ := (run_eq_ok_iff standard).1 h
  obtain ⟨writes, written, -, -, whole⟩ := write_outcome standard p files
  rw [write_eq_performAll standard, performed] at written whole
  exact ⟨p, writes, planned, written, whole rfl, rfl, rfl⟩

/-- What a run is to write; nothing when there is no plan. -/
def writePlan (g : Generator) (d : Document) (output : Output) (root : Path) : List PlannedFile :=
  match g.plan d output root with
  | .ok p => p.files g
  | .error _ => []

theorem run_error {g : Generator} (standard : g.Standard) {d : Document} {output : Output}
    {root : Path} {files after : FileTree} {e : Failure}
    (h : g.run d output root files = (.error e, after)) :
    ∃ S writes, Written S files writes after ∧
      writes.map .written <+: g.writePlan d output root := by
  unfold run at h
  unfold writePlan
  split at h
  · obtain ⟨-, rfl⟩ := Prod.mk.inj h
    exact ⟨fun _ => False, [], Written.start _ files, List.nil_prefix⟩
  · rename_i p planned
    obtain ⟨writes, written, -, part, -⟩ := write_outcome standard p files
    split at h
    · rename_i w wrote
      rw [wrote] at written
      obtain ⟨-, rfl⟩ := Prod.mk.inj h
      rw [planned]
      exact ⟨p.OnTheWay g, writes, written, part⟩
    · cases h

/-- One entity, its interface file beside the directory of its storage file and the index. -/
def sample : Document where
  interfaces := { module := "model", path := "model.rs" }
  storage? := some { module := "store", path := "store" }
  entities := [{ name := "Cat" }]

/-- A run that fails wrote some first files of its plan completely, the last text where two of them
are one file, and no other file was changed or made. -/
theorem run_failure_keeps_files {d : Document} {output : Output} {root : Path}
    {files after : FileTree} {e : Failure}
    (h : run {} d output root files = (.error e, after)) :
    ∃ k ≤ (writePlan {} d output root).length,
      Delivered ((writePlan {} d output root).take k) after ∧
      ∀ l, (∀ f ∈ (writePlan {} d output root).take k, f.path.target ≠ l) →
        ∀ content, after.node? l = some (.file content) ↔ files.node? l = some (.file content) := by
  obtain ⟨S, writes, written, part⟩ := run_error standard_bundled h
  refine ⟨(writes.map PlannedFile.written).length, part.length_le, ?_⟩
  rw [← List.prefix_iff_eq_take.1 part]
  refine ⟨delivered_of_written written, fun l other => written.file_unchanged fun f hf => ?_⟩
  exact other (.written f) (List.mem_map_of_mem hf)

/-- A file stands where the storage directory is to be: it is kept. -/
theorem run_failure_keeps_files_blocked :
    ∃ e after, run {} sample {} "out" ⟨[(["out"], .directory), (["out", "store"], .file .empty)]⟩ =
        (.error e, after) ∧ after.node? ["out", "store"] = some (.file .empty) := by
  have fails : (run {} sample {} "out"
      ⟨[(["out"], .directory), (["out", "store"], .file .empty)]⟩).1.toOption.isNone = true := by
    decide +kernel
  have elsewhere : ((writePlan {} sample {} "out").all fun f =>
      f.path.target ≠ ["out", "store"]) = true := by
    decide +kernel
  cases h : run {} sample {} "out" ⟨[(["out"], .directory), (["out", "store"], .file .empty)]⟩ with
  | mk result after =>
    rw [h] at fails
    cases result with
    | ok report => cases fails
    | error e =>
      obtain ⟨k, -, -, kept⟩ := run_failure_keeps_files h
      refine ⟨e, after, rfl, (kept _ (fun f hf => ?_) .empty).2 rfl⟩
      simpa using List.all_eq_true.1 elsewhere f (List.mem_of_mem_take hf)

end Generator
end Scaffold
