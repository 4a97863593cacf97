import Scaffold.Proofs.Generation.Runs
import Scaffold.Proofs.Storage.FileNames

/-! Runs that write one file twice. The names within the storage directory are checked against each
other as texts, and nothing compares them with the path of the interface file. So the files of a
successful run are different just when their paths lead to different locations, which, unless the
suffix holds a slash, only the interface file can spoil.

Relative paths are walked from the root, so the working directory is taken to be the root: a relative
path and the absolute one with the same names count as one file. -/

namespace Scaffold
open Model Files Rules Settings

theorem Settings.Output.slash_not_mem_indexFile {output : Output} (h : output.check = .ok ()) :
    '/' ∉ output.indexFile.toList := by
  unfold check at h
  split at h
  · cases h
  · split at h
    · cases h
    · split at h
      · cases h
      · rename_i plain
        intro slash
        refine plain (List.any_eq_true.2 ⟨'/', slash, ?_⟩)
        decide

namespace Files

theorem pairwise_resolve_ne {t : FileTree} {paths : List Path}
    (resolves : ∀ p ∈ paths, t.resolve p = .ok p.target) :
    (paths.Pairwise fun a b => t.resolve a ≠ t.resolve b) ↔ (paths.map Path.target).Nodup := by
  rw [List.nodup_iff_pairwise_ne, List.pairwise_map]
  refine List.Pairwise.iff_of_mem fun {a b} ha hb => ?_
  rw [resolves a ha, resolves b hb, ne_eq, Except.ok.injEq]

end Files

namespace Generator

theorem nodup_targets_storage {path : Path} {names : List String} (distinct : names.Nodup)
    (targets : ∀ name ∈ names, (path.join name).target = path.target ++ [name]) :
    ((names.map path.join).map Path.target).Nodup := by
  have each : (names.map path.join).map Path.target = names.map (path.target ++ [·]) := by
    rw [List.map_map]
    exact List.map_congr_left targets
  rw [each, List.nodup_iff_pairwise_ne, List.pairwise_map]
  exact distinct.imp fun apart same => apart (by simpa using same)

theorem run_paths_distinct_iff {d : Document} {output : Output} {root : Path}
    {files after : FileTree} {report : Report}
    (h : run {} d output root files = (.ok report, after)) :
    ((report.files.Pairwise fun a b => after.resolve a ≠ after.resolve b) ↔
      (report.files.map Path.target).Nodup) ∧
    ('/' ∉ output.fileSuffix.toList →
      ((report.files.Pairwise fun a b => after.resolve a ≠ after.resolve b) ↔
        ∀ entities target, d.resolve = .ok entities → d.storage? = some target →
          ∀ name ∈ (directoryOf d target output entities).plannedFiles .english,
            (root.join d.interfaces.path).target ≠ (root.join target.path).target ++ [name])) := by
  obtain ⟨p, writes, planned, written, whole, -, listed⟩ := run_ok standard_bundled h
  obtain ⟨entities, resolved, checked, free, rfl⟩ := plan_ok planned
  have paths : report.files = writes.map (·.1) := by
    rw [listed, ← whole, List.map_map]
    rfl
  have found : ∀ path ∈ report.files, after.resolve path = .ok path.target ∧ path.EndsInName := by
    intro path hp
    rw [paths] at hp
    obtain ⟨f, hf, rfl⟩ := List.mem_map.1 hp
    exact ⟨written.resolves f hf, written.named f hf⟩
  have general := pairwise_resolve_ne fun path hp => (found path hp).1
  refine ⟨general, fun suffix => general.trans ?_⟩
  rw [Plan.paths_files] at listed
  cases hs : d.storage? with
  | none =>
    rw [hs] at listed
    rw [listed]
    exact ⟨fun _ _ _ _ => nofun, fun _ => List.pairwise_singleton _ _⟩
  | some target =>
    rw [hs] at listed
    simp only [Option.map_some] at listed
    have index := Output.slash_not_mem_indexFile checked
    have targets : ∀ name ∈ (directoryOf d target output entities).plannedFiles .english,
        ((root.join target.path).join name).target = (root.join target.path).target ++ [name] := by
      intro name hn
      have plain := StorageDirectory.slash_not_mem_plannedFiles suffix index hn
      refine Path.target_join_name _ plain (found _ ?_).2
      rw [listed]
      exact List.mem_cons_of_mem _ (List.mem_map_of_mem hn)
    have distinct := nodup_targets_storage (StorageDirectory.checkFiles_eq_ok.1 (free target hs))
      targets
    rw [listed, List.map_cons, List.nodup_cons]
    constructor
    · rintro ⟨apart, -⟩ entities' target' resolved' hs' name hn same
      obtain rfl := Except.ok.inj (resolved.symm.trans resolved')
      obtain rfl := Option.some.inj hs'
      refine apart (List.mem_map.2 ⟨_, List.mem_map_of_mem hn, ?_⟩)
      rw [targets name hn, same]
    · intro apart
      refine ⟨fun hm => ?_, distinct⟩
      obtain ⟨path, hp, same⟩ := List.mem_map.1 hm
      obtain ⟨name, hn, rfl⟩ := List.mem_map.1 hp
      exact apart entities target resolved rfl name hn (same.symm.trans (targets name hn))

theorem run_paths_distinct_iff_sample :
    ∃ report after, run {} sample {} "out" .empty = (.ok report, after) ∧
      report.files.Pairwise fun a b => after.resolve a ≠ after.resolve b := by
  have listed : (run {} sample {} "out" .empty).1.toOption.map (·.files) =
      some [⟨"out/model.rs"⟩, ⟨"out/store/cat_gen.rs"⟩, ⟨"out/store/index_gen.rs"⟩] := by
    decide +kernel
  cases h : run {} sample {} "out" .empty with
  | mk result after =>
    rw [h] at listed
    cases result with
    | error e => cases listed
    | ok report =>
      refine ⟨report, after, rfl, (run_paths_distinct_iff h).1.2 ?_⟩
      rw [show report.files = _ from Option.some.inj listed]
      decide

/-- The interface file is where the storage file of the entity is to be. -/
def colliding : Document where
  interfaces := { module := "model", path := "store/cat_gen.rs" }
  storage? := some { module := "store", path := "store", generateIndex := false }
  entities := [{ name := "Cat" }]

theorem run_overwrites_interface_file :
    ∃ report after, run {} colliding {} "out" .empty = (.ok report, after) ∧
      ¬ report.files.Pairwise fun a b => after.resolve a ≠ after.resolve b := by
  have listed : (run {} colliding {} "out" .empty).1.toOption.map (·.files) =
      some [⟨"out/store/cat_gen.rs"⟩, ⟨"out/store/cat_gen.rs"⟩] := by
    decide +kernel
  cases h : run {} colliding {} "out" .empty with
  | mk result after =>
    rw [h] at listed
    cases result with
    | error e => cases listed
    | ok report =>
      refine ⟨report, after, rfl, fun apart => ?_⟩
      rw [show report.files = _ from Option.some.inj listed] at apart
      exact List.rel_of_pairwise_cons apart List.mem_cons_self rfl

end Generator
end Scaffold
