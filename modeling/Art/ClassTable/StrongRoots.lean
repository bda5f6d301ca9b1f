import Art.ClassTable.Snapshots

/-! The strong roots and oat files of a class table: no duplicates, and every dex cache among the
strong roots has its `.bss`-root oat file registered. -/
namespace Art.ClassTable

/-- Every strong root that is a dex cache with a `.bss`-root oat file has it in `oat_files_`. -/
def BssOatFilesRegistered (t : ClassTable) : Prop :=
  ∀ obj ∈ t.strongRoots, ∀ oatFile, obj.bssOatFile = some oatFile → oatFile ∈ t.oatFiles

section Calls

variable (t : ClassTable)

theorem insertOatFile_fst (oatFile : OatFile) :
    (t.insertOatFile oatFile).1 = decide (oatFile ∉ t.oatFiles) := by
  unfold insertOatFile; split_ifs with member <;> simp [member]

@[simp] theorem insertOatFile_strongRoots (oatFile : OatFile) :
    (t.insertOatFile oatFile).2.strongRoots = t.strongRoots := by
  unfold insertOatFile; split_ifs <;> rfl

theorem mem_insertOatFile (oatFile : OatFile) : oatFile ∈ (t.insertOatFile oatFile).2.oatFiles := by
  unfold insertOatFile; split_ifs with member <;> simp [member]

theorem insertOatFile_subset (oatFile : OatFile) : t.oatFiles ⊆ (t.insertOatFile oatFile).2.oatFiles := by
  unfold insertOatFile; split_ifs <;> simp

theorem insertOatFile_nodup {oatFile : OatFile} (nodup : t.oatFiles.Nodup) :
    (t.insertOatFile oatFile).2.oatFiles.Nodup := by
  unfold insertOatFile
  split_ifs with member
  · exact nodup
  · simp [List.nodup_append, nodup, member]

theorem insertStrongRoot_fst (obj : Object) :
    (t.insertStrongRoot obj).1 = decide (obj ∉ t.strongRoots) := by
  unfold insertStrongRoot; split_ifs with member
  · simp [member]
  · split <;> simp [member]

theorem insertStrongRoot_of_mem {obj : Object} (member : obj ∈ t.strongRoots) :
    t.insertStrongRoot obj = (false, t) := by
  simp [insertStrongRoot, member]

/-- A new root is appended, and its `.bss`-root oat file registered. -/
theorem insertStrongRoot_of_not_mem {obj : Object} (fresh : obj ∉ t.strongRoots) :
    (t.insertStrongRoot obj).2.strongRoots = t.strongRoots ++ [obj] ∧
    (∀ oatFile, obj.bssOatFile = some oatFile →
      (t.insertStrongRoot obj).2.oatFiles = (t.insertOatFile oatFile).2.oatFiles) ∧
    (obj.bssOatFile = none → (t.insertStrongRoot obj).2.oatFiles = t.oatFiles) := by
  refine ⟨?_, fun oatFile bss => ?_, fun bss => ?_⟩ <;>
    simp only [insertStrongRoot, fresh, if_false]
  · split <;> simp
  · simp only [bss]; unfold insertOatFile; split_ifs <;> rfl
  · simp only [bss]

theorem mem_insertStrongRoot (obj : Object) : obj ∈ (t.insertStrongRoot obj).2.strongRoots := by
  by_cases member : obj ∈ t.strongRoots
  · rw [insertStrongRoot_of_mem t member]; exact member
  · simp [(insertStrongRoot_of_not_mem t member).1]

end Calls

theorem apply_roots {t t' : ClassTable} {op : Operation} (step : t.apply op = .ok t') :
    (t'.strongRoots = t.strongRoots ∧ t'.oatFiles = t.oatFiles) ∨
    (∃ obj, t' = (t.insertStrongRoot obj).2) ∨ (∃ oatFile, t' = (t.insertOatFile oatFile).2) ∨
    t' = t.clearStrongRoots := by
  cases op
  case updateClass klass =>
    obtain ⟨existing, update⟩ := apply_updateClass step
    obtain ⟨pre, back, -, -, -, -, -, -, rfl⟩ := updateClass_ok update
    exact .inl ⟨rfl, rfl⟩
  case insertStrongRoot obj =>
    simp only [apply, Except.ok.injEq] at step; exact .inr (.inl ⟨obj, step.symm⟩)
  case insertOatFile oatFile =>
    simp only [apply, Except.ok.injEq] at step; exact .inr (.inr (.inl ⟨oatFile, step.symm⟩))
  case clearStrongRoots =>
    simp only [apply, Except.ok.injEq] at step; exact .inr (.inr (.inr step.symm))
  all_goals
    left
    simp only [apply, insertWithHash, freezeSnapshot, addClassSet] at step
    split at step <;> cases step
    exact ⟨rfl, rfl⟩

section Invariants

variable {t : ClassTable}

theorem BssOatFilesRegistered.insertOatFile (registered : t.BssOatFilesRegistered)
    (oatFile : OatFile) : (t.insertOatFile oatFile).2.BssOatFilesRegistered := by
  intro obj member file bss
  rw [insertOatFile_strongRoots] at member
  exact t.insertOatFile_subset oatFile (registered obj member file bss)

theorem BssOatFilesRegistered.insertStrongRoot (registered : t.BssOatFilesRegistered)
    (obj : Object) : (t.insertStrongRoot obj).2.BssOatFilesRegistered := by
  by_cases present : obj ∈ t.strongRoots
  · rw [insertStrongRoot_of_mem t present]; exact registered
  obtain ⟨roots, withBss, withoutBss⟩ := insertStrongRoot_of_not_mem t present
  have grow : t.oatFiles ⊆ (t.insertStrongRoot obj).2.oatFiles := by
    cases bss : obj.bssOatFile with
    | none => rw [withoutBss bss]; exact List.Subset.refl _
    | some file => rw [withBss file bss]; exact t.insertOatFile_subset file
  intro root member file bss
  rw [roots] at member
  rcases List.mem_append.mp member with old | new
  · exact grow (registered root old file bss)
  · rw [List.mem_singleton.mp new] at bss
    rw [withBss file bss]
    exact t.mem_insertOatFile file

theorem BssOatFilesRegistered.step {op : Operation} {t' : ClassTable}
    (registered : t.BssOatFilesRegistered) (step : t.apply op = .ok t') :
    t'.BssOatFilesRegistered := by
  rcases apply_roots step with ⟨roots, files⟩ | ⟨obj, rfl⟩ | ⟨file, rfl⟩ | rfl
  · intro obj member file bss
    rw [files]; exact registered obj (roots ▸ member) file bss
  · exact registered.insertStrongRoot obj
  · exact registered.insertOatFile file
  · intro obj member; simp [clearStrongRoots] at member

theorem nodup_step {op : Operation} {t' : ClassTable} (nodup : t.strongRoots.Nodup ∧ t.oatFiles.Nodup)
    (step : t.apply op = .ok t') : t'.strongRoots.Nodup ∧ t'.oatFiles.Nodup := by
  rcases apply_roots step with ⟨roots, files⟩ | ⟨obj, rfl⟩ | ⟨file, rfl⟩ | rfl
  · rw [roots, files]; exact nodup
  · by_cases present : obj ∈ t.strongRoots
    · rw [insertStrongRoot_of_mem t present]; exact nodup
    obtain ⟨roots, withBss, withoutBss⟩ := insertStrongRoot_of_not_mem t present
    refine ⟨by simp [roots, List.nodup_append, nodup.1, present], ?_⟩
    cases bss : obj.bssOatFile with
    | none => rw [withoutBss bss]; exact nodup.2
    | some file => rw [withBss file bss]; exact t.insertOatFile_nodup nodup.2
  · exact ⟨by simpa using nodup.1, t.insertOatFile_nodup nodup.2⟩
  · simp [clearStrongRoots]

/-- Neither list holds a duplicate; each insertion answers whether its argument was new, and a
duplicate `InsertStrongRoot` changes nothing. -/
theorem strong_roots_oat_files_nodup :
    (∀ t : ClassTable, t.Reachable → t.strongRoots.Nodup ∧ t.oatFiles.Nodup) ∧
    (∀ (t : ClassTable) obj, (t.insertStrongRoot obj).1 = decide (obj ∉ t.strongRoots) ∧
      ((t.insertStrongRoot obj).1 = false → (t.insertStrongRoot obj).2 = t) ∧
      obj ∈ (t.insertStrongRoot obj).2.strongRoots) ∧
    (∀ (t : ClassTable) oatFile, (t.insertOatFile oatFile).1 = decide (oatFile ∉ t.oatFiles) ∧
      oatFile ∈ (t.insertOatFile oatFile).2.oatFiles) := by
  refine ⟨fun _ reachable => reachable.induction (by simp [ClassTable.new])
      fun _ _ _ _ nodup step => nodup_step nodup step,
    fun t obj => ⟨t.insertStrongRoot_fst obj, fun answer => ?_, t.mem_insertStrongRoot obj⟩,
    fun t oatFile => ⟨t.insertOatFile_fst oatFile, t.mem_insertOatFile oatFile⟩⟩
  rw [insertStrongRoot_fst, decide_eq_false_iff_not, not_not] at answer
  rw [insertStrongRoot_of_mem t answer]

end Invariants

/-- The objects and oat files the operations since the last `ClearStrongRoots` ask the table to
keep. -/
def rootsApply (roots : List Object × List OatFile) : Operation → List Object × List OatFile
  | .insertStrongRoot obj => (roots.1 ++ [obj], roots.2 ++ obj.bssOatFile.toList)
  | .insertOatFile oatFile => (roots.1, roots.2 ++ [oatFile])
  | .clearStrongRoots => ([], [])
  | .insertWithHash _ | .freezeSnapshot | .updateClass _ | .addClassSet _ => roots

structure KeepsRoots (t : ClassTable) (roots : List Object × List OatFile) : Prop where
  strongRoots : ∀ obj, obj ∈ t.strongRoots ↔ obj ∈ roots.1
  oatFiles : ∀ oatFile, oatFile ∈ t.oatFiles ↔ oatFile ∈ roots.2

section Keeps

variable {t : ClassTable} {roots : List Object × List OatFile}

theorem mem_insertOatFile_iff (t : ClassTable) (oatFile file : OatFile) :
    file ∈ (t.insertOatFile oatFile).2.oatFiles ↔ file ∈ t.oatFiles ∨ file = oatFile := by
  unfold insertOatFile
  split_ifs with member
  · exact ⟨.inl, fun | .inl old => old | .inr rfl => member⟩
  · simp

theorem KeepsRoots.insertOatFile (keeps : t.KeepsRoots roots) (oatFile : OatFile) :
    (t.insertOatFile oatFile).2.KeepsRoots (rootsApply roots (.insertOatFile oatFile)) :=
  ⟨fun obj => by simpa using keeps.strongRoots obj,
    fun file => by simp [mem_insertOatFile_iff, keeps.oatFiles file, rootsApply]⟩

theorem KeepsRoots.insertStrongRoot (keeps : t.KeepsRoots roots)
    (registered : t.BssOatFilesRegistered) (obj : Object) :
    (t.insertStrongRoot obj).2.KeepsRoots (rootsApply roots (.insertStrongRoot obj)) := by
  by_cases present : obj ∈ t.strongRoots
  · rw [insertStrongRoot_of_mem t present]
    refine ⟨fun root => ?_, fun file => ?_⟩
    · rw [keeps.strongRoots, rootsApply, List.mem_append, List.mem_singleton]
      exact ⟨.inl, fun held => held.elim id fun same => same ▸ (keeps.strongRoots _).mp present⟩
    · rw [keeps.oatFiles, rootsApply, List.mem_append, Option.mem_toList]
      exact ⟨.inl, fun held => held.elim id fun bss =>
        (keeps.oatFiles file).mp (registered obj present file bss)⟩
  obtain ⟨strongRoots, withBss, withoutBss⟩ := insertStrongRoot_of_not_mem t present
  refine ⟨fun root => by simp [strongRoots, keeps.strongRoots root, rootsApply], fun file => ?_⟩
  cases bss : obj.bssOatFile with
  | none => simp [withoutBss bss, keeps.oatFiles file, rootsApply, bss]
  | some oatFile =>
    simp [withBss oatFile bss, mem_insertOatFile_iff, keeps.oatFiles file, rootsApply, bss]

theorem KeepsRoots.step {op : Operation} {t' : ClassTable} (keeps : t.KeepsRoots roots)
    (registered : t.BssOatFilesRegistered) (step : t.apply op = .ok t') :
    t'.KeepsRoots (rootsApply roots op) := by
  cases op
  case insertStrongRoot obj =>
    simp only [apply, Except.ok.injEq] at step; subst step
    exact keeps.insertStrongRoot registered obj
  case insertOatFile oatFile =>
    simp only [apply, Except.ok.injEq] at step; subst step
    exact keeps.insertOatFile oatFile
  case clearStrongRoots =>
    simp only [apply, Except.ok.injEq] at step; subst step
    constructor <;> simp [clearStrongRoots, rootsApply]
  case updateClass klass =>
    obtain ⟨existing, update⟩ := apply_updateClass step
    obtain ⟨pre, back, -, -, -, -, -, -, rfl⟩ := updateClass_ok update
    exact ⟨keeps.1, keeps.2⟩
  all_goals
    simp only [apply, insertWithHash, freezeSnapshot, addClassSet] at step
    split at step <;> cases step
    exact ⟨keeps.1, keeps.2⟩

theorem KeepsRoots.run {ops : List Operation} {t' : ClassTable} (keeps : t.KeepsRoots roots)
    (registered : t.BssOatFilesRegistered) (run : t.run ops = .ok t') :
    t'.KeepsRoots (ops.foldl rootsApply roots) := by
  induction ops generalizing t roots with
  | nil => cases run; exact keeps
  | cons op ops ih =>
    simp only [ClassTable.run] at run
    split at run
    · rename_i step
      exact ih (keeps.step registered step) (registered.step step) run
    · cases run

end Keeps

/-- From the constructor, over every run that returns, `strong_roots_` and `oat_files_` hold exactly
what was inserted since the last clear, with the `.bss`-root oat files of the roots. -/
theorem strong_roots_since_clear {ops : List Operation} {t : ClassTable}
    (run : ClassTable.new.run ops = .ok t) :
    (∀ obj, obj ∈ t.strongRoots ↔ obj ∈ (ops.foldl rootsApply ([], [])).1) ∧
    (∀ oatFile, oatFile ∈ t.oatFiles ↔ oatFile ∈ (ops.foldl rootsApply ([], [])).2) := by
  have keeps : ClassTable.new.KeepsRoots ([], []) := by constructor <;> simp [ClassTable.new]
  have registered : ClassTable.new.BssOatFilesRegistered := fun obj member => by
    simp [ClassTable.new] at member
  exact ⟨(keeps.run registered run).strongRoots, (keeps.run registered run).oatFiles⟩

/-- A dex cache inserted, the roots cleared, and the same dex cache inserted again. -/
theorem strong_roots_since_clear_reinsert :
    ClassTable.new.run
        [.insertStrongRoot ⟨7, .dexCache (some ⟨some ⟨some ⟨3, 2⟩⟩⟩)⟩, .insertOatFile ⟨4, 0⟩,
          .clearStrongRoots, .insertStrongRoot ⟨7, .dexCache (some ⟨some ⟨some ⟨3, 2⟩⟩⟩)⟩] =
      .ok ⟨[ClassSet.empty], [⟨7, .dexCache (some ⟨some ⟨some ⟨3, 2⟩⟩⟩)⟩], [⟨3, 2⟩]⟩ ∧
    ∀ oatFile, oatFile ∈ ([⟨3, 2⟩] : List OatFile) ↔ oatFile ∈
      ([Operation.insertStrongRoot ⟨7, .dexCache (some ⟨some ⟨some ⟨3, 2⟩⟩⟩)⟩, .insertOatFile ⟨4, 0⟩,
        .clearStrongRoots, .insertStrongRoot ⟨7, .dexCache (some ⟨some ⟨some ⟨3, 2⟩⟩⟩)⟩].foldl
          rootsApply ([], [])).2 :=
  ⟨rfl, (@strong_roots_since_clear
    [.insertStrongRoot ⟨7, .dexCache (some ⟨some ⟨some ⟨3, 2⟩⟩⟩)⟩, .insertOatFile ⟨4, 0⟩,
      .clearStrongRoots, .insertStrongRoot ⟨7, .dexCache (some ⟨some ⟨some ⟨3, 2⟩⟩⟩)⟩]
    ⟨[ClassSet.empty], [⟨7, .dexCache (some ⟨some ⟨some ⟨3, 2⟩⟩⟩)⟩], [⟨3, 2⟩]⟩ rfl).2⟩

end Art.ClassTable
