import Art.ClassTable.Refinement

/-! What `Lookup` and the class counts answer as the table changes: no operation removes a
descriptor or lowers a count, and under the contract the order of the search does not matter. -/
namespace Art

namespace ClassSet

theorem descriptors_subset_insertWithHash (set : ClassSet) (klass : Class) :
    set.descriptors ⊆ (set.insertWithHash klass).descriptors := by
  unfold insertWithHash
  split
  · simp [descriptors]
  · exact List.Subset.refl _

theorem size_le_insertWithHash (set : ClassSet) (klass : Class) :
    set.size ≤ (set.insertWithHash klass).size := by
  unfold insertWithHash
  split <;> simp [size]

theorem size_replace (set : ClassSet) (klass : Class) : (set.replace klass).size = set.size := by
  simp [replace, size]

end ClassSet

namespace ClassTable

theorem apply_descriptors_subset {t t' : ClassTable} {op : Operation} (step : t.apply op = .ok t') :
    t.classes.flatMap ClassSet.descriptors ⊆ t'.classes.flatMap ClassSet.descriptors := by
  rcases List.eq_nil_or_concat' t.classes with empty | ⟨pre, back, split⟩
  · simp [empty]
  cases op
  case updateClass klass =>
    obtain ⟨existing, update⟩ := apply_updateClass step
    obtain ⟨pre', back', split', -, -, -, -, -, rfl⟩ := updateClass_ok update
    simp [split', ClassSet.descriptors_replace]
  all_goals
    simp only [apply, insertWithHash_of_concat split, addClassSet_of_concat split,
      freezeSnapshot_of_concat split, Except.ok.injEq] at step
    subst step
    simp [split, clearStrongRoots, ClassSet.descriptors_subset_insertWithHash]

/-- No run that returns removes a class `Lookup` finds, whether or not it keeps the contract. -/
theorem lookup_isSome_of_run {t t' : ClassTable} {ops : List Operation} (run : t.run ops = .ok t')
    (descriptor : String) (found : (t.lookup descriptor).isSome) :
    (t'.lookup descriptor).isSome := by
  induction ops generalizing t with
  | nil => cases run; exact found
  | cons op ops ih =>
    simp only [ClassTable.run] at run
    split at run
    · rename_i step
      rw [lookup_isSome_iff] at found
      exact ih run ((lookup_isSome_iff _ _).mpr (apply_descriptors_subset step found))
    · cases run

/-- A class inserted over a frozen one of its descriptor, against the contract. -/
theorem lookup_isSome_of_run_shadowed :
    (ClassTable.mk [ClassSet.empty.insertWithHash ⟨1, "LMain;", 0, false, true, false⟩] [] []).run
        [.freezeSnapshot, .insertWithHash ⟨2, "LMain;", 0, false, true, false⟩, .freezeSnapshot] =
      .ok ⟨[ClassSet.empty.insertWithHash ⟨1, "LMain;", 0, false, true, false⟩,
        ClassSet.empty.insertWithHash ⟨2, "LMain;", 0, false, true, false⟩, ClassSet.empty], [], []⟩ ∧
    ((ClassTable.mk [ClassSet.empty.insertWithHash ⟨1, "LMain;", 0, false, true, false⟩] [] []).lookup
      "LMain;").isSome ∧
    ((ClassTable.mk [ClassSet.empty.insertWithHash ⟨1, "LMain;", 0, false, true, false⟩,
        ClassSet.empty.insertWithHash ⟨2, "LMain;", 0, false, true, false⟩, ClassSet.empty] [] []).lookup
      "LMain;").isSome :=
  ⟨rfl, rfl, @lookup_isSome_of_run
    ⟨[ClassSet.empty.insertWithHash ⟨1, "LMain;", 0, false, true, false⟩], [], []⟩
    ⟨[ClassSet.empty.insertWithHash ⟨1, "LMain;", 0, false, true, false⟩,
      ClassSet.empty.insertWithHash ⟨2, "LMain;", 0, false, true, false⟩, ClassSet.empty], [], []⟩
    [.freezeSnapshot, .insertWithHash ⟨2, "LMain;", 0, false, true, false⟩, .freezeSnapshot]
    rfl "LMain;" rfl⟩

/-- After `InsertWithHash`, `Lookup` finds the last set's class of the descriptor if it had one,
and the new class otherwise, even over a frozen one. -/
theorem lookup_insertWithHash {t t' : ClassTable} {klass : Class} {back : ClassSet}
    (last : t.classes.getLast? = some back) (step : t.insertWithHash klass = .ok t')
    (descriptor : String) :
    t'.lookup descriptor =
      if klass.descriptor = descriptor then some ((back.findWithHash descriptor).getD klass)
      else t.lookup descriptor := by
  have split := (@List.dropLast_append_getLast? _ t.classes back last).symm
  rw [insertWithHash_of_concat split, Except.ok.injEq] at step
  subst step
  rw [lookup_of_split rfl, lookup_of_split split]
  cases absent : back.findWithHash klass.descriptor with
  | none =>
    rw [ClassSet.findWithHash_insertWithHash absent]
    split_ifs with same
    · simp [← same, absent]
    · rfl
  | some existing =>
    rw [show back.insertWithHash klass = back by simp [ClassSet.insertWithHash, absent]]
    split_ifs with same
    · simp [← same, absent]
    · rfl

theorem lookup_insertWithHash_shadows_frozen :
    ([ClassSet.empty.insertWithHash ⟨1, "LMain;", 0, false, true, false⟩, ClassSet.empty] :
      List ClassSet).getLast? = some ClassSet.empty ∧
    (ClassTable.mk [ClassSet.empty.insertWithHash ⟨1, "LMain;", 0, false, true, false⟩,
        ClassSet.empty] [] []).insertWithHash ⟨2, "LMain;", 0, false, true, false⟩ =
      .ok ⟨[ClassSet.empty.insertWithHash ⟨1, "LMain;", 0, false, true, false⟩,
        ClassSet.empty.insertWithHash ⟨2, "LMain;", 0, false, true, false⟩], [], []⟩ ∧
    (ClassTable.mk [ClassSet.empty.insertWithHash ⟨1, "LMain;", 0, false, true, false⟩,
        ClassSet.empty.insertWithHash ⟨2, "LMain;", 0, false, true, false⟩] [] []).lookup "LMain;" =
      some ⟨2, "LMain;", 0, false, true, false⟩ :=
  ⟨rfl, rfl, (@lookup_insertWithHash
    ⟨[ClassSet.empty.insertWithHash ⟨1, "LMain;", 0, false, true, false⟩, ClassSet.empty], [], []⟩
    ⟨[ClassSet.empty.insertWithHash ⟨1, "LMain;", 0, false, true, false⟩,
      ClassSet.empty.insertWithHash ⟨2, "LMain;", 0, false, true, false⟩], [], []⟩
    ⟨2, "LMain;", 0, false, true, false⟩ ClassSet.empty rfl rfl "LMain;").trans rfl⟩

/-- Under the contract, a search of the sets in any order answers as `Lookup` does. -/
theorem lookup_eq_findSome_of_perm {ops : List Operation} {t : ClassTable}
    (run : AllowedRun ClassTable.new ops t) {sets : List ClassSet} (perm : sets.Perm t.classes)
    (descriptor : String) :
    t.lookup descriptor = sets.findSome? (·.findWithHash descriptor) := by
  have refines := refines_new.run run
  cases search : sets.findSome? (·.findWithHash descriptor) with
  | some klass =>
    obtain ⟨set, member, found⟩ := List.exists_of_findSome?_eq_some search
    exact (refines.lookup_eq_some_iff descriptor klass).mpr
      ⟨List.mem_flatMap.mpr ⟨set, perm.subset member, List.mem_of_find?_eq_some found⟩,
        ClassSet.findWithHash_descriptor found⟩
  | none =>
    cases found : t.lookup descriptor with
    | none => rfl
    | some klass =>
      obtain ⟨member, rfl⟩ := lookup_eq_some found
      obtain ⟨set, inClasses, inSet⟩ := List.mem_flatMap.mp member
      have absent := List.findSome?_eq_none_iff.mp search set (perm.symm.subset inClasses)
      rw [← Option.not_isSome_iff_eq_none, ClassSet.findWithHash_isSome_iff] at absent
      exact absurd (List.mem_map_of_mem _ inSet) absent

theorem lookup_eq_findSome_of_perm_insert_freeze :
    AllowedRun ClassTable.new [.insertWithHash ⟨1, "LMain;", 0, false, true, false⟩, .freezeSnapshot]
      ⟨[ClassSet.empty.insertWithHash ⟨1, "LMain;", 0, false, true, false⟩, ClassSet.empty], [], []⟩ ∧
    [ClassSet.empty, ClassSet.empty.insertWithHash ⟨1, "LMain;", 0, false, true, false⟩].Perm
      [ClassSet.empty.insertWithHash ⟨1, "LMain;", 0, false, true, false⟩, ClassSet.empty] ∧
    (ClassTable.mk [ClassSet.empty.insertWithHash ⟨1, "LMain;", 0, false, true, false⟩,
        ClassSet.empty] [] []).lookup "LMain;" =
      [ClassSet.empty, ClassSet.empty.insertWithHash ⟨1, "LMain;", 0, false, true, false⟩].findSome?
        (·.findWithHash "LMain;") := by
  have run : AllowedRun ClassTable.new
      [.insertWithHash ⟨1, "LMain;", 0, false, true, false⟩, .freezeSnapshot]
      ⟨[ClassSet.empty.insertWithHash ⟨1, "LMain;", 0, false, true, false⟩, ClassSet.empty], [], []⟩ :=
    .cons rfl rfl (.cons trivial rfl (.nil _))
  have perm : [ClassSet.empty, ClassSet.empty.insertWithHash ⟨1, "LMain;", 0, false, true, false⟩].Perm
      [ClassSet.empty.insertWithHash ⟨1, "LMain;", 0, false, true, false⟩, ClassSet.empty] :=
    List.Perm.swap _ _ _
  exact ⟨run, perm, lookup_eq_findSome_of_perm run perm "LMain;"⟩

section Counts

variable {t t' : ClassTable}

theorem apply_sum_sizes_le {op : Operation} (step : t.apply op = .ok t') :
    (t.classes.map ClassSet.size).sum ≤ (t'.classes.map ClassSet.size).sum := by
  rcases List.eq_nil_or_concat' t.classes with empty | ⟨pre, back, split⟩
  · simp [empty]
  cases op
  case updateClass klass =>
    obtain ⟨existing, update⟩ := apply_updateClass step
    obtain ⟨pre', back', split', -, -, -, -, -, rfl⟩ := updateClass_ok update
    simp [split', ClassSet.size_replace]
  case insertWithHash klass =>
    simp only [apply, insertWithHash_of_concat split, Except.ok.injEq] at step
    subst step
    simpa [split] using ClassSet.size_le_insertWithHash back klass
  all_goals
    simp only [apply, addClassSet_of_concat split, freezeSnapshot_of_concat split,
      Except.ok.injEq] at step
    subst step
    simp [split, clearStrongRoots]

/-- Sums over the frozen sets never go down: they only gain sets at the end. -/
theorem apply_frozen_sum_le {op : Operation} (nonempty : t.classes ≠ []) (step : t.apply op = .ok t')
    (f : ClassSet → Nat) : (t.classes.dropLast.map f).sum ≤ (t'.classes.dropLast.map f).sum := by
  obtain ⟨rest, grown⟩ := ClassesStep.frozen_prefix (apply_classes nonempty step)
  simp [← grown, List.sum_append]

theorem run_sums_le {ops : List Operation} (nonempty : t.classes ≠ []) (run : t.run ops = .ok t') :
    t'.classes ≠ [] ∧ (∀ f : ClassSet → Nat,
      (t.classes.dropLast.map f).sum ≤ (t'.classes.dropLast.map f).sum) ∧
    (t.classes.map ClassSet.size).sum ≤ (t'.classes.map ClassSet.size).sum := by
  induction ops generalizing t with
  | nil => cases run; exact ⟨nonempty, fun _ => le_rfl, le_rfl⟩
  | cons op ops ih =>
    simp only [ClassTable.run] at run
    split at run
    · rename_i step
      obtain ⟨nonempty', frozen, total⟩ := ih ((apply_classes nonempty step).nonempty nonempty) run
      exact ⟨nonempty', fun f => (apply_frozen_sum_le nonempty step f).trans (frozen f),
        (apply_sum_sizes_le step).trans total⟩
    · cases run

theorem numReferencedNonZygoteClasses_add (nonempty : t.classes ≠ []) :
    ∃ nonZygote, t.numReferencedNonZygoteClasses = .ok nonZygote ∧
      (t.classes.dropLast.map ClassSet.size).sum + nonZygote = (t.classes.map ClassSet.size).sum := by
  obtain ⟨pre, back, split⟩ := (List.eq_nil_or_concat' t.classes).resolve_left nonempty
  exact ⟨back.size, by simp [numReferencedNonZygoteClasses, split], by simp [split, List.sum_append]⟩

end Counts

/-- From a reachable table, over any run that returns, the zygote counts of each loader, the
referenced zygote count and the referenced total all return and never go down. -/
theorem class_counts_never_decrease {t t' : ClassTable} {ops : List Operation}
    (reachable : t.Reachable) (run : t.run ops = .ok t') :
    (∀ definingLoader, ∃ before after, t.numZygoteClasses definingLoader = .ok before ∧
      t'.numZygoteClasses definingLoader = .ok after ∧ before ≤ after) ∧
    ∃ zygote zygote' nonZygote nonZygote', t.numReferencedZygoteClasses = .ok zygote ∧
      t'.numReferencedZygoteClasses = .ok zygote' ∧
      t.numReferencedNonZygoteClasses = .ok nonZygote ∧
      t'.numReferencedNonZygoteClasses = .ok nonZygote' ∧
      zygote ≤ zygote' ∧ zygote + nonZygote ≤ zygote' + nonZygote' := by
  have nonempty := reachable.nonempty
  obtain ⟨nonempty', frozen, total⟩ := run_sums_le nonempty run
  obtain ⟨nonZygote, nonZygoteOk, sum⟩ := numReferencedNonZygoteClasses_add nonempty
  obtain ⟨nonZygote', nonZygoteOk', sum'⟩ := numReferencedNonZygoteClasses_add nonempty'
  refine ⟨fun definingLoader => ⟨_, _, sumTables_frozen nonempty _, sumTables_frozen nonempty' _,
      frozen _⟩,
    _, _, nonZygote, nonZygote', sumTables_frozen nonempty _, sumTables_frozen nonempty' _,
    nonZygoteOk, nonZygoteOk', frozen _, ?_⟩
  omega

theorem class_counts_never_decrease_freeze :
    ∃ t', ClassTable.new.run [.insertWithHash ⟨1, "LMain;", 0, false, true, false⟩, .freezeSnapshot,
        .insertWithHash ⟨2, "LOther;", 0, false, true, false⟩] = .ok t' ∧
      ∃ zygote zygote' nonZygote nonZygote', ClassTable.new.numReferencedZygoteClasses = .ok zygote ∧
        t'.numReferencedZygoteClasses = .ok zygote' ∧
        ClassTable.new.numReferencedNonZygoteClasses = .ok nonZygote ∧
        t'.numReferencedNonZygoteClasses = .ok nonZygote' ∧
        zygote ≤ zygote' ∧ zygote + nonZygote ≤ zygote' + nonZygote' :=
  ⟨_, rfl, (@class_counts_never_decrease ClassTable.new _
    [.insertWithHash ⟨1, "LMain;", 0, false, true, false⟩, .freezeSnapshot,
      .insertWithHash ⟨2, "LOther;", 0, false, true, false⟩] Reachable.new rfl).2⟩

end ClassTable

end Art
