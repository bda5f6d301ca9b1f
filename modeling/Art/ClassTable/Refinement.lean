import Art.ClassTable.Snapshots

/-! Under the contract its callers keep, the vector of class sets with its newest-first `Lookup`
refines one finite map from descriptors to classes. -/
namespace Art

/-- The abstract class table: one finite map from descriptors to classes. -/
abbrev ClassMap := AList fun _ : String => Class

def ClassSet.toClassMap (set : ClassSet) : ClassMap :=
  ⟨set.slots.map fun klass => ⟨klass.descriptor, klass⟩, by
    simpa [List.NodupKeys, List.keys, Function.comp_def] using set.nodup⟩

namespace ClassTable

/-- The callers' contract for each operation. -/
def Allowed (t : ClassTable) : Operation → Prop
  | .insertWithHash klass => t.lookup klass.descriptor = none
  | .updateClass klass =>
    ∃ back, t.classes.getLast? = some back ∧ (back.findWithHash klass.descriptor).isSome
  | .addClassSet set => ∀ klass ∈ set.slots, t.lookup klass.descriptor = none
  | .freezeSnapshot | .insertStrongRoot _ | .insertOatFile _ | .clearStrongRoots => True

def abstractApply (m : ClassMap) : Operation → ClassMap
  | .insertWithHash klass | .updateClass klass => m.insert klass.descriptor klass
  | .addClassSet set => m ∪ set.toClassMap
  | .freezeSnapshot | .insertStrongRoot _ | .insertOatFile _ | .clearStrongRoots => m

def abstractRun (m : ClassMap) (ops : List Operation) : ClassMap := ops.foldl abstractApply m

/-- A run from `t` to `t'` in which every operation meets its contract and returns. -/
inductive AllowedRun : ClassTable → List Operation → ClassTable → Prop
  | nil (t : ClassTable) : AllowedRun t [] t
  | cons {t t' t'' : ClassTable} {op : Operation} {ops : List Operation} :
      t.Allowed op → t.apply op = .ok t' → AllowedRun t' ops t'' → AllowedRun t (op :: ops) t''

/-- `Lookup` answers as the map does, and no descriptor is in two sets. -/
structure Refines (t : ClassTable) (m : ClassMap) : Prop where
  lookup : ∀ descriptor, t.lookup descriptor = m.lookup descriptor
  disjoint : (t.classes.flatMap ClassSet.descriptors).Nodup
  nonempty : t.classes ≠ []

theorem lookup_toClassMap (set : ClassSet) (descriptor : String) :
    set.toClassMap.lookup descriptor = set.findWithHash descriptor := by
  obtain ⟨slots, nodup⟩ := set
  simp only [AList.lookup, ClassSet.toClassMap, ClassSet.findWithHash]
  clear nodup
  induction slots with
  | nil => rfl
  | cons klass slots ih =>
    by_cases same : descriptor = klass.descriptor
    · subst same; simp [List.dlookup_cons_eq]
    · rw [List.map_cons, List.dlookup_cons_ne _ _ same, ih]
      simp [List.find?_cons, Ne.symm same]

theorem findSome?_reverse_concat (pre : List ClassSet) (set : ClassSet) (descriptor : String) :
    (pre ++ [set]).reverse.findSome? (·.findWithHash descriptor) =
      (set.findWithHash descriptor).or (pre.reverse.findSome? (·.findWithHash descriptor)) := by
  simp only [List.reverse_append, List.reverse_singleton, List.singleton_append,
    List.findSome?_cons]
  cases set.findWithHash descriptor <;> rfl

theorem lookup_of_split {t : ClassTable} {pre : List ClassSet} {set : ClassSet}
    (split : t.classes = pre ++ [set]) (descriptor : String) :
    t.lookup descriptor =
      (set.findWithHash descriptor).or (pre.reverse.findSome? (·.findWithHash descriptor)) := by
  unfold ClassTable.lookup; rw [split, findSome?_reverse_concat]

theorem lookup_isSome_iff (t : ClassTable) (descriptor : String) :
    (t.lookup descriptor).isSome ↔ descriptor ∈ t.classes.flatMap ClassSet.descriptors := by
  simp [lookup, List.findSome?_isSome_iff, ClassSet.findWithHash_isSome_iff, List.mem_flatMap]

theorem Refines.of_classes {t t' : ClassTable} {m : ClassMap} (refines : t.Refines m)
    (same : t'.classes = t.classes) : t'.Refines m :=
  ⟨fun descriptor => by rw [← refines.lookup]; unfold ClassTable.lookup; rw [same],
    same ▸ refines.disjoint, same ▸ refines.nonempty⟩

theorem refines_new : ClassTable.new.Refines ∅ :=
  ⟨fun _ => rfl, by simp [ClassTable.new], by simp [ClassTable.new]⟩

section Step

variable {t t' : ClassTable} {m : ClassMap}

theorem Refines.freezeSnapshot (refines : t.Refines m) (step : t.freezeSnapshot = .ok t') :
    t'.Refines m := by
  obtain ⟨pre, back, split⟩ := (List.eq_nil_or_concat' t.classes).resolve_left refines.nonempty
  rw [freezeSnapshot_of_concat split, Except.ok.injEq] at step
  subst step
  refine ⟨fun descriptor => ?_, by simpa using refines.disjoint, by simp⟩
  rw [lookup_of_split rfl, ← refines.lookup]
  simp [ClassTable.lookup]

theorem Refines.insertWithHash {klass : Class} (refines : t.Refines m)
    (absent : t.lookup klass.descriptor = none) (step : t.insertWithHash klass = .ok t') :
    t'.Refines (m.insert klass.descriptor klass) := by
  obtain ⟨pre, back, split⟩ := (List.eq_nil_or_concat' t.classes).resolve_left refines.nonempty
  rw [insertWithHash_of_concat split, Except.ok.injEq] at step
  subst step
  have notInBack : back.findWithHash klass.descriptor = none :=
    (Option.or_eq_none.mp ((lookup_of_split split _).symm.trans absent)).1
  have notIn : klass.descriptor ∉ t.classes.flatMap ClassSet.descriptors := by
    rw [← lookup_isSome_iff, absent]; simp
  refine ⟨fun descriptor => ?_, ?_, by simp⟩
  · rw [lookup_of_split rfl, ClassSet.findWithHash_insertWithHash notInBack]
    by_cases same : klass.descriptor = descriptor
    · subst same; simp
    · rw [if_neg same, AList.lookup_insert_ne (Ne.symm same), ← refines.lookup,
        lookup_of_split split]
  · have disjoint := refines.disjoint
    rw [split] at disjoint notIn
    simp only [List.flatMap_append, List.flatMap_cons, List.flatMap_nil, List.append_nil,
      ClassSet.descriptors_insertWithHash notInBack] at disjoint notIn ⊢
    exact List.nodup_middle.mpr (List.nodup_cons.mpr ⟨notIn, disjoint⟩)

theorem Refines.updateClass {klass existing : Class} (refines : t.Refines m)
    (step : t.updateClass klass = .ok (existing, t')) :
    m.lookup klass.descriptor = some existing ∧ t'.Refines (m.insert klass.descriptor klass) := by
  obtain ⟨pre, back, split, found, -, -, -, -, rfl⟩ := updateClass_ok step
  have unchanged : ∀ descriptor, descriptor ≠ klass.descriptor →
      (back.replace klass).findWithHash descriptor = back.findWithHash descriptor := by
    intro descriptor other
    rw [ClassSet.findWithHash_replace]
    cases h : back.findWithHash descriptor with
    | none => rfl
    | some c => simp [ClassSet.findWithHash_descriptor h, other]
  refine ⟨by rw [← refines.lookup, lookup_of_split split, found]; rfl,
    fun descriptor => ?_, ?_, by simp⟩
  · rw [lookup_of_split rfl]
    by_cases same : descriptor = klass.descriptor
    · subst same
      simp [ClassSet.findWithHash_replace, found, ClassSet.findWithHash_descriptor found]
    · rw [unchanged descriptor same, AList.lookup_insert_ne same, ← refines.lookup,
        lookup_of_split split]
  · have disjoint := refines.disjoint
    rw [split] at disjoint
    simpa [ClassSet.descriptors_replace] using disjoint

theorem Refines.disjoint_addClassSet {set back : ClassSet} {pre : List ClassSet}
    (refines : t.Refines m) (absent : ∀ klass ∈ set.slots, t.lookup klass.descriptor = none)
    (split : t.classes = pre ++ [back]) :
    ((pre ++ [set, back]).flatMap ClassSet.descriptors).Nodup := by
  have disjoint := refines.disjoint
  rw [split] at disjoint
  simp only [List.flatMap_append, List.flatMap_cons, List.flatMap_nil, List.append_nil]
    at disjoint ⊢
  refine (List.perm_append_comm_assoc _ _ _).nodup_iff.mpr
    (List.nodup_append.mpr ⟨set.nodup, disjoint, fun d inSet inOld => ?_⟩)
  obtain ⟨klass, member, rfl⟩ := List.mem_map.mp inSet
  have isSome := (lookup_isSome_iff t klass.descriptor).mpr (by
    rw [split, List.flatMap_append]; simpa using inOld)
  simp [absent klass member] at isSome

theorem Refines.addClassSet {set : ClassSet} (refines : t.Refines m)
    (absent : ∀ klass ∈ set.slots, t.lookup klass.descriptor = none)
    (step : t.addClassSet set = .ok t') : t'.Refines (m ∪ set.toClassMap) := by
  obtain ⟨pre, back, split⟩ := (List.eq_nil_or_concat' t.classes).resolve_left refines.nonempty
  rw [addClassSet_of_concat split, Except.ok.injEq] at step
  subst step
  refine ⟨fun descriptor => ?_, refines.disjoint_addClassSet absent split, by simp⟩
  have before : m.lookup descriptor = (back.findWithHash descriptor).or
      (pre.reverse.findSome? (·.findWithHash descriptor)) := by
    rw [← refines.lookup, lookup_of_split split]
  rw [lookup_of_split (show pre ++ [set, back] = (pre ++ [set]) ++ [back] by simp),
    findSome?_reverse_concat]
  cases found : set.findWithHash descriptor with
  | some klass =>
    have absentHere := absent klass (List.mem_of_find?_eq_some found)
    rw [ClassSet.findWithHash_descriptor found] at absentHere
    have notInMap : descriptor ∉ m := by
      rw [← AList.lookup_eq_none, ← refines.lookup]; exact absentHere
    rw [refines.lookup, before, Option.or_eq_none] at absentHere
    rw [absentHere.1, AList.lookup_union_right notInMap, lookup_toClassMap, found]
    rfl
  | none =>
    by_cases inMap : descriptor ∈ m
    · rw [AList.lookup_union_left inMap, before]; rfl
    · rw [AList.lookup_union_right inMap, lookup_toClassMap, found]
      rw [AList.lookup_eq_none.mpr inMap] at before
      exact before.symm

theorem Refines.step {op : Operation} (refines : t.Refines m) (allowed : t.Allowed op)
    (step : t.apply op = .ok t') : t'.Refines (abstractApply m op) := by
  cases op
  case insertWithHash klass => exact refines.insertWithHash allowed step
  case freezeSnapshot => exact refines.freezeSnapshot step
  case updateClass klass =>
    obtain ⟨existing, update⟩ := apply_updateClass step
    exact (refines.updateClass update).2
  case addClassSet set => exact refines.addClassSet allowed step
  all_goals
    simp only [apply, Except.ok.injEq] at step
    exact refines.of_classes (by simp [← step, clearStrongRoots])

theorem Refines.run {ops : List Operation} (run : AllowedRun t ops t') (refines : t.Refines m) :
    t'.Refines (abstractRun m ops) := by
  induction run generalizing m with
  | nil => exact refines
  | cons allowed step _ ih => exact ih (refines.step allowed step)

theorem lookup_eq_some {descriptor : String} {klass : Class}
    (found : t.lookup descriptor = some klass) :
    klass ∈ t.classes.flatMap ClassSet.slots ∧ klass.descriptor = descriptor := by
  obtain ⟨set, member, inSet⟩ := List.exists_of_findSome?_eq_some found
  exact ⟨List.mem_flatMap.mpr ⟨set, List.mem_reverse.mp member, List.mem_of_find?_eq_some inSet⟩,
    ClassSet.findWithHash_descriptor inSet⟩

theorem flatMap_descriptors (t : ClassTable) :
    t.classes.flatMap ClassSet.descriptors = (t.classes.flatMap ClassSet.slots).map Class.descriptor := by
  simp only [List.map_flatMap]; rfl

theorem Refines.lookup_eq_some_iff (refines : t.Refines m) (descriptor : String) (klass : Class) :
    t.lookup descriptor = some klass ↔
      klass ∈ t.classes.flatMap ClassSet.slots ∧ klass.descriptor = descriptor := by
  refine ⟨lookup_eq_some, fun ⟨member, same⟩ => ?_⟩
  have nodup := flatMap_descriptors t ▸ refines.disjoint
  obtain ⟨other, found⟩ := Option.isSome_iff_exists.mp ((lookup_isSome_iff t descriptor).mpr
    (flatMap_descriptors t ▸ same ▸ List.mem_map_of_mem _ member))
  obtain ⟨otherMember, otherSame⟩ := lookup_eq_some found
  rw [found, List.inj_on_of_nodup_map nodup otherMember member (otherSame.trans same.symm)]

/-- The classes of all sets, each under its descriptor, are the map's entries in some order. -/
theorem Refines.perm_entries (refines : t.Refines m) :
    ((t.classes.flatMap ClassSet.slots).map fun klass =>
      (⟨klass.descriptor, klass⟩ : Σ _ : String, Class)).Perm m.entries := by
  have nodupKeys : ((t.classes.flatMap ClassSet.slots).map fun klass =>
      (⟨klass.descriptor, klass⟩ : Σ _ : String, Class)).NodupKeys := by
    simpa [List.NodupKeys, List.keys, flatMap_descriptors] using refines.disjoint
  refine List.lookup_ext nodupKeys m.nodupKeys fun descriptor klass => ?_
  rw [List.mem_dlookup_iff nodupKeys, Option.mem_def, ← AList.lookup, ← refines.lookup,
    refines.lookup_eq_some_iff]
  simp only [List.mem_map, Sigma.mk.inj_iff, heq_eq_eq]
  exact ⟨fun ⟨_, member, same, eq⟩ => eq ▸ ⟨member, same⟩, fun ⟨member, same⟩ => ⟨_, member, same, rfl⟩⟩

theorem Refines.sum_sizes (refines : t.Refines m) :
    (t.classes.map ClassSet.size).sum = m.keys.length := by
  rw [AList.keys, List.keys, List.length_map, ← refines.perm_entries.length_eq, List.length_map,
    List.flatMap_def, List.length_flatten, List.map_map]
  rfl

end Step

/-- Under the contract, a run from the constructor refines the map the same operations build:
`Lookup` and `UpdateClass` answer from it, and the two referenced counts add up to its size. -/
theorem class_table_refines_map {ops : List Operation} {t : ClassTable}
    (run : AllowedRun ClassTable.new ops t) :
    (∀ descriptor, t.lookup descriptor = (abstractRun ∅ ops).lookup descriptor) ∧
    (∀ klass existing t', t.updateClass klass = .ok (existing, t') →
      (abstractRun ∅ ops).lookup klass.descriptor = some existing) ∧
    t.classes.Pairwise (fun a b => a.descriptors.Disjoint b.descriptors) ∧
    ∃ zygote nonZygote, t.numReferencedZygoteClasses = .ok zygote ∧
      t.numReferencedNonZygoteClasses = .ok nonZygote ∧
      zygote + nonZygote = (abstractRun ∅ ops).keys.length := by
  have refines := refines_new.run run
  obtain ⟨pre, back, split⟩ := (List.eq_nil_or_concat' t.classes).resolve_left refines.nonempty
  refine ⟨refines.lookup, fun _ _ _ update => (refines.updateClass update).1,
    (List.nodup_flatMap.mp refines.disjoint).2, _, back.size, sumTables_frozen refines.nonempty _,
    by simp [numReferencedNonZygoteClasses, split], ?_⟩
  rw [← refines.sum_sizes, split]
  simp [List.sum_append]

/-- Inserting a class into the new table and freezing the snapshot. -/
theorem class_table_refines_map_insert_freeze :
    ∃ t, AllowedRun ClassTable.new
        [.insertWithHash ⟨1, "LMain;", 0, false, true, false⟩, .freezeSnapshot] t ∧
      t.lookup "LMain;" = some ⟨1, "LMain;", 0, false, true, false⟩ := by
  have run : AllowedRun ClassTable.new
      [.insertWithHash ⟨1, "LMain;", 0, false, true, false⟩, .freezeSnapshot]
      ⟨[ClassSet.empty.insertWithHash ⟨1, "LMain;", 0, false, true, false⟩, ClassSet.empty], [], []⟩ :=
    .cons rfl rfl (.cons trivial rfl (.nil _))
  exact ⟨_, run, ((class_table_refines_map run).1 "LMain;").trans
    (AList.lookup_insert _)⟩

/-- Under the contract, both counts of a loader's classes return and add up to the classes of
that loader the map holds. -/
theorem class_table_loader_counts {ops : List Operation} {t : ClassTable}
    (run : AllowedRun ClassTable.new ops t) (definingLoader : Nat) :
    ∃ zygote nonZygote, t.numZygoteClasses definingLoader = .ok zygote ∧
      t.numNonZygoteClasses definingLoader = .ok nonZygote ∧
      zygote + nonZygote =
        (abstractRun ∅ ops).entries.countP fun entry => entry.2.classLoader = definingLoader := by
  have refines := refines_new.run run
  obtain ⟨pre, back, split⟩ := (List.eq_nil_or_concat' t.classes).resolve_left refines.nonempty
  refine ⟨_, countDefiningLoaderClasses definingLoader back, sumTables_frozen refines.nonempty _,
    by simp [numNonZygoteClasses, split], ?_⟩
  rw [← refines.perm_entries.countP_eq, List.countP_map, split, List.dropLast_concat,
    List.flatMap_def, List.countP_flatten]
  simp [Function.comp_def]; rfl

theorem class_table_loader_counts_insert_freeze :
    ∃ t, AllowedRun ClassTable.new
        [.insertWithHash ⟨1, "LMain;", 0, false, true, false⟩, .freezeSnapshot] t ∧
      ∃ zygote nonZygote, t.numZygoteClasses 0 = .ok zygote ∧
        t.numNonZygoteClasses 0 = .ok nonZygote ∧ zygote + nonZygote = 1 := by
  have run : AllowedRun ClassTable.new
      [.insertWithHash ⟨1, "LMain;", 0, false, true, false⟩, .freezeSnapshot]
      ⟨[ClassSet.empty.insertWithHash ⟨1, "LMain;", 0, false, true, false⟩, ClassSet.empty], [], []⟩ :=
    .cons rfl rfl (.cons trivial rfl (.nil _))
  exact ⟨_, run, class_table_loader_counts run 0⟩

end ClassTable

end Art
