import Art.ClassTable.Basic

/-! Runs from the constructor: the vector of sets is never empty, and an operation changes only
the last set or appends to the frozen ones. -/
namespace Art.ClassTable

theorem run_append (t : ClassTable) (ops ops' : List Operation) :
    t.run (ops ++ ops') = (t.run ops).bind (·.run ops') := by
  induction ops generalizing t with
  | nil => rfl
  | cons op ops ih =>
    simp only [List.cons_append, run]
    cases t.apply op with
    | error failure => rfl
    | ok t => exact ih t

theorem Reachable.new : ClassTable.new.Reachable := ⟨[], rfl⟩

theorem Reachable.step {t t' : ClassTable} {op : Operation} (reachable : t.Reachable)
    (step : t.apply op = .ok t') : t'.Reachable := by
  obtain ⟨ops, run⟩ := reachable
  exact ⟨ops ++ [op], by simp [run_append, run, ClassTable.run, step, Except.bind]⟩

/-- An invariant of the constructor that every operation keeps holds in every reachable
state. -/
theorem Reachable.induction {P : ClassTable → Prop} (init : P ClassTable.new)
    (step : ∀ t op t', t.Reachable → P t → t.apply op = .ok t' → P t') {t : ClassTable}
    (reachable : t.Reachable) : P t := by
  obtain ⟨ops, run⟩ := reachable
  induction ops using List.reverseRecOn generalizing t with
  | nil => cases run; exact init
  | append_singleton ops op ih =>
    rw [run_append] at run
    cases before : ClassTable.new.run ops with
    | error failure => simp [before, Except.bind] at run
    | ok s =>
      cases last : s.apply op with
      | error failure => simp [before, last, Except.bind, ClassTable.run] at run
      | ok t' =>
        simp only [before, last, Except.bind, ClassTable.run, Except.ok.injEq] at run
        subst run
        exact step s op _ ⟨ops, before⟩ (ih before) last

section Back

variable {t : ClassTable} {pre : List ClassSet} {back : ClassSet}

theorem freezeSnapshot_of_concat (split : t.classes = pre ++ [back]) :
    t.freezeSnapshot = .ok { t with classes := t.classes ++ [ClassSet.empty] } := by
  simp [freezeSnapshot, split]

theorem insertWithHash_of_concat (split : t.classes = pre ++ [back]) (klass : Class) :
    t.insertWithHash klass = .ok { t with classes := pre ++ [back.insertWithHash klass] } := by
  simp [insertWithHash, split]

theorem addClassSet_of_concat (split : t.classes = pre ++ [back]) (set : ClassSet) :
    t.addClassSet set = .ok { t with classes := pre ++ [set, back] } := by
  simp [addClassSet, split]

/-- Everything `UpdateClass` checks before it returns. -/
theorem updateClass_ok {klass existing : Class} {t' : ClassTable}
    (update : t.updateClass klass = .ok (existing, t')) :
    ∃ pre back, t.classes = pre ++ [back] ∧ back.findWithHash klass.descriptor = some existing ∧
      existing ≠ klass ∧ existing.resolved = false ∧ klass.resolving = true ∧
      klass.temp = false ∧ t' = { t with classes := pre ++ [back.replace klass] } := by
  unfold updateClass at update
  split at update
  · cases update
  · rename_i back last
    have split := (@List.dropLast_append_getLast? _ t.classes back last).symm
    split at update
    · split at update <;> cases update
    · rename_i found
      split_ifs at update with same resolved resolving temp
      cases update
      exact ⟨_, back, split, found, same, by simpa using resolved, by simpa using resolving,
        by simpa using temp, rfl⟩

theorem apply_updateClass {klass : Class} {t' : ClassTable}
    (step : t.apply (.updateClass klass) = .ok t') :
    ∃ existing, t.updateClass klass = .ok (existing, t') := by
  simp only [apply] at step
  cases update : t.updateClass klass with
  | error failure => simp [update, Except.map] at step
  | ok result =>
    simp only [update, Except.map, Except.ok.injEq] at step
    exact ⟨result.1, by rw [← step]⟩

theorem updateClass_ne_undefined (nonempty : t.classes ≠ []) (klass : Class) :
    t.updateClass klass ≠ .error .undefined := by
  unfold updateClass
  split
  · simp_all
  · split
    · split <;> simp
    · split_ifs <;> simp

end Back

/-- What one operation may do to `classes_`. -/
def ClassesStep (classes classes' : List ClassSet) : Operation → Prop
  | .insertWithHash _ | .updateClass _ =>
    classes'.dropLast = classes.dropLast ∧ classes'.length = classes.length
  | .freezeSnapshot => classes' = classes ++ [ClassSet.empty]
  | .addClassSet set =>
    classes'.dropLast = classes.dropLast ++ [set] ∧ classes'.getLast? = classes.getLast?
  | .insertStrongRoot _ | .insertOatFile _ | .clearStrongRoots => classes' = classes

theorem apply_classes {t t' : ClassTable} {op : Operation} (nonempty : t.classes ≠ [])
    (step : t.apply op = .ok t') : ClassesStep t.classes t'.classes op := by
  obtain ⟨pre, back, split⟩ := (List.eq_nil_or_concat' t.classes).resolve_left nonempty
  cases op
  case updateClass klass =>
    obtain ⟨existing, update⟩ := apply_updateClass step
    obtain ⟨pre', back', split', -, -, -, -, -, rfl⟩ := updateClass_ok update
    simp [ClassesStep, split']
  all_goals
    simp only [apply, insertWithHash_of_concat split, freezeSnapshot_of_concat split,
      addClassSet_of_concat split, Except.ok.injEq] at step
    subst step
    simp [ClassesStep, split, clearStrongRoots]

theorem apply_ne_undefined {t : ClassTable} (nonempty : t.classes ≠ []) (op : Operation) :
    t.apply op ≠ .error .undefined := by
  obtain ⟨pre, back, split⟩ := (List.eq_nil_or_concat' t.classes).resolve_left nonempty
  cases op with
  | insertWithHash klass => simp [apply, insertWithHash_of_concat split]
  | freezeSnapshot => simp [apply, freezeSnapshot_of_concat split]
  | updateClass klass =>
    have := updateClass_ne_undefined nonempty klass
    simp only [apply]
    cases update : t.updateClass klass <;> simp_all [Except.map]
  | addClassSet set => simp [apply, addClassSet_of_concat split]
  | insertStrongRoot | insertOatFile | clearStrongRoots => simp [apply]

theorem ClassesStep.nonempty {classes classes' : List ClassSet} {op : Operation}
    (step : ClassesStep classes classes' op) (nonempty : classes ≠ []) : classes' ≠ [] := by
  cases op <;> simp only [ClassesStep] at step
  case freezeSnapshot => simp [step]
  case addClassSet =>
    intro empty
    simp only [empty, List.getLast?_nil] at step
    exact nonempty (List.getLast?_eq_none_iff.mp step.2.symm)
  all_goals first
    | (subst step; exact nonempty)
    | (intro empty; simp [empty] at step; exact nonempty (List.length_eq_zero.mp step.2.symm))

theorem ClassesStep.frozen_prefix {classes classes' : List ClassSet} {op : Operation}
    (step : ClassesStep classes classes' op) : classes.dropLast <+: classes'.dropLast := by
  cases op <;> simp only [ClassesStep] at step
  case freezeSnapshot => simpa [step] using List.dropLast_prefix classes
  case addClassSet => rw [step.1]; exact List.prefix_append _ _
  all_goals first | rw [step.1] | subst step
  all_goals exact List.prefix_refl _

theorem Reachable.nonempty {t : ClassTable} (reachable : t.Reachable) : t.classes ≠ [] :=
  reachable.induction (P := fun t => t.classes ≠ []) (by simp [ClassTable.new])
    fun _ _ _ _ nonempty step => (apply_classes nonempty step).nonempty nonempty

theorem sumTables_of_le (classes : List ClassSet) (f : ClassSet → Nat) {start n : Nat}
    (sum : Nat) (inside : start + n ≤ classes.length) :
    sumTables classes f start sum n = .ok (sum + (((classes.drop start).take n).map f).sum) := by
  induction n generalizing start sum with
  | zero => simp [sumTables]
  | succ n ih =>
    have bound : start < classes.length := by omega
    simp only [sumTables, List.getElem?_eq_getElem bound]
    rw [ih _ (by omega), List.drop_eq_getElem_cons bound]
    simp only [List.take_succ_cons, List.map_cons, List.sum_cons, Nat.add_assoc]

theorem frozenBound_of_nonempty {t : ClassTable} (nonempty : t.classes ≠ []) :
    t.frozenBound = t.classes.length - 1 := by
  simp [frozenBound, nonempty]

/-- The sums over `classes_[0 .. size() - 1)` are the sums over the frozen sets. -/
theorem sumTables_frozen {t : ClassTable} (nonempty : t.classes ≠ []) (f : ClassSet → Nat) :
    sumTables t.classes f 0 0 t.frozenBound = .ok ((t.classes.dropLast.map f).sum) := by
  rw [frozenBound_of_nonempty nonempty, sumTables_of_le _ _ _ (by omega)]
  simp [List.dropLast_eq_take]

/-- From the constructor on, `classes_` is never empty and the frozen sets keep their indices and
contents, so `back()` is always defined and `size() - 1` does not wrap. -/
theorem frozen_sets_stable {t : ClassTable} (reachable : t.Reachable) :
    t.classes ≠ [] ∧ t.frozenBound = t.classes.length - 1 ∧
    t.numReferencedZygoteClasses = .ok (t.classes.dropLast.map ClassSet.size).sum ∧
    (∀ definingLoader, t.numZygoteClasses definingLoader =
      .ok (t.classes.dropLast.map (countDefiningLoaderClasses definingLoader)).sum) ∧
    (∀ op, t.apply op ≠ .error .undefined) ∧
    (∀ op t', t.apply op = .ok t' → t'.classes ≠ [] ∧
      t.classes.dropLast <+: t'.classes.dropLast ∧ ClassesStep t.classes t'.classes op) := by
  have nonempty := reachable.nonempty
  refine ⟨nonempty, frozenBound_of_nonempty nonempty, sumTables_frozen nonempty _,
    fun _ => sumTables_frozen nonempty _, apply_ne_undefined nonempty, fun op t' step => ?_⟩
  have classes := apply_classes nonempty step
  exact ⟨classes.nonempty nonempty, classes.frozen_prefix, classes⟩

theorem frozen_sets_stable_insert_freeze :
    ∃ t : ClassTable, t.Reachable ∧ t.numReferencedZygoteClasses = .ok 1 := by
  have reachable : (⟨[ClassSet.empty.insertWithHash ⟨1, "LMain;", 0, false, true, false⟩,
      ClassSet.empty], [], []⟩ : ClassTable).Reachable :=
    ⟨[.insertWithHash ⟨1, "LMain;", 0, false, true, false⟩, .freezeSnapshot], rfl⟩
  exact ⟨_, reachable, (frozen_sets_stable reachable).2.2.1.trans rfl⟩

end Art.ClassTable
