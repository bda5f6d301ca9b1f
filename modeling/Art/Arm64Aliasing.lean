import Art.Arm64Context
import Mathlib.Data.List.Nodup

/-! Writes through an `Arm64Context` do not alias, as long as the frames `FillCalleeSaves`
reads from do not overlap: a `SetGPR` or `SetFPR` changes what `CopyContextTo` loads for its own
register only. -/
namespace Art.Arm64

/-- An entry a write can go through: anything but nothing and `gZero`. -/
def Slot.Writable : Slot → Prop
  | .null | .zero => False
  | .sp | .pc | .arg0 | .stack _ => True

/-- The entry of a general (`false`) or FP (`true`) register. -/
def Arm64Context.entry (ctx : Arm64Context) : Bool × Nat → Slot
  | (false, reg) => ctx.gprs reg
  | (true, reg) => ctx.fprs reg

/-- The frame words a call gives to registers: the callee-save slots `FillCalleeSaves` uses. -/
def Operation.spillSlots (calleeSaveAddress : Nat → Nat → Nat → Nat) : Operation → List Nat
  | .fillCalleeSaves frame frameInfo =>
    (List.range (popcount frameInfo.coreSpillMask + popcount frameInfo.fpSpillMask)).map
      fun spillPos => calleeSaveAddress frame spillPos frameInfo.frameSizeInBytes.toNat
  | _ => []

def spilled (frameInfo : QuickMethodFrameInfo) : Bool × Nat → Bool
  | (false, reg) => frameInfo.coreSpillMask.toNat.testBit reg
  | (true, reg) => frameInfo.fpSpillMask.toNat.testBit reg

/-- The callee-save slot `FillCalleeSaves` restores a spilled register from. -/
def spillPosition (frameInfo : QuickMethodFrameInfo) : Bool × Nat → Nat
  | (false, reg) => countBitsAbove frameInfo.coreSpillMask reg
  | (true, reg) => popcount frameInfo.coreSpillMask + countBitsAbove frameInfo.fpSpillMask reg

/-- No two entries point at one writable place, and the frame words they point at are `written`. -/
structure Unaliased (ctx : Arm64Context) (written : List Nat) : Prop where
  unique : ∀ x y, ctx.entry x = ctx.entry y → (ctx.entry x).Writable → x = y
  slots : ∀ x address, ctx.entry x = .stack address → address ∈ written

section Slots

variable {ctx ctx' : Arm64Context} {memory memory' : Nat → Nat}

theorem Slot.writable_of_write_ok {slot : Slot} {value : Nat}
    (write : slot.write ctx memory value = .ok (ctx', memory')) : slot.Writable := by
  cases slot <;> simp_all [Slot.write, Slot.Writable]

theorem Slot.read_write {slot target : Slot} {value : Nat}
    (write : target.write ctx memory value = .ok (ctx', memory')) :
    slot.read ctx' memory' = if slot = target then some value else slot.read ctx memory := by
  cases target with
  | null | zero => simp [Slot.write] at write
  | sp | pc | arg0 | stack address =>
    simp only [Slot.write, Except.ok.injEq, Prod.mk.injEq] at write
    obtain ⟨rfl, rfl⟩ := write
    cases slot <;> simp [Slot.read, Function.update_apply] <;> split_ifs <;> simp_all

theorem Arm64Context.entry_congr (gprs : ctx'.gprs = ctx.gprs) (fprs : ctx'.fprs = ctx.fprs) :
    ctx'.entry = ctx.entry :=
  funext fun ⟨bank, _⟩ => by cases bank <;> simp [Arm64Context.entry, gprs, fprs]

end Slots

section Fill

variable (frameInfo : QuickMethodFrameInfo)

theorem spillPosition_lt {x : Bool × Nat} (set : spilled frameInfo x = true) :
    spillPosition frameInfo x < popcount frameInfo.coreSpillMask + popcount frameInfo.fpSpillMask := by
  rcases x with ⟨_ | _, reg⟩
  · exact (countBitsAbove_lt_popcount set).trans_le (Nat.le_add_right _ _)
  · exact Nat.add_lt_add_left (countBitsAbove_lt_popcount set) _

theorem spillPosition_inj {x y : Bool × Nat} (set : spilled frameInfo x = true)
    (set' : spilled frameInfo y = true) (same : spillPosition frameInfo x = spillPosition frameInfo y) :
    x = y := by
  rcases x with ⟨_ | _, reg⟩ <;> rcases y with ⟨_ | _, reg'⟩ <;> simp only [spillPosition] at same
  · rw [countBitsAbove_inj set set' same]
  · have := @countBitsAbove_lt_popcount frameInfo.coreSpillMask reg set; omega
  · have := @countBitsAbove_lt_popcount frameInfo.coreSpillMask reg' set'; omega
  · rw [countBitsAbove_inj set set' (Nat.add_left_cancel same)]

theorem entry_fillCalleeSaves (calleeSaveAddress : Nat → Nat → Nat → Nat) {ctx ctx' : Arm64Context}
    {frame : Nat} (fill : fillCalleeSaves calleeSaveAddress ctx frame frameInfo = .ok ctx')
    (x : Bool × Nat) :
    ctx'.entry x = if spilled frameInfo x then
      .stack (calleeSaveAddress frame (spillPosition frameInfo x) frameInfo.frameSizeInBytes.toNat)
      else ctx.entry x := by
  rw [fillCalleeSaves_eq, Except.ok.injEq] at fill
  subst fill
  rcases x with ⟨_ | _, reg⟩ <;> rfl

end Fill

section Frame

variable (kBadGprBase kBadFprBase : Nat) {ctx ctx' : Arm64Context} {memory memory' : Nat → Nat}

theorem read_entry_write {x : Bool × Nat} {value : Nat}
    (unique : ∀ y, ctx.entry y = ctx.entry x → (ctx.entry x).Writable → y = x)
    (write : (ctx.entry x).write ctx memory value = .ok (ctx', memory')) (y : Bool × Nat) :
    (ctx.entry y).read ctx' memory' = if y = x then some value else (ctx.entry y).read ctx memory := by
  rw [Slot.read_write write]
  by_cases same : y = x
  · simp [same]
  · rw [if_neg same, if_neg fun shared => same (unique y shared (Slot.writable_of_write_ok write))]

/-- Through an entry no other shares, a write changes what `CopyContextTo` loads for one register. -/
theorem copyContextTo_write
    (unique : ∀ x y, ctx.entry x = ctx.entry y → (ctx.entry x).Writable → x = y)
    {x : Bool × Nat} {value : Nat} (write : (ctx.entry x).write ctx memory value = .ok (ctx', memory')) :
    copyContextTo kBadGprBase kBadFprBase ctx' memory' =
      (fun i => if (false, i) = x then value else (copyContextTo kBadGprBase kBadFprBase ctx memory).1 i,
        fun i => if (true, i) = x then value else (copyContextTo kBadGprBase kBadFprBase ctx memory).2 i) := by
  obtain ⟨gprs, fprs, -⟩ := Slot.write_ok write
  have read := read_entry_write
    (fun y shared writable => unique y _ shared (by rw [shared]; exact writable)) write
  refine Prod.ext (funext fun i => ?_) (funext fun i => ?_) <;> simp only [copyContextTo, gprs, fprs]
  · rw [show ctx.gprs i = ctx.entry (false, i) from rfl, read]; split_ifs <;> rfl
  · rw [show ctx.fprs i = ctx.entry (true, i) from rfl, read]; split_ifs <;> rfl

theorem copyContextTo_setGPR
    (unique : ∀ x y, ctx.entry x = ctx.entry y → (ctx.entry x).Writable → x = y)
    {reg value : Nat} (set : setGPR ctx memory reg value = .ok (ctx', memory')) :
    copyContextTo kBadGprBase kBadFprBase ctx' memory' =
      (Function.update (copyContextTo kBadGprBase kBadFprBase ctx memory).1 reg value,
        (copyContextTo kBadGprBase kBadFprBase ctx memory).2) := by
  rw [copyContextTo_write kBadGprBase kBadFprBase unique (x := (false, reg)) (setGPR_ok set)]
  refine Prod.ext (funext fun i => ?_) (funext fun i => ?_) <;> simp [Function.update_apply]

theorem copyContextTo_setFPR
    (unique : ∀ x y, ctx.entry x = ctx.entry y → (ctx.entry x).Writable → x = y)
    {reg value : Nat} (set : setFPR ctx memory reg value = .ok (ctx', memory')) :
    copyContextTo kBadGprBase kBadFprBase ctx' memory' =
      ((copyContextTo kBadGprBase kBadFprBase ctx memory).1,
        Function.update (copyContextTo kBadGprBase kBadFprBase ctx memory).2 reg value) := by
  rw [copyContextTo_write kBadGprBase kBadFprBase unique (x := (true, reg)) (setFPR_ok set)]
  refine Prod.ext (funext fun i => ?_) (funext fun i => ?_) <;> simp [Function.update_apply]

end Frame

section Invariant

variable {ctx : Arm64Context} {written : List Nat}

theorem unaliased_reset (kBadGprBase : Nat) : Unaliased (reset kBadGprBase) [] := by
  refine ⟨fun x y same writable => ?_, fun x address points => ?_⟩ <;>
    rcases x with ⟨_ | _, reg⟩
  all_goals simp only [Arm64Context.entry, reset, Function.update_apply] at *
  · rcases y with ⟨_ | _, reg'⟩ <;> simp only [Arm64Context.entry, reset, Function.update_apply] at * <;>
      split_ifs at same writable <;> simp_all [Slot.Writable]
  · exact absurd writable id
  · split_ifs at points
  · cases points

theorem Unaliased.of_entries {ctx' : Arm64Context} (inv : Unaliased ctx written)
    (entries : ctx'.entry = ctx.entry) (grown : written ⊆ written') : Unaliased ctx' written' :=
  ⟨entries ▸ inv.unique, fun x address points => grown (inv.slots x address (entries ▸ points))⟩

theorem entry_smashCallerSaves (x : Bool × Nat) :
    (smashCallerSaves ctx).entry x = ctx.entry x ∨ ¬((smashCallerSaves ctx).entry x).Writable := by
  rcases x with ⟨_ | _, reg⟩ <;> simp only [Arm64Context.entry, smashCallerSaves] <;>
    split_ifs <;> simp [Slot.Writable]

theorem Unaliased.smashCallerSaves (inv : Unaliased ctx written) :
    Unaliased (smashCallerSaves ctx) written := by
  refine ⟨fun x y same writable => ?_, fun x address points => ?_⟩
  · have keptX := (entry_smashCallerSaves x).resolve_right (not_not.mpr writable)
    have keptY := (entry_smashCallerSaves y).resolve_right (not_not.mpr (same ▸ writable))
    exact inv.unique x y (keptX.symm.trans (same.trans keptY)) (keptX ▸ writable)
  · have kept := (entry_smashCallerSaves x).resolve_right (by rw [points]; exact not_not.mpr trivial)
    exact inv.slots x address (kept ▸ points)

theorem Unaliased.fillCalleeSaves (calleeSaveAddress : Nat → Nat → Nat → Nat) {ctx' : Arm64Context}
    {frame : Nat} {frameInfo : QuickMethodFrameInfo} (inv : Unaliased ctx written)
    (fresh : ∀ address ∈ (Operation.fillCalleeSaves frame frameInfo).spillSlots calleeSaveAddress,
      address ∉ written)
    (distinct : ((Operation.fillCalleeSaves frame frameInfo).spillSlots calleeSaveAddress).Nodup)
    (fill : Arm64.fillCalleeSaves calleeSaveAddress ctx frame frameInfo = .ok ctx') :
    Unaliased ctx' (written ++ (Operation.fillCalleeSaves frame frameInfo).spillSlots calleeSaveAddress) := by
  have entry := entry_fillCalleeSaves frameInfo calleeSaveAddress fill
  have slot : ∀ x, spilled frameInfo x = true →
      calleeSaveAddress frame (spillPosition frameInfo x) frameInfo.frameSizeInBytes.toNat ∈
        (Operation.fillCalleeSaves frame frameInfo).spillSlots calleeSaveAddress := fun x set =>
    List.mem_map_of_mem _ (List.mem_range.mpr (spillPosition_lt frameInfo set))
  refine ⟨fun x y same writable => ?_, fun x address points => ?_⟩
  · rw [entry, entry] at same
    rw [entry] at writable
    by_cases setX : spilled frameInfo x <;> by_cases setY : spilled frameInfo y <;>
      simp only [setX, setY, if_true, Bool.false_eq_true, if_false, Slot.stack.injEq] at same writable
    · refine spillPosition_inj frameInfo setX setY (List.inj_on_of_nodup_map distinct ?_ ?_ same) <;>
        exact List.mem_range.mpr (spillPosition_lt frameInfo ‹_›)
    · exact absurd (inv.slots y _ same.symm) (fresh _ (slot x setX))
    · exact absurd (inv.slots x _ same) (fresh _ (slot y setY))
    · exact inv.unique x y same writable
  · rw [entry] at points
    split_ifs at points with set
    · cases points; exact List.mem_append_right _ (slot x set)
    · exact List.mem_append_left _ (inv.slots x address points)

end Invariant

section Runs

variable (kBadGprBase : Nat) (calleeSaveAddress : Nat → Nat → Nat → Nat)

theorem Unaliased.apply {ctx : Arm64Context} {written : List Nat} {op : Operation}
    {memory : Nat → Nat} {state : Arm64Context × (Nat → Nat)} (inv : Unaliased ctx written)
    (distinct : (written ++ op.spillSlots calleeSaveAddress).Nodup)
    (step : op.apply kBadGprBase calleeSaveAddress (ctx, memory) = .ok state) :
    Unaliased state.1 (written ++ op.spillSlots calleeSaveAddress) := by
  cases op with
  | reset =>
    cases step
    exact (unaliased_reset kBadGprBase).of_entries rfl (List.nil_subset _)
  | fillCalleeSaves frame frameInfo =>
    simp only [Operation.apply, fillCalleeSaves_eq, Except.map, Except.ok.injEq] at step
    subst step
    exact inv.fillCalleeSaves calleeSaveAddress
      (fun address slot old => List.disjoint_of_nodup_append distinct old slot)
      (List.Nodup.of_append_right distinct) (fillCalleeSaves_eq ..)
  | setGPR reg value =>
    obtain ⟨gprs, fprs, -⟩ := Slot.write_ok (setGPR_ok step)
    exact inv.of_entries (Arm64Context.entry_congr gprs fprs) (List.subset_append_left _ _)
  | setFPR reg value =>
    obtain ⟨gprs, fprs, -⟩ := Slot.write_ok (setFPR_ok step)
    exact inv.of_entries (Arm64Context.entry_congr gprs fprs) (List.subset_append_left _ _)
  | smashCallerSaves =>
    cases step
    exact inv.smashCallerSaves.of_entries rfl (List.subset_append_left _ _)

theorem Unaliased.run {ctx : Arm64Context} {written : List Nat} {ops : List Operation}
    {memory : Nat → Nat} {state : Arm64Context × (Nat → Nat)} (inv : Unaliased ctx written)
    (distinct : (written ++ ops.flatMap (Operation.spillSlots calleeSaveAddress)).Nodup)
    (run : Operation.run kBadGprBase calleeSaveAddress ops (ctx, memory) = .ok state) :
    Unaliased state.1 (written ++ ops.flatMap (Operation.spillSlots calleeSaveAddress)) := by
  induction ops generalizing ctx memory written with
  | nil => cases run; simpa using inv
  | cons op ops ih =>
    simp only [Operation.run] at run
    rw [List.flatMap_cons, ← List.append_assoc] at distinct ⊢
    cases step : op.apply kBadGprBase calleeSaveAddress (ctx, memory) with
    | error failure => simp [step, Except.bind] at run
    | ok next =>
      simp only [step, Except.bind] at run
      exact ih (inv.apply kBadGprBase calleeSaveAddress (List.Nodup.of_append_left distinct) step)
        distinct run

end Runs

/-- Aligned slots that are told apart hold words that do not overlap. -/
theorem Unaliased.words_disjoint {ctx : Arm64Context} {written : List Nat}
    (inv : Unaliased ctx written) (aligned : ∀ address ∈ written, address % 8 = 0)
    {x y : Bool × Nat} {a b : Nat} (atX : ctx.entry x = .stack a) (atY : ctx.entry y = .stack b)
    (apart : x ≠ y) : a + 8 ≤ b ∨ b + 8 ≤ a := by
  have differ : a ≠ b := fun same =>
    apart (inv.unique x y (by rw [atX, atY, same]) (by rw [atX]; trivial))
  have alignedA := aligned a (inv.slots x a atX)
  have alignedB := aligned b (inv.slots y b atY)
  omega

/-- From `Reset`, over calls whose callee-save slots are distinct and 8-byte aligned, no two
entries share a place or overlapping words, so `SetGPR` and `SetFPR` change one register. -/
theorem context_writes_unaliased (kBadGprBase kBadFprBase : Nat)
    (calleeSaveAddress : Nat → Nat → Nat → Nat) {ops : List Operation}
    {memory memory' : Nat → Nat} {ctx : Arm64Context}
    (distinct : (ops.flatMap (Operation.spillSlots calleeSaveAddress)).Nodup)
    (aligned : ∀ address ∈ ops.flatMap (Operation.spillSlots calleeSaveAddress), address % 8 = 0)
    (run : Operation.run kBadGprBase calleeSaveAddress ops (reset kBadGprBase, memory) =
      .ok (ctx, memory')) :
    (∀ x y, ctx.entry x = ctx.entry y → (ctx.entry x).Writable → x = y) ∧
    (∀ x y a b, ctx.entry x = .stack a → ctx.entry y = .stack b → x ≠ y →
      a + 8 ≤ b ∨ b + 8 ≤ a) ∧
    (∀ reg value ctx' memory'', setGPR ctx memory' reg value = .ok (ctx', memory'') →
      copyContextTo kBadGprBase kBadFprBase ctx' memory'' =
        (Function.update (copyContextTo kBadGprBase kBadFprBase ctx memory').1 reg value,
          (copyContextTo kBadGprBase kBadFprBase ctx memory').2)) ∧
    (∀ reg value ctx' memory'', setFPR ctx memory' reg value = .ok (ctx', memory'') →
      copyContextTo kBadGprBase kBadFprBase ctx' memory'' =
        ((copyContextTo kBadGprBase kBadFprBase ctx memory').1,
          Function.update (copyContextTo kBadGprBase kBadFprBase ctx memory').2 reg value)) := by
  have inv : Unaliased ctx ([] ++ ops.flatMap (Operation.spillSlots calleeSaveAddress)) :=
    (unaliased_reset kBadGprBase).run kBadGprBase calleeSaveAddress (by simpa using distinct) run
  exact ⟨inv.unique,
    fun _ _ _ _ atX atY apart => inv.words_disjoint (by simpa using aligned) atX atY apart,
    fun _ _ _ _ set => copyContextTo_setGPR kBadGprBase kBadFprBase inv.unique set,
    fun _ _ _ _ set => copyContextTo_setFPR kBadGprBase kBadFprBase inv.unique set⟩

/-- Two 16-byte frames, restoring `x20` from the lower and `x19` from the upper. -/
theorem context_writes_unaliased_two_frames :
    ∃ ctx memory', Operation.run 0 (fun frame spillPos frameSize => frame + frameSize - 8 * (spillPos + 1))
        [.fillCalleeSaves 64 ⟨16, 0x100000, 0⟩, .fillCalleeSaves 80 ⟨16, 0x80000, 0⟩]
        (reset 0, fun _ => 0) = .ok (ctx, memory') ∧
      ∀ x y a b, ctx.entry x = .stack a → ctx.entry y = .stack b → x ≠ y → a + 8 ≤ b ∨ b + 8 ≤ a :=
  ⟨_, _, rfl, (@context_writes_unaliased 0 0
    (fun frame spillPos frameSize => frame + frameSize - 8 * (spillPos + 1))
    [.fillCalleeSaves 64 ⟨16, 0x100000, 0⟩, .fillCalleeSaves 80 ⟨16, 0x80000, 0⟩] (fun _ => 0) _ _
    (by decide) (by decide) rfl).2.1⟩

end Art.Arm64
