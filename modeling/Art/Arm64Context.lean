import Mathlib.Data.List.Basic
import Mathlib.Data.Nat.Bitwise

/-! `Arm64Context` of `runtime/arch/arm64/context_arm64.cc`: the registers a long jump restores,
each entry pointing at the context's own `sp_`, `pc_` or `arg0_`, at `gZero`, or at a frame
word. -/
namespace Art.Arm64

structure QuickMethodFrameInfo where
  frameSizeInBytes : UInt32
  coreSpillMask : UInt32
  fpSpillMask : UInt32
  deriving DecidableEq, Repr

/-- Modelled from the spec: `HighToLowBits` of `base/bit_utils_iterator.h`, not among the
sources, enumerates the set bits of a mask from the highest down. -/
def highToLowBits (mask : UInt32) : List Nat :=
  (List.range 32).reverse.filter mask.toNat.testBit

/-- Modelled from the spec: `POPCOUNT` of `base/bit_utils.h`, not among the sources, counts the
set bits of a mask. -/
def popcount (mask : UInt32) : Nat :=
  (List.range 32).countP mask.toNat.testBit

def countBitsAbove (mask : UInt32) (reg : Nat) : Nat :=
  (List.range 32).countP fun above => decide (reg < above) && mask.toNat.testBit above

/-! Register numbers (`registers_arm64.h` is not among the sources): `Xn` and `Dn` are `n`, `SP`
is 31, as `CopyContextTo` checks, and the PC is kept in the entry of `XZR`, 32. -/

def X0 : Nat := 0
def SP : Nat := 31
def kPC : Nat := 32
def kNumberOfXRegisters : Nat := 33
def kNumberOfDRegisters : Nat := 32

/-- What an entry of `gprs_` or `fprs_` points at: nothing, the context's `sp_`, `pc_` or
`arg0_`, the constant `gZero`, or a word of a frame. -/
inductive Slot
  | null
  | sp
  | pc
  | arg0
  | zero
  | stack (address : Nat)
  deriving DecidableEq, Repr

structure Arm64Context where
  gprs : Nat → Slot
  fprs : Nat → Slot
  sp : Nat
  pc : Nat
  arg0 : Nat

/-- `*slot`, with `memory` the words of the frames; `nullptr` points at nothing. -/
def Slot.read (ctx : Arm64Context) (memory : Nat → Nat) : Slot → Option Nat
  | .null => none
  | .sp => some ctx.sp
  | .pc => some ctx.pc
  | .arg0 => some ctx.arg0
  | .zero => some 0
  | .stack address => some (memory address)

/-- `*slot = value`; writing through `nullptr` or to the constant `gZero` is undefined. -/
def Slot.write (ctx : Arm64Context) (memory : Nat → Nat) (value : Nat) :
    Slot → Except String (Arm64Context × (Nat → Nat))
  | .null | .zero => .error "undefined"
  | .sp => .ok ({ ctx with sp := value }, memory)
  | .pc => .ok ({ ctx with pc := value }, memory)
  | .arg0 => .ok ({ ctx with arg0 := value }, memory)
  | .stack address => .ok (ctx, Function.update memory address value)

def dcheck (condition : Prop) [Decidable condition] (text : String) : Except String Unit :=
  if condition then .ok () else .error text

/-- `Arm64Context::Reset`; `kBadGprBase` is a parameter (`context.h` is not among the
sources). -/
def reset (kBadGprBase : Nat) : Arm64Context where
  gprs := Function.update (Function.update (Function.update (fun _ => .null) SP .sp) kPC .pc)
    X0 .arg0
  fprs := fun _ => .null
  sp := kBadGprBase + SP
  pc := kBadGprBase + kPC
  arg0 := 0

def spillStep (slotAddress : Nat → Nat) (state : (Nat → Slot) × Nat) (reg : Nat) :
    (Nat → Slot) × Nat :=
  (Function.update state.1 reg (.stack (slotAddress state.2)), state.2 + 1)

/-- A spill loop over the set bits of a mask, from `spill_pos` on. -/
def spillRegisters (slotAddress : Nat → Nat) (mask : UInt32) (regs : Nat → Slot)
    (spillPos : Nat) : (Nat → Slot) × Nat :=
  (highToLowBits mask).foldl (spillStep slotAddress) (regs, spillPos)

/-- `Arm64Context::FillCalleeSaves`; `calleeSaveAddress frame spillPos frameSize` is
`CalleeSaveAddress<kArm64>`. -/
def fillCalleeSaves (calleeSaveAddress : Nat → Nat → Nat → Nat) (ctx : Arm64Context)
    (frame : Nat) (frameInfo : QuickMethodFrameInfo) : Except String Arm64Context := do
  let frameSize := frameInfo.frameSizeInBytes.toNat
  let slotAddress := fun spillPos => calleeSaveAddress frame spillPos frameSize
  let (gprs, spillPos) := spillRegisters slotAddress frameInfo.coreSpillMask ctx.gprs 0
  dcheck (spillPos = popcount frameInfo.coreSpillMask)
    "spill_pos == POPCOUNT(frame_info.CoreSpillMask())"
  let (fprs, spillPos) := spillRegisters slotAddress frameInfo.fpSpillMask ctx.fprs spillPos
  dcheck (spillPos = popcount frameInfo.coreSpillMask + popcount frameInfo.fpSpillMask)
    "spill_pos == POPCOUNT(frame_info.CoreSpillMask()) + POPCOUNT(frame_info.FpSpillMask())"
  return { ctx with gprs, fprs }

/-- `Arm64Context::SetGPR`; `IsAccessibleGPR(reg)` of `context_arm64.h` asks that the entry
point somewhere. -/
def setGPR (ctx : Arm64Context) (memory : Nat → Nat) (reg value : Nat) :
    Except String (Arm64Context × (Nat → Nat)) := do
  dcheck (reg < kNumberOfXRegisters) "reg < arraysize(gprs_)"
  dcheck (ctx.gprs reg ≠ .null) "IsAccessibleGPR(reg)"
  dcheck (ctx.gprs reg ≠ .zero) "gprs_[reg] != &gZero"
  (ctx.gprs reg).write ctx memory value

def setFPR (ctx : Arm64Context) (memory : Nat → Nat) (reg value : Nat) :
    Except String (Arm64Context × (Nat → Nat)) := do
  dcheck (reg < kNumberOfDRegisters) "reg < static_cast<uint32_t>(kNumberOfDRegisters)"
  dcheck (ctx.fprs reg ≠ .null) "IsAccessibleFPR(reg)"
  dcheck (ctx.fprs reg ≠ .zero) "fprs_[reg] != &gZero"
  (ctx.fprs reg).write ctx memory value

/-- `x1` to `x15` and `x18`; `d0` to `d7` and `d16` to `d31`. -/
def callerSaveGprs : List Nat := [1, 2, 3, 4, 5, 6, 7, 8, 9, 10, 11, 12, 13, 14, 15, 18]
def callerSaveFprs : List Nat := List.range 8 ++ List.range' 16 16

/-- `x0` now reads the zero of `gZero`, the other caller-saves nothing. -/
def smashCallerSaves (ctx : Arm64Context) : Arm64Context :=
  { ctx with
    gprs := fun reg =>
      if reg = X0 then .zero else if reg ∈ callerSaveGprs then .null else ctx.gprs reg
    fprs := fun reg => if reg ∈ callerSaveFprs then .null else ctx.fprs reg }

/-- `Arm64Context::CopyContextTo`: an entry that points nowhere loads a recognisable bad value. -/
def copyContextTo (kBadGprBase kBadFprBase : Nat) (ctx : Arm64Context) (memory : Nat → Nat) :
    (Nat → Nat) × (Nat → Nat) :=
  (fun i => ((ctx.gprs i).read ctx memory).getD (kBadGprBase + i),
    fun i => ((ctx.fprs i).read ctx memory).getD (kBadFprBase + i))

section Bits

variable {mask : UInt32} {reg : Nat}

theorem testBit_of_le (above : 32 ≤ reg) : mask.toNat.testBit reg = false :=
  Nat.testBit_lt_two_pow
    (lt_of_lt_of_le mask.toNat_lt_size (Nat.pow_le_pow_right Nat.two_pos above))

theorem mem_highToLowBits : reg ∈ highToLowBits mask ↔ mask.toNat.testBit reg = true := by
  simp only [highToLowBits, List.mem_filter, List.mem_reverse, List.mem_range, and_iff_right_iff_imp]
  intro set
  by_contra above
  rw [testBit_of_le (by omega)] at set
  cases set

theorem highToLowBits_pairwise : (highToLowBits mask).Pairwise (· > ·) :=
  (List.pairwise_reverse.mpr (List.pairwise_lt_range 32)).filter _

theorem highToLowBits_nodup : (highToLowBits mask).Nodup :=
  highToLowBits_pairwise.imp ne_of_gt

theorem length_highToLowBits : (highToLowBits mask).length = popcount mask := by
  simp [highToLowBits, popcount, List.countP_eq_length_filter, List.filter_reverse]

theorem indexOf_of_pairwise_gt {regs : List Nat} (falling : regs.Pairwise (· > ·))
    (member : reg ∈ regs) : regs.indexOf reg = (regs.filter (reg < ·)).length := by
  induction regs with
  | nil => cases member
  | cons top regs ih =>
    rw [List.pairwise_cons] at falling
    by_cases first : top = reg
    · subst first
      have none : regs.filter (top < ·) = [] :=
        List.filter_eq_nil_iff.mpr fun below mem => by simpa using (falling.1 below mem).le
      simp [List.indexOf_cons_eq, none]
    · have later := (List.mem_cons.mp member).resolve_left (Ne.symm first)
      rw [List.indexOf_cons_ne _ first, ih falling.2 later, List.filter_cons_of_pos
        (by simpa using falling.1 reg later)]
      rfl

theorem indexOf_highToLowBits (set : mask.toNat.testBit reg = true) :
    (highToLowBits mask).indexOf reg = countBitsAbove mask reg := by
  rw [indexOf_of_pairwise_gt highToLowBits_pairwise (mem_highToLowBits.mpr set)]
  simp [highToLowBits, countBitsAbove, List.countP_eq_length_filter, List.filter_filter,
    List.filter_reverse]

theorem countBitsAbove_lt_popcount (set : mask.toNat.testBit reg = true) :
    countBitsAbove mask reg < popcount mask := by
  rw [← indexOf_highToLowBits set, ← length_highToLowBits]
  exact List.indexOf_lt_length.mpr (mem_highToLowBits.mpr set)

theorem countBitsAbove_inj {reg' : Nat} (set : mask.toNat.testBit reg = true)
    (set' : mask.toNat.testBit reg' = true) (same : countBitsAbove mask reg = countBitsAbove mask reg') :
    reg = reg' := by
  rw [← indexOf_highToLowBits set, ← indexOf_highToLowBits set'] at same
  exact (List.indexOf_inj (mem_highToLowBits.mpr set) (mem_highToLowBits.mpr set')).mp same

end Bits

section Loops

variable (slotAddress : Nat → Nat)

theorem foldl_spillStep {regs : List Nat} (nodup : regs.Nodup) (file : Nat → Slot)
    (spillPos : Nat) :
    regs.foldl (spillStep slotAddress) (file, spillPos) =
      (fun reg => if reg ∈ regs then .stack (slotAddress (spillPos + regs.indexOf reg))
          else file reg,
        spillPos + regs.length) := by
  induction regs generalizing file spillPos with
  | nil => simp
  | cons top regs ih =>
    rw [List.nodup_cons] at nodup
    rw [List.foldl_cons, spillStep, ih nodup.2]
    refine Prod.ext (funext fun reg => ?_) (by simp; omega)
    by_cases first : top = reg
    · subst first
      simp [nodup.1, List.indexOf_cons_eq]
    · by_cases later : reg ∈ regs
      · have shift : spillPos + 1 + regs.indexOf reg = spillPos + (regs.indexOf reg + 1) := by
          omega
        simp [later, List.indexOf_cons_ne _ first, shift]
      · simp [later, Ne.symm first, Function.update_noteq (Ne.symm first)]

theorem spillRegisters_eq (mask : UInt32) (file : Nat → Slot) (spillPos : Nat) :
    spillRegisters slotAddress mask file spillPos =
      (fun reg => if mask.toNat.testBit reg then
          .stack (slotAddress (spillPos + countBitsAbove mask reg)) else file reg,
        spillPos + popcount mask) := by
  rw [spillRegisters, foldl_spillStep slotAddress highToLowBits_nodup, length_highToLowBits]
  refine Prod.ext (funext fun reg => ?_) rfl
  by_cases set : mask.toNat.testBit reg = true
  · simp [mem_highToLowBits.mpr set, indexOf_highToLowBits set, set]
  · simp [mem_highToLowBits, set]

end Loops

/-- `FillCalleeSaves` passes both checks and restores each spilled register from its slot. -/
theorem fillCalleeSaves_eq (calleeSaveAddress : Nat → Nat → Nat → Nat) (ctx : Arm64Context)
    (frame : Nat) (frameInfo : QuickMethodFrameInfo) :
    fillCalleeSaves calleeSaveAddress ctx frame frameInfo = .ok
      { ctx with
        gprs := fun reg => if frameInfo.coreSpillMask.toNat.testBit reg then
          .stack (calleeSaveAddress frame (countBitsAbove frameInfo.coreSpillMask reg)
            frameInfo.frameSizeInBytes.toNat) else ctx.gprs reg
        fprs := fun reg => if frameInfo.fpSpillMask.toNat.testBit reg then
          .stack (calleeSaveAddress frame
            (popcount frameInfo.coreSpillMask + countBitsAbove frameInfo.fpSpillMask reg)
            frameInfo.frameSizeInBytes.toNat) else ctx.fprs reg } := by
  dsimp only [fillCalleeSaves]
  rw [spillRegisters_eq]
  dsimp only
  rw [spillRegisters_eq]
  simp only [dcheck, Nat.zero_add, if_true]
  rfl

/-- For all spill masks, `FillCalleeSaves` passes its checks and restores each spilled register
from its own slot, counted by the spilled registers above it, and keeps every other entry. -/
theorem fillCalleeSaves_slot_assignment (calleeSaveAddress : Nat → Nat → Nat → Nat)
    (ctx : Arm64Context) (frame : Nat) (frameInfo : QuickMethodFrameInfo) :
    (∃ ctx', fillCalleeSaves calleeSaveAddress ctx frame frameInfo = .ok ctx' ∧
      (∀ reg, ctx'.gprs reg = if frameInfo.coreSpillMask.toNat.testBit reg then
          .stack (calleeSaveAddress frame (countBitsAbove frameInfo.coreSpillMask reg)
            frameInfo.frameSizeInBytes.toNat) else ctx.gprs reg) ∧
      (∀ reg, ctx'.fprs reg = if frameInfo.fpSpillMask.toNat.testBit reg then
          .stack (calleeSaveAddress frame
            (popcount frameInfo.coreSpillMask + countBitsAbove frameInfo.fpSpillMask reg)
            frameInfo.frameSizeInBytes.toNat) else ctx.fprs reg) ∧
      (∀ reg, 32 ≤ reg → ctx'.gprs reg = ctx.gprs reg ∧ ctx'.fprs reg = ctx.fprs reg) ∧
      ctx'.sp = ctx.sp ∧ ctx'.pc = ctx.pc ∧ ctx'.arg0 = ctx.arg0) ∧
    (∀ slotAddress : Nat → Nat,
      (spillRegisters slotAddress frameInfo.coreSpillMask ctx.gprs 0).2 =
        popcount frameInfo.coreSpillMask ∧
      (spillRegisters slotAddress frameInfo.fpSpillMask ctx.fprs
          (spillRegisters slotAddress frameInfo.coreSpillMask ctx.gprs 0).2).2 =
        popcount frameInfo.coreSpillMask + popcount frameInfo.fpSpillMask) ∧
    (∀ reg reg', frameInfo.coreSpillMask.toNat.testBit reg → frameInfo.coreSpillMask.toNat.testBit reg' →
      countBitsAbove frameInfo.coreSpillMask reg = countBitsAbove frameInfo.coreSpillMask reg' →
      reg = reg') ∧
    (∀ reg reg', frameInfo.fpSpillMask.toNat.testBit reg → frameInfo.fpSpillMask.toNat.testBit reg' →
      popcount frameInfo.coreSpillMask + countBitsAbove frameInfo.fpSpillMask reg =
        popcount frameInfo.coreSpillMask + countBitsAbove frameInfo.fpSpillMask reg' →
      reg = reg') ∧
    (∀ reg reg', frameInfo.coreSpillMask.toNat.testBit reg → frameInfo.fpSpillMask.toNat.testBit reg' →
      countBitsAbove frameInfo.coreSpillMask reg <
        popcount frameInfo.coreSpillMask + countBitsAbove frameInfo.fpSpillMask reg') ∧
    (∀ reg, frameInfo.fpSpillMask.toNat.testBit reg →
      popcount frameInfo.coreSpillMask + countBitsAbove frameInfo.fpSpillMask reg <
        popcount frameInfo.coreSpillMask + popcount frameInfo.fpSpillMask) := by
  refine ⟨⟨_, fillCalleeSaves_eq .., fun _ => rfl, fun _ => rfl, fun reg above => ?_, rfl, rfl,
      rfl⟩,
    fun slotAddress => ?_, fun _ _ set set' same => countBitsAbove_inj set set' same,
    fun _ _ set set' same => countBitsAbove_inj set set' (Nat.add_left_cancel same),
    fun _ _ set _ => (countBitsAbove_lt_popcount set).trans_le (Nat.le_add_right _ _),
    fun _ set => Nat.add_lt_add_left (countBitsAbove_lt_popcount set) _⟩
  · simp [testBit_of_le above]
  · simp [spillRegisters_eq]

section LongJump

variable (kBadGprBase kBadFprBase : Nat) (memory : Nat → Nat)

theorem read_reset_gprs {ctx : Arm64Context} (sp : ctx.sp = kBadGprBase + SP)
    (pc : ctx.pc = kBadGprBase + kPC) {i : Nat} (x0 : i ≠ X0) :
    (((reset kBadGprBase).gprs i).read ctx memory).getD (kBadGprBase + i) = kBadGprBase + i := by
  simp only [reset, Function.update_apply, if_neg x0]
  split_ifs with atPC atSP
  · simp [Slot.read, pc, atPC]
  · simp [Slot.read, sp, atSP]
  · rfl

/-- After `Reset`, `FillCalleeSaves` and `SmashCallerSaves`, `CopyContextTo` loads `x0` with zero,
the spilled callee-saves from their slots, and every other register with its bad value. -/
theorem copyContextTo_after_fillCalleeSaves (calleeSaveAddress : Nat → Nat → Nat → Nat)
    (frame : Nat) (frameInfo : QuickMethodFrameInfo) :
    ∃ ctx, fillCalleeSaves calleeSaveAddress (reset kBadGprBase) frame frameInfo = .ok ctx ∧
      (copyContextTo kBadGprBase kBadFprBase (smashCallerSaves ctx) memory).1 = (fun i =>
        if i = X0 then 0
        else if i ∉ callerSaveGprs ∧ frameInfo.coreSpillMask.toNat.testBit i then
          memory (calleeSaveAddress frame (countBitsAbove frameInfo.coreSpillMask i)
            frameInfo.frameSizeInBytes.toNat)
        else kBadGprBase + i) ∧
      (copyContextTo kBadGprBase kBadFprBase (smashCallerSaves ctx) memory).2 = (fun i =>
        if i ∉ callerSaveFprs ∧ frameInfo.fpSpillMask.toNat.testBit i then
          memory (calleeSaveAddress frame
            (popcount frameInfo.coreSpillMask + countBitsAbove frameInfo.fpSpillMask i)
            frameInfo.frameSizeInBytes.toNat)
        else kBadFprBase + i) := by
  refine ⟨_, fillCalleeSaves_eq .., funext fun i => ?_, funext fun i => ?_⟩ <;>
    simp only [copyContextTo, smashCallerSaves]
  · by_cases x0 : i = X0
    · simp [x0, Slot.read]
    by_cases caller : i ∈ callerSaveGprs
    · simp [x0, caller, Slot.read]
    by_cases set : frameInfo.coreSpillMask.toNat.testBit i
    · simp [x0, caller, set, Slot.read]
    · simp only [x0, caller, set, if_false, not_false_eq_true, and_false]
      exact read_reset_gprs kBadGprBase memory rfl rfl x0
  · by_cases caller : i ∈ callerSaveFprs
    · simp [caller, Slot.read]
    by_cases set : frameInfo.fpSpillMask.toNat.testBit i <;> simp [caller, set, Slot.read, reset]

end LongJump

/-- The calls made on a context; its constructor is `Reset`. -/
inductive Operation
  | reset
  | fillCalleeSaves (frame : Nat) (frameInfo : QuickMethodFrameInfo)
  | setGPR (reg value : Nat)
  | setFPR (reg value : Nat)
  | smashCallerSaves

section Runs

variable (kBadGprBase : Nat) (calleeSaveAddress : Nat → Nat → Nat → Nat)

def Operation.apply : Operation → Arm64Context × (Nat → Nat) →
    Except String (Arm64Context × (Nat → Nat))
  | .reset, (_, memory) => .ok (Arm64.reset kBadGprBase, memory)
  | .fillCalleeSaves frame frameInfo, (ctx, memory) =>
    (Arm64.fillCalleeSaves calleeSaveAddress ctx frame frameInfo).map (·, memory)
  | .setGPR reg value, (ctx, memory) => Arm64.setGPR ctx memory reg value
  | .setFPR reg value, (ctx, memory) => Arm64.setFPR ctx memory reg value
  | .smashCallerSaves, (ctx, memory) => .ok (Arm64.smashCallerSaves ctx, memory)

def Operation.run : List Operation → Arm64Context × (Nat → Nat) →
    Except String (Arm64Context × (Nat → Nat))
  | [], state => .ok state
  | op :: ops, state => (op.apply kBadGprBase calleeSaveAddress state).bind (Operation.run ops)

end Runs

/-- Where general register `reg` may point; `sp_`, `pc_`, `arg0_` and `gZero` have one home. -/
def Slot.HomeOf (reg : Nat) : Slot → Prop
  | .sp => reg = SP
  | .pc => reg = kPC
  | .arg0 | .zero => reg = X0
  | .null | .stack _ => True

def Slot.InFrame : Slot → Prop
  | .null | .stack _ => True
  | .sp | .pc | .arg0 | .zero => False

structure PointsHome (ctx : Arm64Context) : Prop where
  gprs : ∀ reg, (ctx.gprs reg).HomeOf reg
  fprs : ∀ reg, (ctx.fprs reg).InFrame

section Calls

variable {ctx ctx' : Arm64Context} {memory memory' : Nat → Nat}

theorem dcheck_bind_eq_ok {condition : Prop} [Decidable condition] {text : String} {α : Type}
    {rest : Unit → Except String α} {result : α} :
    (dcheck condition text >>= rest) = .ok result ↔ condition ∧ rest () = .ok result := by
  unfold dcheck
  split_ifs with holds <;> simp [holds, bind, Except.bind]

theorem Slot.write_ok {slot : Slot} {value : Nat}
    (write : slot.write ctx memory value = .ok (ctx', memory')) :
    ctx'.gprs = ctx.gprs ∧ ctx'.fprs = ctx.fprs ∧ (slot ≠ .sp → ctx'.sp = ctx.sp) ∧
      (slot ≠ .pc → ctx'.pc = ctx.pc) ∧ (slot ≠ .arg0 → ctx'.arg0 = ctx.arg0) := by
  cases slot <;> simp only [Slot.write, Except.ok.injEq, Prod.mk.injEq] at write <;>
    first | (obtain ⟨rfl, rfl⟩ := write; simp) | cases write

theorem setGPR_ok {reg value : Nat} (set : setGPR ctx memory reg value = .ok (ctx', memory')) :
    (ctx.gprs reg).write ctx memory value = .ok (ctx', memory') := by
  simp only [setGPR, dcheck_bind_eq_ok] at set
  exact set.2.2.2

theorem setFPR_ok {reg value : Nat} (set : setFPR ctx memory reg value = .ok (ctx', memory')) :
    (ctx.fprs reg).write ctx memory value = .ok (ctx', memory') := by
  simp only [setFPR, dcheck_bind_eq_ok] at set
  exact set.2.2.2

end Calls

section PointsHome

variable {ctx : Arm64Context}

theorem pointsHome_reset (kBadGprBase : Nat) : PointsHome (reset kBadGprBase) := by
  refine ⟨fun reg => ?_, fun reg => trivial⟩
  simp only [reset, Function.update_apply]
  split_ifs <;> simp_all [Slot.HomeOf]

theorem PointsHome.of_entries {ctx' : Arm64Context} (home : PointsHome ctx)
    (gprs : ctx'.gprs = ctx.gprs) (fprs : ctx'.fprs = ctx.fprs) : PointsHome ctx' :=
  ⟨gprs ▸ home.gprs, fprs ▸ home.fprs⟩

theorem PointsHome.apply (kBadGprBase : Nat) (calleeSaveAddress : Nat → Nat → Nat → Nat)
    {op : Operation} {memory : Nat → Nat} {state : Arm64Context × (Nat → Nat)}
    (home : PointsHome ctx)
    (step : op.apply kBadGprBase calleeSaveAddress (ctx, memory) = .ok state) :
    PointsHome state.1 := by
  cases op with
  | reset => cases step; exact pointsHome_reset kBadGprBase
  | fillCalleeSaves frame frameInfo =>
    simp only [Operation.apply, fillCalleeSaves_eq, Except.map, Except.ok.injEq] at step
    subst step
    refine ⟨fun reg => ?_, fun reg => ?_⟩ <;> dsimp only <;> split_ifs
    exacts [trivial, home.gprs reg, trivial, home.fprs reg]
  | setGPR reg value =>
    obtain ⟨gprs, fprs, -⟩ := Slot.write_ok (setGPR_ok step)
    exact home.of_entries gprs fprs
  | setFPR reg value =>
    obtain ⟨gprs, fprs, -⟩ := Slot.write_ok (setFPR_ok step)
    exact home.of_entries gprs fprs
  | smashCallerSaves =>
    cases step
    refine ⟨fun reg => ?_, fun reg => ?_⟩ <;> simp only [smashCallerSaves] <;> split_ifs
    exacts [‹reg = X0›, trivial, home.gprs reg, trivial, home.fprs reg]

theorem PointsHome.run (kBadGprBase : Nat) (calleeSaveAddress : Nat → Nat → Nat → Nat)
    {ops : List Operation} {memory : Nat → Nat} {state : Arm64Context × (Nat → Nat)}
    (home : PointsHome ctx) (run : Operation.run kBadGprBase calleeSaveAddress ops (ctx, memory) = .ok state) :
    PointsHome state.1 := by
  induction ops generalizing ctx memory with
  | nil => cases run; exact home
  | cons op ops ih =>
    simp only [Operation.run] at run
    cases step : op.apply kBadGprBase calleeSaveAddress (ctx, memory) with
    | error failure => simp [step, Except.bind] at run
    | ok next =>
      simp only [step, Except.bind] at run
      exact ih (home.apply kBadGprBase calleeSaveAddress step) run

end PointsHome

/-- Over any calls, every entry points where it may, so `SetFPR`, and `SetGPR` of a register
other than SP, the PC and `x0`, write frame words only. -/
theorem context_entries_point_home (kBadGprBase : Nat)
    (calleeSaveAddress : Nat → Nat → Nat → Nat) {ops : List Operation}
    {memory memory' : Nat → Nat} {ctx : Arm64Context}
    (run : Operation.run kBadGprBase calleeSaveAddress ops (reset kBadGprBase, memory) =
      .ok (ctx, memory')) :
    PointsHome ctx ∧
    (∀ reg value ctx' memory'', setFPR ctx memory' reg value = .ok (ctx', memory'') →
      ctx'.gprs = ctx.gprs ∧ ctx'.fprs = ctx.fprs ∧ ctx'.sp = ctx.sp ∧ ctx'.pc = ctx.pc ∧
        ctx'.arg0 = ctx.arg0) ∧
    (∀ reg value ctx' memory'', reg ≠ SP → reg ≠ kPC → reg ≠ X0 →
      setGPR ctx memory' reg value = .ok (ctx', memory'') →
      ctx'.gprs = ctx.gprs ∧ ctx'.fprs = ctx.fprs ∧ ctx'.sp = ctx.sp ∧ ctx'.pc = ctx.pc ∧
        ctx'.arg0 = ctx.arg0) := by
  have home : PointsHome ctx := (pointsHome_reset kBadGprBase).run kBadGprBase calleeSaveAddress run
  refine ⟨home, fun reg value ctx' memory'' set => ?_,
    fun reg value ctx' memory'' sp pc x0 set => ?_⟩
  · have frame := home.fprs reg
    obtain ⟨gprs, fprs, keepSp, keepPc, keepArg0⟩ := Slot.write_ok (setFPR_ok set)
    refine ⟨gprs, fprs, keepSp ?_, keepPc ?_, keepArg0 ?_⟩ <;> intro points <;>
      rw [points] at frame <;> exact frame
  · have own := home.gprs reg
    obtain ⟨gprs, fprs, keepSp, keepPc, keepArg0⟩ := Slot.write_ok (setGPR_ok set)
    refine ⟨gprs, fprs, keepSp ?_, keepPc ?_, keepArg0 ?_⟩ <;> intro points <;>
      rw [points] at own
    exacts [sp own, pc own, x0 own]

/-- Restoring `x19` from a 16-byte frame, setting it, and smashing the caller-saves. -/
theorem context_entries_point_home_spill_x19 :
    ∃ ctx memory', Operation.run 0
        (fun frame spillPos frameSize => frame + frameSize - 8 * (spillPos + 1))
        [.fillCalleeSaves 64 ⟨16, 0x80000, 0⟩, .setGPR 19 7, .smashCallerSaves]
        (reset 0, fun _ => 0) = .ok (ctx, memory') ∧ PointsHome ctx :=
  ⟨_, _, rfl, (@context_entries_point_home 0
    (fun frame spillPos frameSize => frame + frameSize - 8 * (spillPos + 1))
    [.fillCalleeSaves 64 ⟨16, 0x80000, 0⟩, .setGPR 19 7, .smashCallerSaves] (fun _ => 0) _ _
    rfl).1⟩

end Art.Arm64
