import Art.Arm64Context

/-! `OatQuickMethodHeader`: where the should-deoptimize flag sits in an arm64 frame, and which
pcs lie in a method's code. `uintptr_t` is `BitVec w`, 32 bits wide on ARM and x86 builds and 64
on the others. -/
namespace Art

open Arm64

/-- Modelled from the spec: the instruction sets of `arch/instruction_set.h`, not among the
sources; the code here tells only `kArm` apart, and `kThumb2` is never the runtime ISA. -/
inductive InstructionSet
  | kNone
  | kArm
  | kArm64
  | kThumb2
  | kRiscv64
  | kX86
  | kX86_64
  deriving DecidableEq, Repr

def kShouldDeoptimizeFlagSize : Nat := 4

/-- `GetShouldDeoptimizeFlagOffset` in 64-bit `size_t` arithmetic, with the ISA's spill sizes. -/
def getShouldDeoptimizeFlagOffset (gprSpillBytes fprSpillBytes : Nat)
    (frameInfo : QuickMethodFrameInfo) : BitVec 64 :=
  let frameSize : BitVec 64 := .ofNat 64 frameInfo.frameSizeInBytes.toNat
  let coreSpillSize : BitVec 64 := .ofNat 64 (popcount frameInfo.coreSpillMask * gprSpillBytes)
  let fpuSpillSize : BitVec 64 := .ofNat 64 (popcount frameInfo.fpSpillMask * fprSpillBytes)
  frameSize - coreSpillSize - fpuSpillSize - .ofNat 64 kShouldDeoptimizeFlagSize

/-- Modelled from the spec: the frame offset of callee-save slot `spillPos`, as
`CalleeSaveAddress<kArm64>` (not among the sources) places it. -/
def calleeSaveSlotOffset (spillPos frameSize : Nat) : Nat :=
  frameSize - 8 * (spillPos + 1)

def calleeSaveAddress (frame spillPos frameSize : Nat) : Nat :=
  frame + calleeSaveSlotOffset spillPos frameSize

/-- The header's code address, a `uintptr_t` of `w` bits, and the size `GetCodeSize` decodes. -/
structure OatQuickMethodHeader (w : Nat) where
  code : BitVec w
  codeSize : UInt32
  deriving DecidableEq, Repr

section Header

variable {w : Nat}

def contains (isa : InstructionSet) (header : OatQuickMethodHeader w) (pc : BitVec w) : Bool :=
  let codeStart := if isa = .kArm then header.code + 1 else header.code
  decide (codeStart ≤ pc) && decide (pc ≤ codeStart + .ofNat w header.codeSize.toNat)

/-- ARM code is Thumb-2, entered at an odd address. -/
def getEntryPoint (isa : InstructionSet) (header : OatQuickMethodHeader w) : BitVec w :=
  if isa = .kArm then header.code ||| 1 else header.code

def nativeQuickPcOffset (isa : InstructionSet) (header : OatQuickMethodHeader w)
    (pc : BitVec w) : BitVec w :=
  pc - getEntryPoint isa header

end Header

section DeoptimizeFlag

variable (frameInfo : QuickMethodFrameInfo)

theorem getShouldDeoptimizeFlagOffset_toNat
    (fits : 8 * (popcount frameInfo.coreSpillMask + popcount frameInfo.fpSpillMask) +
      kShouldDeoptimizeFlagSize ≤ frameInfo.frameSizeInBytes.toNat) :
    (getShouldDeoptimizeFlagOffset 8 8 frameInfo).toNat + kShouldDeoptimizeFlagSize +
      8 * (popcount frameInfo.coreSpillMask + popcount frameInfo.fpSpillMask) =
      frameInfo.frameSizeInBytes.toNat := by
  have small : frameInfo.frameSizeInBytes.toNat < 2 ^ 64 :=
    frameInfo.frameSizeInBytes.toNat_lt_size.trans (by decide)
  simp only [getShouldDeoptimizeFlagOffset, kShouldDeoptimizeFlagSize] at fits ⊢
  simp only [BitVec.toNat_sub, BitVec.toNat_ofNat]
  omega

/-- On arm64, in a frame with room for its spills and the flag, the offset does not wrap and the
flag lies directly below the callee-save slots `FillCalleeSaves` reads. -/
theorem shouldDeoptimizeFlag_below_callee_saves
    (fits : 8 * (popcount frameInfo.coreSpillMask + popcount frameInfo.fpSpillMask) +
      kShouldDeoptimizeFlagSize ≤ frameInfo.frameSizeInBytes.toNat) :
    (getShouldDeoptimizeFlagOffset 8 8 frameInfo).toNat + kShouldDeoptimizeFlagSize +
      8 * (popcount frameInfo.coreSpillMask + popcount frameInfo.fpSpillMask) =
      frameInfo.frameSizeInBytes.toNat ∧
    (0 < popcount frameInfo.coreSpillMask + popcount frameInfo.fpSpillMask →
      (getShouldDeoptimizeFlagOffset 8 8 frameInfo).toNat + kShouldDeoptimizeFlagSize =
        calleeSaveSlotOffset (popcount frameInfo.coreSpillMask + popcount frameInfo.fpSpillMask - 1)
          frameInfo.frameSizeInBytes.toNat) ∧
    (∀ k < popcount frameInfo.coreSpillMask + popcount frameInfo.fpSpillMask,
      (getShouldDeoptimizeFlagOffset 8 8 frameInfo).toNat + kShouldDeoptimizeFlagSize ≤
        calleeSaveSlotOffset k frameInfo.frameSizeInBytes.toNat ∧
      calleeSaveSlotOffset k frameInfo.frameSizeInBytes.toNat + 8 ≤
        frameInfo.frameSizeInBytes.toNat) ∧
    (∀ ctx frame ctx', fillCalleeSaves calleeSaveAddress ctx frame frameInfo = .ok ctx' →
      (∀ reg, frameInfo.coreSpillMask.toNat.testBit reg →
        ∃ k < popcount frameInfo.coreSpillMask + popcount frameInfo.fpSpillMask,
          ctx'.gprs reg = .stack (calleeSaveAddress frame k frameInfo.frameSizeInBytes.toNat)) ∧
      (∀ reg, frameInfo.fpSpillMask.toNat.testBit reg →
        ∃ k < popcount frameInfo.coreSpillMask + popcount frameInfo.fpSpillMask,
          ctx'.fprs reg = .stack (calleeSaveAddress frame k frameInfo.frameSizeInBytes.toNat))) := by
  have offset := getShouldDeoptimizeFlagOffset_toNat frameInfo fits
  refine ⟨offset, fun spilled => ?_, fun k below => ?_, fun ctx frame ctx' filled => ?_⟩
  · unfold calleeSaveSlotOffset; omega
  · unfold calleeSaveSlotOffset; omega
  rw [fillCalleeSaves_eq, Except.ok.injEq] at filled
  subst filled
  exact ⟨fun reg set => ⟨_, (countBitsAbove_lt_popcount set).trans_le (Nat.le_add_right _ _),
      by simp [set]⟩,
    fun reg set => ⟨_, Nat.add_lt_add_left (countBitsAbove_lt_popcount set) _, by simp [set]⟩⟩

theorem shouldDeoptimizeFlag_below_callee_saves_three_spills :
    8 * (popcount 3 + popcount 1) + kShouldDeoptimizeFlagSize ≤ (64 : UInt32).toNat ∧
    (getShouldDeoptimizeFlagOffset 8 8 ⟨64, 3, 1⟩).toNat + kShouldDeoptimizeFlagSize +
      8 * (popcount 3 + popcount 1) = (64 : UInt32).toNat :=
  ⟨by decide, (shouldDeoptimizeFlag_below_callee_saves ⟨64, 3, 1⟩ (by decide)).1⟩

end DeoptimizeFlag

section CodeRange

variable {w : Nat} (isa : InstructionSet) (header : OatQuickMethodHeader w)

theorem or_one_eq_add_one {code : BitVec w} (even : code.toNat % 2 = 0) :
    code ||| 1 = code + 1 :=
  (BitVec.add_eq_or_of_and_eq_zero code 1 (BitVec.eq_of_toNat_eq (by
    rcases Nat.eq_zero_or_pos w with rfl | wide
    · simp
    · simp [Nat.one_mod_two_pow wide, Nat.and_one_is_mod, even]))).symm

theorem getEntryPoint_toNat (even : header.code.toNat % 2 = 0) (fits : header.code.toNat + 1 < 2 ^ w) :
    (getEntryPoint isa header).toNat = header.code.toNat + if isa = .kArm then 1 else 0 := by
  unfold getEntryPoint
  split_ifs
  · rw [or_one_eq_add_one even, BitVec.toNat_add, BitVec.ofNat_eq_ofNat, BitVec.toNat_ofNat,
      Nat.mod_eq_of_lt (a := 1) (by omega), Nat.mod_eq_of_lt fits]
  · rfl

theorem codeStart_eq_getEntryPoint (even : header.code.toNat % 2 = 0) :
    (if isa = .kArm then header.code + 1 else header.code) = getEntryPoint isa header := by
  unfold getEntryPoint
  split_ifs
  · exact (or_one_eq_add_one even).symm
  · rfl

theorem le_and_le_iff_sub_le {start pc : BitVec w} {size : Nat} (fits : start.toNat + size < 2 ^ w) :
    (start ≤ pc ∧ pc ≤ start + .ofNat w size) ↔ (pc - start).toNat ≤ size := by
  have pcLt := pc.isLt
  simp only [BitVec.le_def, BitVec.toNat_sub, BitVec.toNat_add, BitVec.toNat_ofNat]
  rw [Nat.mod_eq_of_lt (a := size) (by omega), Nat.mod_eq_of_lt (by omega)]
  by_cases le : start.toNat ≤ pc.toNat
  · rw [show 2 ^ w - start.toNat + pc.toNat = pc.toNat - start.toNat + 2 ^ w by omega,
      Nat.add_mod_right, Nat.mod_eq_of_lt (by omega)]
    omega
  · rw [Nat.mod_eq_of_lt (by omega)]
    omega

/-- For every ISA and pointer width, with an even code address, `Contains(pc)` holds exactly when
`NativeQuickPcOffset(pc)` is at most the code size. -/
theorem contains_iff_nativeQuickPcOffset_le (pc : BitVec w)
    (even : header.code.toNat % 2 = 0)
    (fits : header.code.toNat + header.codeSize.toNat + 1 < 2 ^ w) :
    (getEntryPoint isa header).toNat = header.code.toNat + (if isa = .kArm then 1 else 0) ∧
    (contains isa header pc = true ↔
      (nativeQuickPcOffset isa header pc).toNat ≤ header.codeSize.toNat) := by
  have entry := getEntryPoint_toNat isa header even (by omega)
  have inRange : (getEntryPoint isa header).toNat + header.codeSize.toNat < 2 ^ w := by
    split_ifs at entry <;> omega
  refine ⟨entry, ?_⟩
  rw [contains, codeStart_eq_getEntryPoint isa header even, nativeQuickPcOffset,
    ← le_and_le_iff_sub_le inRange]
  simp

/-- A 32-bit ARM method at `0x1000` with 32 bytes of code, and its first instruction's pc. -/
theorem contains_iff_nativeQuickPcOffset_le_thumb :
    (0x1000 : BitVec 32).toNat % 2 = 0 ∧
    (0x1000 : BitVec 32).toNat + (0x20 : UInt32).toNat + 1 < 2 ^ 32 ∧
    (contains .kArm (⟨0x1000, 0x20⟩ : OatQuickMethodHeader 32) 0x1001 = true ↔
      (nativeQuickPcOffset .kArm (⟨0x1000, 0x20⟩ : OatQuickMethodHeader 32) 0x1001).toNat ≤
        (0x20 : UInt32).toNat) :=
  ⟨by decide, by decide,
    (contains_iff_nativeQuickPcOffset_le .kArm (⟨0x1000, 0x20⟩ : OatQuickMethodHeader 32) 0x1001
      (by decide) (by decide)).2⟩

end CodeRange

end Art
