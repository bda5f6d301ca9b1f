import Mathlib

/-! `HGraphBuilder` of `compiler/optimizing/builder.cc`: the order in which `BuildGraph`
runs the graph-construction stages, the skip policy between them, and the vreg layout that
`BuildIntrinsicGraph` picks for a method without bytecode. The stages belong to other
classes; each is an arbitrary function of the builder's state. -/
namespace Art.Optimizing

/-- Modelled from the spec: `GraphAnalysisResult` of `nodes.h`, not among the sources; a stage
may also report a structural failure of its own, by a code. -/
inductive GraphAnalysisResult
  | kAnalysisSkipped
  | kAnalysisInvalidBytecode
  | kAnalysisFail (code : Nat)
  | kAnalysisSuccess
  deriving DecidableEq, Repr

inductive CompilerFilter
  | kAssumeVerified
  | kExtract
  | kVerify
  | kSpaceProfile
  | kSpace
  | kSpeedProfile
  | kSpeed
  | kEverythingProfile
  | kEverything
  deriving DecidableEq, Repr

structure CompilerOptions where
  compilerFilter : CompilerFilter
  hugeMethodThreshold : Nat
  deriving DecidableEq, Repr

/-- Modelled from the spec: `CompilerOptions::IsHugeMethod` is not among the sources; a method
exactly at the threshold is compiled and one code unit above it is skipped. -/
def CompilerOptions.isHugeMethod (options : CompilerOptions) (codeUnits : Nat) : Bool :=
  options.hugeMethodThreshold < codeUnits

inductive MethodCompilationStat
  | kNotCompiledHugeMethod
  deriving DecidableEq, Repr

def OptimizingCompilerStats := MethodCompilationStat → Nat

/-- `MaybeRecordStat`: a null statistics object records nothing. -/
def maybeRecordStat (stats : Option OptimizingCompilerStats) (stat : MethodCompilationStat) :
    Option OptimizingCompilerStats :=
  stats.map fun counts other => if other = stat then counts other + 1 else counts other

structure CodeItemDebugInfoAccessor where
  registersSize : Nat
  insSize : Nat
  insnsSizeInCodeUnits : Nat
  deriving DecidableEq, Repr

/-- The return type character, then one character per argument. -/
structure Shorty where
  returnType : Char
  args : List Char
  deriving DecidableEq, Repr

structure DexCompilationUnit where
  shorty : Shorty
  isStatic : Bool
  deriving DecidableEq, Repr

/-- A code generator is read only for its compiler options; `none` is the null one of unit
tests. -/
structure HGraphBuilder where
  codeItemAccessor : CodeItemDebugInfoAccessor
  dexCompilationUnit : DexCompilationUnit
  codeGenerator : Option CompilerOptions
  deriving DecidableEq, Repr

structure HGraph (β : Type) where
  numberOfVRegs : Nat
  numberOfInVRegs : Nat
  blocks : β

/-- The graph, and the statistics it records into. -/
structure BuildState (β : Type) where
  graph : HGraph β
  stats : Option OptimizingCompilerStats

def BuildState.setNumberOfVRegs (s : BuildState β) (n : Nat) : BuildState β :=
  { s with graph := { s.graph with numberOfVRegs := n } }

def BuildState.setNumberOfInVRegs (s : BuildState β) (n : Nat) : BuildState β :=
  { s with graph := { s.graph with numberOfInVRegs := n } }

@[simp] theorem BuildState.setNumberOfVRegs_graph_numberOfVRegs (s : BuildState β) (n : Nat) :
    (s.setNumberOfVRegs n).graph.numberOfVRegs = n := rfl
@[simp] theorem BuildState.setNumberOfVRegs_graph_numberOfInVRegs (s : BuildState β) (n : Nat) :
    (s.setNumberOfVRegs n).graph.numberOfInVRegs = s.graph.numberOfInVRegs := rfl
@[simp] theorem BuildState.setNumberOfInVRegs_graph_numberOfVRegs (s : BuildState β) (n : Nat) :
    (s.setNumberOfInVRegs n).graph.numberOfVRegs = s.graph.numberOfVRegs := rfl
@[simp] theorem BuildState.setNumberOfInVRegs_graph_numberOfInVRegs (s : BuildState β) (n : Nat) :
    (s.setNumberOfInVRegs n).graph.numberOfInVRegs = n := rfl

/-- The stages of `HBasicBlockBuilder`, `HGraph`, `HInstructionBuilder` and `SsaBuilder`
that the builder calls, each with any behaviour. -/
structure Stages (β : Type) where
  blockBuilderBuild : BuildState β → Bool × BuildState β
  blockBuilderBuildIntrinsic : BuildState β → BuildState β
  buildDominatorTree : BuildState β → GraphAnalysisResult × BuildState β
  instructionBuilderBuild : BuildState β → Bool × BuildState β
  instructionBuilderBuildIntrinsic : BuildState β → BuildState β
  ssaBuilderBuildSsa : BuildState β → GraphAnalysisResult × BuildState β

/-- `HGraphBuilder::SkipCompilation`, with the statistic it records for a huge method. -/
def HGraphBuilder.skipCompilation (builder : HGraphBuilder)
    (stats : Option OptimizingCompilerStats) : Bool × Option OptimizingCompilerStats :=
  match builder.codeGenerator with
  | none => (false, stats)
  | some compilerOptions =>
    if compilerOptions.compilerFilter = .kEverything then (false, stats)
    else if compilerOptions.isHugeMethod builder.codeItemAccessor.insnsSizeInCodeUnits then
      (true, maybeRecordStat stats .kNotCompiledHugeMethod)
    else (false, stats)

/-- The state the first stage receives: the graph with the code item's register counts. -/
def HGraphBuilder.withVRegs (builder : HGraphBuilder) (s : BuildState β) : BuildState β :=
  (s.setNumberOfVRegs builder.codeItemAccessor.registersSize).setNumberOfInVRegs
    builder.codeItemAccessor.insSize

def HGraphBuilder.buildGraph (builder : HGraphBuilder) (stages : Stages β) (s : BuildState β) :
    GraphAnalysisResult × BuildState β :=
  match stages.blockBuilderBuild (builder.withVRegs s) with
  | (false, s) => (.kAnalysisInvalidBytecode, s)
  | (true, s) =>
    match builder.skipCompilation s.stats with
    | (true, stats) => (.kAnalysisSkipped, { s with stats })
    | (false, _) =>
      match stages.buildDominatorTree s with
      | (result, s) =>
        if result ≠ .kAnalysisSuccess then (result, s)
        else
          match stages.instructionBuilderBuild s with
          | (false, s) => (.kAnalysisInvalidBytecode, s)
          | (true, s) => stages.ssaBuilderBuildSsa s

/-- The skip policy: a code generator is present, its filter is not `kEverything`, and the
method is huge. -/
def HGraphBuilder.SkipPolicy (builder : HGraphBuilder) : Prop :=
  ∃ options, builder.codeGenerator = some options ∧ options.compilerFilter ≠ .kEverything ∧
    options.isHugeMethod builder.codeItemAccessor.insnsSizeInCodeUnits = true

theorem skipCompilation_eq_true_iff (builder : HGraphBuilder) (stats : Option OptimizingCompilerStats) :
    (builder.skipCompilation stats).1 = true ↔ builder.SkipPolicy := by
  unfold HGraphBuilder.skipCompilation HGraphBuilder.SkipPolicy
  cases builder.codeGenerator with
  | none => simp
  | some options =>
    by_cases everything : options.compilerFilter = .kEverything <;>
      by_cases huge : options.isHugeMethod builder.codeItemAccessor.insnsSizeInCodeUnits <;>
      simp [everything, huge]

theorem skipCompilation_stats (builder : HGraphBuilder) (stats : Option OptimizingCompilerStats) :
    (builder.skipCompilation stats).2 =
      if (builder.skipCompilation stats).1 then maybeRecordStat stats .kNotCompiledHugeMethod
      else stats := by
  unfold HGraphBuilder.skipCompilation
  cases builder.codeGenerator with
  | none => rfl
  | some options =>
    by_cases everything : options.compilerFilter = .kEverything <;>
      by_cases huge : options.isHugeMethod builder.codeItemAccessor.insnsSizeInCodeUnits <;>
      simp [everything, huge]

theorem skipCompilation_of_policy {builder : HGraphBuilder} (skip : builder.SkipPolicy)
    (stats : Option OptimizingCompilerStats) :
    builder.skipCompilation stats = (true, maybeRecordStat stats .kNotCompiledHugeMethod) := by
  have h := (skipCompilation_eq_true_iff builder stats).mpr skip
  have hs := skipCompilation_stats builder stats
  rw [h] at hs
  exact Prod.ext h hs

theorem skipCompilation_of_not_policy {builder : HGraphBuilder} (compile : ¬builder.SkipPolicy)
    (stats : Option OptimizingCompilerStats) : builder.skipCompilation stats = (false, stats) := by
  have h := mt (skipCompilation_eq_true_iff builder stats).mp compile
  have hs := skipCompilation_stats builder stats
  simp only [Bool.not_eq_true] at h
  rw [h] at hs
  exact Prod.ext h hs

section BuildGraph

variable {β : Type} (builder : HGraphBuilder) (stages : Stages β) (s : BuildState β)

theorem buildGraph_of_blocks_fail {s₂ : BuildState β}
    (blocks : stages.blockBuilderBuild (builder.withVRegs s) = (false, s₂)) :
    builder.buildGraph stages s = (.kAnalysisInvalidBytecode, s₂) := by
  simp [HGraphBuilder.buildGraph, blocks]

theorem buildGraph_of_skip {s₂ : BuildState β}
    (blocks : stages.blockBuilderBuild (builder.withVRegs s) = (true, s₂)) (skip : builder.SkipPolicy) :
    builder.buildGraph stages s =
      (.kAnalysisSkipped, { s₂ with stats := maybeRecordStat s₂.stats .kNotCompiledHugeMethod }) := by
  simp [HGraphBuilder.buildGraph, blocks, skipCompilation_of_policy skip]

theorem buildGraph_of_dominators_fail {s₂ s₃ : BuildState β} {result : GraphAnalysisResult}
    (blocks : stages.blockBuilderBuild (builder.withVRegs s) = (true, s₂))
    (compile : ¬builder.SkipPolicy)
    (dominators : stages.buildDominatorTree s₂ = (result, s₃)) (failed : result ≠ .kAnalysisSuccess) :
    builder.buildGraph stages s = (result, s₃) := by
  simp [HGraphBuilder.buildGraph, blocks, skipCompilation_of_not_policy compile, dominators, failed]

theorem buildGraph_of_instructions {s₂ s₃ s₄ : BuildState β} {built : Bool}
    (blocks : stages.blockBuilderBuild (builder.withVRegs s) = (true, s₂))
    (compile : ¬builder.SkipPolicy)
    (dominators : stages.buildDominatorTree s₂ = (.kAnalysisSuccess, s₃))
    (instructions : stages.instructionBuilderBuild s₃ = (built, s₄)) :
    builder.buildGraph stages s =
      if built then stages.ssaBuilderBuildSsa s₄ else (.kAnalysisInvalidBytecode, s₄) := by
  cases built <;>
    simp [HGraphBuilder.buildGraph, blocks, skipCompilation_of_not_policy compile, dominators,
      instructions]

/-- `BuildGraph` runs its stages in order, each only when every earlier one succeeded, and
passes on unchanged a result it does not produce itself. -/
theorem buildGraph_stage_order :
    ((builder.withVRegs s).graph.numberOfVRegs = builder.codeItemAccessor.registersSize ∧
      (builder.withVRegs s).graph.numberOfInVRegs = builder.codeItemAccessor.insSize ∧
      (builder.withVRegs s).graph.blocks = s.graph.blocks ∧ (builder.withVRegs s).stats = s.stats) ∧
    (∀ s₂, stages.blockBuilderBuild (builder.withVRegs s) = (false, s₂) →
      builder.buildGraph stages s = (.kAnalysisInvalidBytecode, s₂)) ∧
    (∀ s₂, stages.blockBuilderBuild (builder.withVRegs s) = (true, s₂) → builder.SkipPolicy →
      builder.buildGraph stages s =
        (.kAnalysisSkipped, { s₂ with stats := maybeRecordStat s₂.stats .kNotCompiledHugeMethod })) ∧
    (∀ s₂ result s₃, stages.blockBuilderBuild (builder.withVRegs s) = (true, s₂) →
      ¬builder.SkipPolicy → stages.buildDominatorTree s₂ = (result, s₃) →
      result ≠ .kAnalysisSuccess → builder.buildGraph stages s = (result, s₃)) ∧
    (∀ s₂ s₃ built s₄, stages.blockBuilderBuild (builder.withVRegs s) = (true, s₂) →
      ¬builder.SkipPolicy → stages.buildDominatorTree s₂ = (.kAnalysisSuccess, s₃) →
      stages.instructionBuilderBuild s₃ = (built, s₄) →
      builder.buildGraph stages s =
        if built then stages.ssaBuilderBuildSsa s₄ else (.kAnalysisInvalidBytecode, s₄)) :=
  ⟨⟨rfl, rfl, rfl, rfl⟩,
    fun _ blocks => buildGraph_of_blocks_fail builder stages s blocks,
    fun _ blocks skip => buildGraph_of_skip builder stages s blocks skip,
    fun _ _ _ blocks compile dominators failed =>
      buildGraph_of_dominators_fail builder stages s blocks compile dominators failed,
    fun _ _ _ _ blocks compile dominators instructions =>
      buildGraph_of_instructions builder stages s blocks compile dominators instructions⟩

end BuildGraph

def argSlotWidth : Char → Nat
  | 'J' => 2
  | 'D' => 2
  | _ => 1

/-- The register counts `BuildIntrinsicGraph` sets: two vregs are kept for the return value,
whatever its type. -/
def HGraphBuilder.withIntrinsicVRegs (builder : HGraphBuilder) (s : BuildState β) : BuildState β :=
  let shorty := builder.dexCompilationUnit.shorty
  let numArgs := shorty.args.length
  let numWideArgs := shorty.args.count 'J' + shorty.args.count 'D'
  let numArgVregs := numArgs + numWideArgs + if builder.dexCompilationUnit.isStatic then 0 else 1
  let returnVregs := 2
  (s.setNumberOfVRegs (returnVregs + numArgVregs)).setNumberOfInVRegs numArgVregs

/-- `HGraphBuilder::BuildIntrinsicGraph`; the results of the two analyses are checked only in
debug builds. -/
def HGraphBuilder.buildIntrinsicGraph (builder : HGraphBuilder) (stages : Stages β)
    (s : BuildState β) : BuildState β :=
  let s := stages.blockBuilderBuildIntrinsic (builder.withIntrinsicVRegs s)
  let s := (stages.buildDominatorTree s).2
  let s := stages.instructionBuilderBuildIntrinsic s
  (stages.ssaBuilderBuildSsa s).2

theorem length_add_wide_count (args : List Char) :
    args.length + (args.count 'J' + args.count 'D') = (args.map argSlotWidth).sum := by
  induction args with
  | nil => rfl
  | cons c args ih =>
    simp only [List.length_cons, List.count_cons, List.map_cons, List.sum_cons]
    by_cases wideJ : c = 'J'
    · subst wideJ; simp [argSlotWidth]; omega
    · by_cases wideD : c = 'D'
      · subst wideD; simp [argSlotWidth]; omega
      · simp [argSlotWidth, wideJ, wideD]; omega

/-- A method without code gets one in-vreg per argument slot and for the receiver, and two more
vregs. -/
theorem buildIntrinsicGraph_vregs (builder : HGraphBuilder) (stages : Stages β) (s : BuildState β) :
    builder.buildIntrinsicGraph stages s = (stages.ssaBuilderBuildSsa
      (stages.instructionBuilderBuildIntrinsic
        (stages.buildDominatorTree
          (stages.blockBuilderBuildIntrinsic (builder.withIntrinsicVRegs s))).2)).2 ∧
    (builder.withIntrinsicVRegs s).graph.numberOfInVRegs =
      (builder.dexCompilationUnit.shorty.args.map argSlotWidth).sum +
        (if builder.dexCompilationUnit.isStatic then 0 else 1) ∧
    (builder.withIntrinsicVRegs s).graph.numberOfVRegs =
      (builder.withIntrinsicVRegs s).graph.numberOfInVRegs + 2 ∧
    (builder.withIntrinsicVRegs s).graph.numberOfInVRegs <
      (builder.withIntrinsicVRegs s).graph.numberOfVRegs := by
  refine ⟨rfl, ?_, ?_, ?_⟩ <;>
    simp only [HGraphBuilder.withIntrinsicVRegs, BuildState.setNumberOfInVRegs_graph_numberOfInVRegs,
      BuildState.setNumberOfInVRegs_graph_numberOfVRegs,
      BuildState.setNumberOfVRegs_graph_numberOfVRegs, ← length_add_wide_count] <;>
    omega

example : ((⟨⟨0, 0, 0⟩, ⟨⟨'I', ['I', 'I']⟩, false⟩, none⟩ : HGraphBuilder).withIntrinsicVRegs
      (⟨⟨0, 0, ()⟩, none⟩ : BuildState Unit)).graph.numberOfVRegs = 5 := rfl

/-- Stages whose dominator analysis reports `kAnalysisSkipped` itself. -/
def skippingDominatorStages : Stages Unit where
  blockBuilderBuild s := (true, s)
  blockBuilderBuildIntrinsic s := s
  buildDominatorTree s := (.kAnalysisSkipped, s)
  instructionBuilderBuild s := (true, s)
  instructionBuilderBuildIntrinsic s := s
  ssaBuilderBuildSsa s := (.kAnalysisSuccess, s)

/-- Without a code generator the skip policy never holds, yet `BuildGraph` returns
`kAnalysisSkipped` when dominator analysis does. -/
theorem buildGraph_skipped_without_skip_policy :
    ¬(((⟨⟨0, 0, 0⟩, ⟨⟨'V', []⟩, true⟩, none⟩ : HGraphBuilder).buildGraph skippingDominatorStages
        ⟨⟨0, 0, ()⟩, none⟩).1 = .kAnalysisSkipped ↔
      (skippingDominatorStages.blockBuilderBuild
        ((⟨⟨0, 0, 0⟩, ⟨⟨'V', []⟩, true⟩, none⟩ : HGraphBuilder).withVRegs ⟨⟨0, 0, ()⟩, none⟩)).1 = true ∧
        (⟨⟨0, 0, 0⟩, ⟨⟨'V', []⟩, true⟩, none⟩ : HGraphBuilder).SkipPolicy) := by
  simp [HGraphBuilder.buildGraph, HGraphBuilder.skipCompilation, HGraphBuilder.SkipPolicy,
    skippingDominatorStages]

end Art.Optimizing
