import Mathlib.Data.List.Basic

/-! `membarrier` of `libartbase/base/membarrier.cc`. The probe of the kernel runs on the first
call only, and its answer is kept in a function-local static. So over any run of calls, either
every call reaches the kernel or none does. -/
namespace Art.Membarrier

/-- Modelled from the spec: the commands of `membarrier.h`, not among the sources. -/
inductive MembarrierCommand
  | kQuery
  | kGlobal
  | kPrivateExpedited
  | kRegisterPrivateExpedited
  deriving DecidableEq, Repr

structure Utsname where
  sysname : String
  release : String
  deriving DecidableEq, Repr

/-- What one call finds: the answers of `uname`, `sscanf(release, "%d.%d", ...)` and
`android_get_device_api_level`, and what the kernel returns to `syscall(__NR_membarrier, ...)`. -/
structure System where
  uname : Option Utsname
  scanRelease : String → Option (Int × Int)
  deviceApiLevel : Int
  syscall : MembarrierCommand → Int

structure Build where
  linux : Bool
  bionic : Bool
  deriving DecidableEq, Repr

def kRequiredMajor : Int := 4
def kRequiredMinor : Int := 14

/-- Modelled from the spec: `__ANDROID_API_Q__` of the platform headers, not among the
sources. -/
def kAndroidApiQ : Int := 29

def isMemBarrierSupported (build : Build) (system : System) : Bool :=
  match system.uname with
  | none => false
  | some uts =>
    if uts.sysname ≠ "Linux" then false
    else
      match system.scanRelease uts.release with
      | none => false
      | some (major, minor) =>
        if major < kRequiredMajor ∨ (major = kRequiredMajor ∧ minor < kRequiredMinor) then false
        else if build.bionic ∧ system.deviceApiLevel < kAndroidApiQ then false
        else true

inductive Errno
  | ENOSYS
  deriving DecidableEq, Repr

/-- The static `membarrier_supported` once initialized, `errno`, and the commands passed to the
kernel. -/
structure State where
  supported : Option Bool
  errno : Option Errno
  syscalls : List MembarrierCommand
  deriving DecidableEq, Repr

def membarrier (build : Build) (system : System) (command : MembarrierCommand) (s : State) :
    Int × State :=
  if !build.linux then (-1, { s with errno := some .ENOSYS })
  else
    let supported := s.supported.getD (isMemBarrierSupported build system)
    let s := { s with supported := some supported }
    if !supported then (-1, { s with errno := some .ENOSYS })
    else (system.syscall command, { s with syscalls := s.syscalls ++ [command] })

/-- A sequence of calls, each on the system as it is then; the results in order. -/
def run (build : Build) : List (System × MembarrierCommand) → State → List Int × State
  | [], s => ([], s)
  | (system, command) :: calls, s =>
    let (result, s) := membarrier build system command s
    let (results, s) := run build calls s
    (result :: results, s)

theorem isMemBarrierSupported_eq_true_iff (build : Build) (system : System) :
    isMemBarrierSupported build system = true ↔
      ∃ uts major minor, system.uname = some uts ∧ uts.sysname = "Linux" ∧
        system.scanRelease uts.release = some (major, minor) ∧
        (kRequiredMajor < major ∨ (major = kRequiredMajor ∧ kRequiredMinor ≤ minor)) ∧
        (build.bionic = true → kAndroidApiQ ≤ system.deviceApiLevel) := by
  unfold isMemBarrierSupported
  rcases system.uname with _ | ⟨sysname, release⟩
  · simp
  by_cases linux : sysname = "Linux"
  · rcases scan : system.scanRelease release with _ | ⟨major, minor⟩
    · simp [linux, scan]
    · simp only [linux, scan, kRequiredMajor, kRequiredMinor]
      cases build.bionic <;> simp [scan, and_assoc] <;> omega
  · simp [linux]

section Runs

variable (build : Build)

theorem membarrier_not_linux (system : System) (command : MembarrierCommand) (s : State)
    (notLinux : build.linux = false) :
    membarrier build system command s = (-1, { s with errno := some .ENOSYS }) := by
  simp [membarrier, notLinux]

theorem membarrier_of_initialized (system : System) (command : MembarrierCommand) (s : State)
    {supported : Bool} (initialized : s.supported = some supported) (linux : build.linux = true) :
    membarrier build system command s =
      if supported then (system.syscall command, { s with syscalls := s.syscalls ++ [command] })
      else (-1, { s with errno := some .ENOSYS }) := by
  cases supported <;> simp [membarrier, initialized, linux]

theorem membarrier_of_uninitialized (system : System) (command : MembarrierCommand) (s : State)
    (uninitialized : s.supported = none) (linux : build.linux = true) :
    membarrier build system command s = membarrier build system command
      { s with supported := some (isMemBarrierSupported build system) } := by
  simp [membarrier, uninitialized, linux]

theorem run_not_linux (calls : List (System × MembarrierCommand)) (s : State)
    (notLinux : build.linux = false) :
    run build calls s =
      (calls.map fun _ => -1, if calls.isEmpty then s else { s with errno := some .ENOSYS }) := by
  induction calls generalizing s with
  | nil => rfl
  | cons call calls ih => simp [run, membarrier_not_linux, notLinux, ih]

theorem run_of_initialized (calls : List (System × MembarrierCommand)) (s : State)
    {supported : Bool} (initialized : s.supported = some supported) (linux : build.linux = true) :
    run build calls s =
      if supported then
        (calls.map fun call => call.1.syscall call.2, { s with syscalls := s.syscalls ++ calls.map Prod.snd })
      else (calls.map fun _ => -1, if calls.isEmpty then s else { s with errno := some .ENOSYS }) := by
  induction calls generalizing s with
  | nil => cases supported <;> simp [run]
  | cons call calls ih => cases supported <;> simp [run, membarrier_of_initialized, initialized, linux, ih]

theorem run_cons_of_uninitialized (system : System) (command : MembarrierCommand)
    (calls : List (System × MembarrierCommand)) (s : State) (uninitialized : s.supported = none) :
    run build ((system, command) :: calls) s =
      if build.linux && isMemBarrierSupported build system then
        (((system, command) :: calls).map fun call => call.1.syscall call.2,
          { s with supported := some true,
                   syscalls := s.syscalls ++ ((system, command) :: calls).map Prod.snd })
      else
        (((system, command) :: calls).map fun _ => -1,
          { s with supported := if build.linux then some false else none,
                   errno := some .ENOSYS }) := by
  cases linux : build.linux
  · simp [run_not_linux _ _ _ linux, uninitialized]
  · have first : run build ((system, command) :: calls) s =
        run build ((system, command) :: calls)
          { s with supported := some (isMemBarrierSupported build system) } := by
      simp only [run, membarrier_of_uninitialized _ _ _ _ uninitialized linux]
    rw [first, run_of_initialized _ _ _ rfl linux]
    cases isMemBarrierSupported build system <;> simp

/-- The first call's probe decides every call of the run: none reaches the kernel, or each is
passed on and returns what the kernel answers it, whatever the later calls find. -/
theorem membarrier_first_call_decides (system : System) (command : MembarrierCommand)
    (calls : List (System × MembarrierCommand)) (s : State) (uninitialized : s.supported = none) :
    (isMemBarrierSupported build system = true ↔
      ∃ uts major minor, system.uname = some uts ∧ uts.sysname = "Linux" ∧
        system.scanRelease uts.release = some (major, minor) ∧
        (kRequiredMajor < major ∨ (major = kRequiredMajor ∧ kRequiredMinor ≤ minor)) ∧
        (build.bionic = true → kAndroidApiQ ≤ system.deviceApiLevel)) ∧
    run build ((system, command) :: calls) s =
      if build.linux && isMemBarrierSupported build system then
        (((system, command) :: calls).map fun call => call.1.syscall call.2,
          { s with supported := some true,
                   syscalls := s.syscalls ++ ((system, command) :: calls).map Prod.snd })
      else
        (((system, command) :: calls).map fun _ => -1,
          { s with supported := if build.linux then some false else none,
                   errno := some .ENOSYS }) :=
  ⟨isMemBarrierSupported_eq_true_iff build system,
    run_cons_of_uninitialized build system command calls s uninitialized⟩

/-- A 4.14 kernel on an Android P device (API level 28): both calls fail without a system call. -/
theorem membarrier_first_call_decides_api_level_p :
    run ⟨true, true⟩
        [(⟨some ⟨"Linux", "4.14.111"⟩, fun _ => some (4, 14), 28, fun _ => 0⟩,
            .kRegisterPrivateExpedited),
         (⟨some ⟨"Linux", "4.14.111"⟩, fun _ => some (4, 14), 29, fun _ => 0⟩, .kPrivateExpedited)]
        ⟨none, none, []⟩ =
      ([-1, -1], ⟨some false, some .ENOSYS, []⟩) :=
  (membarrier_first_call_decides ⟨true, true⟩
    ⟨some ⟨"Linux", "4.14.111"⟩, fun _ => some (4, 14), 28, fun _ => 0⟩ .kRegisterPrivateExpedited
    [(⟨some ⟨"Linux", "4.14.111"⟩, fun _ => some (4, 14), 29, fun _ => 0⟩, .kPrivateExpedited)]
    ⟨none, none, []⟩ rfl).2.trans rfl

end Runs

end Art.Membarrier
