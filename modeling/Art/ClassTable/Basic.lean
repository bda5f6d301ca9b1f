import Mathlib

/-! `ClassTable` of `runtime/class_table.cc`: a vector of class sets whose last set takes new
classes while the others are frozen, and the strong roots and oat files it keeps alive. -/
namespace Art

/-- The fields of `mirror::Class` the table reads; `address` is its identity. -/
structure Class where
  address : Nat
  descriptor : String
  classLoader : Nat
  resolved : Bool
  resolving : Bool
  temp : Bool
  deriving DecidableEq, Repr

structure OatFile where
  address : Nat
  bssGcRoots : Nat
  deriving DecidableEq, Repr

structure OatDexFile where
  oatFile : Option OatFile
  deriving DecidableEq, Repr

structure DexFile where
  oatDexFile : Option OatDexFile
  deriving DecidableEq, Repr

inductive ObjectKind
  | dexCache (dexFile : Option DexFile)
  | other
  deriving DecidableEq, Repr

structure Object where
  address : Nat
  kind : ObjectKind
  deriving DecidableEq, Repr

/-- The oat file a strong root keeps registered, when it has `.bss` GC roots. -/
def Object.bssOatFile (obj : Object) : Option OatFile :=
  match obj.kind with
  | .other => none
  | .dexCache dexFile => do
    let oatFile ← (← (← dexFile).oatDexFile).oatFile
    if oatFile.bssGcRoots = 0 then none else some oatFile

/-- Behaviour the C++ leaves undefined, or an abort by `LOG(FATAL)` or a failed `CHECK`. -/
inductive Failure
  | undefined
  | fatal (message : String)
  deriving DecidableEq, Repr

/-- Modelled from the spec: `ClassSet` is a `HashSet<TableSlot>` of `base/hash_set.h`, not among
the sources, whose slots are equal when their descriptors are: one class per descriptor. -/
structure ClassSet where
  slots : List Class
  nodup : (slots.map Class.descriptor).Nodup

namespace ClassSet

def empty : ClassSet := ⟨[], List.nodup_nil⟩

def findWithHash (set : ClassSet) (descriptor : String) : Option Class :=
  set.slots.find? fun klass => klass.descriptor = descriptor

/-- Modelled from the spec: `HashSet::InsertWithHash` keeps a slot of the same descriptor. -/
def insertWithHash (set : ClassSet) (klass : Class) : ClassSet :=
  if absent : set.findWithHash klass.descriptor = none then
    ⟨klass :: set.slots, by
      refine List.nodup_cons.mpr ⟨fun mem => ?_, set.nodup⟩
      obtain ⟨other, member, same⟩ := List.mem_map.mp mem
      exact List.find?_eq_none.mp absent other member (by simpa using same)⟩
  else set

/-- `*existing_it = slot`: the slot of the class's descriptor now holds the class. -/
def replace (set : ClassSet) (klass : Class) : ClassSet :=
  ⟨set.slots.map fun other => if other.descriptor = klass.descriptor then klass else other, by
    rw [List.map_map]
    convert set.nodup using 2
    funext other
    by_cases same : other.descriptor = klass.descriptor <;> simp [same]⟩

def size (set : ClassSet) : Nat := set.slots.length

def descriptors (set : ClassSet) : List String := set.slots.map Class.descriptor

@[simp] theorem findWithHash_empty (descriptor : String) : empty.findWithHash descriptor = none := rfl

@[simp] theorem size_empty : empty.size = 0 := rfl

@[simp] theorem descriptors_empty : empty.descriptors = [] := rfl

theorem findWithHash_isSome_iff (set : ClassSet) (descriptor : String) :
    (set.findWithHash descriptor).isSome ↔ descriptor ∈ set.descriptors := by
  simp [findWithHash, descriptors, List.find?_isSome]

theorem findWithHash_descriptor {set : ClassSet} {descriptor : String} {klass : Class}
    (found : set.findWithHash descriptor = some klass) : klass.descriptor = descriptor := by
  simpa using List.find?_some found

theorem findWithHash_insertWithHash {set : ClassSet} {klass : Class}
    (absent : set.findWithHash klass.descriptor = none) (descriptor : String) :
    (set.insertWithHash klass).findWithHash descriptor =
      if klass.descriptor = descriptor then some klass else set.findWithHash descriptor := by
  rw [insertWithHash, dif_pos absent]
  by_cases same : klass.descriptor = descriptor <;> simp [findWithHash, List.find?_cons, same]

theorem descriptors_insertWithHash {set : ClassSet} {klass : Class}
    (absent : set.findWithHash klass.descriptor = none) :
    (set.insertWithHash klass).descriptors = klass.descriptor :: set.descriptors := by
  simp [insertWithHash, absent, descriptors]

theorem findWithHash_replace (set : ClassSet) (klass : Class) (descriptor : String) :
    (set.replace klass).findWithHash descriptor = (set.findWithHash descriptor).map
      fun other => if other.descriptor = klass.descriptor then klass else other := by
  simp only [replace, findWithHash, List.find?_map]
  congr 2
  funext other
  by_cases same : other.descriptor = klass.descriptor <;> simp [same]

theorem descriptors_replace (set : ClassSet) (klass : Class) :
    (set.replace klass).descriptors = set.descriptors := by
  simp only [replace, descriptors, List.map_map]
  congr 1
  funext other
  by_cases same : other.descriptor = klass.descriptor <;> simp [same]

end ClassSet

structure ClassTable where
  classes : List ClassSet
  strongRoots : List Object
  oatFiles : List OatFile

namespace ClassTable

/-- The constructor: one empty set, still taking classes. -/
def new : ClassTable := ⟨[ClassSet.empty], [], []⟩

def freezeSnapshot (t : ClassTable) : Except Failure ClassTable :=
  match t.classes.getLast? with
  | none => .error .undefined
  | some _ => .ok { t with classes := t.classes ++ [ClassSet.empty] }

def lookup (t : ClassTable) (descriptor : String) : Option Class :=
  t.classes.reverse.findSome? (·.findWithHash descriptor)

def insertWithHash (t : ClassTable) (klass : Class) : Except Failure ClassTable :=
  match t.classes.getLast? with
  | none => .error .undefined
  | some back => .ok { t with classes := t.classes.dropLast ++ [back.insertWithHash klass] }

def insert (t : ClassTable) (klass : Class) : Except Failure ClassTable :=
  t.insertWithHash klass

/-- `UpdateClass` aborts when the last set has no class of the descriptor, and on each `CHECK`. -/
def updateClass (t : ClassTable) (klass : Class) : Except Failure (Class × ClassTable) :=
  match t.classes.getLast? with
  | none => .error .undefined
  | some back =>
    match back.findWithHash klass.descriptor with
    | none =>
      if t.classes.any fun set => (set.findWithHash klass.descriptor).isSome then
        .error (.fatal "Updating class found in frozen table")
      else .error (.fatal "Updating class not found")
    | some existing =>
      if existing = klass then .error (.fatal "existing != klass")
      else if existing.resolved then .error (.fatal "!existing->IsResolved()")
      else if !klass.resolving then
        .error (.fatal "klass->GetStatus() == ClassStatus::kResolving")
      else if klass.temp then .error (.fatal "!klass->IsTemp()")
      else .ok (existing, { t with classes := t.classes.dropLast ++ [back.replace klass] })

/-- `AddClassSet` inserts before the last set, so the frozen sets keep their positions. -/
def addClassSet (t : ClassTable) (set : ClassSet) : Except Failure ClassTable :=
  match t.classes.getLast? with
  | none => .error .undefined
  | some back => .ok { t with classes := t.classes.dropLast ++ [set, back] }

/-- Given the set decoded from memory and the number of bytes read. -/
def readFromMemory (t : ClassTable) (decoded : ClassSet × Nat) : Except Failure (Nat × ClassTable) :=
  (t.addClassSet decoded.1).map fun t => (decoded.2, t)

def countDefiningLoaderClasses (definingLoader : Nat) (set : ClassSet) : Nat :=
  set.slots.countP fun klass => klass.classLoader = definingLoader

/-- `classes_.size() - 1` as a `size_t`: no sets wrap around to the largest value. -/
def frozenBound (t : ClassTable) : Nat :=
  if t.classes.length = 0 then 2 ^ 64 - 1 else t.classes.length - 1

/-- `for (size_t i = start; ...) sum += f(classes_[i])`; reading past the end is undefined. -/
def sumTables (classes : List ClassSet) (f : ClassSet → Nat) (start sum : Nat) :
    Nat → Except Failure Nat
  | 0 => .ok sum
  | n + 1 =>
    match classes[start]? with
    | none => .error .undefined
    | some set => sumTables classes f (start + 1) (sum + f set) n

def numZygoteClasses (t : ClassTable) (definingLoader : Nat) : Except Failure Nat :=
  sumTables t.classes (countDefiningLoaderClasses definingLoader) 0 0 t.frozenBound

def numNonZygoteClasses (t : ClassTable) (definingLoader : Nat) : Except Failure Nat :=
  match t.classes.getLast? with
  | none => .error .undefined
  | some back => .ok (countDefiningLoaderClasses definingLoader back)

def numReferencedZygoteClasses (t : ClassTable) : Except Failure Nat :=
  sumTables t.classes ClassSet.size 0 0 t.frozenBound

def numReferencedNonZygoteClasses (t : ClassTable) : Except Failure Nat :=
  match t.classes.getLast? with
  | none => .error .undefined
  | some back => .ok back.size

/-- `InsertOatFileLocked`, and `InsertOatFile`, which only takes the lock around it. -/
def insertOatFile (t : ClassTable) (oatFile : OatFile) : Bool × ClassTable :=
  if oatFile ∈ t.oatFiles then (false, t) else (true, { t with oatFiles := t.oatFiles ++ [oatFile] })

def insertStrongRoot (t : ClassTable) (obj : Object) : Bool × ClassTable :=
  if obj ∈ t.strongRoots then (false, t)
  else
    let t := { t with strongRoots := t.strongRoots ++ [obj] }
    match obj.bssOatFile with
    | some oatFile => (true, (t.insertOatFile oatFile).2)
    | none => (true, t)

def clearStrongRoots (t : ClassTable) : ClassTable := { t with oatFiles := [], strongRoots := [] }

@[simp] theorem insertOatFile_classes (t : ClassTable) (oatFile : OatFile) :
    (t.insertOatFile oatFile).2.classes = t.classes := by
  unfold insertOatFile; split_ifs <;> rfl

@[simp] theorem insertStrongRoot_classes (t : ClassTable) (obj : Object) :
    (t.insertStrongRoot obj).2.classes = t.classes := by
  unfold insertStrongRoot
  split_ifs
  · rfl
  · split <;> simp

/-- `Insert` is `InsertWithHash`, and `ReadFromMemory` is `AddClassSet` of the decoded set. -/
inductive Operation
  | insertWithHash (klass : Class)
  | freezeSnapshot
  | updateClass (klass : Class)
  | addClassSet (set : ClassSet)
  | insertStrongRoot (obj : Object)
  | insertOatFile (oatFile : OatFile)
  | clearStrongRoots

def apply (t : ClassTable) : Operation → Except Failure ClassTable
  | .insertWithHash klass => t.insertWithHash klass
  | .freezeSnapshot => t.freezeSnapshot
  | .updateClass klass => (t.updateClass klass).map Prod.snd
  | .addClassSet set => t.addClassSet set
  | .insertStrongRoot obj => .ok (t.insertStrongRoot obj).2
  | .insertOatFile oatFile => .ok (t.insertOatFile oatFile).2
  | .clearStrongRoots => .ok t.clearStrongRoots

/-- A run stops at the first operation that does not return. -/
def run (t : ClassTable) : List Operation → Except Failure ClassTable
  | [] => .ok t
  | op :: ops =>
    match t.apply op with
    | .ok t => t.run ops
    | .error failure => .error failure

def Reachable (t : ClassTable) : Prop := ∃ ops, new.run ops = .ok t

end ClassTable

end Art
