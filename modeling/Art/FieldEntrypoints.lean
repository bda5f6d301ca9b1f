import Mathlib.Data.List.Basic

/-! The field entrypoints of `runtime/entrypoints/quick/quick_field_entrypoints.cc`: the fast
path through the referrer's dex cache, the resolving slow path, and the get and set
functions `ART_GET_FIELD_FROM_CODE` stamps out for each kind. Pointers are addresses, `0` is
`nullptr`; what a call does to the heap and the thread is the list of its effects. -/
namespace Art.QuickField

/-- `FindFieldType`: the static, object and write bits of the access resolved for. -/
structure FindFieldType where
  isStatic : Bool
  isObject : Bool
  isWrite : Bool
  deriving DecidableEq, Repr

/-- What is read of a `mirror::Class`: its address, which holds the static fields. -/
structure FieldClass where
  address : Nat
  visiblyInitialized : Bool
  deriving DecidableEq, Repr

structure ArtField where
  index : Nat
  isStatic : Bool
  declaringClass : FieldClass
  accessFlags : Nat
  deriving DecidableEq, Repr

/-- What the fast path asks of the referring method, its dex cache and the class linker. -/
structure ArtMethod where
  resolvedField : Nat → Option ArtField
  canAccess : FieldClass → Bool
  canAccessMember : FieldClass → Nat → Bool
  canBeChangedBy : ArtField → Bool
  lookupResolvedType : ArtField → Bool

/-- `FindFieldFromCode`, with any behaviour: the field found, or none with an exception pending,
and how a moving GC during the call relocates the objects held in handles. -/
def FindFieldFromCode := FindFieldType → Nat → Bool → Option ArtField × (Nat → Nat)

def Heap := ArtField → Nat → Nat

/-- An effect of an entrypoint on the heap or the thread, in order. -/
inductive Effect
  | get (field : ArtField) (holder : Nat)
  | set (field : ArtField) (holder : Nat) (value : Nat)
  | throwNullPointerException (field : ArtField) (isRead : Bool)
  deriving DecidableEq, Repr

/-- A handle keeps a null reference null. -/
def relocateRoot (relocate : Nat → Nat) (ref : Nat) : Nat := if ref = 0 then 0 else relocate ref

/-- `FindFieldFast`: resolution that neither initializes a class nor throws. -/
def findFieldFast (referrer : ArtMethod) (fieldIdx : Nat) (type : FindFieldType)
    (shouldResolveType : Bool) : Option ArtField :=
  match referrer.resolvedField fieldIdx with
  | none => none
  | some resolvedField =>
    let isSet := type.isWrite
    let isStatic := type.isStatic
    if resolvedField.isStatic ≠ isStatic then none
    else
      let fieldsClass := resolvedField.declaringClass
      if isStatic ∧ !fieldsClass.visiblyInitialized then none
      else if !referrer.canAccess fieldsClass ∨
          !referrer.canAccessMember fieldsClass resolvedField.accessFlags ∨
          (isSet ∧ !referrer.canBeChangedBy resolvedField) then none
      else if shouldResolveType ∧ !referrer.lookupResolvedType resolvedField then none
      else some resolvedField

/-- The slow path, then the null check on the object the handle may have moved. -/
def findInstanceField (findFieldFromCode : FindFieldFromCode) (type : FindFieldType)
    (fieldIdx obj : Nat) (shouldResolveType : Bool) :
    Option ArtField × Nat × List Effect × (Nat → Nat) :=
  let (field, relocate) := findFieldFromCode type fieldIdx shouldResolveType
  let obj := relocateRoot relocate obj
  match field with
  | some field =>
    if obj = 0 then (none, obj, [.throwNullPointerException field !type.isWrite], relocate)
    else (some field, obj, [], relocate)
  | none => (none, obj, [], relocate)

/-- The kinds `ART_GET_FIELD_FROM_CODE` is instantiated for; only `Obj` is an object kind. -/
inductive Kind
  | byte
  | boolean
  | short
  | char
  | bits32
  | bits64
  | obj
  deriving DecidableEq, Repr

def Kind.isObject : Kind → Bool
  | .obj => true
  | _ => false

section Entrypoints

variable (kind : Kind) (referrer : ArtMethod) (findFieldFromCode : FindFieldFromCode)

/-- `artGet<Kind>StaticFromCode`; `0` when no field is found, with the exception pending. -/
def artGetStaticFromCode (heap : Heap) (fieldIdx : Nat) : Nat × List Effect :=
  let type : FindFieldType := ⟨true, kind.isObject, false⟩
  match findFieldFast referrer fieldIdx type false with
  | some field => (heap field field.declaringClass.address, [.get field field.declaringClass.address])
  | none =>
    match (findFieldFromCode type fieldIdx false).1 with
    | some field =>
      (heap field field.declaringClass.address, [.get field field.declaringClass.address])
    | none => (0, [])

/-- `artGet<Kind>InstanceFromCode` after a fast-path miss or with a null object. -/
def getInstanceSlowPath (heap : Heap) (fieldIdx obj : Nat) : Nat × List Effect :=
  match findInstanceField findFieldFromCode ⟨false, kind.isObject, false⟩ fieldIdx obj false with
  | (some field, obj, effects, _) => (heap field obj, effects ++ [.get field obj])
  | (none, _, effects, _) => (0, effects)

def artGetInstanceFromCode (heap : Heap) (fieldIdx obj : Nat) : Nat × List Effect :=
  match findFieldFast referrer fieldIdx ⟨false, kind.isObject, false⟩ false with
  | some field =>
    if obj ≠ 0 then (heap field obj, [.get field obj])
    else getInstanceSlowPath kind findFieldFromCode heap fieldIdx obj
  | none => getInstanceSlowPath kind findFieldFromCode heap fieldIdx obj

/-- `artSet<Kind>StaticFromCode`; an object value is held in a handle across the slow path. -/
def artSetStaticFromCode (fieldIdx newValue : Nat) : Int × List Effect :=
  let type : FindFieldType := ⟨true, kind.isObject, true⟩
  let shouldResolveType := kind.isObject ∧ newValue ≠ 0
  match findFieldFast referrer fieldIdx type shouldResolveType with
  | some field => (0, [.set field field.declaringClass.address newValue])
  | none =>
    let (field, relocate) := findFieldFromCode type fieldIdx shouldResolveType
    let newValue := if kind.isObject then relocateRoot relocate newValue else newValue
    match field with
    | none => (-1, [])
    | some field => (0, [.set field field.declaringClass.address newValue])

/-- `artSet<Kind>InstanceFromCode` after a fast-path miss or with a null object. -/
def setInstanceSlowPath (fieldIdx obj newValue : Nat) : Int × List Effect :=
  let type : FindFieldType := ⟨false, kind.isObject, true⟩
  let shouldResolveType := kind.isObject ∧ newValue ≠ 0
  match findInstanceField findFieldFromCode type fieldIdx obj shouldResolveType with
  | (none, _, effects, _) => (-1, effects)
  | (some field, obj, effects, relocate) =>
    (0, effects ++ [.set field obj (if kind.isObject then relocateRoot relocate newValue else newValue)])

def artSetInstanceFromCode (fieldIdx obj newValue : Nat) : Int × List Effect :=
  match findFieldFast referrer fieldIdx ⟨false, kind.isObject, true⟩ (kind.isObject ∧ newValue ≠ 0) with
  | some field =>
    if obj = 0 then setInstanceSlowPath kind findFieldFromCode fieldIdx obj newValue
    else (0, [.set field obj newValue])
  | none => setInstanceSlowPath kind findFieldFromCode fieldIdx obj newValue

end Entrypoints

/-- A static field from the fast path has a visibly initialized class. -/
theorem findFieldFast_some {referrer : ArtMethod} {fieldIdx : Nat} {type : FindFieldType}
    {shouldResolveType : Bool} {field : ArtField}
    (found : findFieldFast referrer fieldIdx type shouldResolveType = some field) :
    field.isStatic = type.isStatic ∧ (type.isStatic = true → field.declaringClass.visiblyInitialized = true) := by
  unfold findFieldFast at found
  split at found
  · cases found
  · simp only at found
    split_ifs at found with static initialized
    cases found
    exact ⟨by simpa using static, fun isStatic => by simpa [isStatic] using initialized⟩

section FindInstanceField

variable {findFieldFromCode : FindFieldFromCode} {type : FindFieldType} {fieldIdx obj : Nat}
  {shouldResolveType : Bool}

theorem findInstanceField_some {field : ArtField} {obj' : Nat} {effects : List Effect}
    {relocate : Nat → Nat}
    (found : findInstanceField findFieldFromCode type fieldIdx obj shouldResolveType =
      (some field, obj', effects, relocate)) : obj' ≠ 0 ∧ effects = [] := by
  unfold findInstanceField at found
  split at found
  rename_i field' relocate' _
  cases field' with
  | none => cases found
  | some field' =>
    simp only at found
    split_ifs at found with null <;> cases found
    exact ⟨null, rfl⟩

theorem findInstanceField_effects {field : Option ArtField} {obj' : Nat} {effects : List Effect}
    {relocate : Nat → Nat} {e : Effect}
    (found : findInstanceField findFieldFromCode type fieldIdx obj shouldResolveType =
      (field, obj', effects, relocate)) (member : e ∈ effects) :
    ∃ field, e = .throwNullPointerException field !type.isWrite := by
  unfold findInstanceField at found
  split at found
  rename_i field' relocate' _
  cases field' with
  | none => cases found; simp at member
  | some field' =>
    simp only at found
    split_ifs at found <;> cases found <;> simp_all

end FindInstanceField

section Effects

variable (kind : Kind) (referrer : ArtMethod) (findFieldFromCode : FindFieldFromCode)

theorem getInstanceSlowPath_cases (heap : Heap) (fieldIdx obj : Nat) :
    (∃ field holder, holder ≠ 0 ∧ getInstanceSlowPath kind findFieldFromCode heap fieldIdx obj =
      (heap field holder, [.get field holder])) ∨
    ((getInstanceSlowPath kind findFieldFromCode heap fieldIdx obj).1 = 0 ∧
      ∀ e ∈ (getInstanceSlowPath kind findFieldFromCode heap fieldIdx obj).2,
        ∃ field, e = .throwNullPointerException field true) := by
  rcases found : findInstanceField findFieldFromCode ⟨false, kind.isObject, false⟩ fieldIdx obj
    false with ⟨_ | field, obj', effects, relocate⟩
  · simp only [getInstanceSlowPath, found]
    exact .inr ⟨trivial, fun e member => by simpa using findInstanceField_effects found member⟩
  · obtain ⟨nonNull, rfl⟩ := findInstanceField_some found
    simp only [getInstanceSlowPath, found, List.nil_append]
    exact .inl ⟨field, obj', nonNull, rfl⟩

theorem artGetInstanceFromCode_cases (heap : Heap) (fieldIdx obj : Nat) :
    (∃ field holder, holder ≠ 0 ∧
      artGetInstanceFromCode kind referrer findFieldFromCode heap fieldIdx obj =
        (heap field holder, [.get field holder])) ∨
    ((artGetInstanceFromCode kind referrer findFieldFromCode heap fieldIdx obj).1 = 0 ∧
      ∀ e ∈ (artGetInstanceFromCode kind referrer findFieldFromCode heap fieldIdx obj).2,
        ∃ field, e = .throwNullPointerException field true) := by
  unfold artGetInstanceFromCode
  split
  · split_ifs with nonNull
    · exact .inl ⟨_, obj, nonNull, rfl⟩
    · exact getInstanceSlowPath_cases kind findFieldFromCode heap fieldIdx obj
  · exact getInstanceSlowPath_cases kind findFieldFromCode heap fieldIdx obj

theorem artGetInstanceFromCode_effects (heap : Heap) (fieldIdx obj : Nat) (e : Effect)
    (member : e ∈ (artGetInstanceFromCode kind referrer findFieldFromCode heap fieldIdx obj).2) :
    (∃ field holder, e = .get field holder ∧ holder ≠ 0) ∨
      ∃ field, e = .throwNullPointerException field true := by
  rcases artGetInstanceFromCode_cases kind referrer findFieldFromCode heap fieldIdx obj with
    ⟨field, holder, nonNull, result⟩ | ⟨-, thrown⟩
  · rw [result] at member
    exact .inl ⟨field, holder, List.mem_singleton.mp member, nonNull⟩
  · exact .inr (thrown e member)

theorem setInstanceSlowPath_cases (fieldIdx obj newValue : Nat) :
    ((setInstanceSlowPath kind findFieldFromCode fieldIdx obj newValue).1 = 0 ∧
      ∃ field holder value, (setInstanceSlowPath kind findFieldFromCode fieldIdx obj newValue).2 =
        [.set field holder value] ∧ holder ≠ 0) ∨
    ((setInstanceSlowPath kind findFieldFromCode fieldIdx obj newValue).1 = -1 ∧
      ∀ e ∈ (setInstanceSlowPath kind findFieldFromCode fieldIdx obj newValue).2,
        ∃ field, e = .throwNullPointerException field false) := by
  rcases found : findInstanceField findFieldFromCode ⟨false, kind.isObject, true⟩ fieldIdx obj
    (kind.isObject ∧ newValue ≠ 0) with ⟨_ | field, obj', effects, relocate⟩
  · simp only [setInstanceSlowPath, found]
    exact .inr ⟨trivial, fun e member => findInstanceField_effects found member⟩
  · obtain ⟨nonNull, rfl⟩ := findInstanceField_some found
    simp only [setInstanceSlowPath, found]
    exact .inl ⟨trivial, field, obj', _, rfl, nonNull⟩

theorem artSetInstanceFromCode_cases (fieldIdx obj newValue : Nat) :
    ((artSetInstanceFromCode kind referrer findFieldFromCode fieldIdx obj newValue).1 = 0 ∧
      ∃ field holder value,
        (artSetInstanceFromCode kind referrer findFieldFromCode fieldIdx obj newValue).2 =
          [.set field holder value] ∧ holder ≠ 0) ∨
    ((artSetInstanceFromCode kind referrer findFieldFromCode fieldIdx obj newValue).1 = -1 ∧
      ∀ e ∈ (artSetInstanceFromCode kind referrer findFieldFromCode fieldIdx obj newValue).2,
        ∃ field, e = .throwNullPointerException field false) := by
  unfold artSetInstanceFromCode
  split
  · split_ifs with null
    · exact setInstanceSlowPath_cases kind findFieldFromCode fieldIdx obj newValue
    · exact .inl ⟨rfl, _, obj, newValue, rfl, null⟩
  · exact setInstanceSlowPath_cases kind findFieldFromCode fieldIdx obj newValue

theorem artSetInstanceFromCode_null (fieldIdx newValue : Nat) :
    artSetInstanceFromCode kind referrer findFieldFromCode fieldIdx 0 newValue =
      (-1, match (findFieldFromCode ⟨false, kind.isObject, true⟩ fieldIdx
          (kind.isObject ∧ newValue ≠ 0)).1 with
        | some field => [.throwNullPointerException field false]
        | none => []) := by
  dsimp only [artSetInstanceFromCode, setInstanceSlowPath, findInstanceField]
  rcases findFieldFromCode ⟨false, kind.isObject, true⟩ fieldIdx (kind.isObject ∧ newValue ≠ 0)
    with ⟨_ | field, relocate⟩ <;> split <;> simp [relocateRoot]

theorem artSetStaticFromCode_cases (fieldIdx newValue : Nat) :
    ((∃ field value, artSetStaticFromCode kind referrer findFieldFromCode fieldIdx newValue =
        (0, [.set field field.declaringClass.address value])) ∨
      artSetStaticFromCode kind referrer findFieldFromCode fieldIdx newValue = (-1, [])) ∧
    ((artSetStaticFromCode kind referrer findFieldFromCode fieldIdx newValue).1 = -1 ↔
      findFieldFast referrer fieldIdx ⟨true, kind.isObject, true⟩ (kind.isObject ∧ newValue ≠ 0) =
        none ∧
      (findFieldFromCode ⟨true, kind.isObject, true⟩ fieldIdx (kind.isObject ∧ newValue ≠ 0)).1 =
        none) := by
  dsimp only [artSetStaticFromCode]
  cases fast : findFieldFast referrer fieldIdx ⟨true, kind.isObject, true⟩
    (kind.isObject ∧ newValue ≠ 0) with
  | some field => simp
  | none =>
    rcases slow : findFieldFromCode ⟨true, kind.isObject, true⟩ fieldIdx
      (kind.isObject ∧ newValue ≠ 0) with ⟨_ | field, relocate⟩ <;> simp

theorem getInstanceSlowPath_get (heap : Heap) (fieldIdx obj : Nat) {field : ArtField} {holder : Nat}
    (member : .get field holder ∈ (getInstanceSlowPath kind findFieldFromCode heap fieldIdx obj).2) :
    ∃ relocate, findFieldFromCode ⟨false, kind.isObject, false⟩ fieldIdx false = (some field, relocate) ∧
      holder = relocateRoot relocate obj := by
  dsimp only [getInstanceSlowPath, findInstanceField] at member
  rcases found : findFieldFromCode ⟨false, kind.isObject, false⟩ fieldIdx false with
    ⟨_ | field', relocate⟩ <;> simp only [found] at member
  · simp at member
  · split_ifs at member <;> simp_all

theorem setInstanceSlowPath_set (fieldIdx obj newValue : Nat) {field : ArtField} {holder value : Nat}
    (member : .set field holder value ∈ (setInstanceSlowPath kind findFieldFromCode fieldIdx obj newValue).2) :
    ∃ relocate, findFieldFromCode ⟨false, kind.isObject, true⟩ fieldIdx (kind.isObject ∧ newValue ≠ 0) =
        (some field, relocate) ∧
      holder = relocateRoot relocate obj ∧
      value = if kind.isObject then relocateRoot relocate newValue else newValue := by
  dsimp only [setInstanceSlowPath, findInstanceField] at member
  rcases found : findFieldFromCode ⟨false, kind.isObject, true⟩ fieldIdx (kind.isObject ∧ newValue ≠ 0) with
    ⟨_ | field', relocate⟩ <;> simp only [found] at member
  · simp at member
  · split_ifs at member <;> simp_all

theorem artGetInstanceFromCode_get (heap : Heap) (fieldIdx obj : Nat) {field : ArtField} {holder : Nat}
    (member : .get field holder ∈ (artGetInstanceFromCode kind referrer findFieldFromCode heap fieldIdx obj).2) :
    (findFieldFast referrer fieldIdx ⟨false, kind.isObject, false⟩ false = some field ∧ obj ≠ 0 ∧
        holder = obj) ∨
      ((findFieldFast referrer fieldIdx ⟨false, kind.isObject, false⟩ false = none ∨ obj = 0) ∧
        ∃ relocate, findFieldFromCode ⟨false, kind.isObject, false⟩ fieldIdx false = (some field, relocate) ∧
          holder = relocateRoot relocate obj) := by
  unfold artGetInstanceFromCode at member
  cases fast : findFieldFast referrer fieldIdx ⟨false, kind.isObject, false⟩ false with
  | none =>
    rw [fast] at member
    exact .inr ⟨.inl rfl, getInstanceSlowPath_get kind findFieldFromCode heap fieldIdx obj member⟩
  | some field' =>
    rw [fast] at member
    split_ifs at member with nonNull
    · simp only [List.mem_singleton, Effect.get.injEq] at member
      obtain ⟨rfl, rfl⟩ := member
      exact .inl ⟨rfl, nonNull, rfl⟩
    · exact .inr ⟨.inr (not_not.mp nonNull), getInstanceSlowPath_get kind findFieldFromCode heap fieldIdx obj member⟩

theorem artSetInstanceFromCode_set (fieldIdx obj newValue : Nat) {field : ArtField} {holder value : Nat}
    (member : .set field holder value ∈
      (artSetInstanceFromCode kind referrer findFieldFromCode fieldIdx obj newValue).2) :
    (findFieldFast referrer fieldIdx ⟨false, kind.isObject, true⟩ (kind.isObject ∧ newValue ≠ 0) =
        some field ∧ obj ≠ 0 ∧ holder = obj ∧ value = newValue) ∨
      ((findFieldFast referrer fieldIdx ⟨false, kind.isObject, true⟩ (kind.isObject ∧ newValue ≠ 0) =
          none ∨ obj = 0) ∧
        ∃ relocate, findFieldFromCode ⟨false, kind.isObject, true⟩ fieldIdx (kind.isObject ∧ newValue ≠ 0) =
            (some field, relocate) ∧
          holder = relocateRoot relocate obj ∧
          value = if kind.isObject then relocateRoot relocate newValue else newValue) := by
  unfold artSetInstanceFromCode at member
  cases fast : findFieldFast referrer fieldIdx ⟨false, kind.isObject, true⟩ (kind.isObject ∧ newValue ≠ 0) with
  | none =>
    rw [fast] at member
    exact .inr ⟨.inl rfl, setInstanceSlowPath_set kind findFieldFromCode fieldIdx obj newValue member⟩
  | some field' =>
    rw [fast] at member
    split_ifs at member with null
    · exact .inr ⟨.inr null, setInstanceSlowPath_set kind findFieldFromCode fieldIdx obj newValue member⟩
    · simp only [List.mem_singleton, Effect.set.injEq] at member
      obtain ⟨rfl, rfl, rfl⟩ := member
      exact .inl ⟨rfl, null, rfl, rfl⟩

theorem artSetStaticFromCode_set (fieldIdx newValue : Nat) {field : ArtField} {holder value : Nat}
    (member : .set field holder value ∈ (artSetStaticFromCode kind referrer findFieldFromCode fieldIdx newValue).2) :
    holder = field.declaringClass.address ∧
      ((findFieldFast referrer fieldIdx ⟨true, kind.isObject, true⟩ (kind.isObject ∧ newValue ≠ 0) =
          some field ∧ value = newValue) ∨
        (findFieldFast referrer fieldIdx ⟨true, kind.isObject, true⟩ (kind.isObject ∧ newValue ≠ 0) = none ∧
          ∃ relocate, findFieldFromCode ⟨true, kind.isObject, true⟩ fieldIdx (kind.isObject ∧ newValue ≠ 0) =
              (some field, relocate) ∧
            value = if kind.isObject then relocateRoot relocate newValue else newValue)) := by
  dsimp only [artSetStaticFromCode] at member
  cases fast : findFieldFast referrer fieldIdx ⟨true, kind.isObject, true⟩ (kind.isObject ∧ newValue ≠ 0) with
  | some field' => simp_all
  | none =>
    rcases slow : findFieldFromCode ⟨true, kind.isObject, true⟩ fieldIdx (kind.isObject ∧ newValue ≠ 0) with
      ⟨_ | field', relocate⟩ <;> simp only [fast, slow] at member
    · simp at member
    · simp only [List.mem_singleton, Effect.set.injEq] at member
      obtain ⟨rfl, rfl, rfl⟩ := member
      exact ⟨rfl, .inr ⟨rfl, relocate, rfl, rfl⟩⟩

end Effects

/-- No access goes through a null object; a set goes through the caller's object and value with
the fast path's field, or through what the slow path found and its handles relocated. -/
theorem field_entrypoints_write_discipline (kind : Kind) (referrer : ArtMethod)
    (findFieldFromCode : FindFieldFromCode) :
    (∀ heap fieldIdx obj,
      ∀ e ∈ (artGetInstanceFromCode kind referrer findFieldFromCode heap fieldIdx obj).2,
        (∃ field holder, e = .get field holder ∧ holder ≠ 0) ∨
          ∃ field, e = .throwNullPointerException field true) ∧
    (∀ heap fieldIdx obj field holder,
      .get field holder ∈ (artGetInstanceFromCode kind referrer findFieldFromCode heap fieldIdx obj).2 →
      (findFieldFast referrer fieldIdx ⟨false, kind.isObject, false⟩ false = some field ∧ obj ≠ 0 ∧
          holder = obj) ∨
        ((findFieldFast referrer fieldIdx ⟨false, kind.isObject, false⟩ false = none ∨ obj = 0) ∧
          ∃ relocate, findFieldFromCode ⟨false, kind.isObject, false⟩ fieldIdx false =
              (some field, relocate) ∧
            holder = relocateRoot relocate obj)) ∧
    (∀ fieldIdx obj newValue,
      ((artSetInstanceFromCode kind referrer findFieldFromCode fieldIdx obj newValue).1 = 0 ∧
        ∃ field holder value,
          (artSetInstanceFromCode kind referrer findFieldFromCode fieldIdx obj newValue).2 =
            [.set field holder value] ∧ holder ≠ 0) ∨
      ((artSetInstanceFromCode kind referrer findFieldFromCode fieldIdx obj newValue).1 = -1 ∧
        ∀ e ∈ (artSetInstanceFromCode kind referrer findFieldFromCode fieldIdx obj newValue).2,
          ∃ field, e = .throwNullPointerException field false)) ∧
    (∀ fieldIdx obj newValue field holder value,
      .set field holder value ∈
        (artSetInstanceFromCode kind referrer findFieldFromCode fieldIdx obj newValue).2 →
      (findFieldFast referrer fieldIdx ⟨false, kind.isObject, true⟩ (kind.isObject ∧ newValue ≠ 0) =
          some field ∧ obj ≠ 0 ∧ holder = obj ∧ value = newValue) ∨
        ((findFieldFast referrer fieldIdx ⟨false, kind.isObject, true⟩ (kind.isObject ∧ newValue ≠ 0) =
            none ∨ obj = 0) ∧
          ∃ relocate, findFieldFromCode ⟨false, kind.isObject, true⟩ fieldIdx
              (kind.isObject ∧ newValue ≠ 0) = (some field, relocate) ∧
            holder = relocateRoot relocate obj ∧
            value = if kind.isObject then relocateRoot relocate newValue else newValue)) ∧
    (∀ fieldIdx newValue,
      artSetInstanceFromCode kind referrer findFieldFromCode fieldIdx 0 newValue =
        (-1, match (findFieldFromCode ⟨false, kind.isObject, true⟩ fieldIdx
            (kind.isObject ∧ newValue ≠ 0)).1 with
          | some field => [.throwNullPointerException field false]
          | none => [])) ∧
    (∀ fieldIdx newValue,
      ((∃ field value, artSetStaticFromCode kind referrer findFieldFromCode fieldIdx newValue =
          (0, [.set field field.declaringClass.address value])) ∨
        artSetStaticFromCode kind referrer findFieldFromCode fieldIdx newValue = (-1, [])) ∧
      ((artSetStaticFromCode kind referrer findFieldFromCode fieldIdx newValue).1 = -1 ↔
        findFieldFast referrer fieldIdx ⟨true, kind.isObject, true⟩
            (kind.isObject ∧ newValue ≠ 0) = none ∧
          (findFieldFromCode ⟨true, kind.isObject, true⟩ fieldIdx
            (kind.isObject ∧ newValue ≠ 0)).1 = none)) ∧
    (∀ fieldIdx newValue field holder value,
      .set field holder value ∈ (artSetStaticFromCode kind referrer findFieldFromCode fieldIdx newValue).2 →
      holder = field.declaringClass.address ∧
        ((findFieldFast referrer fieldIdx ⟨true, kind.isObject, true⟩ (kind.isObject ∧ newValue ≠ 0) =
            some field ∧ value = newValue) ∨
          (findFieldFast referrer fieldIdx ⟨true, kind.isObject, true⟩ (kind.isObject ∧ newValue ≠ 0) =
              none ∧
            ∃ relocate, findFieldFromCode ⟨true, kind.isObject, true⟩ fieldIdx
                (kind.isObject ∧ newValue ≠ 0) = (some field, relocate) ∧
              value = if kind.isObject then relocateRoot relocate newValue else newValue))) ∧
    (∀ fieldIdx type shouldResolveType field,
      findFieldFast referrer fieldIdx type shouldResolveType = some field →
        field.isStatic = type.isStatic ∧
          (type.isStatic = true → field.declaringClass.visiblyInitialized = true)) :=
  ⟨artGetInstanceFromCode_effects kind referrer findFieldFromCode,
    fun _ _ _ _ _ => artGetInstanceFromCode_get kind referrer findFieldFromCode _ _ _,
    artSetInstanceFromCode_cases kind referrer findFieldFromCode,
    fun _ _ _ _ _ _ => artSetInstanceFromCode_set kind referrer findFieldFromCode _ _ _,
    artSetInstanceFromCode_null kind referrer findFieldFromCode,
    artSetStaticFromCode_cases kind referrer findFieldFromCode,
    fun _ _ _ _ _ => artSetStaticFromCode_set kind referrer findFieldFromCode _ _,
    fun _ _ _ _ found => findFieldFast_some found⟩

def artGetByteStaticFromCode := artGetStaticFromCode .byte
def artGetByteInstanceFromCode := artGetInstanceFromCode .byte
def artSetByteStaticFromCode := artSetStaticFromCode .byte
def artSetByteInstanceFromCode := artSetInstanceFromCode .byte

def artGetBooleanStaticFromCode := artGetStaticFromCode .boolean
def artGetBooleanInstanceFromCode := artGetInstanceFromCode .boolean
def artSetBooleanStaticFromCode := artSetStaticFromCode .boolean
def artSetBooleanInstanceFromCode := artSetInstanceFromCode .boolean

def artGetShortStaticFromCode := artGetStaticFromCode .short
def artGetShortInstanceFromCode := artGetInstanceFromCode .short
def artSetShortStaticFromCode := artSetStaticFromCode .short
def artSetShortInstanceFromCode := artSetInstanceFromCode .short

def artGetCharStaticFromCode := artGetStaticFromCode .char
def artGetCharInstanceFromCode := artGetInstanceFromCode .char
def artSetCharStaticFromCode := artSetStaticFromCode .char
def artSetCharInstanceFromCode := artSetInstanceFromCode .char

def artGet32StaticFromCode := artGetStaticFromCode .bits32
def artGet32InstanceFromCode := artGetInstanceFromCode .bits32
def artSet32StaticFromCode := artSetStaticFromCode .bits32
def artSet32InstanceFromCode := artSetInstanceFromCode .bits32

def artGet64StaticFromCode := artGetStaticFromCode .bits64
def artGet64InstanceFromCode := artGetInstanceFromCode .bits64
def artSet64StaticFromCode := artSetStaticFromCode .bits64
def artSet64InstanceFromCode := artSetInstanceFromCode .bits64

def artGetObjStaticFromCode := artGetStaticFromCode .obj
def artGetObjInstanceFromCode := artGetInstanceFromCode .obj
def artSetObjStaticFromCode := artSetStaticFromCode .obj
def artSetObjInstanceFromCode := artSetInstanceFromCode .obj

def artSet8StaticFromCode := artSetBooleanStaticFromCode
def artSet16StaticFromCode := artSetCharStaticFromCode
def artSet8InstanceFromCode := artSetBooleanInstanceFromCode
def artSet16InstanceFromCode := artSetCharInstanceFromCode

end Art.QuickField
