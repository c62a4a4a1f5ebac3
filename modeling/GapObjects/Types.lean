import GapObjects.Sizes
import GapObjects.CopyCorrect

/-!
# Types of objects: `TYPE_OBJ`, `SET_TYPE_OBJ` and the kind handlers

The type of a component, positional or data object is the object in its
word 0. `InitKernel` fills two dispatch tables for the three kinds:

* **`TypeObjFuncs`** — `TypeComObj`, `TypePosObj`, `TypeDatObj` read word 0;
  every other entry is `TypeObjError`;
* **`SetTypeObjFuncs`** — `SetTypeComObj`, `SetTypePosObj`, `SetTypeDatObj`
  write it; every other entry is `SetTypeObjError`.

`TYPE_OBJ` and `SET_TYPE_OBJ` dispatch through them on the type number
(`typeObj`, `setTypeObj`). The handlers `SET_TYPE_COMOBJ`, `SET_TYPE_POSOBJ`
and `SET_TYPE_DATOBJ` write the type and retag the bag, each for its own set
of type numbers, and `IS_COMOBJ`, `IS_POSOBJ`, `IS_DATOBJ` test the tag.
Set, then read (`setType_then_read`): each handler leaves a bag that
`TYPE_OBJ` reads the new type from and exactly one `IS_..._OBJ` handler
claims, whose mutability is the new type's, and no other bag changes;
`SET_TYPE_COMOBJ` passes over any other kind without a word.
-/

namespace GapObjects

open Heap

section

variable (K : Kernel)

/-! ## The two tables -/

/-- The body of `TypeComObj`, `TypePosObj` and `TypeDatObj`: the type in word 0. -/
def typeWordObj (obj : Nat) : Kern Nat := readWord obj 0

/-- `TypeComObj`: `TYPE_COMOBJ(obj)`. -/
def typeComObj : Nat → Kern Nat := typeWordObj

/-- `TypePosObj`: `TYPE_POSOBJ(obj)`. -/
def typePosObj : Nat → Kern Nat := typeWordObj

/-- `TypeDatObj`: `TYPE_DATOBJ(obj)`. -/
def typeDatObj : Nat → Kern Nat := typeWordObj

/-- The body of `SetTypeComObj`, `SetTypePosObj` and `SetTypeDatObj`: the
type into word 0 (`CHANGED_BAG` only informs the collector). -/
def setTypeWordObj (obj kind : Nat) : Kern Unit := writeWord obj 0 kind

/-- `SetTypeComObj`. -/
def setTypeComObj : Nat → Nat → Kern Unit := setTypeWordObj

/-- `SetTypePosObj`. -/
def setTypePosObj : Nat → Nat → Kern Unit := setTypeWordObj

/-- `SetTypeDatObj`. -/
def setTypeDatObj : Nat → Nat → Kern Unit := setTypeWordObj

/-- `TypeObjError`; the type's name `TNAM_OBJ(obj)` is given by its type
number. -/
def typeObjError (obj : Nat) : Kern Nat := do
  throw (.quit "Panic: basic object of type '%s' is unkind" (← tnumOf K obj))

/-- `SetTypeObjError`. -/
def setTypeObjError (obj _kind : Nat) : Kern Unit := do
  throw (.quit "Panic: cannot change kind of object of type '%s'" (← tnumOf K obj))

/-- `TypeObjFuncs` as `InitKernel` fills it. -/
def typeObjFuncs (t : Nat) : Nat → Kern Nat :=
  if t = K.tComObj then typeComObj
  else if t = K.tPosObj then typePosObj
  else if t = K.tDatObj then typeDatObj
  else typeObjError K

/-- `SetTypeObjFuncs` as `InitKernel` fills it. -/
def setTypeObjFuncs (t : Nat) : Nat → Nat → Kern Unit :=
  if t = K.tComObj then setTypeComObj
  else if t = K.tPosObj then setTypePosObj
  else if t = K.tDatObj then setTypeDatObj
  else setTypeObjError K

/-- `TYPE_OBJ(obj)`: `TypeObjFuncs[TNUM_OBJ(obj)](obj)`. -/
def typeObj (obj : Nat) : Kern Nat := do
  typeObjFuncs K (← tnumOf K obj) obj

/-- `SET_TYPE_OBJ(obj, kind)`: `SetTypeObjFuncs[TNUM_OBJ(obj)](obj, kind)`. -/
def setTypeObj (obj kind : Nat) : Kern Unit := do
  setTypeObjFuncs K (← tnumOf K obj) obj kind

/-- `TypeObjHandler(self, obj)`. -/
def typeObjHandler : Nat → Kern Nat := typeObj K

/-- `SetTypeObjHandler(self, obj, kind)`: returns 0. -/
def setTypeObjHandler (obj kind : Nat) : Kern Nat := do
  setTypeObj K obj kind
  pure 0

/-! ## The kind handlers -/

/-- `IS_COMOBJ_Handler`: `T_COMOBJ` or `T_ACOMOBJ`. -/
def isComObjHandler (obj : Nat) : Kern Bool := do
  let t ← tnumOf K obj
  pure (decide (t = K.tComObj ∨ t = K.tAcomObj))

/-- `IS_POSOBJ_Handler`: `T_POSOBJ` or `T_APOSOBJ`. -/
def isPosObjHandler (obj : Nat) : Kern Bool := do
  let t ← tnumOf K obj
  pure (decide (t = K.tPosObj ∨ t = K.tAposObj))

/-- `IS_DATOBJ_Handler`. -/
def isDatObjHandler (obj : Nat) : Kern Bool := do
  pure (decide ((← tnumOf K obj) = K.tDatObj))

/-- `SET_TYPE_COMOBJ_Handler(self, obj, kind)`. A record or component object
gets `TYPE_COMOBJ(obj) = kind` and becomes `T_COMOBJ`; an atomic one takes
the type through `SET_TYPE_OBJ` (`setTypeObj'`, whose entries for atomic
objects are outside this file) and becomes `T_ACOMOBJ`; any other object is
returned untouched. -/
def setTypeComObjHandler (setTypeObj' : Nat → Nat → Kern Unit) (obj kind : Nat) : Kern Nat := do
  let t ← tnumOf K obj
  if t = K.tPrec ∨ t = K.tComObj then
    writeWord obj 0 kind
    retypeBag obj K.tComObj
  else if t = K.tArec ∨ t = K.tAcomObj then
    setTypeObj' obj kind
    retypeBag obj K.tAcomObj
  pure obj

/-- `IsIdenticalHandler(self, obj1, obj2)`: the two words are equal. -/
def isIdenticalHandler (obj1 obj2 : Nat) : Bool := obj1 == obj2

/-- The heap after a bag took type word `kind` and type number `t`. -/
def typedHeap (h : Heap) (o t kind : Nat) : Heap := h.modify o fun b => (b.setWord 0 kind).retype t

variable {K}

/-! ## One lemma per function -/

theorem typedHeap_get? {h : Heap} {o : Nat} {b : Bag} (hb : h.get? o = some b) (t kind x : Nat) :
    (typedHeap h o t kind).get? x = if x = o then some ((b.setWord 0 kind).retype t) else h.get? x := by
  rw [typedHeap, get?_modify]
  split_ifs
  · rw [hb]; rfl
  · rfl

theorem typeObjFuncs_structural {t : Nat} (ht : K.isStructural t) : typeObjFuncs K t = typeWordObj := by
  unfold typeObjFuncs
  rcases ht with rfl | rfl | rfl
  · rw [if_pos rfl]; rfl
  · rw [if_neg K.com_ne_pos.symm, if_pos rfl]; rfl
  · rw [if_neg K.com_ne_dat.symm, if_neg K.pos_ne_dat.symm, if_pos rfl]; rfl

theorem setTypeObjFuncs_structural {t : Nat} (ht : K.isStructural t) :
    setTypeObjFuncs K t = setTypeWordObj := by
  unfold setTypeObjFuncs
  rcases ht with rfl | rfl | rfl
  · rw [if_pos rfl]; rfl
  · rw [if_neg K.com_ne_pos.symm, if_pos rfl]; rfl
  · rw [if_neg K.com_ne_dat.symm, if_neg K.pos_ne_dat.symm, if_pos rfl]; rfl

/-- `TYPE_OBJ` of a structural object: its word 0. Of any other bag: the
error entry, and the heap is as it was. -/
theorem typeObj_apply {h : Heap} {o : Nat} {b : Bag} (hb : h.get? o = some b) :
    typeObj K o h = if K.isStructural b.tnum then .ok (b.words 0) h
      else .error (.quit "Panic: basic object of type '%s' is unkind" b.tnum) h := by
  rw [typeObj, tnumOf_bind K _ (tnumObj_of_get? K hb)]
  split_ifs with hs
  · rw [typeObjFuncs_structural hs, typeWordObj, readWord_apply, word_of_get? hb]
  · unfold Tnums.isStructural at hs
    rw [typeObjFuncs, if_neg (by omega), if_neg (by omega), if_neg (by omega), typeObjError,
      tnumOf_bind K _ (tnumObj_of_get? K hb)]
    rfl

/-- `SET_TYPE_OBJ` of a structural object writes word 0; of any other bag it
stops with the error entry and changes nothing. -/
theorem setTypeObj_apply {h : Heap} {o : Nat} {b : Bag} (hb : h.get? o = some b) (kind : Nat) :
    setTypeObj K o kind h = if K.isStructural b.tnum then .ok () (h.modify o (·.setWord 0 kind))
      else .error (.quit "Panic: cannot change kind of object of type '%s'" b.tnum) h := by
  rw [setTypeObj, tnumOf_bind K _ (tnumObj_of_get? K hb)]
  split_ifs with hs
  · rw [setTypeObjFuncs_structural hs]; rfl
  · unfold Tnums.isStructural at hs
    rw [setTypeObjFuncs, if_neg (by omega), if_neg (by omega), if_neg (by omega), setTypeObjError,
      tnumOf_bind K _ (tnumObj_of_get? K hb)]
    rfl

theorem isComObjHandler_apply {h : Heap} {o : Nat} {b : Bag} (hb : h.get? o = some b) :
    isComObjHandler K o h = .ok (decide (b.tnum = K.tComObj ∨ b.tnum = K.tAcomObj)) h := by
  rw [isComObjHandler, tnumOf_bind K _ (tnumObj_of_get? K hb)]; rfl

theorem isPosObjHandler_apply {h : Heap} {o : Nat} {b : Bag} (hb : h.get? o = some b) :
    isPosObjHandler K o h = .ok (decide (b.tnum = K.tPosObj ∨ b.tnum = K.tAposObj)) h := by
  rw [isPosObjHandler, tnumOf_bind K _ (tnumObj_of_get? K hb)]; rfl

theorem isDatObjHandler_apply {h : Heap} {o : Nat} {b : Bag} (hb : h.get? o = some b) :
    isDatObjHandler K o h = .ok (decide (b.tnum = K.tDatObj)) h := by
  rw [isDatObjHandler, tnumOf_bind K _ (tnumObj_of_get? K hb)]; rfl

/-- `SET_TYPE_COMOBJ` on a record or a component object. -/
theorem setTypeComObjHandler_com (setTypeObj' : Nat → Nat → Kern Unit) {h : Heap} {o : Nat} {b : Bag}
    (hb : h.get? o = some b) (hc : b.tnum = K.tPrec ∨ b.tnum = K.tComObj) (kind : Nat) :
    setTypeComObjHandler K setTypeObj' o kind h = .ok o (typedHeap h o K.tComObj kind) := by
  rw [setTypeComObjHandler, tnumOf_bind K _ (tnumObj_of_get? K hb), if_pos hc]
  simp only [writeWord_bind, retypeBag_bind, Kern.pure_apply, modify_modify]
  rfl

/-- `SET_TYPE_COMOBJ` passes over any other bag that is not an atomic record. -/
theorem setTypeComObjHandler_other (setTypeObj' : Nat → Nat → Kern Unit) {h : Heap} {o : Nat} {b : Bag}
    (hb : h.get? o = some b)
    (hc : ¬ (b.tnum = K.tPrec ∨ b.tnum = K.tComObj ∨ b.tnum = K.tArec ∨ b.tnum = K.tAcomObj)) (kind : Nat) :
    setTypeComObjHandler K setTypeObj' o kind h = .ok o h := by
  rw [setTypeComObjHandler, tnumOf_bind K _ (tnumObj_of_get? K hb), if_neg (by tauto), if_neg (by tauto)]
  rfl

/-- What a typed bag reports: `TYPE_OBJ` reads the type word back, each
`IS_..._OBJ` handler tests the new tag, the mutability is the type word's,
and every other bag is as it was. -/
theorem typedHeap_reads {h : Heap} {o : Nat} {b : Bag} (hb : h.get? o = some b) {t : Nat}
    (ht : K.isStructural t) (kind : Nat) :
    typeObj K o (typedHeap h o t kind) = .ok kind (typedHeap h o t kind) ∧
      isComObjHandler K o (typedHeap h o t kind) =
        .ok (decide (t = K.tComObj ∨ t = K.tAcomObj)) (typedHeap h o t kind) ∧
      isPosObjHandler K o (typedHeap h o t kind) =
        .ok (decide (t = K.tPosObj ∨ t = K.tAposObj)) (typedHeap h o t kind) ∧
      isDatObjHandler K o (typedHeap h o t kind) = .ok (decide (t = K.tDatObj)) (typedHeap h o t kind) ∧
      (IsMutable K (typedHeap h o t kind) o ↔ K.mutableType kind = true) ∧
      ∀ x, x ≠ o → (typedHeap h o t kind).get? x = h.get? x := by
  have hb' := typedHeap_get? hb t kind o
  rw [if_pos rfl] at hb'
  refine ⟨?_, isComObjHandler_apply hb', isPosObjHandler_apply hb', isDatObjHandler_apply hb',
    ?_, fun x hx => by rw [typedHeap_get? hb, if_neg hx]⟩
  · rw [typeObj_apply hb', Bag.retype_tnum, if_pos ht]; simp
  · constructor
    · rintro ⟨b', hb'', -, hm⟩
      rw [hb'] at hb''; cases hb''
      simpa using hm
    · exact fun hm => ⟨_, hb', ht, by simpa using hm⟩

/-- **Set, then read.** On any bag `o` and for any type `kind`,
`SET_TYPE_POSOBJ` (on a bag that is not atomic), `SET_TYPE_DATOBJ`, and
`SET_TYPE_COMOBJ` (on a record or a component object) return `o` in a heap
where `o` carries the handler's type number: there `TYPE_OBJ(o)` is `kind`,
the `IS_..._OBJ` handlers test the new tag, `o` is mutable exactly when
`kind` is, and every other bag is as it was. `SET_TYPE_COMOBJ` on any other
bag that is not an atomic record returns it and changes nothing. Neither
handler looks at the size: on a bag of size 0 the type word lands past the
bag, as the size counts of the `Sizes` module show. -/
theorem setType_then_read (setTypeObj' : Nat → Nat → Kern Unit) {h : Heap} {o : Nat} {b : Bag}
    (hb : h.get? o = some b) (kind : Nat) :
    (¬ isAtomicPos K b.tnum →
      setTypePosObjHandler K setTypeObj' o kind h = .ok o (typedHeap h o K.tPosObj kind)) ∧
    setTypeDatObjHandler K o kind h = .ok o (typedHeap h o K.tDatObj kind) ∧
    (b.tnum = K.tPrec ∨ b.tnum = K.tComObj →
      setTypeComObjHandler K setTypeObj' o kind h = .ok o (typedHeap h o K.tComObj kind)) ∧
    (¬ (b.tnum = K.tPrec ∨ b.tnum = K.tComObj ∨ b.tnum = K.tArec ∨ b.tnum = K.tAcomObj) →
      setTypeComObjHandler K setTypeObj' o kind h = .ok o h) ∧
    ∀ t, K.isStructural t →
      typeObj K o (typedHeap h o t kind) = .ok kind (typedHeap h o t kind) ∧
      isComObjHandler K o (typedHeap h o t kind) =
        .ok (decide (t = K.tComObj ∨ t = K.tAcomObj)) (typedHeap h o t kind) ∧
      isPosObjHandler K o (typedHeap h o t kind) =
        .ok (decide (t = K.tPosObj ∨ t = K.tAposObj)) (typedHeap h o t kind) ∧
      isDatObjHandler K o (typedHeap h o t kind) = .ok (decide (t = K.tDatObj)) (typedHeap h o t kind) ∧
      (IsMutable K (typedHeap h o t kind) o ↔ K.mutableType kind = true) ∧
      ∀ x, x ≠ o → (typedHeap h o t kind).get? x = h.get? x :=
  ⟨fun ha => setTypePosObjHandler_apply setTypeObj' hb ha kind, setTypeDatObjHandler_apply h o kind,
    fun hc => setTypeComObjHandler_com setTypeObj' hb hc kind,
    fun hc => setTypeComObjHandler_other setTypeObj' hb hc kind, fun _ ht => typedHeap_reads hb ht kind⟩

end

end GapObjects
