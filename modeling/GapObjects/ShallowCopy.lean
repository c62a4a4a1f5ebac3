import GapObjects.Clone

/-!
# `SHALLOW_COPY_OBJ`

`SHALLOW_COPY_OBJ(obj)` dispatches through `ShallowCopyObjFuncs` on the type
number. `InitKernel` fills it by ranges:

* **constants** — `ShallowCopyObjConstant` returns the object itself;
* **records and lists** — `ShallowCopyObjDefault` makes a new bag of type
  `MUTABLE_TNUM(TNUM_OBJ(obj))` and the same size, and copies the first
  `(SIZE_OBJ(obj) + sizeof(Obj) - 1) / sizeof(Obj)` words, computed in `UInt`;
* **external objects** — `ShallowCopyObjObject` calls the library's
  `ShallowCopy` method (`method`, a GAP function not part of this file);
* **every other type number** — `ShallowCopyObjError`.

The default copy is shallow: the new bag holds the same words, so a list's
copy holds the same element objects, and no existing bag changes
(`shallowCopyObj_record_list`). The word count is computed before the
division, so a size within `sizeof(Obj) - 1` of `2 ^ 64` wraps it to zero and
nothing is copied.
-/

namespace GapObjects

open Heap SaveLoad

/-- `FIRST_LIST_TNUM`: the lists follow the records. -/
def Tnums.firstListTnum (L : Tnums) : Nat := L.lastRecordTnum + 1

section

variable (K : Kernel)

/-- `ShallowCopyObjConstant`. -/
def shallowCopyObjConstant (obj : Nat) : Kern Nat := pure obj

/-- `ShallowCopyObjObject`: `DoOperation1Args(ShallowCopyObjOper, obj)`, the
method the library installs for the object. -/
def shallowCopyObjObject (method : Nat → Kern Nat) (obj : Nat) : Kern Nat := method obj

/-- `ShallowCopyObjError`. -/
def shallowCopyObjError (obj : Nat) : Kern Nat := do
  throw (.quit "Panic: tried to shallow copy object of unknown type '%d'" (← tnumOf K obj))

/-- `ShallowCopyObjDefault(obj)`. `MUTABLE_TNUM` is a macro of `objects.h`,
taken as the parameter `mutableTnum`. -/
def shallowCopyObjDefault (mutableTnum : Nat → Nat) (obj : Nat) : Kern Nat := do
  let len := uAdd (← sizeOf obj) (wordSize - 1) / wordSize
  let new ← newBag (mutableTnum (← tnumOf K obj)) (← sizeOf obj)
  copyDatWords obj new len 0
  pure new

/-- `ShallowCopyObjFuncs` as `InitKernel` fills it; type numbers past the
real ones index outside the C array and are given the error entry. -/
def shallowCopyObjFuncs (mutableTnum : Nat → Nat) (method : Nat → Kern Nat) (t : Nat) :
    Nat → Kern Nat :=
  if t ≤ K.lastConstantTnum then shallowCopyObjConstant
  else if K.firstRecordTnum ≤ t ∧ t ≤ K.lastRecordTnum then shallowCopyObjDefault K mutableTnum
  else if K.firstListTnum ≤ t ∧ t ≤ K.lastListTnum then shallowCopyObjDefault K mutableTnum
  else if K.firstExternalTnum ≤ t ∧ t ≤ K.lastExternalTnum then shallowCopyObjObject method
  else shallowCopyObjError K

/-- `SHALLOW_COPY_OBJ(obj)`, which `ShallowCopyObjHandler` returns. -/
def shallowCopyObj (mutableTnum : Nat → Nat) (method : Nat → Kern Nat) (obj : Nat) : Kern Nat := do
  shallowCopyObjFuncs K mutableTnum method (← tnumOf K obj) obj

/-- The bag `ShallowCopyObjDefault` makes of `b` in `region`. -/
def shallowBag (mutableTnum : Nat → Nat) (b : Bag) (region : Option Region) : Bag where
  tnum := mutableTnum b.tnum
  size := b.size
  size_lt := b.size_lt
  words i := if i < uAdd b.size (wordSize - 1) / wordSize then b.words i else 0
  region := region

variable {K}

/-! ## The default copy -/

theorem shallowCopyObjDefault_apply (mutableTnum : Nat → Nat) {h : Heap} {o : Nat} {b : Bag}
    (hb : h.get? o = some b) :
    shallowCopyObjDefault K mutableTnum o h =
      .ok (handle h.bags.length) (h.alloc (shallowBag mutableTnum b h.curRegion)).1 := by
  have e1 : sizeOf o h = .ok b.size h := by
    show EStateM.Result.ok (sizeObj h o) h = _; rw [sizeObj_of_get? hb]
  have hne := ne_handle_length hb
  -- the loop fills the fresh bag from the original's words
  have hfill : fillWords ((h.alloc (Bag.fresh (mutableTnum b.tnum) b.size h.curRegion)).1.word o) 0
      (uAdd b.size (wordSize - 1) / wordSize) (Bag.fresh (mutableTnum b.tnum) b.size h.curRegion) =
      shallowBag mutableTnum b h.curRegion := by
    refine Bag.ext' rfl (Nat.mod_eq_of_lt b.size_lt) (funext fun i => ?_) rfl
    simp only [fillWords, Bag.fresh, shallowBag, word_alloc, if_neg hne, word_of_get? hb, Nat.zero_le,
      true_and, Nat.zero_add]
  rw [shallowCopyObjDefault, bind_of_ok e1, tnumOf_bind K _ (tnumObj_of_get? K hb), bind_of_ok e1,
    newBag_bind, bind_of_ok (copyDatWords_apply o _ _ 0 _), modify_alloc, hfill]
  rfl

/-- The words of the copy: every word of the bag, or none once the count
wraps. -/
theorem shallowBag_words (mutableTnum : Nat → Nat) (b : Bag) (region : Option Region) (i : Nat) :
    (b.size + (wordSize - 1) < 2 ^ 64 →
      (shallowBag mutableTnum b region).words i = if i < wordsOf b.size then b.words i else 0) ∧
    (2 ^ 64 ≤ b.size + (wordSize - 1) → (shallowBag mutableTnum b region).words i = 0) := by
  have hlt := b.size_lt
  constructor
  · intro hw
    have hlen : uAdd b.size (wordSize - 1) / wordSize = wordsOf b.size := by
      unfold uAdd wordsOf wordSize at *; rw [Nat.mod_eq_of_lt hw]; omega
    simp only [shallowBag, hlen]
  · intro hw
    have hlen : uAdd b.size (wordSize - 1) / wordSize = 0 := by
      unfold uAdd wordSize at *; omega
    simp only [shallowBag, hlen, Nat.not_lt_zero, if_false]

/-! ## The dispatch -/

theorem shallowCopyObjFuncs_record_list (mutableTnum : Nat → Nat) (method : Nat → Kern Nat) {t : Nat}
    (ht : K.firstRecordTnum ≤ t ∧ t ≤ K.lastListTnum) :
    shallowCopyObjFuncs K mutableTnum method t = shallowCopyObjDefault K mutableTnum := by
  unfold shallowCopyObjFuncs Tnums.firstListTnum Tnums.firstRecordTnum at *
  rw [if_neg (by omega)]
  split_ifs <;> first | rfl | omega

/-- A constant is its own shallow copy, and nothing changes. -/
theorem shallowCopyObj_const (mutableTnum : Nat → Nat) (method : Nat → Kern Nat) {h : Heap}
    {o t : Nat} (ht : tnumObj K h o = some t) (hc : t ≤ K.lastConstantTnum) :
    shallowCopyObj K mutableTnum method o h = .ok o h := by
  rw [shallowCopyObj, tnumOf_bind K _ ht, shallowCopyObjFuncs, if_pos hc]; rfl

/-- An external object is copied by the library's method. -/
theorem shallowCopyObj_external (mutableTnum : Nat → Nat) (method : Nat → Kern Nat) {h : Heap}
    {o t : Nat} (ht : tnumObj K h o = some t) (hx : K.firstExternalTnum ≤ t ∧ t ≤ K.lastExternalTnum) :
    shallowCopyObj K mutableTnum method o h = method o h := by
  have := K.constant_lt_record; have := K.plist_mem
  unfold Tnums.firstExternalTnum at hx
  rw [shallowCopyObj, tnumOf_bind K _ ht, shallowCopyObjFuncs, if_neg (by omega), if_neg (by omega),
    if_neg (by unfold Tnums.firstListTnum; omega), if_pos (by unfold Tnums.firstExternalTnum; omega)]
  rfl

/-- **`SHALLOW_COPY_OBJ` of a record or a list.** The result is a fresh bag
in the current region, of type `MUTABLE_TNUM` of the original's and of the
same size, holding the original's words: the same subobjects, none of them
copied. Every existing bag keeps its contents. If the size is within
`sizeof(Obj) - 1` of `2 ^ 64`, the word count wraps and the new bag holds
only zeros. -/
theorem shallowCopyObj_record_list (mutableTnum : Nat → Nat) (method : Nat → Kern Nat) {h : Heap}
    {o : Nat} {b : Bag} (hb : h.get? o = some b) (hrl : K.firstRecordTnum ≤ b.tnum ∧ b.tnum ≤ K.lastListTnum) :
    ∃ c h', shallowCopyObj K mutableTnum method o h = .ok c h' ∧ ¬ h.Allocated c ∧
      (∀ x bx, h.get? x = some bx → h'.get? x = some bx) ∧
      ∃ bc, h'.get? c = some bc ∧ bc.tnum = mutableTnum b.tnum ∧ bc.size = b.size ∧
        bc.region = h.curRegion ∧
        (b.size + (wordSize - 1) < 2 ^ 64 → ∀ i, bc.words i = if i < wordsOf b.size then b.words i else 0) ∧
        (2 ^ 64 ≤ b.size + (wordSize - 1) → ∀ i, bc.words i = 0) := by
  refine ⟨_, _, ?_, alloc_handle_not_allocated h, fun x bx hx => ?_,
    shallowBag mutableTnum b h.curRegion, by rw [get?_alloc, if_pos rfl], rfl, rfl, rfl,
    fun hw i => (shallowBag_words mutableTnum b _ i).1 hw, fun hw i => (shallowBag_words mutableTnum b _ i).2 hw⟩
  · rw [shallowCopyObj, tnumOf_bind K _ (tnumObj_of_get? K hb), shallowCopyObjFuncs_record_list _ _ hrl,
      shallowCopyObjDefault_apply mutableTnum hb]
  · rw [get?_alloc, if_neg (ne_handle_length hx), hx]

end

/-- A plain list of length one holding the small integer 2. -/
def listHeap : Heap where
  bags := [{ tnum := 24, size := 2 * wordSize, size_lt := by decide, region := none,
             words := fun i => if i = 0 then 1 else if i = 1 then 9 else 0 }]
  curRegion := none

/-- The shallow copy of `listHeap`'s list. -/
theorem listHeap_shallow_copy :
    ∃ b, listHeap.get? (handle 0) = some b ∧
      (sampleKernel.firstRecordTnum ≤ b.tnum ∧ b.tnum ≤ sampleKernel.lastListTnum) ∧
      ∃ c h', shallowCopyObj sampleKernel id pure (handle 0) listHeap = .ok c h' ∧ ¬ listHeap.Allocated c ∧
        (∀ x bx, listHeap.get? x = some bx → h'.get? x = some bx) ∧
        ∃ bc, h'.get? c = some bc ∧ bc.tnum = id b.tnum ∧ bc.size = b.size ∧
          bc.region = listHeap.curRegion ∧
          (b.size + (wordSize - 1) < 2 ^ 64 → ∀ i, bc.words i = if i < wordsOf b.size then b.words i else 0) ∧
          (2 ^ 64 ≤ b.size + (wordSize - 1) → ∀ i, bc.words i = 0) :=
  ⟨_, rfl, by decide,
    shallowCopyObj_record_list (K := sampleKernel) (h := listHeap) (o := handle 0) id pure rfl (by decide)⟩

end GapObjects
