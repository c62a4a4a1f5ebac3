import Mathlib.Data.List.Basic
import Mathlib.Logic.Function.Basic
import Mathlib.Algebra.Group.Nat.Basic
import Mathlib.Data.Finset.Card
import Mathlib.Data.Nat.Find

/-!
# The heap as the objects package sees it

`objects.c` touches the garbage collector only through a handful of
primitives: read and write a word of a bag (`ADDR_OBJ(obj)[i]`), read its type
number and size (`TNUM_OBJ`, `SIZE_OBJ`), allocate a zero-filled bag
(`NewBag`), and retype or resize one (`RetypeBag`, `ResizeBag`). This module
fixes that interface:

* **words** — every word is a `Nat`. An object value `Obj` is a word too: a
  small integer has its low bit set, a finite field element its second bit,
  and a bag handle is a non-zero multiple of 4 (`isIntObj`, `isFfe`,
  `isBagRef`);
* **bags** — type number, byte size (an unsigned word, `Bag.size_lt`), the
  contents as a function from word index to word, and the region (`DS_BAG`);
* **heap** — the list of bags; bag `k` has handle `4 * (k + 1)`, so a heap is
  finite and `NewBag` appends (`Heap.alloc`);
* **kernel layout** — the type numbers of `objects.h` and the library
  filters on type words, which `objects.c` uses but does not define
  (`Kernel`).

Errors are `ErrorQuit`s: they unwind with `longjmp`, so a computation `Kern`
keeps the heap as it was when the error was raised.
-/

namespace GapObjects

/-! ## Machine words -/

/-- `sizeof(Obj)`, which is also `sizeof(Int)` and `sizeof(UInt)`: HPC-GAP
is a 64-bit kernel. -/
def wordSize : Nat := 8

/-- Unsigned subtraction of C's `UInt`: wraps modulo `2 ^ 64`. -/
def uSub (a b : Nat) : Nat := (a + (2 ^ 64 - b % 2 ^ 64)) % 2 ^ 64

/-- Unsigned addition of C's `UInt`. -/
def uAdd (a b : Nat) : Nat := (a + b) % 2 ^ 64

theorem uSub_of_le {a b : Nat} (hb : b ≤ a) (ha : a < 2 ^ 64) : uSub a b = a - b := by
  unfold uSub
  rw [Nat.mod_eq_of_lt (by omega : b < 2 ^ 64)]
  omega

/-- The number of words a bag of `size` bytes occupies. -/
def wordsOf (size : Nat) : Nat := (size + wordSize - 1) / wordSize

/-! ## Object values -/

/-- `IS_INTOBJ(o)`: the low bit tags a small integer. -/
def isIntObj (o : Nat) : Bool := o % 2 == 1

/-- `IS_FFE(o)`: the second bit tags a finite field element. -/
def isFfe (o : Nat) : Bool := o / 2 % 2 == 1

/-- `IS_BAG_REF(o)`: a non-zero word with both tag bits clear is a handle. -/
def isBagRef (o : Nat) : Bool := o != 0 && o % 4 == 0

/-- An immediate object: a small integer or a finite field element. -/
def isImmediate (o : Nat) : Bool := isIntObj o || isFfe o

/-- The handle of the `k`-th bag of the heap. -/
def handle (k : Nat) : Nat := 4 * (k + 1)

theorem isBagRef_handle (k : Nat) : isBagRef (handle k) = true := by
  simp only [isBagRef, Bool.and_eq_true, bne_iff_ne, beq_iff_eq]; unfold handle; omega

@[simp] theorem handle_index (k : Nat) : handle k / 4 - 1 = k := by
  unfold handle; omega

theorem handle_injective {j k : Nat} (h : handle j = handle k) : j = k := by
  unfold handle at h; omega

theorem isImmediate_of_isBagRef {o : Nat} (h : isBagRef o = true) : isImmediate o = false := by
  simp [isBagRef, isImmediate, isIntObj, isFfe] at *; omega

/-! ## The kernel layout -/

/-- The type numbers of `objects.h` that `objects.c` uses, with the order
facts its dispatch tables rely on. `FIRST_CONSTANT_TNUM` is `0`. -/
structure Tnums where
  tInt : Nat
  tFfe : Nat
  lastConstantTnum : Nat
  tPrec : Nat
  tArec : Nat
  lastRecordTnum : Nat
  tPlist : Nat
  tAlist : Nat
  tFixAlist : Nat
  lastListTnum : Nat
  tComObj : Nat
  tPosObj : Nat
  tDatObj : Nat
  tAcomObj : Nat
  tAposObj : Nat
  lastExternalTnum : Nat
  int_le : tInt ≤ lastConstantTnum
  ffe_le : tFfe ≤ lastConstantTnum
  constant_lt_record : lastConstantTnum < lastRecordTnum
  plist_mem : lastRecordTnum < tPlist ∧ tPlist ≤ lastListTnum
  com_mem : lastListTnum < tComObj ∧ tComObj ≤ lastExternalTnum
  pos_mem : lastListTnum < tPosObj ∧ tPosObj ≤ lastExternalTnum
  dat_mem : lastListTnum < tDatObj ∧ tDatObj ≤ lastExternalTnum
  com_ne_pos : tComObj ≠ tPosObj
  com_ne_dat : tComObj ≠ tDatObj
  pos_ne_dat : tPosObj ≠ tDatObj

namespace Tnums

variable (L : Tnums)

def firstRecordTnum : Nat := L.lastConstantTnum + 1
def firstExternalTnum : Nat := L.lastListTnum + 1
def lastRealTnum : Nat := L.lastExternalTnum

/-- `COPYING`, the offset a bag's type number carries while it is being
copied: `FIRST_COPYING_TNUM - FIRST_RECORD_TNUM`. -/
def copying : Nat := L.lastRealTnum + 1 - L.firstRecordTnum

/-- `T_COMOBJ`, `T_POSOBJ` or `T_DATOBJ`: the three structural kinds. -/
def isStructural (t : Nat) : Prop := t = L.tComObj ∨ t = L.tPosObj ∨ t = L.tDatObj

instance (t : Nat) : Decidable (L.isStructural t) := by unfold isStructural; infer_instance

/-- A structural kind shifted by `COPYING`: a bag in the middle of a copy. -/
def isCopying (t : Nat) : Prop := ∃ u, L.isStructural u ∧ t = u + L.copying

instance (t : Nat) : Decidable (L.isCopying t) :=
  decidable_of_iff (L.isStructural (t - L.copying) ∧ L.copying ≤ t)
    (by unfold isCopying; constructor
        · rintro ⟨hs, hle⟩; exact ⟨_, hs, by omega⟩
        · rintro ⟨u, hs, rfl⟩; simpa using hs)

theorem structural_le_real {t : Nat} (h : L.isStructural t) :
    L.lastListTnum < t ∧ t ≤ L.lastRealTnum := by
  have := L.com_mem; have := L.pos_mem; have := L.dat_mem
  unfold isStructural at h; unfold lastRealTnum; omega

/-- A type number in the middle of a copy lies beyond every real one. -/
theorem copying_gt_real {t : Nat} (h : L.isCopying t) : L.lastRealTnum < t := by
  obtain ⟨u, hu, rfl⟩ := h
  have := L.structural_le_real hu
  have := L.constant_lt_record
  have := L.plist_mem
  unfold copying firstRecordTnum; omega

theorem not_structural_of_copying {t : Nat} (h : L.isCopying t) : ¬ L.isStructural t :=
  fun hs => absurd (L.structural_le_real hs).2 (by have := L.copying_gt_real h; omega)

theorem structural_add_copying {t : Nat} (h : L.isStructural t) : L.isCopying (t + L.copying) :=
  ⟨t, h, rfl⟩

theorem not_copying_of_le_real {t : Nat} (h : t ≤ L.lastRealTnum) : ¬ L.isCopying t :=
  fun hc => absurd h (by have := L.copying_gt_real hc; omega)

/-- A marked type number is neither a constant nor one of the structural kinds. -/
theorem copying_not_low {t : Nat} (hc : L.isCopying t) :
    ¬ t ≤ L.lastConstantTnum ∧ ¬ L.isStructural t := by
  have := L.copying_gt_real hc; have := L.constant_lt_record; have := L.plist_mem
  have := L.com_mem; have := L.pos_mem; have := L.dat_mem
  unfold lastRealTnum at *; unfold isStructural; omega

end Tnums

/-- What `objects.c` takes from the rest of the kernel and the library: the
type numbers, and the filters `IsMutableObjFilt` and `IsCopyableObjFilt`
as `DoFilter` evaluates them on the type word of an external object, with
the type word `RESET_FILTER_OBJ(obj, IsMutableObjFilt)` installs. -/
structure Kernel extends Tnums where
  mutableType : Nat → Bool
  copyableType : Nat → Bool
  resetMutable : Nat → Nat

/-- A small layout in the order the ranges above assume. Type word 100 is a
mutable, copyable type and 101 its immutable counterpart; 102 is mutable but
not copyable. It is used to run the model on concrete heaps. -/
def sampleKernel : Kernel where
  tInt := 0
  tFfe := 5
  lastConstantTnum := 20
  tPrec := 21
  tArec := 22
  lastRecordTnum := 23
  tPlist := 24
  tAlist := 25
  tFixAlist := 26
  lastListTnum := 40
  tComObj := 41
  tPosObj := 42
  tDatObj := 43
  tAcomObj := 44
  tAposObj := 45
  lastExternalTnum := 50
  int_le := by decide
  ffe_le := by decide
  constant_lt_record := by decide
  plist_mem := by decide
  com_mem := by decide
  pos_mem := by decide
  dat_mem := by decide
  com_ne_pos := by decide
  com_ne_dat := by decide
  pos_ne_dat := by decide
  mutableType := fun t => t == 100 || t == 102
  copyableType := fun t => t == 100 || t == 101
  resetMutable := fun t => if t == 100 then 101 else t

/-! ## Bags and the heap -/

/-- A region (`Region *`): only its owning thread matters here. -/
structure Region where
  owner : Option Nat
  deriving DecidableEq, Repr

/-- A bag: type number, size in bytes (an unsigned word), its words, and the
region it lives in (`none` is the public region). -/
structure Bag where
  tnum : Nat
  size : Nat
  size_lt : size < 2 ^ 64
  words : Nat → Nat
  region : Option Region

namespace Bag

/-- `ADDR_OBJ(bag)[i] = v`. -/
def setWord (b : Bag) (i v : Nat) : Bag := { b with words := Function.update b.words i v }

@[simp] theorem setWord_tnum (b : Bag) (i v : Nat) : (b.setWord i v).tnum = b.tnum := rfl
@[simp] theorem setWord_size (b : Bag) (i v : Nat) : (b.setWord i v).size = b.size := rfl
@[simp] theorem setWord_region (b : Bag) (i v : Nat) : (b.setWord i v).region = b.region := rfl
@[simp] theorem setWord_words (b : Bag) (i v j : Nat) :
    (b.setWord i v).words j = if j = i then v else b.words j := by
  simp [setWord, Function.update_apply]

/-- `RetypeBag(bag, t)`. -/
def retype (b : Bag) (t : Nat) : Bag := { b with tnum := t }

@[simp] theorem retype_tnum (b : Bag) (t : Nat) : (b.retype t).tnum = t := rfl
@[simp] theorem retype_size (b : Bag) (t : Nat) : (b.retype t).size = b.size := rfl
@[simp] theorem retype_words (b : Bag) (t : Nat) : (b.retype t).words = b.words := rfl
@[simp] theorem retype_region (b : Bag) (t : Nat) : (b.retype t).region = b.region := rfl

/-- `ResizeBag(bag, size)`: the words both sizes cover are kept, the rest
read as zero. -/
def resize (b : Bag) (size : Nat) : Bag :=
  { b with size := size % 2 ^ 64, size_lt := Nat.mod_lt _ (Nat.two_pow_pos 64),
           words := fun i => if i < wordsOf (min b.size (size % 2 ^ 64)) then b.words i else 0 }

/-- Nothing is stored past the end of the bag: the words from `wordsOf size`
on, which stand for the memory that follows it, read as zero. -/
def Within (b : Bag) : Prop := ∀ i, wordsOf b.size ≤ i → b.words i = 0

theorem ext' {a b : Bag} (ht : a.tnum = b.tnum) (hs : a.size = b.size)
    (hw : a.words = b.words) (hr : a.region = b.region) : a = b := by
  cases a; cases b; simp_all

end Bag

/-- The heap: bag `k` has handle `handle k`. New bags go to `curRegion`, the
current thread's region. -/
structure Heap where
  bags : List Bag
  curRegion : Option Region

namespace Heap

/-- The bag a word refers to, if it is the handle of an allocated bag. -/
def get? (h : Heap) (o : Nat) : Option Bag :=
  if isBagRef o then h.bags[o / 4 - 1]? else none

/-- `ADDR_OBJ(o)[i]`; an unallocated handle reads as zero. -/
def word (h : Heap) (o i : Nat) : Nat := ((h.get? o).map (·.words i)).getD 0

/-- `o` is the handle of an allocated bag. -/
def Allocated (h : Heap) (o : Nat) : Prop := (h.get? o).isSome

instance (h : Heap) (o : Nat) : Decidable (h.Allocated o) :=
  inferInstanceAs (Decidable (_ = true))

/-- Apply `f` to the bag `o` refers to; nothing happens for other words. -/
def modify (h : Heap) (o : Nat) (f : Bag → Bag) : Heap :=
  match h.get? o with
  | some b => { h with bags := h.bags.set (o / 4 - 1) (f b) }
  | none => h

/-- `NewBag`: append a bag, returning the heap and the new handle. -/
def alloc (h : Heap) (b : Bag) : Heap × Nat :=
  ({ h with bags := h.bags ++ [b] }, handle h.bags.length)

theorem get?_handle (h : Heap) (k : Nat) : h.get? (handle k) = h.bags[k]? := by
  unfold get?; rw [if_pos (isBagRef_handle k)]; simp [handle]

theorem exists_get?_handle {h : Heap} {k : Nat} (hk : k < h.bags.length) :
    ∃ b, h.get? (handle k) = some b :=
  ⟨h.bags[k], by rw [get?_handle]; exact List.getElem?_eq_getElem hk⟩

theorem get?_eq_some {h : Heap} {o : Nat} {b : Bag} (hb : h.get? o = some b) :
    ∃ k, o = handle k ∧ h.bags[k]? = some b := by
  unfold get? at hb
  split at hb
  · rename_i href
    simp [isBagRef] at href
    exact ⟨o / 4 - 1, by unfold handle; omega, hb⟩
  · cases hb

/-- The only bag of a one-bag heap is bag `0`. -/
theorem get?_singleton {b0 : Bag} {c : Option Region} {o : Nat} {b : Bag}
    (hb : ({ bags := [b0], curRegion := c } : Heap).get? o = some b) : o = handle 0 ∧ b = b0 := by
  obtain ⟨k, rfl, hk⟩ := get?_eq_some hb
  obtain rfl : k = 0 := by
    have := (List.getElem?_eq_some_iff.mp hk).1
    simp only [List.length_singleton] at this; omega
  cases hk; exact ⟨rfl, rfl⟩

theorem allocated_iff {h : Heap} {o : Nat} :
    h.Allocated o ↔ ∃ k, k < h.bags.length ∧ o = handle k := by
  unfold Allocated
  constructor
  · intro hs
    obtain ⟨b, hb⟩ := Option.isSome_iff_exists.mp hs
    obtain ⟨k, rfl, hk⟩ := get?_eq_some hb
    exact ⟨k, (List.getElem?_eq_some_iff.mp hk).1, rfl⟩
  · rintro ⟨k, hk, rfl⟩
    simp [get?_handle, hk]

theorem allocated_of_get? {h : Heap} {o : Nat} {b : Bag} (hb : h.get? o = some b) :
    h.Allocated o := by
  simp [Allocated, hb]

/-- An allocated handle is none of the handles allocation hands out next. -/
theorem Allocated.ne_handle {h : Heap} {o k : Nat} (ho : h.Allocated o)
    (hk : h.bags.length ≤ k) : o ≠ handle k := by
  obtain ⟨j, hj, rfl⟩ := allocated_iff.mp ho
  intro he; have := handle_injective he; omega

@[simp] theorem modify_curRegion (h : Heap) (o : Nat) (f : Bag → Bag) :
    (h.modify o f).curRegion = h.curRegion := by
  unfold modify; split <;> rfl

@[simp] theorem modify_length (h : Heap) (o : Nat) (f : Bag → Bag) :
    (h.modify o f).bags.length = h.bags.length := by
  unfold modify; split <;> simp

theorem get?_modify (h : Heap) (o o' : Nat) (f : Bag → Bag) :
    (h.modify o f).get? o' = if o' = o then (h.get? o).map f else h.get? o' := by
  unfold modify
  split
  · rename_i b hb
    obtain ⟨k, rfl, hk⟩ := get?_eq_some hb
    have hlt := (List.getElem?_eq_some_iff.mp hk).1
    by_cases ho : o' = handle k
    · subst ho
      rw [get?_handle, get?_handle, hk]
      simp [List.getElem?_set, hlt]
    · simp only [ho, if_false]
      unfold get?
      split
      · rename_i href
        simp [isBagRef, handle] at href ho ⊢
        rw [List.getElem?_set_ne (by omega)]
      · rfl
  · rename_i hnone
    split
    · subst_vars; simp [hnone]
    · rfl

@[simp] theorem alloc_length (h : Heap) (b : Bag) :
    (h.alloc b).1.bags.length = h.bags.length + 1 := by simp [alloc]

@[simp] theorem alloc_curRegion (h : Heap) (b : Bag) :
    (h.alloc b).1.curRegion = h.curRegion := rfl

@[simp] theorem alloc_snd (h : Heap) (b : Bag) : (h.alloc b).2 = handle h.bags.length := rfl

theorem get?_alloc (h : Heap) (b : Bag) (o : Nat) :
    (h.alloc b).1.get? o = if o = handle h.bags.length then some b else h.get? o := by
  split
  · subst_vars; simp [alloc, get?_handle]
  · rename_i hne
    simp only [alloc]
    unfold get?
    split
    · rename_i href
      simp [isBagRef, handle] at href hne
      by_cases hk : o / 4 - 1 < h.bags.length
      · rw [List.getElem?_append_left hk]
      · rw [List.getElem?_append_right (by omega), List.getElem?_eq_none (by simp; omega),
          List.getElem?_eq_none (by omega)]
    · rfl

theorem alloc_handle_not_allocated (h : Heap) : ¬ h.Allocated (handle h.bags.length) := by
  rw [allocated_iff]; rintro ⟨k, hk, he⟩
  have := handle_injective he; omega

@[simp] theorem modify_alloc (h : Heap) (b : Bag) (f : Bag → Bag) :
    (h.alloc b).1.modify (handle h.bags.length) f = (h.alloc (f b)).1 := by
  have hget : (h.alloc b).1.get? (handle h.bags.length) = some b := by simp [get?_alloc]
  simp only [modify, hget]
  simp [alloc, List.set_append_right]

@[simp] theorem allocated_modify (h : Heap) (o : Nat) (f : Bag → Bag) (x : Nat) :
    (h.modify o f).Allocated x ↔ h.Allocated x := by
  unfold Allocated; rw [get?_modify]
  by_cases hx : x = o
  · rw [if_pos hx, hx]; cases h.get? o <;> simp
  · rw [if_neg hx]

theorem modify_congr {h : Heap} {o : Nat} {f g : Bag → Bag}
    (hfg : ∀ b, h.get? o = some b → f b = g b) : h.modify o f = h.modify o g := by
  unfold modify
  cases hb : h.get? o with
  | none => rfl
  | some b => simp [hfg b hb]

@[simp] theorem modify_modify (h : Heap) (o : Nat) (f g : Bag → Bag) :
    (h.modify o f).modify o g = h.modify o (g ∘ f) := by
  unfold modify
  cases hb : h.get? o with
  | none => simp [hb]
  | some b =>
    have hget : ({ h with bags := h.bags.set (o / 4 - 1) (f b) } : Heap).get? o = some (f b) := by
      have := get?_modify h o o f
      simp only [modify, hb, if_true, Option.map_some'] at this
      exact this
    simp [hget]

theorem modify_id (h : Heap) (o : Nat) : h.modify o id = h := by
  unfold modify
  cases hb : h.get? o with
  | none => rfl
  | some b =>
    obtain ⟨k, rfl, hk⟩ := get?_eq_some hb
    have hset : h.bags.set k b = h.bags := List.ext_getElem? fun j => by
      rw [List.getElem?_set']
      split_ifs with hj
      · subst hj; rw [hk]; rfl
      · rfl
    simp only [handle_index, id, hset]

theorem word_modify (h : Heap) (o o' i : Nat) (f : Bag → Bag) :
    (h.modify o f).word o' i =
      if o' = o then ((h.get? o).map (fun b => (f b).words i)).getD 0 else h.word o' i := by
  unfold word; rw [get?_modify]; split
  · subst_vars; cases h.get? o' <;> rfl
  · rfl

theorem word_alloc (h : Heap) (b : Bag) (o i : Nat) :
    (h.alloc b).1.word o i = if o = handle h.bags.length then b.words i else h.word o i := by
  unfold word; rw [get?_alloc]; split <;> simp

theorem ne_handle_length {h : Heap} {o : Nat} {b : Bag} (hb : h.get? o = some b) :
    o ≠ handle h.bags.length := by
  rintro rfl; simp [get?_handle] at hb

theorem word_def (h : Heap) (o i : Nat) :
    h.word o i = match h.get? o with | some b => b.words i | none => 0 := by
  unfold word; cases h.get? o <;> rfl

end Heap

/-! ## Kernel computations -/

/-- Why a computation of the package stopped. -/
inductive Err
  /-- `ErrorQuit(msg, arg, 0)`: reported, then unwinds to the main loop. -/
  | quit (msg : String) (arg : Nat)
  /-- `ErrorReturnVoid(msg, 0, 0, hint)` followed by `return 0`: reported, and
  whether the user quits the break loop or types `return;`, the function does
  nothing more. -/
  | returnVoid (msg hint : String)
  /-- The word is neither an immediate nor a handle of an allocated bag:
  `TNUM_OBJ` on it is undefined behaviour in C. -/
  | badHandle (o : Nat)
  /-- The model's recursion budget ran out. -/
  | outOfFuel
  /-- `WriteGuard(o)`: the calling thread may not write the bag `o`. -/
  | noAccess (o : Nat)
  deriving DecidableEq, Repr

/-- A computation over the heap. The heap survives an error, as it survives
`longjmp` out of `ErrorQuit`. -/
abbrev Kern := EStateM Err Heap

/-- `x >>= f` in a state monad with errors, once `x` has returned. -/
theorem bind_of_ok {ε σ α β : Type} {x : EStateM ε σ α} {s s' : σ} {a : α} (hx : x s = .ok a s')
    (f : α → EStateM ε σ β) : (x >>= f) s = f a s' := by
  simp only [bind, EStateM.bind, hx]

end GapObjects
