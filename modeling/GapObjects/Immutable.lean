import GapObjects.CopySteps

/-!
# `MakeImmutable`

`MakeImmutable(obj)` asks `IS_MUTABLE_OBJ` and, for a mutable object,
dispatches through `MakeImmutableObjFuncs` on the type number. `InitKernel`
fills three entries:

* **component and positional objects** — `RESET_FILTER_OBJ(obj,
  IsMutableObjFilt)`, then the library's `PostMakeImmutable(obj)` (`post`: a
  GAP function, not part of this file);
* **data objects** — `RESET_FILTER_OBJ` only;
* **every other type** — `MakeImmutableError`.

The comment above `MakeImmutable` says it marks "an object and all
subobjects"; the loops over the subobjects are commented out in both bodies,
so the package itself rewrites the root's type word and nothing else
(`makeImmutable_structural`). What happens to the subobjects is left to
`PostMakeImmutable`.
-/

namespace GapObjects

open Heap

section

variable (K : Kernel)

/-- The body of `MakeImmutableComObj` and `MakeImmutablePosObj`: reset the
mutability filter, then call `PostMakeImmutable` on the object. -/
def makeImmutableWithPost (post : Nat → Kern Unit) (obj : Nat) : Kern Unit := do
  resetFilterObj K obj
  post obj

/-- `MakeImmutableComObj`. -/
def makeImmutableComObj (post : Nat → Kern Unit) : Nat → Kern Unit := makeImmutableWithPost K post

/-- `MakeImmutablePosObj`. -/
def makeImmutablePosObj (post : Nat → Kern Unit) : Nat → Kern Unit := makeImmutableWithPost K post

/-- `MakeImmutableDatObj`: the filter, and no `PostMakeImmutable`. -/
def makeImmutableDatObj : Nat → Kern Unit := resetFilterObj K

/-- `MakeImmutableError`. The type's name `TNAM_OBJ(obj)` is given by its
type number. -/
def makeImmutableError (obj : Nat) : Kern Unit := do
  throw (.quit "No make immutable function installed for a %s" (← tnumOf K obj))

/-- `MakeImmutableObjFuncs` as `InitKernel` fills it. -/
def makeImmutableObjFuncs (post : Nat → Kern Unit) (t : Nat) : Nat → Kern Unit :=
  if t = K.tComObj then makeImmutableComObj K post
  else if t = K.tPosObj then makeImmutablePosObj K post
  else if t = K.tDatObj then makeImmutableDatObj K
  else makeImmutableError K

/-- `MakeImmutable(obj)`. -/
def makeImmutable (post : Nat → Kern Unit) (obj : Nat) : Kern Unit := do
  if (← isMutableObj K obj) then
    makeImmutableObjFuncs K post (← tnumOf K obj) obj

/-- `FuncMakeImmutable(self, obj)`: `MakeImmutable`, then the object itself. -/
def funcMakeImmutable (post : Nat → Kern Unit) (obj : Nat) : Kern Nat := do
  makeImmutable K post obj
  pure obj

/-- `IsMutableObjHandler(self, obj)`: `IS_MUTABLE_OBJ` as `True` or `False`. -/
def isMutableObjHandler : Nat → Kern Bool := isMutableObj K

/-- `IsCopyableObjHandler(self, obj)`: `IS_COPYABLE_OBJ` as `True` or `False`. -/
def isCopyableObjHandler : Nat → Kern Bool := isCopyableObj K

/-- The heap `RESET_FILTER_OBJ(o, IsMutableObjFilt)` leaves: the type word of
`o` replaced, nothing else. -/
def resetHeap (h : Heap) (o : Nat) : Heap := h.modify o (·.setWord 0 (K.resetMutable (h.word o 0)))

theorem resetFilterObj_apply (h : Heap) (o : Nat) : resetFilterObj K o h = .ok () (resetHeap K h o) :=
  rfl

variable {K}

theorem resetHeap_get? {h : Heap} {o : Nat} {b : Bag} (hb : h.get? o = some b) (x : Nat) :
    (resetHeap K h o).get? x = if x = o then some (b.setWord 0 (K.resetMutable (b.words 0)))
      else h.get? x := by
  rw [resetHeap, get?_modify, word_of_get? hb]
  split_ifs
  · rw [hb]; rfl
  · rfl

/-- The table entries of the three structural kinds. -/
theorem makeImmutableObjFuncs_structural (post : Nat → Kern Unit) {t : Nat} (ht : K.isStructural t) :
    makeImmutableObjFuncs K post t =
      if t = K.tDatObj then makeImmutableDatObj K else makeImmutableWithPost K post := by
  unfold makeImmutableObjFuncs
  rcases ht with rfl | rfl | rfl
  · simp only [if_true, if_neg K.com_ne_dat]; rfl
  · simp only [if_neg K.com_ne_pos.symm, if_true, if_neg K.pos_ne_dat]; rfl
  · simp only [if_neg K.com_ne_dat.symm, if_neg K.pos_ne_dat.symm, if_true]

/-- **`MakeImmutable` on a structural object.** An immutable one is left
alone. A mutable one gets the reset type word, and no other bag is touched
before `PostMakeImmutable` runs on the result (for a data object, that is the
result). -/
theorem makeImmutable_structural (post : Nat → Kern Unit) {h : Heap} {o : Nat} {b : Bag}
    (hb : h.get? o = some b) (hs : K.isStructural b.tnum) :
    makeImmutable K post o h =
      if K.mutableType (b.words 0) = true then
        (if b.tnum = K.tDatObj then .ok () (resetHeap K h o) else post o (resetHeap K h o))
      else .ok () h := by
  rw [makeImmutable, isMutableObj_bind K hb hs]
  split_ifs with hm hd
  · rw [tnumOf_bind K _ (tnumObj_of_get? K hb), makeImmutableObjFuncs_structural post hs, if_pos hd]
    exact resetFilterObj_apply K h o
  · rw [tnumOf_bind K _ (tnumObj_of_get? K hb), makeImmutableObjFuncs_structural post hs, if_neg hd,
      makeImmutableWithPost, bind_of_ok (resetFilterObj_apply K h o)]
  · rfl

/-- On a constant, an immediate included, `MakeImmutable` does nothing. -/
theorem makeImmutable_const (post : Nat → Kern Unit) {h : Heap} {o t : Nat} (ht : tnumObj K h o = some t)
    (hc : t ≤ K.lastConstantTnum) : makeImmutable K post o h = .ok () h := by
  simp only [makeImmutable, isMutableObj, Kern.bind_apply, tnumOf, ht, if_pos hc]
  rfl

/-- A mutable external object of any other type stops with `MakeImmutableError`,
and the heap is as it was. -/
theorem makeImmutable_other (post : Nat → Kern Unit) {h : Heap} {o : Nat} {b : Bag}
    (hb : h.get? o = some b) (hx : K.firstExternalTnum ≤ b.tnum ∧ b.tnum ≤ K.lastExternalTnum)
    (hs : ¬ K.isStructural b.tnum) (hm : K.mutableType (b.words 0) = true) :
    makeImmutable K post o h = .error (.quit "No make immutable function installed for a %s" b.tnum) h := by
  have hc : ¬ b.tnum ≤ K.lastConstantTnum := by
    have := K.constant_lt_record; have := K.plist_mem
    unfold Tnums.firstExternalTnum at hx; omega
  have hmut : isMutableObj K o h = .ok true h := by
    simp only [isMutableObj, Kern.bind_apply, tnumOf, tnumObj_of_get? K hb, if_neg hc, if_pos hx,
      readWord_apply, word_of_get? hb, hm]
    rfl
  unfold Tnums.isStructural at hs
  rw [makeImmutable, bind_of_ok hmut, if_pos rfl, tnumOf_bind K _ (tnumObj_of_get? K hb), makeImmutableObjFuncs,
    if_neg (show b.tnum ≠ K.tComObj by omega), if_neg (show b.tnum ≠ K.tPosObj by omega),
    if_neg (show b.tnum ≠ K.tDatObj by omega), makeImmutableError, tnumOf_bind K _ (tnumObj_of_get? K hb)]
  rfl

end

end GapObjects
