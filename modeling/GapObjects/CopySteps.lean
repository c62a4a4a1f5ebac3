import GapObjects.Copy

/-!
# One step of the copy engine

Spec lemmas for the heap primitives and for the straight-line blocks of the
structural copy bodies, so that later proofs never unfold them:

* the bind lemmas of the primitives (`readWord_bind`, `newBag_bind`, ...);
* `makeCopy_spec` and `leaveForwardingPointer_spec`: the heap after the
  "make a copy" and "leave a forwarding pointer" blocks;
* `Marks`: what marking does to an original bag, and `Frame`, the relation
  between the heap before and after any part of a copy run whose writes to
  old bags are markings of originals. `Frame` is a preorder (`Frame.refl`,
  `Frame.trans`).
-/

namespace GapObjects

open Heap

/-! ## Kernel computations -/

/-- The heap a computation ends on, whether it returned or raised. -/
def Kern.heapOf {α : Type} : EStateM.Result Err Heap α → Heap
  | .ok _ h => h
  | .error _ h => h

theorem Kern.bind_apply {α β : Type} (x : Kern α) (f : α → Kern β) (h : Heap) :
    (x >>= f) h = match x h with
      | .ok a h' => f a h'
      | .error e h' => .error e h' := by
  show EStateM.bind x f h = _
  unfold EStateM.bind; cases x h <;> rfl

theorem Kern.bind_error {α β : Type} {x : Kern α} {h h' : Heap} {e : Err} (hx : x h = .error e h')
    (f : α → Kern β) : (x >>= f) h = .error e h' := by
  rw [Kern.bind_apply, hx]

@[simp] theorem Kern.pure_apply {α : Type} (a : α) (h : Heap) : (pure a : Kern α) h = .ok a h :=
  rfl

@[simp] theorem Kern.throw_apply {α : Type} (e : Err) (h : Heap) :
    (throw e : Kern α) h = .error e h := rfl

@[simp] theorem Kern.heapOf_ok {α : Type} (a : α) (h : Heap) :
    Kern.heapOf (.ok a h : EStateM.Result Err Heap α) = h := rfl

@[simp] theorem Kern.heapOf_error {α : Type} (e : Err) (h : Heap) :
    Kern.heapOf (.error e h : EStateM.Result Err Heap α) = h := rfl

section

variable (K : Kernel)

@[simp] theorem readWord_bind {β : Type} (o i : Nat) (f : Nat → Kern β) (h : Heap) :
    (readWord o i >>= f) h = f (h.word o i) h := rfl

@[simp] theorem writeWord_bind {β : Type} (o i v : Nat) (f : Unit → Kern β) (h : Heap) :
    (writeWord o i v >>= f) h = f () (h.modify o (·.setWord i v)) := rfl

@[simp] theorem retypeBag_bind {β : Type} (o t : Nat) (f : Unit → Kern β) (h : Heap) :
    (retypeBag o t >>= f) h = f () (h.modify o (·.retype t)) := rfl

@[simp] theorem sizeOf_bind {β : Type} (o : Nat) (f : Nat → Kern β) (h : Heap) :
    (sizeOf o >>= f) h = f (sizeObj h o) h := rfl

@[simp] theorem readWord_map {β : Type} (o i : Nat) (f : Nat → β) (h : Heap) :
    (f <$> readWord o i) h = .ok (f (h.word o i)) h := rfl

@[simp] theorem writeWord_map {β : Type} (o i v : Nat) (f : Unit → β) (h : Heap) :
    (f <$> writeWord o i v) h = .ok (f ()) (h.modify o (·.setWord i v)) := rfl

@[simp] theorem readWord_apply (o i : Nat) (h : Heap) : readWord o i h = .ok (h.word o i) h := rfl

@[simp] theorem writeWord_apply (o i v : Nat) (h : Heap) :
    writeWord o i v h = .ok () (h.modify o (·.setWord i v)) := rfl

@[simp] theorem retypeBag_apply (o t : Nat) (h : Heap) :
    retypeBag o t h = .ok () (h.modify o (·.retype t)) := rfl

/-- A zero-filled bag, as `NewBag` makes it. -/
def Bag.fresh (t size : Nat) (region : Option Region) : Bag :=
  { tnum := t, size := size % 2 ^ 64, size_lt := Nat.mod_lt _ (Nat.two_pow_pos 64),
    words := fun _ => 0, region := region }

@[simp] theorem newBag_bind {β : Type} (t size : Nat) (f : Nat → Kern β) (h : Heap) :
    (newBag t size >>= f) h =
      f (handle h.bags.length) (h.alloc (Bag.fresh t size h.curRegion)).1 := rfl

theorem tnumOf_bind {β : Type} {o t : Nat} (f : Nat → Kern β) {h : Heap}
    (ht : tnumObj K h o = some t) : (tnumOf K o >>= f) h = f t h := by
  simp [Kern.bind_apply, tnumOf, ht]

theorem tnumOf_bind_eq {β : Type} (o : Nat) (f : Nat → Kern β) (h : Heap) :
    (tnumOf K o >>= f) h = match tnumObj K h o with
      | some t => f t h
      | none => .error (.badHandle o) h := by
  simp only [Kern.bind_apply, tnumOf]; cases tnumObj K h o <;> rfl

theorem tnumOf_bind_none {β : Type} {o : Nat} (f : Nat → Kern β) {h : Heap}
    (ht : tnumObj K h o = none) : (tnumOf K o >>= f) h = .error (.badHandle o) h := by
  simp [Kern.bind_apply, tnumOf, ht]

/-! ## Type numbers and sizes on the heap -/

theorem tnumObj_of_get? {h : Heap} {o : Nat} {b : Bag} (hb : h.get? o = some b) :
    tnumObj K h o = some b.tnum := by
  obtain ⟨k, rfl, -⟩ := get?_eq_some hb
  have hi := isImmediate_of_isBagRef (isBagRef_handle k)
  simp only [isImmediate, Bool.or_eq_false_iff] at hi
  simp [tnumObj, hi, hb]

theorem tags_of_get? {h : Heap} {o : Nat} {b : Bag} (hb : h.get? o = some b) :
    isIntObj o = false ∧ isFfe o = false := by
  obtain ⟨k, rfl, -⟩ := get?_eq_some hb
  have hi := isImmediate_of_isBagRef (isBagRef_handle k)
  simpa only [isImmediate, Bool.or_eq_false_iff] using hi

theorem sizeObj_of_get? {h : Heap} {o : Nat} {b : Bag} (hb : h.get? o = some b) :
    sizeObj h o = b.size := by
  simp [sizeObj, hb]

theorem word_of_get? {h : Heap} {o : Nat} {b : Bag} (hb : h.get? o = some b) (i : Nat) :
    h.word o i = b.words i := by
  simp [word_def, hb]

/-- The type word a copy is given: the original's, with the mutability
filter reset when `mut` is zero. -/
def copyTypeWord (mut' : Int) (w : Nat) : Nat := if mut' = 0 then K.resetMutable w else w

/-! ## The straight-line blocks -/

/-- The copy `makeCopy` allocates, before its subvalues are filled in. -/
def copyBag (b : Bag) (mut' : Int) (withLen : Bool) (region : Option Region) : Bag :=
  { tnum := b.tnum, size := b.size, size_lt := b.size_lt, region := region,
    words := fun i => if i = 0 then copyTypeWord K mut' (b.words 0)
      else if i = 1 ∧ withLen then b.words 1 else 0 }

theorem makeCopy_spec {h : Heap} {obj : Nat} {b : Bag} (hb : h.get? obj = some b)
    (mut' : Int) (withLen : Bool) :
    makeCopy K obj mut' withLen h =
      .ok (handle h.bags.length) (h.alloc (copyBag K b mut' withLen h.curRegion)).1 := by
  have hne := ne_handle_length hb
  cases withLen <;> by_cases hm : mut' = 0 <;>
    simp only [makeCopy, resetFilterObj, tnumOf_bind K _ (tnumObj_of_get? K hb), sizeOf_bind,
      sizeObj_of_get? hb, newBag_bind, readWord_bind, writeWord_bind, word_alloc, if_neg hne,
      word_of_get? hb, modify_alloc, bind_assoc, pure_bind, hm, if_true, if_false,
      Bool.false_eq_true, eq_self_iff_true, ite_true, ite_false, Kern.pure_apply] <;>
    refine congrArg _ (congrArg (fun b => (h.alloc b).1) (Bag.ext' rfl
      (Nat.mod_eq_of_lt b.size_lt) (funext fun i => ?_) rfl)) <;>
    by_cases h0 : i = 0 <;> by_cases h1 : i = 1 <;>
    simp only [copyBag, copyTypeWord, Bag.fresh, Bag.setWord_words, h0, h1, hm, Nat.one_ne_zero, Nat.zero_ne_one,
      Bool.false_eq_true, if_true, if_false, ite_true, ite_false, and_true, and_false, true_and,
      false_and, eq_self_iff_true]

/-- The forwarding record: a plain list `[w, copy]`. -/
def plistBag (w copy : Nat) (region : Option Region) : Bag :=
  { tnum := K.tPlist, size := 3 * wordSize, size_lt := by decide, region := region,
    words := fun i => if i = 0 then 2 else if i = 1 then w else if i = 2 then copy else 0 }

/-- A marked original: its first word points at the forwarding record and
its type number carries `COPYING`. -/
def markBag (b : Bag) (p : Nat) : Bag := (b.setWord 0 p).retype (b.tnum + K.copying)

theorem markBag_words {b : Bag} {i : Nat} (hi : i ≠ 0) (p : Nat) :
    (markBag K b p).words i = b.words i := by
  simp [markBag, hi]

@[simp] theorem markBag_size (b : Bag) (p : Nat) : (markBag K b p).size = b.size := rfl

theorem leaveForwardingPointer_spec {h : Heap} {obj : Nat} {b : Bag} (hb : h.get? obj = some b)
    (copy : Nat) :
    leaveForwardingPointer K obj copy h =
      .ok () ((h.alloc (plistBag K (b.words 0) copy h.curRegion)).1.modify obj
        (markBag K · (handle h.bags.length))) := by
  obtain ⟨hi, hf⟩ := tags_of_get? hb
  simp [leaveForwardingPointer, newPlist, word_alloc, ne_handle_length hb, word_of_get? hb,
    tnumOf_bind_eq, tnumObj, hi, hf, get?_modify, get?_alloc, hb]
  have hp : (((Bag.fresh K.tPlist (3 * wordSize) h.curRegion).setWord 0 2).setWord 1
      (b.words 0)).setWord 2 copy = plistBag K (b.words 0) copy h.curRegion := by
    apply Bag.ext' <;> simp [Bag.fresh, plistBag, wordSize]
    funext i; simp; split_ifs <;> simp_all
  rw [hp]
  apply modify_congr
  intro b' hb'
  rw [get?_alloc, if_neg (ne_handle_length hb), hb] at hb'
  cases hb'; rfl

/-! ## The three outcomes of a structural body -/

theorem structural_filters {t : Nat} (ht : K.isStructural t) :
    ¬ t ≤ K.lastConstantTnum ∧ K.firstExternalTnum ≤ t ∧ t ≤ K.lastExternalTnum := by
  have := K.structural_le_real ht
  have := K.constant_lt_record
  have := K.plist_mem
  simp only [Tnums.firstExternalTnum, Tnums.lastRealTnum] at *
  omega

theorem isMutableObj_bind {β : Type} {h : Heap} {o : Nat} {b : Bag} (hb : h.get? o = some b)
    (ht : K.isStructural b.tnum) (f : Bool → Kern β) :
    (isMutableObj K o >>= f) h = f (K.mutableType (b.words 0)) h := by
  obtain ⟨h1, h2, h3⟩ := structural_filters K ht
  simp [isMutableObj, Kern.bind_apply, tnumOf, tnumObj_of_get? K hb, h1, h2, h3,
    word_of_get? hb]

theorem isCopyableObj_bind {β : Type} {h : Heap} {o : Nat} {b : Bag} (hb : h.get? o = some b)
    (ht : K.isStructural b.tnum) (f : Bool → Kern β) :
    (isCopyableObj K o >>= f) h = f (K.copyableType (b.words 0)) h := by
  obtain ⟨h1, h2, h3⟩ := structural_filters K ht
  simp [isCopyableObj, Kern.bind_apply, tnumOf, tnumObj_of_get? K hb, h1, h2, h3,
    word_of_get? hb]

section Structural

variable {h : Heap} {obj : Nat} {b : Bag} (hb : h.get? obj = some b)
  (ht : K.isStructural b.tnum) (withLen : Bool) (sub : Nat → Nat → Int → Kern Unit) (mut' : Int)
include hb ht

/-- An immutable object is returned as it is. -/
theorem copyStructural_immutable (hm : K.mutableType (b.words 0) = false) :
    copyStructural K withLen sub obj mut' h = .ok obj h := by
  simp [copyStructural, isMutableObj_bind K hb ht, hm]

/-- A mutable object that is not copyable stops the copy. -/
theorem copyStructural_not_copyable (hm : K.mutableType (b.words 0) = true)
    (hc : K.copyableType (b.words 0) = false) :
    copyStructural K withLen sub obj mut' h =
      .error (.quit "Panic: encountered mutable, non-copyable object" 0) h := by
  simp [copyStructural, isMutableObj_bind K hb ht, isCopyableObj_bind K hb ht, hm, hc]

/-- The heap on which a structural body starts its subvalue loop: the copy
and the forwarding record appended, the original marked. -/
def markedHeap (h : Heap) (obj : Nat) (b : Bag) (mut' : Int) (withLen : Bool) : Heap :=
  (((h.alloc (copyBag K b mut' withLen h.curRegion)).1.alloc
    (plistBag K (b.words 0) (handle h.bags.length) h.curRegion)).1.modify obj
      (markBag K · (handle (h.bags.length + 1))))

/-- A mutable, copyable object is copied: the loop runs on `markedHeap`
and the result is the copy. -/
theorem copyStructural_copy (hm : K.mutableType (b.words 0) = true)
    (hc : K.copyableType (b.words 0) = true) :
    copyStructural K withLen sub obj mut' h =
      (sub obj (handle h.bags.length) mut' >>= fun _ => pure (handle h.bags.length))
        (markedHeap K h obj b mut' withLen) := by
  have hb' : (h.alloc (copyBag K b mut' withLen h.curRegion)).1.get? obj = some b := by
    rw [get?_alloc, if_neg (ne_handle_length hb), hb]
  simp only [copyStructural, isMutableObj_bind K hb ht, isCopyableObj_bind K hb ht, hm, hc,
    if_true, Kern.bind_apply, makeCopy_spec K hb, leaveForwardingPointer_spec K hb',
    markedHeap, alloc_length]
  rfl

end Structural

/-! ## Marking and the frame of a copy run -/

/-- What marking does to an original: retyped `+COPYING`, its first word
replaced, everything else kept. -/
structure Marks (b b' : Bag) : Prop where
  structural : K.isStructural b.tnum
  tnum : b'.tnum = b.tnum + K.copying
  size : b'.size = b.size
  region : b'.region = b.region
  words : ∀ i, i ≠ 0 → b'.words i = b.words i

theorem markBag_marks {b : Bag} (ht : K.isStructural b.tnum) (p : Nat) :
    Marks K b (markBag K b p) :=
  ⟨ht, rfl, rfl, rfl, fun i hi => by simp [markBag, hi]⟩

theorem Marks.not_structural {b b' : Bag} (hm : Marks K b b') : ¬ K.isStructural b'.tnum := by
  rw [hm.tnum]; exact K.not_structural_of_copying (K.structural_add_copying hm.structural)

/-- `h'` extends `h` the way a copy run does: bags are appended, and an old
bag changes only when an original of `h0` is marked. -/
structure Frame (h0 h h' : Heap) : Prop where
  length_le : h.bags.length ≤ h'.bags.length
  region : h'.curRegion = h.curRegion
  old : ∀ o b, h.get? o = some b →
    h'.get? o = some b ∨ (h0.Allocated o ∧ ∃ b', h'.get? o = some b' ∧ Marks K b b')

namespace Frame

variable {K} {h0 h h1 h2 : Heap}

theorem refl (h0 h : Heap) : Frame K h0 h h := ⟨le_rfl, rfl, fun _ _ hb => .inl hb⟩

theorem trans (f1 : Frame K h0 h h1) (f2 : Frame K h0 h1 h2) : Frame K h0 h h2 := by
  refine ⟨f1.length_le.trans f2.length_le, f2.region.trans f1.region, fun o b hb => ?_⟩
  rcases f1.old o b hb with hb1 | ⟨horig, b1, hb1, hm1⟩
  · exact f2.old o b hb1
  · rcases f2.old o b1 hb1 with hb2 | ⟨-, b2, -, hm2⟩
    · exact .inr ⟨horig, b1, hb2, hm1⟩
    · exact absurd hm2.structural (hm1.not_structural)

theorem alloc (h0 h : Heap) (b : Bag) : Frame K h0 h (h.alloc b).1 := by
  refine ⟨by simp, rfl, fun o b' hb => .inl ?_⟩
  rw [get?_alloc, if_neg (ne_handle_length hb), hb]

/-- Writing a bag that did not exist in `h` keeps the frame. -/
theorem modify_fresh (f1 : Frame K h0 h h1) {c : Nat} (hc : ¬ h.Allocated c) (g : Bag → Bag) :
    Frame K h0 h (h1.modify c g) := by
  refine ⟨by simpa using f1.length_le, by simpa using f1.region, fun o b hb => ?_⟩
  have hne : o ≠ c := by
    rintro rfl; exact hc (by simp [Allocated, hb])
  rw [get?_modify, if_neg hne]
  exact f1.old o b hb

theorem mark (h0 : Heap) {o : Nat} {b : Bag} (hb : h.get? o = some b) (horig : h0.Allocated o)
    (ht : K.isStructural b.tnum) (p : Nat) : Frame K h0 h (h.modify o (markBag K · p)) := by
  refine ⟨by simp, by simp, fun o' b' hb' => ?_⟩
  rw [get?_modify]
  split
  · subst_vars
    rw [hb] at hb'; cases hb'
    exact .inr ⟨horig, _, by simp [hb], markBag_marks K ht p⟩
  · exact .inl hb'

end Frame

theorem markedHeap_frame {h0 h : Heap} {obj : Nat} {b : Bag} (hb : h.get? obj = some b)
    (horig : h0.Allocated obj) (ht : K.isStructural b.tnum) (mut' : Int) (withLen : Bool) :
    Frame K h0 h (markedHeap K h obj b mut' withLen) := by
  have hb2 : ((h.alloc (copyBag K b mut' withLen h.curRegion)).1.alloc
      (plistBag K (b.words 0) (handle h.bags.length) h.curRegion)).1.get? obj = some b := by
    rw [get?_alloc, get?_alloc, if_neg, if_neg (ne_handle_length hb), hb]
    simp only [alloc_length]
    intro he; rw [he, get?_handle, List.getElem?_eq_none (by omega)] at hb; cases hb
  exact ((Frame.alloc h0 h _).trans (Frame.alloc h0 _ _)).trans (Frame.mark h0 hb2 horig ht _)

end

end GapObjects
