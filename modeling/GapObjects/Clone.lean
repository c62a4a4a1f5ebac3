import GapObjects.CleanCorrect
import GapObjects.SaveLoad

/-!
# Cloning an object into another

`CLONE_OBJ(dst, src)` refuses a small integer or a finite field element as
`src` with `ErrorReturnVoid`; the check of `dst` is commented out in the
source. A mutable `src` is replaced by `CopyObj(src, 1)`; then `dst` is
resized and retyped to the source's size and type number, and the source's
words are copied into it.

* **the words** — the copy loop fills words `j .. j+n-1` of its target from
  the source as it was (`copyDatWords_apply`), so a shallow clone gives `dst`
  the bag `cloneInto` describes, also when `dst` is `src`
  (`shallowClone_apply`);
* **the two kinds of source** — an immutable source is cloned as it is
  (`cloneObj_immutable`); a mutable one through its copy, after which every
  bag but `dst` is as it was and every object of `M(dst)` other than `dst` is
  fresh (`cloneObj_mutable`);
* **`dst` is not checked** — with an immediate `dst`, the call reports no
  recoverable failure: it copies the source and then resizes the immediate
  (`cloneObj_immediate_dst`, `loopHeap_clone_into_small_int`).
-/

namespace GapObjects

open Heap SaveLoad

/-! ## The model -/

/-- The word count of the loop of `FuncCLONE_OBJ`,
`(SIZE_OBJ(src)+sizeof(Obj) - 1)/sizeof(Obj)` in `UInt`. -/
def cloneWordCount (size : Nat) : Nat := uSub (uAdd size wordSize) 1 / wordSize

/-- `ResizeBag(o, size)`. A word that is no handle of an allocated bag has no
bag to resize: C goes on with whatever memory the word points at. -/
def resizeBag (o size : Nat) : Kern Unit := fun h =>
  if h.Allocated o then .ok () (h.modify o (·.resize size)) else .error (.badHandle o) h

section

variable (K : Kernel)

/-- The shallow clone that ends `FuncCLONE_OBJ`: `ResizeBag(dst, SIZE_OBJ(src))`,
`RetypeBag(dst, TNUM_OBJ(src))`, then the words of `src` copied into `dst` by
the same word loop as `CopyObjDatObj`'s. -/
def shallowClone (dst src : Nat) : Kern Unit := do
  resizeBag dst (← sizeOf src)
  retypeBag dst (← tnumOf K src)
  copyDatWords src dst (cloneWordCount (← sizeOf src)) 0

/-- `if (IS_MUTABLE_OBJ(src)) src = CopyObj(src, 1);`: the object
`FuncCLONE_OBJ` clones from. -/
def cloneSource (src : Nat) : Kern Nat := do
  if (← isMutableObj K src) then copyObj K src 1 else pure src

/-- `FuncCLONE_OBJ(self, dst, src)`. Each refusal is `ErrorReturnVoid`
followed by `return 0`. -/
def cloneObj (dst src : Nat) : Kern Unit :=
  if isIntObj src then
    throw (.returnVoid "small integers cannot be cloned" "you can 'return;' to skip the cloning")
  else if isFfe src then
    throw (.returnVoid "finite field elements cannot be cloned" "you can 'return;' to skip the cloning")
  else do
    shallowClone K dst (← cloneSource K src)

end

/-- The bag `b` becomes when a bag `bs` is cloned into it: `bs`'s size and
type number, the words the loop copies taken from `bs`, the rest of `b`'s
words as `ResizeBag` leaves them, and `b`'s region. -/
def cloneInto (bs b : Bag) : Bag :=
  fillWords bs.words 0 (cloneWordCount bs.size) ((b.resize bs.size).retype bs.tnum)

@[simp] theorem cloneInto_tnum (bs b : Bag) : (cloneInto bs b).tnum = bs.tnum := rfl

@[simp] theorem cloneInto_size (bs b : Bag) : (cloneInto bs b).size = bs.size :=
  Nat.mod_eq_of_lt bs.size_lt

@[simp] theorem cloneInto_region (bs b : Bag) : (cloneInto bs b).region = b.region := rfl

theorem cloneWordCount_le (size : Nat) (hlt : size < 2 ^ 64) : cloneWordCount size ≤ wordsOf size := by
  unfold cloneWordCount uSub uAdd wordsOf wordSize; omega

/-- Without wrap-around the loop copies every word of the source. -/
theorem cloneWordCount_of_le {size : Nat} (hw : size + wordSize ≤ 2 ^ 64) :
    cloneWordCount size = wordsOf size := by
  unfold cloneWordCount uSub uAdd wordsOf wordSize at *; omega

/-- The words of a clone: those the loop copies come from the source, the
others read zero past the smaller of the two sizes. -/
theorem cloneInto_words (bs b : Bag) (j : Nat) :
    (cloneInto bs b).words j = if j < cloneWordCount bs.size then bs.words j
      else if j < wordsOf (min b.size bs.size) then b.words j else 0 := by
  simp only [cloneInto, fillWords, Bag.retype, Bag.resize, Nat.mod_eq_of_lt bs.size_lt,
    Nat.zero_le, true_and, Nat.zero_add]

/-! ## The word loop -/

theorem fillWords_congr {f g : Nat → Nat} {i n : Nat} (hfg : ∀ j, i ≤ j → j < i + n → f j = g j)
    (b : Bag) : fillWords f i n b = fillWords g i n b :=
  Bag.ext' rfl rfl (funext fun j => by
    simp only [fillWords]; split_ifs with hj
    · exact hfg j hj.1 hj.2
    · rfl) rfl

/-- Storing word `j` changes no other word. -/
theorem word_modify_setWord_ne (h : Heap) {o o' i j : Nat} (v : Nat) (hij : i ≠ j) :
    (h.modify o (·.setWord j v)).word o' i = h.word o' i := by
  rw [word_modify]
  split
  · subst_vars
    rw [word_def]
    cases h.get? o' <;> simp [hij]
  · rfl

/-- The copy loop fills words `j .. j+n-1` of `copy` from `obj` as it was
before the loop, also when the two are the same bag: each word is read
before it is written. -/
theorem copyDatWords_apply (obj copy : Nat) :
    ∀ n j (h : Heap), copyDatWords obj copy n j h = .ok () (h.modify copy (fillWords (h.word obj) j n))
  | 0, j, h => by rw [modify_fillWords_zero]; rfl
  | n + 1, j, h => by
    simp only [copyDatWords, readWord_bind, writeWord_bind, copyDatWords_apply obj copy n (j + 1),
      modify_modify]
    congr 2
    funext b
    rw [Function.comp_apply, fillWords_congr (g := h.word obj) fun i hi _ =>
      word_modify_setWord_ne h _ (by omega), fillWords_setWord]

/-! ## The shallow clone -/

section Shallow

variable {K : Kernel}

theorem resizeBag_bind {β : Type} {o : Nat} {h : Heap} (ho : h.Allocated o) (size : Nat)
    (f : Unit → Kern β) : (resizeBag o size >>= f) h = f () (h.modify o (·.resize size)) := by
  simp only [bind, EStateM.bind, resizeBag, if_pos ho]

theorem resizeBag_bind_error {β : Type} {o : Nat} {h : Heap} (ho : ¬ h.Allocated o) (size : Nat)
    (f : Unit → Kern β) : (resizeBag o size >>= f) h = .error (.badHandle o) h := by
  simp only [bind, EStateM.bind, resizeBag, if_neg ho]

/-- A shallow clone of the bag `bs` into the allocated `dst` gives `dst` the
bag `cloneInto bs`, and touches nothing else. -/
theorem shallowClone_apply {h : Heap} {dst src : Nat} {bs : Bag} (hd : h.Allocated dst)
    (hs : h.get? src = some bs) :
    shallowClone K dst src h = .ok () (h.modify dst (cloneInto bs)) := by
  set h1 := h.modify dst (·.resize bs.size)
  set h2 := h1.modify dst (·.retype bs.tnum)
  -- after the resize, `src` still has the source's type number and size
  have hs1 : ∃ b1, h1.get? src = some b1 ∧ b1.tnum = bs.tnum ∧ b1.size = bs.size ∧
      ∀ j, j < wordsOf bs.size → b1.words j = bs.words j := by
    rw [get?_modify]
    split_ifs with he
    · subst he
      refine ⟨bs.resize bs.size, by rw [hs]; rfl, rfl, Nat.mod_eq_of_lt bs.size_lt, fun j hj => ?_⟩
      simp only [Bag.resize, min_self, Nat.mod_eq_of_lt bs.size_lt, if_pos hj]
    · exact ⟨bs, hs, rfl, rfl, fun _ _ => rfl⟩
  obtain ⟨b1, hb1, ht1, hsz1, hw1⟩ := hs1
  have hb2 : h2.get? src = some (if src = dst then b1.retype bs.tnum else b1) := by
    rw [get?_modify]
    split_ifs with he
    · rw [← he, hb1]; rfl
    · exact hb1
  have hsz2 : sizeObj h2 src = bs.size := by
    rw [sizeObj_of_get? hb2]; split_ifs <;> exact hsz1
  have hw2 : ∀ j, j < cloneWordCount bs.size → h2.word src j = bs.words j := fun j hj => by
    rw [word_of_get? hb2]
    split_ifs <;> exact hw1 j (lt_of_lt_of_le hj (cloneWordCount_le _ bs.size_lt))
  have e1 : sizeOf src h = .ok bs.size h := by
    show EStateM.Result.ok (sizeObj h src) h = _; rw [sizeObj_of_get? hs]
  have e3 : tnumOf K src h1 = .ok bs.tnum h1 := by
    show (match tnumObj K h1 src with | some t => _ | none => _) = _
    rw [tnumObj_of_get? K hb1, ht1]
  have e5 : sizeOf src h2 = .ok bs.size h2 := by
    show EStateM.Result.ok (sizeObj h2 src) h2 = _; rw [hsz2]
  rw [shallowClone, bind_of_ok e1, bind_of_ok (show resizeBag dst bs.size h = .ok () h1 from if_pos hd),
    bind_of_ok e3, bind_of_ok (show retypeBag dst bs.tnum h1 = .ok () h2 from rfl), bind_of_ok e5,
    copyDatWords_apply,
    show fillWords (h2.word src) 0 (cloneWordCount bs.size) = fillWords bs.words 0 (cloneWordCount bs.size)
      from funext (fillWords_congr fun j _ hj => hw2 j (by omega))]
  simp only [h2, h1, modify_modify]
  rfl

theorem shallowClone_error {h : Heap} {dst : Nat} (hd : ¬ h.Allocated dst) (src : Nat) :
    shallowClone K dst src h = .error (.badHandle dst) h := by
  simp only [shallowClone, sizeOf_bind, resizeBag_bind_error hd]

end Shallow

/-! ## Children of a clone -/

section Children

variable {K : Kernel}

/-- Without wrap-around, a clone holds the source's words and zeros past
them. -/
theorem cloneInto_words_of_le {cb : Bag} (hw : cb.size + wordSize ≤ 2 ^ 64) (b : Bag) (j : Nat) :
    (cloneInto cb b).words j = if j < wordsOf cb.size then cb.words j else 0 := by
  rw [cloneInto_words, cloneWordCount_of_le hw]
  split_ifs <;> first | rfl | (unfold wordsOf wordSize at *; omega)

/-- A child of a clone of `cb` is a child of `cb`, or zero. -/
theorem isChild_cloneInto {cb b : Bag} (hw : cb.size + wordSize ≤ 2 ^ 64) {c : Nat}
    (hc : IsChild K (cloneInto cb b) c) : c = 0 ∨ IsChild K cb c := by
  cases hc with
  | @pos i hk h1 h2 h3 =>
    -- a slot below `SIZE/W` is one of the copied words
    rw [cloneInto_size] at h2
    have hlt : i < wordsOf cb.size := by unfold wordsOf wordSize at *; omega
    rw [cloneInto_words_of_le hw, if_pos hlt] at h3 ⊢
    exact .inr (.pos hk h1 h2 h3)
  | @com i hk h1 h2 =>
    -- `LEN_PREC` is a copied word; a value past the copied words reads zero
    rw [cloneInto_words_of_le hw] at h2 ⊢
    have hlen : 1 < wordsOf cb.size := by
      by_contra h; rw [if_neg h] at h2; omega
    rw [if_pos hlen] at h2
    by_cases hval : 2 * i + 1 < wordsOf cb.size
    · rw [if_pos hval]; exact .inr (.com hk h1 h2)
    · rw [if_neg hval]; exact .inl rfl

/-- A child of a copy is the image of a child of the original. -/
theorem isChild_copiedBag {mut' : Int} {bz : Bag} {f : Nat → Nat} {region : Option Region}
    (hs : K.isStructural bz.tnum) (hf0 : f 0 = 0) {c : Nat}
    (hc : IsChild K (copiedBag K mut' bz f region) c) : ∃ c', IsChild K bz c' ∧ c = f c' := by
  have hreal := (K.structural_le_real hs).2
  rcases hc with ⟨hk, h1, h2, h3⟩ | ⟨hk, h1, h2⟩
  · have hpos := posKind_of_le_real K hreal hk
    rw [copiedBag_words_pos K mut' hpos (by omega) h2 f region] at h3 ⊢
    exact ⟨_, .pos hk h1 h2 (fun h0 => h3 (by rw [h0, hf0])), rfl⟩
  · have hcom := comKind_of_le_real K hreal hk
    have hlen : (copiedBag K mut' bz f region).words 1 = bz.words 1 := by
      simp only [copiedBag, if_neg one_ne_zero, if_neg (hcom ▸ K.com_ne_pos), if_pos hcom, ite_true]
    rw [hlen] at h2
    rw [(copiedBag_words_com K mut' hcom h1 h2 f region).2]
    exact ⟨_, .com hk h1 h2, rfl⟩

end Children

/-! ## `CLONE_OBJ` -/

section Run

variable {K : Kernel} {h0 : Heap}

theorem isMutable_iff {o : Nat} {b : Bag} (hb : h0.get? o = some b) :
    IsMutable K h0 o ↔ K.isStructural b.tnum ∧ K.mutableType (b.words 0) = true := by
  constructor
  · rintro ⟨b', hb', hs, hm⟩; rw [hb] at hb'; cases hb'; exact ⟨hs, hm⟩
  · rintro ⟨hs, hm⟩; exact ⟨b, hb, hs, hm⟩

/-- `IS_MUTABLE_OBJ` on a constant or a structural object. -/
theorem isMutableObj_plain {o : Nat} {b : Bag} (hb : h0.get? o = some b)
    (hk : b.tnum ≤ K.lastConstantTnum ∨ K.isStructural b.tnum) :
    isMutableObj K o h0 = .ok (decide (K.isStructural b.tnum) && K.mutableType (b.words 0)) h0 := by
  rcases hk with hc | hs
  · have hns : ¬ K.isStructural b.tnum := fun hs => (structural_filters K hs).1 hc
    rw [isMutableObj, tnumOf_bind K _ (tnumObj_of_get? K hb), if_pos hc, decide_eq_false hns,
      Bool.false_and]
    rfl
  · obtain ⟨h1, h2, h3⟩ := structural_filters K hs
    simp [isMutableObj, Kern.bind_apply, tnumOf, tnumObj_of_get? K hb, h1, h2, h3, word_of_get? hb, hs]

/-- `CLONE_OBJ` with a bag as `src` passes both checks. -/
theorem cloneObj_bag {dst src : Nat} {bs : Bag} (hs : h0.get? src = some bs) :
    cloneObj K dst src h0 = (cloneSource K src >>= shallowClone K dst) h0 := by
  obtain ⟨hi, hf⟩ := tags_of_get? hs
  rw [cloneObj, if_neg (by rw [hi]; decide), if_neg (by rw [hf]; decide)]

/-- An immutable source is cloned from itself. -/
theorem cloneSource_immutable {src : Nat} {bs : Bag} (hk : PlainReach K h0 src) (hs : h0.get? src = some bs)
    (hnm : ¬ IsMutable K h0 src) : cloneSource K src h0 = .ok src h0 := by
  have hm : (decide (K.isStructural bs.tnum) && K.mutableType (bs.words 0)) = false := by
    rw [Bool.eq_false_iff]
    intro h
    rw [Bool.and_eq_true, decide_eq_true_eq] at h
    exact hnm ((isMutable_iff hs).mpr h)
  rw [cloneSource, bind_of_ok (isMutableObj_plain hs (hk src bs (.self K h0 src) hs)), hm,
    if_neg Bool.false_ne_true]
  rfl

/-- A mutable source is cloned from its copy. -/
theorem cloneSource_mutable {src : Nat} {bs : Bag} (hk : PlainReach K h0 src) (hs : h0.get? src = some bs)
    (hm : IsMutable K h0 src) : cloneSource K src h0 = copyObj K src 1 h0 := by
  have hm' : (decide (K.isStructural bs.tnum) && K.mutableType (bs.words 0)) = true := by
    rw [Bool.and_eq_true, decide_eq_true_eq]
    exact (isMutable_iff hs).mp hm
  rw [cloneSource, bind_of_ok (isMutableObj_plain hs (hk src bs (.self K h0 src) hs)), hm', if_pos rfl]

/-- **An immutable source is cloned as it is.** -/
theorem cloneObj_immutable {dst src : Nat} {bs : Bag} (hk : PlainReach K h0 src) (hs : h0.get? src = some bs)
    (hnm : ¬ IsMutable K h0 src) (hd : h0.Allocated dst) :
    cloneObj K dst src h0 = .ok () (h0.modify dst (cloneInto bs)) := by
  rw [cloneObj_bag hs, bind_of_ok (cloneSource_immutable hk hs hnm), shallowClone_apply hd hs]

/-- A heap of one bag is that bag. -/
theorem get?_singleton {b b' : Bag} {r : Option Region} {o : Nat}
    (hb : ({ bags := [b], curRegion := r } : Heap).get? o = some b') : b' = b := by
  obtain ⟨k, -, hk⟩ := get?_eq_some hb
  cases k with
  | zero => exact (Option.some.inj hk).symm
  | succ k => simp at hk

/-- A positional object of the immutable type word 101 holding the small
integer 2. -/
def frozenHeap : Heap where
  bags := [{ tnum := 42, size := 2 * wordSize, size_lt := by decide, region := none,
             words := fun i => if i = 0 then 101 else if i = 1 then 9 else 0 }]
  curRegion := none

theorem frozenHeap_plainReach : PlainReach sampleKernel frozenHeap (handle 0) := fun _ _ _ hb => by
  rw [get?_singleton hb]; decide

theorem frozenHeap_immutable : ¬ IsMutable sampleKernel frozenHeap (handle 0) := fun ⟨_, hb, _, hm⟩ => by
  rw [get?_singleton hb] at hm; exact absurd hm (by decide)

/-- `frozenHeap`'s object cloned into itself. -/
theorem frozenHeap_clone_self :
    PlainReach sampleKernel frozenHeap (handle 0) ∧ ∃ bs, frozenHeap.get? (handle 0) = some bs ∧
      ¬ IsMutable sampleKernel frozenHeap (handle 0) ∧ frozenHeap.Allocated (handle 0) ∧
      cloneObj sampleKernel (handle 0) (handle 0) frozenHeap =
        .ok () (frozenHeap.modify (handle 0) (cloneInto bs)) :=
  ⟨frozenHeap_plainReach, _, rfl, frozenHeap_immutable, by decide,
    cloneObj_immutable frozenHeap_plainReach rfl frozenHeap_immutable (by decide)⟩

section Reach

variable {h' : Heap} {src dst : Nat} {f : Nat → Nat} (hcl : Closed K h0)
  (hid : ∀ x, ¬ InM K h0 src x → f x = x) (hrest : ∀ x bx, h0.get? x = some bx → h'.get? x = some bx)
include hcl hid hrest

/-- Once `dst` is rewritten, a mutable child of an object of `M(src)`, taken
through `f`, is `dst` or the copy of an object of `M(src)`: any other old
object is as it was, so it would already be in `M(src)`. -/
theorem mutable_image_of_child (g : Bag → Bag) {z c : Nat} {bz : Bag} (hz : InM K h0 src z)
    (hbz : h0.get? z = some bz) (hc : IsChild K bz c) (hmc : IsMutable K (h'.modify dst g) (f c)) :
    f c = dst ∨ ∃ z', InM K h0 src z' ∧ f c = f z' := by
  by_cases hcM : InM K h0 src c
  · exact .inr ⟨c, hcM, rfl⟩
  rw [hid c hcM] at hmc ⊢
  by_cases hcd : c = dst
  · exact .inl hcd
  obtain ⟨b', hb', hs', hm'⟩ := hmc
  rw [get?_modify, if_neg hcd] at hb'
  rcases hcl z bz hbz c hc with himm | halloc
  · rw [get?_immediate h' himm] at hb'; cases hb'
  · obtain ⟨b0, hb0⟩ := Option.isSome_iff_exists.mp halloc
    rw [hrest c b0 hb0] at hb'; cases hb'
    exact absurd (.child hz hbz hc ⟨_, hb0, hs', hm'⟩) hcM

/-- After `dst` took the clone of the copy of `src`, every object of `M(dst)`
is `dst` or the copy of an object of `M(src)`. -/
theorem inM_clone_of_copy
    (hcopy : ∀ x bx, InM K h0 src x → h0.get? x = some bx →
      ¬ h0.Allocated (f x) ∧ h'.get? (f x) = some (copiedBag K 1 bx f h0.curRegion))
    {bs bd : Bag} (hs : h0.get? src = some bs) (hm : IsMutable K h0 src) (hbd : h0.get? dst = some bd)
    (hw : bs.size + wordSize ≤ 2 ^ 64) (y : Nat)
    (hy : InM K (h'.modify dst (cloneInto (copiedBag K 1 bs f h0.curRegion))) dst y) :
    y = dst ∨ ∃ z, InM K h0 src z ∧ y = f z := by
  have hf0 : f 0 = 0 := hid 0 fun h0M => by
    obtain ⟨b, hb, -⟩ := h0M.isMutable K h0
    rw [get?_zero] at hb; cases hb
  induction hy with
  | root _ => exact .inl rfl
  | @child x c b _ hb hc hmc ih =>
    rcases ih with rfl | ⟨z, hz, rfl⟩
    · -- `dst` holds the clone of the copy of `src`
      rw [get?_modify, if_pos rfl, hrest x bd hbd] at hb
      cases hb
      rcases isChild_cloneInto (show (copiedBag K 1 bs f h0.curRegion).size + wordSize ≤ 2 ^ 64
        from hw) hc with rfl | hc'
      · obtain ⟨b, hb, -⟩ := hmc
        rw [get?_zero] at hb; cases hb
      · obtain ⟨c', hc'', rfl⟩ := isChild_copiedBag ((isMutable_iff hs).mp hm).1 hf0 hc'
        exact mutable_image_of_child hcl hid hrest _ (.root hm) hs hc'' hmc
    · -- a fresh copy holds the images of its original's children
      obtain ⟨bz, hbz, hzs, -⟩ := hz.isMutable K h0
      obtain ⟨hfz, hcz⟩ := hcopy z bz hz hbz
      have hne : f z ≠ dst := fun he => hfz (he ▸ allocated_of_get? hbd)
      rw [get?_modify, if_neg hne, hcz] at hb
      cases hb
      obtain ⟨c', hc'', rfl⟩ := isChild_copiedBag hzs hf0 hc
      exact mutable_image_of_child hcl hid hrest _ hz hbz hc'' hmc

end Reach

/-- **A mutable source is cloned through its copy.** On a plain heap without
dangling handles, when the objects the copy dispatches on are constants or
structural objects and every object of `M(src)` is copyable and fits its
size, `CopyObj(src, 1)` returns a fresh copy `f src`, with nothing past its
size, and `dst` becomes the clone of that copy; every other bag of the heap
is as it was; and when the rounded size does not wrap, every object of
`M(dst)` other than `dst` itself is fresh, so `dst` shares no mutable object
with the heap it was cloned from. -/
theorem cloneObj_mutable (hp : PlainHeap K h0) (hcl : Closed K h0) {dst src : Nat} {bs : Bag}
    (hk : PlainReach K h0 src) (hs : h0.get? src = some bs) (hm : IsMutable K h0 src) (hd : h0.Allocated dst)
    (hcopyable : ∀ x b, InM K h0 src x → h0.get? x = some b → K.copyableType (b.words 0) = true)
    (hfits : ∀ x b, InM K h0 src x → h0.get? x = some b → SizeFits K b) :
    ∃ f : Nat → Nat, ∃ h', copyObj K src 1 h0 = .ok (f src) h' ∧ ¬ h0.Allocated (f src) ∧
      (copiedBag K 1 bs f h0.curRegion).Within ∧
      cloneObj K dst src h0 = .ok () (h'.modify dst (cloneInto (copiedBag K 1 bs f h0.curRegion))) ∧
      (∀ x bx, x ≠ dst → h0.get? x = some bx →
        (h'.modify dst (cloneInto (copiedBag K 1 bs f h0.curRegion))).get? x = some bx) ∧
      (bs.size + wordSize ≤ 2 ^ 64 →
        ∀ y, InM K (h'.modify dst (cloneInto (copiedBag K 1 bs f h0.curRegion))) dst y → y ≠ dst →
          ¬ h0.Allocated y) := by
  obtain ⟨f, h', hrun, -, hid, hcopy, hrest, -⟩ :=
    copyObj_spec hp hcl (.inr (allocated_of_get? hs)) hk 1 hcopyable
  obtain ⟨hfresh, hcb⟩ := hcopy src bs (.root hm) hs
  obtain ⟨bd, hbd⟩ := Option.isSome_iff_exists.mp hd
  refine ⟨f, h', hrun, hfresh, copiedBag_within K 1 (hfits src bs (.root hm) hs) f _, ?_,
    fun x bx hx hbx => ?_, fun hw y hy hne => ?_⟩
  · rw [cloneObj_bag hs, bind_of_ok ((cloneSource_mutable hk hs hm).trans hrun),
      shallowClone_apply (allocated_of_get? (hrest dst bd hbd)) hcb]
  · rw [get?_modify, if_neg hx, hrest x bx hbx]
  · rcases inM_clone_of_copy hcl hid hrest hcopy hs hm hbd hw y hy with h | ⟨z, hz, rfl⟩
    · exact absurd h hne
    · obtain ⟨bz, hbz, -⟩ := hz.isMutable K h0
      exact (hcopy z bz hz hbz).1

/-- The self-referential `loopHeap` cloned into itself through its copy. -/
theorem loopHeap_clone_self :
    PlainHeap sampleKernel loopHeap ∧ Closed sampleKernel loopHeap ∧
    PlainReach sampleKernel loopHeap (handle 0) ∧ ∃ bs, loopHeap.get? (handle 0) = some bs ∧ IsMutable sampleKernel loopHeap (handle 0) ∧
      loopHeap.Allocated (handle 0) ∧
      (∀ x b, InM sampleKernel loopHeap (handle 0) x → loopHeap.get? x = some b →
        sampleKernel.copyableType (b.words 0) = true) ∧
      (∀ x b, InM sampleKernel loopHeap (handle 0) x → loopHeap.get? x = some b →
        SizeFits sampleKernel b) ∧
      ∃ f : Nat → Nat, ∃ h', copyObj sampleKernel (handle 0) 1 loopHeap = .ok (f (handle 0)) h' ∧
        ¬ loopHeap.Allocated (f (handle 0)) ∧ (copiedBag sampleKernel 1 bs f loopHeap.curRegion).Within ∧
        cloneObj sampleKernel (handle 0) (handle 0) loopHeap =
          .ok () (h'.modify (handle 0) (cloneInto (copiedBag sampleKernel 1 bs f loopHeap.curRegion))) ∧
        (∀ x bx, x ≠ handle 0 → loopHeap.get? x = some bx →
          (h'.modify (handle 0) (cloneInto (copiedBag sampleKernel 1 bs f loopHeap.curRegion))).get? x =
            some bx) ∧
        (bs.size + wordSize ≤ 2 ^ 64 →
          ∀ y, InM sampleKernel (h'.modify (handle 0)
              (cloneInto (copiedBag sampleKernel 1 bs f loopHeap.curRegion))) (handle 0) y →
            y ≠ handle 0 → ¬ loopHeap.Allocated y) :=
  ⟨loopHeap_plain, loopHeap_closed, loopHeap_plainReach, _, rfl, ⟨_, rfl, by decide, rfl⟩, by decide,
    loopHeap_copyable, loopHeap_fits,
    cloneObj_mutable loopHeap_plain loopHeap_closed loopHeap_plainReach rfl ⟨_, rfl, by decide, rfl⟩
      (by decide) loopHeap_copyable loopHeap_fits⟩

/-- **`CLONE_OBJ` does not check `dst`.** Under the hypotheses of `CopyObj`,
for a bag `src` and an immediate `dst` no recoverable failure is reported:
a mutable source is copied, and then the call resizes the immediate, which C
does on whatever memory the word points at and the model stops with
`badHandle`; every bag of the heap is as it was before. -/
theorem cloneObj_immediate_dst (hp : PlainHeap K h0) (hcl : Closed K h0) {src : Nat}
    (hk : PlainReach K h0 src) (hs : h0.Allocated src)
    (hcopyable : ∀ x b, InM K h0 src x → h0.get? x = some b → K.copyableType (b.words 0) = true)
    {dst : Nat} (hdst : isImmediate dst = true) :
    ∃ h', cloneObj K dst src h0 = .error (.badHandle dst) h' ∧
      ∀ x bx, h0.get? x = some bx → h'.get? x = some bx := by
  obtain ⟨bs, hbs⟩ := Option.isSome_iff_exists.mp hs
  have hnd : ∀ h : Heap, ¬ h.Allocated dst := fun h ha => by
    simp [Heap.Allocated, get?_immediate h hdst] at ha
  by_cases hm : IsMutable K h0 src
  · obtain ⟨f, h', hrun, -, -, -, hrest, -⟩ := copyObj_spec hp hcl (.inr hs) hk 1 hcopyable
    refine ⟨h', ?_, hrest⟩
    rw [cloneObj_bag hbs, bind_of_ok ((cloneSource_mutable hk hbs hm).trans hrun),
      shallowClone_error (hnd h')]
  · refine ⟨h0, ?_, fun _ _ => id⟩
    rw [cloneObj_bag hbs, bind_of_ok (cloneSource_immutable hk hbs hm), shallowClone_error (hnd h0)]

end Run

/-- Cloning the self-referential `loopHeap` into the small integer `0`
(word 1) copies the source and then resizes the small integer. -/
theorem loopHeap_clone_into_small_int :
    PlainHeap sampleKernel loopHeap ∧ Closed sampleKernel loopHeap ∧
    PlainReach sampleKernel loopHeap (handle 0) ∧ loopHeap.Allocated (handle 0) ∧
    (∀ x b, InM sampleKernel loopHeap (handle 0) x → loopHeap.get? x = some b →
      sampleKernel.copyableType (b.words 0) = true) ∧
    isImmediate 1 = true ∧
    ∃ h', cloneObj sampleKernel 1 (handle 0) loopHeap = .error (.badHandle 1) h' ∧
      ∀ x bx, loopHeap.get? x = some bx → h'.get? x = some bx :=
  ⟨loopHeap_plain, loopHeap_closed, loopHeap_plainReach, by decide, loopHeap_copyable, rfl,
    cloneObj_immediate_dst loopHeap_plain loopHeap_closed loopHeap_plainReach (by decide)
      loopHeap_copyable rfl⟩

end GapObjects
