import GapObjects.CopyTermination

/-!
# The copy is a deep copy, and the clean pass restores the source

`CopyObj(r, mut)` on a heap where no bag carries `COPYING`, when every object
the passes dispatch on (`Reached`: `r` and the subvalues of the objects of
`M(r)`) is a constant or a structural object (`PlainReach`) and every mutable
object it reaches is copyable; lists, records and the forwarding records an
earlier copy left elsewhere in the heap are never looked at:

* `COPY_OBJ` returns the image of `r` under a map that sends each object of
  `M(r)` (`InM`, the mutable objects reachable from `r` through mutable
  objects) to a fresh bag holding `copiedBag`, and is the identity elsewhere;
  distinct objects get distinct copies;
* `CLEAN_OBJ` then unmarks exactly the objects `COPY_OBJ` marked and restores
  their first words, so the source heap is as it was and no bag keeps
  `COPYING`.

The copy pass is proved from an invariant on the heap between steps
(`CopyInv`): marked objects are originals of `M(r)` with a well-formed
forwarding record (`FwdOk`), copies are pairwise distinct and distinct from
the records, and every object marked by a finished call has a finished copy
(`Complete`). One lemma per step of a structural body keeps it: marking
(`CopyInv.mark`), writing a slot of the copy being filled (`CopyInv.write`),
and the recursive call (`RecCorrect`).
-/

namespace GapObjects

open Heap

section

variable (K : Kernel) (h0 : Heap)

/-! ## The objects a copy copies -/

/-- A structural object of `h0` whose type says it is mutable: the objects
`COPY_OBJ` copies rather than returns. -/
def IsMutable (x : Nat) : Prop :=
  ∃ b, h0.get? x = some b ∧ K.isStructural b.tnum ∧ K.mutableType (b.words 0) = true

/-- `M(r)`: the mutable objects reachable from `r`, following subvalues out of
mutable objects only. -/
inductive InM (r : Nat) : Nat → Prop
  | root : IsMutable K h0 r → InM r r
  | child {x c : Nat} {b : Bag} : InM r x → h0.get? x = some b → IsChild K b c →
      IsMutable K h0 c → InM r c

theorem InM.isMutable {r x : Nat} (hx : InM K h0 r x) : IsMutable K h0 x := by
  cases hx with
  | root h => exact h
  | child _ _ _ h => exact h

/-- The objects `COPY_OBJ(r)` and `CLEAN_OBJ(r)` dispatch on: `r`, and the
subvalues of the objects of `M(r)`. -/
def Reached (r x : Nat) : Prop :=
  x = r ∨ ∃ y b, InM K h0 r y ∧ h0.get? y = some b ∧ IsChild K b x

/-- Every object the passes from `r` dispatch on is a constant or a structural
object, the kinds this model gives bodies; a list or a record elsewhere in the
heap is never looked at. -/
def PlainReach (r : Nat) : Prop :=
  ∀ x b, Reached K h0 r x → h0.get? x = some b → b.tnum ≤ K.lastConstantTnum ∨ K.isStructural b.tnum

theorem Reached.self (r : Nat) : Reached K h0 r r := .inl rfl

variable {K h0} in
theorem Reached.child {r y c : Nat} {b : Bag} (hy : InM K h0 r y) (hb : h0.get? y = some b)
    (hc : IsChild K b c) : Reached K h0 r c :=
  .inr ⟨y, b, hy, hb, hc⟩

/-- `x` carries `COPYING` in `h`. -/
def isMarked (h : Heap) (x : Nat) : Bool :=
  match h.get? x with
  | some b => decide (K.isCopying b.tnum)
  | none => false

theorem isMarked_iff {h : Heap} {x : Nat} :
    isMarked K h x = true ↔ ∃ b, h.get? x = some b ∧ K.isCopying b.tnum := by
  unfold isMarked; cases h.get? x <;> simp

theorem isMarked_of_get? {h : Heap} {x : Nat} {b : Bag} (hb : h.get? x = some b) :
    isMarked K h x = decide (K.isCopying b.tnum) := by
  simp [isMarked, hb]

/-- The copy a marked object's forwarding record points at:
`ELM_PLIST(ADDR_OBJ(x)[0], 2)`. -/
def fwdCopy (h : Heap) (x : Nat) : Nat := h.word (h.word x 0) 2

/-- What the copy of an object holds in place of its subvalue `y`. -/
def img (h : Heap) (y : Nat) : Nat := if isMarked K h y then fwdCopy h y else y

/-- The finished copy of the original bag `b`: its type number, size and
type word (reset when `mut` is zero), then, by kind, the slots
`1 .. SIZE/W - 1` through `f`, or `LEN_PREC` and the record names verbatim
and the values through `f`, or the payload words verbatim. -/
def copiedBag (mut' : Int) (b : Bag) (f : Nat → Nat) (region : Option Region) : Bag where
  tnum := b.tnum
  size := b.size
  size_lt := b.size_lt
  region := region
  words i :=
    if i = 0 then copyTypeWord K mut' (b.words 0)
    else if b.tnum = K.tPosObj then (if i < b.size / wordSize then f (b.words i) else 0)
    else if b.tnum = K.tComObj then
      (if i = 1 then b.words 1
       else if i ≤ 2 * b.words 1 + 1 then (if i % 2 = 0 then b.words i else f (b.words i))
       else 0)
    else if i ≤ datPayloadCount b.size then b.words i else 0

/-- The words a copy body touches lie inside the bag: the type word, so the
size is positive, and for a component object `LEN_PREC` and its
`2 * LEN_PREC` entry words. -/
def SizeFits (b : Bag) : Prop :=
  0 < b.size ∧ (b.tnum = K.tComObj → 2 * b.words 1 + 2 ≤ wordsOf b.size)

instance (b : Bag) : Decidable (SizeFits K b) := by unfold SizeFits; infer_instance

/-- The copy of a bag that fits its size holds nothing past its end. -/
theorem copiedBag_within (mut' : Int) {b : Bag} (hb : SizeFits K b) (f : Nat → Nat)
    (region : Option Region) : (copiedBag K mut' b f region).Within := by
  obtain ⟨hpos, hcom⟩ := hb
  have hdat := datPayloadCount_of_pos hpos b.size_lt
  intro i hi
  simp only [copiedBag, wordsOf, wordSize] at hi hcom hdat ⊢
  rw [if_neg (by omega)]
  by_cases hc : b.tnum = K.tComObj
  · have := hcom hc
    split_ifs <;> first | rfl | omega
  · split_ifs <;> first | rfl | omega

/-- The copy only looks at `f` on subvalues and on zero. -/
theorem copiedBag_congr (mut' : Int) {b : Bag} {f g : Nat → Nat} (h0fg : f 0 = g 0)
    (hfg : ∀ c, IsChild K b c → f c = g c) (region : Option Region) :
    copiedBag K mut' b f region = copiedBag K mut' b g region := by
  refine Bag.ext' rfl rfl (funext fun i => ?_) rfl
  simp only [copiedBag]
  by_cases hi0 : i = 0
  · simp only [if_pos hi0]
  rw [if_neg hi0, if_neg hi0]
  by_cases hpos : b.tnum = K.tPosObj
  · rw [if_pos hpos, if_pos hpos]
    split_ifs with hlt
    · by_cases hw : b.words i = 0
      · rw [hw, h0fg]
      · exact hfg _ (.pos (.inl hpos) (by omega) hlt hw)
    · rfl
  rw [if_neg hpos, if_neg hpos]
  by_cases hcom : b.tnum = K.tComObj
  · rw [if_pos hcom, if_pos hcom]
    split_ifs with hi1 hle hev
    all_goals first
      | rfl
      | (obtain ⟨j, rfl⟩ : ∃ j, i = 2 * j + 1 := ⟨i / 2, by omega⟩
         exact hfg _ (.com (.inl hcom) (by omega) (by omega)))
  rw [if_neg hcom, if_neg hcom]

theorem copiedBag_words_pos (mut' : Int) {b : Bag} (hpos : b.tnum = K.tPosObj) {i : Nat}
    (hi0 : i ≠ 0) (hlt : i < b.size / wordSize) (f : Nat → Nat) (region : Option Region) :
    (copiedBag K mut' b f region).words i = f (b.words i) := by
  simp only [copiedBag, if_neg hi0, if_pos hpos, if_pos hlt]

theorem copiedBag_words_com (mut' : Int) {b : Bag} (hcom : b.tnum = K.tComObj) {i : Nat}
    (hi : 1 ≤ i) (hle : i ≤ b.words 1) (f : Nat → Nat) (region : Option Region) :
    (copiedBag K mut' b f region).words (2 * i) = b.words (2 * i) ∧
      (copiedBag K mut' b f region).words (2 * i + 1) = f (b.words (2 * i + 1)) := by
  have hpos : b.tnum ≠ K.tPosObj := hcom ▸ K.com_ne_pos
  constructor
  · simp only [copiedBag, if_neg (show 2 * i ≠ 0 by omega), if_neg hpos, if_pos hcom,
      if_neg (show 2 * i ≠ 1 by omega), if_pos (show 2 * i ≤ 2 * b.words 1 + 1 by omega),
      if_pos (show 2 * i % 2 = 0 by omega)]
  · simp only [copiedBag, if_neg (show 2 * i + 1 ≠ 0 by omega), if_neg hpos, if_pos hcom,
      if_neg (show 2 * i + 1 ≠ 1 by omega), if_pos (show 2 * i + 1 ≤ 2 * b.words 1 + 1 by omega),
      if_neg (show ¬ (2 * i + 1) % 2 = 0 by omega)]

theorem copiedBag_words_dat (mut' : Int) {b : Bag} (hdat : b.tnum = K.tDatObj) {i : Nat}
    (hi0 : i ≠ 0) (hle : i ≤ datPayloadCount b.size) (f : Nat → Nat) (region : Option Region) :
    (copiedBag K mut' b f region).words i = b.words i := by
  have hpos : b.tnum ≠ K.tPosObj := hdat ▸ K.pos_ne_dat.symm
  have hcom : b.tnum ≠ K.tComObj := hdat ▸ K.com_ne_dat.symm
  simp only [copiedBag, if_neg hi0, if_neg hpos, if_neg hcom, if_pos hle]

theorem posKind_of_le_real {t : Nat} (ht : t ≤ K.lastRealTnum) (hk : posKind K t) :
    t = K.tPosObj :=
  hk.resolve_right fun he => by
    have := K.copying_gt_real (K.structural_add_copying (show K.isStructural K.tPosObj from .inr (.inl rfl)))
    omega

theorem comKind_of_le_real {t : Nat} (ht : t ≤ K.lastRealTnum) (hk : comKind K t) :
    t = K.tComObj :=
  hk.resolve_right fun he => by
    have := K.copying_gt_real (K.structural_add_copying (show K.isStructural K.tComObj from .inl rfl))
    omega

/-! ## Frames and the invariant -/

theorem plist_not_structural : ¬ K.isStructural K.tPlist := fun hs => by
  have := (K.structural_le_real hs).1; have := K.plist_mem; omega

theorem get?_zero (h : Heap) : h.get? 0 = none := by simp [get?, isBagRef]

variable (r : Nat)

/-- The forwarding record of a marked original `x` whose bag in `h0` is `bx`:
`x` is `bx` marked, its first word is a fresh plain list `[bx[0], copy]`, and
the copy is a fresh bag. -/
structure FwdOk (h : Heap) (x : Nat) (bx : Bag) : Prop where
  marked : h.get? x = some (markBag K bx (h.word x 0))
  plist : h.get? (h.word x 0) = some (plistBag K (bx.words 0) (fwdCopy h x) h0.curRegion)
  plist_fresh : ¬ h0.Allocated (h.word x 0)
  copy_fresh : ¬ h0.Allocated (fwdCopy h x)
  copy_alloc : h.Allocated (fwdCopy h x)

/-- The invariant of a copy run from `r` on `h0`, between two steps. -/
structure CopyInv (h : Heap) : Prop where
  frame : Frame K h0 h0 h
  orig : ∀ x, isMarked K h x = true →
    ∃ bx, h0.get? x = some bx ∧ InM K h0 r x ∧ FwdOk K h0 h x bx
  inj : ∀ x y, isMarked K h x = true → isMarked K h y = true → fwdCopy h x = fwdCopy h y → x = y
  disj : ∀ x y, isMarked K h x = true → isMarked K h y = true → fwdCopy h x ≠ h.word y 0

variable (mut' : Int) in
/-- A marked original whose copy is finished: its mutable subvalues are
marked, and its copy is `copiedBag` through `img`. -/
def Complete (h : Heap) (x : Nat) : Prop :=
  ∃ bx, h0.get? x = some bx ∧ isMarked K h x = true ∧
    (∀ c, IsChild K bx c → IsMutable K h0 c → isMarked K h c = true) ∧
    h.get? (fwdCopy h x) = some (copiedBag K mut' bx (img K h) h0.curRegion)

variable {K h0 r}

theorem Frame.get?_of_not_structural {h h' : Heap} (f : Frame K h0 h h') {o : Nat} {b : Bag}
    (hb : h.get? o = some b) (hns : ¬ K.isStructural b.tnum) : h'.get? o = some b :=
  (f.old o b hb).resolve_right fun ⟨_, _, _, hm⟩ => hns hm.structural

theorem Frame.get?_of_fresh {h h' : Heap} (f : Frame K h0 h h') {o : Nat} {b : Bag}
    (hb : h.get? o = some b) (ho : ¬ h0.Allocated o) : h'.get? o = some b :=
  (f.old o b hb).resolve_right fun ⟨ha, _⟩ => ho ha

theorem FwdOk.copying {h : Heap} {x : Nat} {bx : Bag} (fw : FwdOk K h0 h x bx)
    (hx : isMarked K h x = true) : K.isCopying (markBag K bx (h.word x 0)).tnum := by
  rw [isMarked_of_get? K fw.marked] at hx; exact of_decide_eq_true hx

/-- A marked object keeps its mark and its forwarding record. -/
theorem CopyInv.stable {h h' : Heap} (hi : CopyInv K h0 r h) (f : Frame K h0 h h') {x : Nat}
    (hx : isMarked K h x = true) :
    isMarked K h' x = true ∧ h'.word x 0 = h.word x 0 ∧ fwdCopy h' x = fwdCopy h x := by
  obtain ⟨bx, -, -, fw⟩ := hi.orig x hx
  have hc := fw.copying hx
  have hx' := f.get?_of_not_structural fw.marked (K.not_structural_of_copying hc)
  have hw : h'.word x 0 = h.word x 0 := by rw [word_of_get? hx']; simp [markBag]
  have hp := f.get?_of_not_structural fw.plist (plist_not_structural K)
  refine ⟨by rw [isMarked_of_get? K hx']; exact decide_eq_true hc, hw, ?_⟩
  unfold fwdCopy; rw [hw, word_of_get? hp, word_of_get? fw.plist]

theorem CopyInv.isMutable {h : Heap} (hi : CopyInv K h0 r h) {x : Nat}
    (hx : isMarked K h x = true) : IsMutable K h0 x :=
  let ⟨_, _, hm, _⟩ := hi.orig x hx; hm.isMutable

theorem isMarked_zero (h : Heap) : isMarked K h 0 = false := by simp [isMarked, get?_zero]

/-- `img` does not change on a marked object, nor on one that is never marked. -/
theorem CopyInv.img_eq {h h' : Heap} (hi : CopyInv K h0 r h) (hi' : CopyInv K h0 r h')
    (f : Frame K h0 h h') {y : Nat} (hy : isMarked K h y = true ∨ ¬ IsMutable K h0 y) :
    img K h' y = img K h y := by
  rcases hy with hy | hy
  · obtain ⟨hy', -, he⟩ := hi.stable f hy
    simp only [img, hy, hy', if_true, he]
  · have h1 : isMarked K h y = false := by
      cases hm : isMarked K h y
      · rfl
      · exact absurd (hi.isMutable hm) hy
    have h2 : isMarked K h' y = false := by
      cases hm : isMarked K h' y
      · rfl
      · exact absurd (hi'.isMutable hm) hy
    simp [img, h1, h2]

/-- A finished copy stays finished while the heap grows. -/
theorem Complete.mono {h h' : Heap} (hi : CopyInv K h0 r h) (hi' : CopyInv K h0 r h')
    (f : Frame K h0 h h') {x : Nat} (hc : Complete K h0 mut' h x) : Complete K h0 mut' h' x := by
  obtain ⟨bx, hbx, hx, hch, hcopy⟩ := hc
  obtain ⟨hx', -, he⟩ := hi.stable f hx
  obtain ⟨bx', hbx', -, fw⟩ := hi.orig x hx
  rw [hbx] at hbx'; cases hbx'
  refine ⟨bx, hbx, hx', fun c hc hm => (hi.stable f (hch c hc hm)).1, ?_⟩
  rw [he, f.get?_of_fresh hcopy fw.copy_fresh]
  refine congrArg some (copiedBag_congr K mut' ?_ (fun c hc => ?_) _)
  · simp [img, isMarked_zero]
  · by_cases hm : IsMutable K h0 c
    · exact (hi.img_eq hi' f (.inl (hch c hc hm))).symm
    · exact (hi.img_eq hi' f (.inr hm)).symm

/-! ## Writing a slot of a copy -/

theorem isMarked_write (h : Heap) (c i v x : Nat) :
    isMarked K (h.modify c (·.setWord i v)) x = isMarked K h x := by
  unfold isMarked; rw [get?_modify]
  by_cases hx : x = c
  · rw [if_pos hx, hx]; cases h.get? c <;> rfl
  · rw [if_neg hx]

/-- Writing into the copy of a marked object touches no original, record or
other copy. -/
theorem CopyInv.write_ne {h : Heap} (hi : CopyInv K h0 r h) {o x : Nat}
    (ho : isMarked K h o = true) (hx : isMarked K h x = true) :
    x ≠ fwdCopy h o ∧ h.word x 0 ≠ fwdCopy h o := by
  obtain ⟨bx, hx0, -, -⟩ := hi.orig x hx
  obtain ⟨bo, -, -, fwo⟩ := hi.orig o ho
  exact ⟨fun he => fwo.copy_fresh (he ▸ allocated_of_get? hx0),
    fun he => hi.disj o x ho hx he.symm⟩

theorem CopyInv.write_fwd {h : Heap} (hi : CopyInv K h0 r h) {o x : Nat}
    (ho : isMarked K h o = true) (hx : isMarked K h x = true) (i v : Nat) :
    (h.modify (fwdCopy h o) (·.setWord i v)).word x 0 = h.word x 0 ∧
      fwdCopy (h.modify (fwdCopy h o) (·.setWord i v)) x = fwdCopy h x := by
  obtain ⟨hne, hpne⟩ := hi.write_ne ho hx
  have hw : (h.modify (fwdCopy h o) (·.setWord i v)).word x 0 = h.word x 0 := by
    rw [word_modify, if_neg hne]
  refine ⟨hw, ?_⟩
  change (h.modify (fwdCopy h o) (·.setWord i v)).word
    ((h.modify (fwdCopy h o) (·.setWord i v)).word x 0) 2 = h.word (h.word x 0) 2
  rw [hw, word_modify, if_neg hpne]

theorem CopyInv.write {h : Heap} (hi : CopyInv K h0 r h) {o : Nat}
    (ho : isMarked K h o = true) (i v : Nat) :
    CopyInv K h0 r (h.modify (fwdCopy h o) (·.setWord i v)) := by
  obtain ⟨bo, -, -, fwo⟩ := hi.orig o ho
  have hm := isMarked_write (K := K) h (fwdCopy h o) i v
  refine ⟨hi.frame.modify_fresh fwo.copy_fresh _, fun x hx => ?_, fun x y hx hy => ?_,
    fun x y hx hy => ?_⟩
  · rw [hm] at hx
    obtain ⟨bx, hbx, hM, fw⟩ := hi.orig x hx
    obtain ⟨hne, hpne⟩ := hi.write_ne ho hx
    obtain ⟨hw, hf⟩ := hi.write_fwd ho hx i v
    refine ⟨bx, hbx, hM, ⟨?_, ?_, hw ▸ fw.plist_fresh, hf ▸ fw.copy_fresh, ?_⟩⟩
    · rw [get?_modify, if_neg hne, hw]; exact fw.marked
    · rw [hw, hf, get?_modify, if_neg hpne]; exact fw.plist
    · rw [hf, allocated_modify]; exact fw.copy_alloc
  · rw [hm] at hx hy
    rw [(hi.write_fwd ho hx i v).2, (hi.write_fwd ho hy i v).2]; exact hi.inj x y hx hy
  · rw [hm] at hx hy
    rw [(hi.write_fwd ho hx i v).2, (hi.write_fwd ho hy i v).1]; exact hi.disj x y hx hy

theorem CopyInv.img_write {h : Heap} (hi : CopyInv K h0 r h) {o : Nat}
    (ho : isMarked K h o = true) (i v : Nat) :
    img K (h.modify (fwdCopy h o) (·.setWord i v)) = img K h := by
  funext y
  unfold img; rw [isMarked_write]
  split
  · rename_i hy; exact (hi.write_fwd ho hy i v).2
  · rfl

/-- Writing into one copy leaves every other finished copy finished. -/
theorem Complete.write {h : Heap} (hi : CopyInv K h0 r h) {o x : Nat}
    (ho : isMarked K h o = true) (hxo : x ≠ o) (i v : Nat) (hc : Complete K h0 mut' h x) :
    Complete K h0 mut' (h.modify (fwdCopy h o) (·.setWord i v)) x := by
  obtain ⟨bx, hbx, hx, hch, hcopy⟩ := hc
  have hne : fwdCopy h x ≠ fwdCopy h o := fun he => hxo (hi.inj x o hx ho he)
  refine ⟨bx, hbx, by rw [isMarked_write]; exact hx,
    fun c hc hm => by rw [isMarked_write]; exact hch c hc hm, ?_⟩
  rw [hi.img_write ho, (hi.write_fwd ho hx i v).2, get?_modify, if_neg hne]
  exact hcopy

/-! ## Marking an original -/

theorem get?_markedHeap {h : Heap} {o : Nat} {b : Bag} (hb : h.get? o = some b) (mut' : Int)
    (wl : Bool) (x : Nat) :
    (markedHeap K h o b mut' wl).get? x =
      if x = o then some (markBag K b (handle (h.bags.length + 1)))
      else if x = handle h.bags.length then some (copyBag K b mut' wl h.curRegion)
      else if x = handle (h.bags.length + 1) then
        some (plistBag K (b.words 0) (handle h.bags.length) h.curRegion)
      else h.get? x := by
  have ho := allocated_of_get? hb
  have hne := ho.ne_handle (le_refl _)
  have hne' := ho.ne_handle (Nat.le_succ _)
  have hlen : handle h.bags.length ≠ handle (h.bags.length + 1) := fun he => by
    have := handle_injective he; omega
  simp only [markedHeap, get?_modify, get?_alloc, alloc_length]
  by_cases h1 : x = o
  · subst h1; simp [hne, hne', hb]
  · by_cases h2 : x = handle h.bags.length
    · subst h2; simp [h1, hlen]
    · simp [h1, h2]

/-- On what it does not mark or allocate, `markedHeap` is the old heap. -/
theorem get?_markedHeap_old {h : Heap} {o : Nat} {b : Bag} (hb : h.get? o = some b) (mut' : Int)
    (wl : Bool) {x : Nat} (hx : h.Allocated x) (hxo : x ≠ o) :
    (markedHeap K h o b mut' wl).get? x = h.get? x := by
  rw [get?_markedHeap hb, if_neg hxo, if_neg (hx.ne_handle (le_refl _)),
    if_neg (hx.ne_handle (Nat.le_succ _))]

theorem word_markedHeap_old {h : Heap} {o : Nat} {b : Bag} (hb : h.get? o = some b) (mut' : Int)
    (wl : Bool) {x : Nat} (hx : h.Allocated x) (hxo : x ≠ o) (i : Nat) :
    (markedHeap K h o b mut' wl).word x i = h.word x i := by
  simp only [word, get?_markedHeap_old hb mut' wl hx hxo]

theorem isMarked_markedHeap {h : Heap} {o : Nat} {b : Bag} (hb : h.get? o = some b)
    (hs : K.isStructural b.tnum) (mut' : Int) (wl : Bool) (x : Nat) :
    isMarked K (markedHeap K h o b mut' wl) x = true ↔ x = o ∨ isMarked K h x = true := by
  have hnc : ¬ K.isCopying b.tnum := fun hc => K.not_structural_of_copying hc hs
  have hpc : ¬ K.isCopying K.tPlist := fun hc =>
    K.not_copying_of_le_real (by have := K.plist_mem; have := K.com_mem
                                 unfold Tnums.lastRealTnum; omega) hc
  have hfree : ∀ k, h.bags.length ≤ k → isMarked K h (handle k) = false := fun k hk => by
    simp [isMarked, get?_handle, List.getElem?_eq_none hk]
  rw [isMarked_iff, get?_markedHeap hb]
  by_cases h1 : x = o
  · subst h1; simp [markBag, K.structural_add_copying hs]
  by_cases h2 : x = handle h.bags.length
  · subst h2; simp [h1, copyBag, hnc, hfree _ (le_refl _)]
  by_cases h3 : x = handle (h.bags.length + 1)
  · subst h3; simp [h1, h2, plistBag, hpc, hfree _ (Nat.le_succ _)]
  simp [h1, h2, h3, isMarked_iff]

/-- A record or a copy that already exists is allocated, and is not the
original being marked. -/
theorem CopyInv.fwd_alloc {h : Heap} (hi : CopyInv K h0 r h) {x : Nat}
    (hx : isMarked K h x = true) :
    h.Allocated (h.word x 0) ∧ h.Allocated (fwdCopy h x) ∧ h.Allocated x := by
  obtain ⟨bx, -, -, fw⟩ := hi.orig x hx
  exact ⟨allocated_of_get? fw.plist, fw.copy_alloc, allocated_of_get? fw.marked⟩

section Mark

variable {h : Heap} (hi : CopyInv K h0 r h) {o : Nat} {b : Bag} (hb : h.get? o = some b)
  (hs : K.isStructural b.tnum) (mut' : Int) (wl : Bool)

include hi hb hs in
/-- Marking `o` does not move the record or the copy of an object marked before. -/
theorem CopyInv.mark_old {x : Nat} (hx : isMarked K h x = true) :
    x ≠ o ∧ (markedHeap K h o b mut' wl).word x 0 = h.word x 0 ∧
      fwdCopy (markedHeap K h o b mut' wl) x = fwdCopy h x := by
  obtain ⟨bx, -, -, fw⟩ := hi.orig x hx
  obtain ⟨hpa, -, hxa⟩ := hi.fwd_alloc hx
  have hxo : x ≠ o := by
    rintro rfl; rw [isMarked_of_get? K hb] at hx
    exact K.not_structural_of_copying (of_decide_eq_true hx) hs
  have hpo : h.word x 0 ≠ o := by
    intro he
    have hp := fw.plist
    rw [he, hb, Option.some.injEq] at hp
    rw [hp] at hs; exact plist_not_structural K hs
  have hw := word_markedHeap_old (K := K) hb mut' wl hxa hxo 0
  refine ⟨hxo, hw, ?_⟩
  change (markedHeap K h o b mut' wl).word ((markedHeap K h o b mut' wl).word x 0) 2 = _
  rw [hw, word_markedHeap_old (K := K) hb mut' wl hpa hpo]; rfl

include hb in
/-- After marking, `o`'s record is the new plain list and its copy the new bag. -/
theorem markedHeap_fwd :
    (markedHeap K h o b mut' wl).word o 0 = handle (h.bags.length + 1) ∧
      fwdCopy (markedHeap K h o b mut' wl) o = handle h.bags.length := by
  have hlen : handle (h.bags.length + 1) ≠ handle h.bags.length := fun he => by
    have := handle_injective he; omega
  have ho := allocated_of_get? hb
  have hw : (markedHeap K h o b mut' wl).word o 0 = handle (h.bags.length + 1) := by
    rw [word_of_get? (markedHeap_get? K hb mut' wl)]; simp [markBag]
  refine ⟨hw, ?_⟩
  change (markedHeap K h o b mut' wl).word ((markedHeap K h o b mut' wl).word o 0) 2 = _
  rw [hw, word_def, get?_markedHeap hb, if_neg (ho.ne_handle (Nat.le_succ _)).symm, if_neg hlen,
    if_pos rfl]
  rfl

include hi hb hs in
/-- Marking an unmarked original of `M(r)` keeps the invariant. -/
theorem CopyInv.mark (hb0 : h0.get? o = some b) (hM : InM K h0 r o) :
    CopyInv K h0 r (markedHeap K h o b mut' wl) := by
  have hlen0 := hi.frame.length_le
  have hfresh : ∀ k, h.bags.length ≤ k → ¬ h0.Allocated (handle k) := fun k hk ha =>
    ha.ne_handle (by omega) rfl
  obtain ⟨hwo, hfo⟩ := markedHeap_fwd (K := K) hb mut' wl
  have hlen : handle h.bags.length ≠ handle (h.bags.length + 1) := fun he => by
    have := handle_injective he; omega
  have hmk := isMarked_markedHeap hb hs mut' wl
  refine ⟨hi.frame.trans (markedHeap_frame K hb (allocated_of_get? hb0) hs mut' wl),
    fun x hx => ?_, fun x y hx hy => ?_, fun x y hx hy => ?_⟩
  · rcases (hmk x).mp hx with rfl | hx
    · refine ⟨b, hb0, hM, hwo ▸ markedHeap_get? K hb mut' wl, ?_, by rw [hwo]; exact hfresh _ (by omega),
        by rw [hfo]; exact hfresh _ le_rfl, ?_⟩
      · rw [hwo, hfo, get?_markedHeap hb, if_neg ((allocated_of_get? hb).ne_handle (Nat.le_succ _)).symm,
          if_neg hlen.symm, if_pos rfl, hi.frame.region]
      · rw [hfo]; unfold Allocated
        rw [get?_markedHeap hb, if_neg ((allocated_of_get? hb).ne_handle le_rfl).symm, if_pos rfl]
        rfl
    · obtain ⟨bx, hbx, hMx, fw⟩ := hi.orig x hx
      obtain ⟨hxo, hw, hf⟩ := hi.mark_old hb hs mut' wl hx
      obtain ⟨hpa, hca, hxa⟩ := hi.fwd_alloc hx
      have hco : fwdCopy h x ≠ o := fun he => fw.copy_fresh (he ▸ allocated_of_get? hb0)
      refine ⟨bx, hbx, hMx, ⟨?_, ?_, hw ▸ fw.plist_fresh, hf ▸ fw.copy_fresh, ?_⟩⟩
      · rw [hw, get?_markedHeap_old hb mut' wl hxa hxo]; exact fw.marked
      · have hpo : h.word x 0 ≠ o := fun he => by
          have hp := fw.plist; rw [he, hb, Option.some.injEq] at hp
          rw [hp] at hs; exact plist_not_structural K hs
        rw [hw, hf, get?_markedHeap_old hb mut' wl hpa hpo]; exact fw.plist
      · rw [hf]; unfold Allocated; rw [get?_markedHeap_old hb mut' wl hca hco]; exact hca
  · rcases (hmk x).mp hx with rfl | hx' <;> rcases (hmk y).mp hy with rfl | hy'
    · exact fun _ => rfl
    · rw [hfo, (hi.mark_old hb hs mut' wl hy').2.2]
      exact fun he => absurd he.symm ((hi.fwd_alloc hy').2.1.ne_handle le_rfl)
    · rw [hfo, (hi.mark_old hb hs mut' wl hx').2.2]
      exact fun he => absurd he ((hi.fwd_alloc hx').2.1.ne_handle le_rfl)
    · rw [(hi.mark_old hb hs mut' wl hx').2.2, (hi.mark_old hb hs mut' wl hy').2.2]
      exact hi.inj x y hx' hy'
  · rcases (hmk x).mp hx with rfl | hx' <;> rcases (hmk y).mp hy with rfl | hy'
    · rw [hfo, hwo]; exact hlen
    · rw [hfo, (hi.mark_old hb hs mut' wl hy').2.1]
      exact fun he => (hi.fwd_alloc hy').1.ne_handle le_rfl he.symm
    · rw [hwo, (hi.mark_old hb hs mut' wl hx').2.2]
      exact (hi.fwd_alloc hx').2.1.ne_handle (Nat.le_succ _)
    · rw [(hi.mark_old hb hs mut' wl hx').2.2, (hi.mark_old hb hs mut' wl hy').2.1]
      exact hi.disj x y hx' hy'

end Mark

/-! ## Filling a copy -/

/-- The copy while its slots are filled in: `final` below `n`, the freshly
made copy `start` from `n` on. -/
def mixBag (start final : Bag) (n : Nat) : Bag :=
  { start with words := fun j => if j < n then final.words j else start.words j }

theorem mixBag_setWord (start final : Bag) (n : Nat) :
    (mixBag start final n).setWord n (final.words n) = mixBag start final (n + 1) := by
  refine Bag.ext' rfl rfl (funext fun j => ?_) rfl
  simp only [mixBag, Bag.setWord_words]
  by_cases hj : j = n
  · subst hj; simp
  · by_cases hlt : j < n
    · simp [hj, hlt, show j < n + 1 by omega]
    · simp [hj, hlt, show ¬ j < n + 1 by omega]

theorem mixBag_succ {start final : Bag} {n : Nat} (h : final.words n = start.words n) :
    mixBag start final (n + 1) = mixBag start final n := by
  refine Bag.ext' rfl rfl (funext fun j => ?_) rfl
  simp only [mixBag]
  by_cases hj : j = n
  · subst hj; simp [h]
  · by_cases hlt : j < n
    · simp [hlt, show j < n + 1 by omega]
    · simp [hlt, show ¬ j < n + 1 by omega]

theorem mixBag_congr {start f g : Bag} {n : Nat} (h : ∀ j, j < n → f.words j = g.words j) :
    mixBag start f n = mixBag start g n := by
  refine Bag.ext' rfl rfl (funext fun j => ?_) rfl
  simp only [mixBag]; split_ifs with hj
  · exact h j hj
  · rfl

/-- Once the words from `n` on agree, the filled copy is `final`. -/
theorem mixBag_full {start final : Bag} {n : Nat} (ht : start.tnum = final.tnum)
    (hs : start.size = final.size) (hr : start.region = final.region)
    (h : ∀ j, n ≤ j → start.words j = final.words j) : mixBag start final n = final := by
  refine Bag.ext' ht hs (funext fun j => ?_) hr
  simp only [mixBag]; split_ifs with hj
  · rfl
  · exact h j (by omega)

variable (K) in
/-- Slot `j` of a copy of `b` holds the image of a subvalue: a slot of a
positional object, or a value of a component object. -/
def SlotIsValue (b : Bag) (j : Nat) : Prop :=
  b.tnum = K.tPosObj ∨ (b.tnum = K.tComObj ∧ j % 2 = 1 ∧ 1 < j)

theorem copiedBag_words_congr (mut' : Int) {b : Bag} {f g : Nat → Nat} {n : Nat}
    (hfg : ∀ j, 1 ≤ j → j < n → SlotIsValue K b j → f (b.words j) = g (b.words j))
    (region : Option Region) :
    ∀ j, j < n → (copiedBag K mut' b f region).words j = (copiedBag K mut' b g region).words j := by
  intro j hj
  simp only [copiedBag]
  by_cases hj0 : j = 0
  · simp [hj0]
  by_cases hpos : b.tnum = K.tPosObj
  · simp only [if_neg hj0, if_pos hpos]
    split_ifs
    · exact hfg j (by omega) hj (.inl hpos)
    · rfl
  by_cases hcom : b.tnum = K.tComObj
  · simp only [if_neg hj0, if_neg hpos, if_pos hcom]
    split_ifs with h1 h2 h3
    · rfl
    · rfl
    · exact hfg j (by omega) hj (.inr ⟨hcom, by omega, by omega⟩)
    · rfl
  · simp only [if_neg hj0, if_neg hpos, if_neg hcom]

theorem mixBag_of_agree {start final : Bag} {n : Nat} (h : ∀ j, j < n → final.words j = start.words j) :
    mixBag start final n = start := by
  refine Bag.ext' rfl rfl (funext fun j => ?_) rfl
  simp only [mixBag]; split_ifs with hj
  · exact h j hj
  · rfl

section Fill

variable (mut' : Int) (h : Heap) (o : Nat) (bx start : Bag)

variable (K h0 r) in
/-- The state of a structural body of `o` (original bag `bx`, started on `h`)
once the words of its copy below `n` are final: the invariant, `o` marked
with the new copy, every other object marked since `h` finished, the mutable
subvalues below `n` marked, and the copy `start` filled below `n`. -/
structure FillInv (n : Nat) (hk : Heap) : Prop where
  inv : CopyInv K h0 r hk
  frame : Frame K h0 h hk
  marked : isMarked K hk o = true
  copy : fwdCopy hk o = handle h.bags.length
  done : ∀ x, isMarked K hk x = true → isMarked K h x = false → x ≠ o → Complete K h0 mut' hk x
  slots : ∀ j, 1 ≤ j → j < n → SlotIsValue K bx j → IsMutable K h0 (bx.words j) →
    isMarked K hk (bx.words j) = true
  bag : hk.get? (handle h.bags.length) =
    some (mixBag start (copiedBag K mut' bx (img K hk) h0.curRegion) n)

variable {mut' h o bx start}

/-- A recursive call keeps the state of the body that made it. -/
theorem FillInv.call {n : Nat} {hk h' : Heap} (fi : FillInv K h0 r mut' h o bx start n hk)
    (hi' : CopyInv K h0 r h') (f : Frame K h0 hk h')
    (hnew : ∀ x, isMarked K h' x = true → isMarked K hk x = false → Complete K h0 mut' h' x) :
    FillInv K h0 r mut' h o bx start n h' := by
  obtain ⟨hm', -, hc'⟩ := fi.inv.stable f fi.marked
  obtain ⟨bo, -, -, fwo⟩ := fi.inv.orig o fi.marked
  refine ⟨hi', fi.frame.trans f, hm', hc'.trans fi.copy, fun x hx hxh hxo => ?_,
    fun j h1 h2 hsl hm => (fi.inv.stable f (fi.slots j h1 h2 hsl hm)).1, ?_⟩
  · cases hxk : isMarked K hk x
    · exact hnew x hx hxk
    · exact (fi.done x hxk hxh hxo).mono fi.inv hi' f
  · rw [f.get?_of_fresh fi.bag (fi.copy ▸ fwo.copy_fresh)]
    refine congrArg some (mixBag_congr (copiedBag_words_congr mut' (fun j h1 h2 hsl => ?_) _))
    by_cases hm : IsMutable K h0 (bx.words j)
    · exact (fi.inv.img_eq hi' f (.inl (fi.slots j h1 h2 hsl hm))).symm
    · exact (fi.inv.img_eq hi' f (.inr hm)).symm

/-- Writing the final value of word `n` into the copy. -/
theorem FillInv.write {n : Nat} {hk : Heap} (fi : FillInv K h0 r mut' h o bx start n hk) (w : Nat)
    (hw : w = (copiedBag K mut' bx (img K hk) h0.curRegion).words n)
    (hslot : SlotIsValue K bx n → IsMutable K h0 (bx.words n) → isMarked K hk (bx.words n) = true) :
    FillInv K h0 r mut' h o bx start (n + 1) (hk.modify (handle h.bags.length) (·.setWord n w)) := by
  rw [← fi.copy]
  have hmk := isMarked_write (K := K) hk (fwdCopy hk o) n w
  refine ⟨fi.inv.write fi.marked n w,
    fi.frame.modify_fresh (fi.copy ▸ alloc_handle_not_allocated h) _, (hmk o).trans fi.marked,
    (fi.inv.write_fwd fi.marked fi.marked n w).2.trans fi.copy, fun x hx hxh hxo => ?_,
    fun j h1 h2 hsl hm => ?_, ?_⟩
  · rw [hmk] at hx
    exact (fi.done x hx hxh hxo).write fi.inv fi.marked hxo n w
  · rw [hmk]
    rcases Nat.lt_succ_iff_lt_or_eq.mp h2 with h2 | rfl
    · exact fi.slots j h1 h2 hsl hm
    · exact hslot hsl hm
  · rw [fi.inv.img_write fi.marked, get?_modify, if_pos fi.copy.symm, fi.copy, fi.bag, hw]
    exact congrArg some (mixBag_setWord _ _ n)

/-- Passing over a word the copy already holds. -/
theorem FillInv.skip {n : Nat} {hk : Heap} (fi : FillInv K h0 r mut' h o bx start n hk)
    (hw : (copiedBag K mut' bx (img K hk) h0.curRegion).words n = start.words n)
    (hslot : SlotIsValue K bx n → ¬ IsMutable K h0 (bx.words n)) :
    FillInv K h0 r mut' h o bx start (n + 1) hk := by
  refine ⟨fi.inv, fi.frame, fi.marked, fi.copy, fi.done, fun j h1 h2 hsl hm => ?_, ?_⟩
  · rcases Nat.lt_succ_iff_lt_or_eq.mp h2 with h2 | rfl
    · exact fi.slots j h1 h2 hsl hm
    · exact absurd hm (hslot hsl)
  · rw [fi.bag, mixBag_succ hw]

/-- A marked original still holds its own words past the first. -/
theorem CopyInv.word_marked {hk : Heap} (hi : CopyInv K h0 r hk) {x : Nat} {bx : Bag}
    (hx : isMarked K hk x = true) (hb0 : h0.get? x = some bx) {i : Nat} (hi0 : i ≠ 0) :
    hk.word x i = bx.words i := by
  obtain ⟨bx', hbx', -, fw⟩ := hi.orig x hx
  rw [hb0] at hbx'; cases hbx'
  rw [word_of_get? fw.marked, markBag_words K hi0]

/-- The state right after `o` is marked and its copy made. -/
theorem FillInv.init (hi : CopyInv K h0 r h) (hb : h.get? o = some bx) (hb0 : h0.get? o = some bx)
    (hs : K.isStructural bx.tnum) (hM : InM K h0 r o) (wl : Bool) :
    FillInv K h0 r mut' h o bx (copyBag K bx mut' wl h.curRegion) 1 (markedHeap K h o bx mut' wl) := by
  have hmk := isMarked_markedHeap hb hs mut' wl
  refine ⟨hi.mark hb hs mut' wl hb0 hM, markedHeap_frame K hb (allocated_of_get? hb0) hs mut' wl,
    (hmk o).mpr (.inl rfl), (markedHeap_fwd hb mut' wl).2, fun x hx hxh hxo => ?_,
    fun j h1 h2 => absurd h2 (by omega), ?_⟩
  · rcases (hmk x).mp hx with rfl | hx
    · exact absurd rfl hxo
    · rw [hx] at hxh; cases hxh
  · rw [get?_markedHeap hb, if_neg ((allocated_of_get? hb).ne_handle le_rfl).symm, if_pos rfl]
    refine congrArg some (mixBag_of_agree fun j hj => ?_).symm
    obtain rfl : j = 0 := by omega
    rfl

/-- Once the copy is filled to its end, `o` is finished. -/
theorem FillInv.complete {n : Nat} {hk : Heap} (fi : FillInv K h0 r mut' h o bx start n hk)
    (hb0 : h0.get? o = some bx) (ht : start.tnum = bx.tnum) (hs : start.size = bx.size)
    (hr : start.region = h0.curRegion)
    (hrest : ∀ j, n ≤ j → start.words j = (copiedBag K mut' bx (img K hk) h0.curRegion).words j)
    (hch : ∀ c, IsChild K bx c → ∃ j, 1 ≤ j ∧ j < n ∧ SlotIsValue K bx j ∧ c = bx.words j) :
    Complete K h0 mut' hk o := by
  refine ⟨bx, hb0, fi.marked, fun c hc hm => ?_, ?_⟩
  · obtain ⟨j, h1, h2, hsl, rfl⟩ := hch c hc
    exact fi.slots j h1 h2 hsl hm
  · have hfull : mixBag start (copiedBag K mut' bx (img K hk) h0.curRegion) n =
        copiedBag K mut' bx (img K hk) h0.curRegion := mixBag_full ht hs hr hrest
    rw [fi.copy, fi.bag, hfull]

end Fill

/-! ## A call of the copy -/

variable (K h0 r) (mut' : Int)

/-- What a copy call on `o` from `h` that returns `v` on `h'` establishes: the
invariant, the frame, the result is the image of `o`, `o` is marked if it is
mutable, and every object it marked is finished. -/
def CopyPost (h : Heap) (o v : Nat) (h' : Heap) : Prop :=
  CopyInv K h0 r h' ∧ Frame K h0 h h' ∧ v = img K h' o ∧
    (IsMutable K h0 o → isMarked K h' o = true) ∧
    ∀ x, isMarked K h' x = true → isMarked K h x = false → Complete K h0 mut' h' x

/-- A copy call either establishes `CopyPost` or runs out of fuel. -/
def CopyOk (h : Heap) (o : Nat) : EStateM.Result Err Heap Nat → Prop
  | .ok v h' => CopyPost K h0 r mut' h o v h'
  | .error e _ => e = .outOfFuel

/-- A loop either reaches `P` or runs out of fuel. -/
def LoopOk (P : Heap → Prop) : EStateM.Result Err Heap Unit → Prop
  | .ok _ h' => P h'
  | .error e _ => e = .outOfFuel

/-- What the structural bodies need of the recursive call. -/
def RecCorrect (rec : Nat → Int → Kern Nat) : Prop :=
  ∀ o h, CopyInv K h0 r h → OrigOrImm h0 o → Reached K h0 r o → (IsMutable K h0 o → InM K h0 r o) →
    CopyOk K h0 r mut' h o (rec o mut' h)

variable {K h0 r mut'}

/-- A call that leaves the heap as it is and returns `o` itself. -/
theorem copyPost_self {h : Heap} (hi : CopyInv K h0 r h) {o : Nat} (ho : isMarked K h o = false)
    (hm : ¬ IsMutable K h0 o) : CopyPost K h0 r mut' h o o h :=
  ⟨hi, Frame.refl h0 h, by simp [img, ho], fun h' => absurd h' hm,
    fun x hx hx' => by rw [hx] at hx'; cases hx'⟩

/-- A call on a marked object returns its copy and changes nothing. -/
theorem copyPost_marked {h : Heap} (hi : CopyInv K h0 r h) {o : Nat} (ho : isMarked K h o = true) :
    CopyPost K h0 r mut' h o (fwdCopy h o) h :=
  ⟨hi, Frame.refl h0 h, by simp [img, ho], fun _ => ho, fun x hx hx' => by rw [hx] at hx'; cases hx'⟩

/-- A body whose copy is finished returns it. -/
theorem FillInv.post {n : Nat} {h hk : Heap} {o : Nat} {bx start : Bag}
    (fi : FillInv K h0 r mut' h o bx start n hk) (hc : Complete K h0 mut' hk o) :
    CopyPost K h0 r mut' h o (handle h.bags.length) hk := by
  refine ⟨fi.inv, fi.frame, by simp [img, fi.marked, fi.copy], fun _ => fi.marked,
    fun x hx hxh => ?_⟩
  by_cases hxo : x = o
  · subst hxo; exact hc
  · exact fi.done x hx hxh hxo

/-! ## The subvalue loops -/

section Loops

variable {rec : Nat → Int → Kern Nat} {h : Heap} {o : Nat} {bx start : Bag}

/-- The positional loop fills the slots it visits. -/
theorem copyPosSlots_correct (hcl : Closed K h0) (hrec : RecCorrect K h0 r mut' rec)
    (hb0 : h0.get? o = some bx) (hpos : bx.tnum = K.tPosObj) (hM : InM K h0 r o)
    (hstart : ∀ j, 1 ≤ j → start.words j = 0) :
    ∀ n i hk, FillInv K h0 r mut' h o bx start i hk → 1 ≤ i →
      (∀ j, i ≤ j → j < i + n → j < bx.size / wordSize) →
      LoopOk (FillInv K h0 r mut' h o bx start (i + n))
        (copyPosSlots rec o (handle h.bags.length) mut' n i hk) := by
  intro n
  induction n with
  | zero => intro i hk fi _ _; exact fi
  | succ n ih =>
    intro i hk fi hi hrange
    have hlt : i < bx.size / wordSize := hrange i le_rfl (by omega)
    have hw : hk.word o i = bx.words i := fi.inv.word_marked fi.marked hb0 (by omega)
    have hnext : ∀ hk', FillInv K h0 r mut' h o bx start (i + 1) hk' →
        LoopOk (FillInv K h0 r mut' h o bx start (i + (n + 1)))
          (copyPosSlots rec o (handle h.bags.length) mut' n (i + 1) hk') := fun hk' fi' => by
      have := ih (i + 1) hk' fi' (by omega) fun j h1 h2 => hrange j (by omega) (by omega)
      rwa [show i + 1 + n = i + (n + 1) by omega] at this
    by_cases hv : bx.words i = 0
    · -- an empty slot stays zero in the copy
      have fi' := fi.skip (by rw [copiedBag_words_pos K mut' hpos (by omega) hlt, hv, hstart i hi]
                              simp [img, isMarked_zero])
        (fun _ hm => by obtain ⟨b, hb, -⟩ := hm; rw [hv, get?_zero] at hb; cases hb)
      simpa [copyPosSlots, hw, hv] using hnext hk fi'
    · have hch : IsChild K bx (bx.words i) := .pos (.inl hpos) hi hlt hv
      simp only [copyPosSlots, readWord_bind, hw, ne_eq, hv, not_false_eq_true, if_true, bind_assoc]
      have hres := hrec (bx.words i) hk fi.inv (hcl o bx hb0 _ hch) (.child hM hb0 hch)
        (fun hm => .child hM hb0 hch hm)
      cases hr : rec (bx.words i) mut' hk with
      | error e h' => rw [Kern.bind_error hr]; rw [hr] at hres; exact hres
      | ok v h' =>
        rw [bind_of_ok hr, writeWord_bind]; rw [hr] at hres
        obtain ⟨hi', f', rfl, hmut, hnew⟩ := hres
        exact hnext _ ((fi.call hi' f' hnew).write _
          (copiedBag_words_pos K mut' hpos (by omega) hlt _ _).symm fun _ hm => hmut hm)

/-- The component loop copies the names and fills the values it visits. -/
theorem copyComEntries_correct (hcl : Closed K h0) (hrec : RecCorrect K h0 r mut' rec)
    (hb0 : h0.get? o = some bx) (hcom : bx.tnum = K.tComObj) (hM : InM K h0 r o) :
    ∀ n i hk, FillInv K h0 r mut' h o bx start (2 * i) hk → 1 ≤ i →
      (∀ j, i ≤ j → j < i + n → j ≤ bx.words 1) →
      LoopOk (FillInv K h0 r mut' h o bx start (2 * (i + n)))
        (copyComEntries rec o (handle h.bags.length) mut' n i hk) := by
  have hnpos : bx.tnum ≠ K.tPosObj := hcom ▸ K.com_ne_pos
  intro n
  induction n with
  | zero => intro i hk fi _ _; exact fi
  | succ n ih =>
    intro i hk fi hi hrange
    have hle : i ≤ bx.words 1 := hrange i le_rfl (by omega)
    have hwords := copiedBag_words_com K mut' hcom hi hle
    have hw : hk.word o (2 * i) = bx.words (2 * i) := fi.inv.word_marked fi.marked hb0 (by omega)
    -- the record name is copied as it is
    have fi1 := fi.write (bx.words (2 * i)) (hwords _ _).1.symm fun hsl =>
      absurd hsl (by unfold SlotIsValue; omega)
    have hw1 := fi1.inv.word_marked fi1.marked hb0 (show 2 * i + 1 ≠ 0 by omega)
    have hch : IsChild K bx (bx.words (2 * i + 1)) := .com (.inl hcom) hi hle
    simp only [copyComEntries, readWord_bind, writeWord_bind, bind_assoc, hw, hw1]
    have hres := hrec (bx.words (2 * i + 1)) _ fi1.inv (hcl o bx hb0 _ hch) (.child hM hb0 hch)
      (fun hm => .child hM hb0 hch hm)
    cases hr : rec (bx.words (2 * i + 1)) mut'
        ((hk.modify (handle h.bags.length) fun x => x.setWord (2 * i) (bx.words (2 * i)))) with
    | error e h' => rw [Kern.bind_error hr]; rw [hr] at hres; exact hres
    | ok v h' =>
      rw [bind_of_ok hr, writeWord_bind]; rw [hr] at hres
      obtain ⟨hi', f', rfl, hmut, hnew⟩ := hres
      have fi2 := (fi1.call hi' f' hnew).write _ (hwords _ _).2.symm fun _ hm => hmut hm
      have := ih (i + 1) _ (by rwa [show 2 * (i + 1) = 2 * i + 1 + 1 by omega]) (by omega)
        fun j h1 h2 => hrange j (by omega) (by omega)
      rwa [show i + 1 + n = i + (n + 1) by omega] at this

/-- The data loop copies the payload words it visits. -/
theorem copyDatWords_correct (hb0 : h0.get? o = some bx) (hdat : bx.tnum = K.tDatObj) :
    ∀ n j hk, FillInv K h0 r mut' h o bx start j hk → 1 ≤ j →
      (∀ k, j ≤ k → k < j + n → k ≤ datPayloadCount bx.size) →
      LoopOk (FillInv K h0 r mut' h o bx start (j + n))
        (copyDatWords o (handle h.bags.length) n j hk) := by
  have hslot : ∀ j, ¬ SlotIsValue K bx j := fun j hsl => by
    have := K.pos_ne_dat; have := K.com_ne_dat; unfold SlotIsValue at hsl; omega
  intro n
  induction n with
  | zero => intro j hk fi _ _; exact fi
  | succ n ih =>
    intro j hk fi hj hrange
    have hw : hk.word o j = bx.words j := fi.inv.word_marked fi.marked hb0 (by omega)
    simp only [copyDatWords, readWord_bind, writeWord_bind, hw]
    have := ih (j + 1) _ (fi.write _ (copiedBag_words_dat K mut' hdat (by omega)
      (hrange j le_rfl (by omega)) _ _).symm fun hsl => absurd hsl (hslot j)) (by omega)
      fun k h1 h2 => hrange k (by omega) (by omega)
    rwa [show j + 1 + n = j + (n + 1) by omega] at this

end Loops

/-! ## The structural bodies -/

section Bodies

variable {h : Heap} (hi : CopyInv K h0 r h) {o : Nat} {bx : Bag} (hb : h.get? o = some bx)
  (hb0 : h0.get? o = some bx) (hM : IsMutable K h0 o → InM K h0 r o)
  (hcopy : InM K h0 r o → K.copyableType (bx.words 0) = true)

include hi hb hb0 hM hcopy in
/-- A structural body: an immutable object is returned as it is; a mutable
one is marked, and its copy returned once the subvalue loop has filled it. -/
theorem copyStructural_correct (hs : K.isStructural bx.tnum) (wl : Bool)
    (sub : Nat → Nat → Int → Kern Unit) (N : Nat)
    (hsub : InM K h0 r o → LoopOk (FillInv K h0 r mut' h o bx (copyBag K bx mut' wl h.curRegion) N)
      (sub o (handle h.bags.length) mut' (markedHeap K h o bx mut' wl)))
    (hfin : ∀ hk, FillInv K h0 r mut' h o bx (copyBag K bx mut' wl h.curRegion) N hk →
      Complete K h0 mut' hk o) :
    CopyOk K h0 r mut' h o (copyStructural K wl sub o mut' h) := by
  have hnm : isMarked K h o = false := by
    rw [isMarked_of_get? K hb]; exact decide_eq_false fun hc => K.not_structural_of_copying hc hs
  cases hm : K.mutableType (bx.words 0)
  · rw [copyStructural_immutable K hb hs wl sub mut' hm]
    exact copyPost_self hi hnm fun ⟨b', hb', _, hm'⟩ => by
      rw [hb0] at hb'; cases hb'; rw [hm] at hm'; cases hm'
  · have hIn := hM ⟨bx, hb0, hs, hm⟩
    rw [copyStructural_copy K hb hs wl sub mut' hm (hcopy hIn)]
    have hl := hsub hIn
    cases hr : sub o (handle h.bags.length) mut' (markedHeap K h o bx mut' wl) with
    | error e h' => rw [Kern.bind_error hr]; rw [hr] at hl; exact hl
    | ok _ hk => rw [bind_of_ok hr]; rw [hr] at hl; exact hl.post (hfin hk hl)

variable {rec : Nat → Int → Kern Nat} (hcl : Closed K h0) (hrec : RecCorrect K h0 r mut' rec)

include hi hb hb0 hM hcopy hcl hrec in
theorem copyObjPosObj_correct (hpos : bx.tnum = K.tPosObj) :
    CopyOk K h0 r mut' h o (copyObjPosObj K rec o mut' h) := by
  have hs : K.isStructural bx.tnum := .inr (.inl hpos)
  have hreg : h.curRegion = h0.curRegion := hi.frame.region
  refine copyStructural_correct hi hb hb0 hM hcopy hs false _ (1 + (bx.size / wordSize - 1))
    (fun hIn => ?_) (fun hk fi => fi.complete hb0 rfl rfl hreg (fun j hj => ?_) (fun c hc => ?_))
  · rw [sizeOf_bind, sizeObj_of_get? (markedHeap_get? K hb mut' false), markBag_size]
    exact copyPosSlots_correct hcl hrec hb0 hpos hIn (fun j hj => by
        simp only [copyBag, if_neg (show j ≠ 0 by omega), Bool.false_eq_true, and_false, if_false])
      _ 1 _ (FillInv.init hi hb hb0 hs hIn false) le_rfl fun j h1 h2 => by omega
  · simp only [copyBag, copiedBag, if_neg (show j ≠ 0 by omega), if_pos hpos, Bool.false_eq_true,
      and_false, if_false, if_neg (show ¬ j < bx.size / wordSize by omega)]
  · cases hc with
    | pos _ h1 h2 _ => exact ⟨_, h1, by omega, .inl hpos, rfl⟩
    | com hk =>
      have := K.com_ne_pos
      have := comKind_of_le_real K (K.structural_le_real hs).2 hk
      omega

include hi hb hb0 hM hcopy hcl hrec in
theorem copyObjComObj_correct (hcom : bx.tnum = K.tComObj) :
    CopyOk K h0 r mut' h o (copyObjComObj K rec o mut' h) := by
  have hs : K.isStructural bx.tnum := .inl hcom
  have hnpos : bx.tnum ≠ K.tPosObj := hcom ▸ K.com_ne_pos
  have hreg : h.curRegion = h0.curRegion := hi.frame.region
  refine copyStructural_correct hi hb hb0 hM hcopy hs true _ (2 * (1 + bx.words 1))
    (fun hIn => ?_) (fun hk fi => fi.complete hb0 rfl rfl hreg (fun j hj => ?_) (fun c hc => ?_))
  · rw [readWord_bind, word_of_get? (markedHeap_get? K hb mut' true), markBag_words K one_ne_zero]
    -- `LEN_PREC` is already in the fresh copy
    have fi : FillInv K h0 r mut' h o bx (copyBag K bx mut' true h.curRegion) (2 * 1)
        (markedHeap K h o bx mut' true) := (FillInv.init hi hb hb0 hs hIn true).skip
      (by simp only [copyBag, copiedBag, if_neg one_ne_zero, if_neg hnpos, if_pos hcom, if_true,
            and_self])
      fun hsl => absurd hsl (by unfold SlotIsValue; omega)
    exact copyComEntries_correct hcl hrec hb0 hcom hIn _ 1 _ fi le_rfl fun j h1 h2 => by omega
  · simp only [copyBag, copiedBag, if_neg (show j ≠ 0 by omega), if_neg hnpos, if_pos hcom,
      if_neg (show j ≠ 1 by omega), if_neg (show ¬ j ≤ 2 * bx.words 1 + 1 by omega), and_true,
      if_false]
  · cases hc with
    | pos hk =>
      have := posKind_of_le_real K (K.structural_le_real hs).2 hk
      omega
    | @com i _ h1 h2 => exact ⟨2 * i + 1, by omega, by omega, .inr ⟨hcom, by omega, by omega⟩, rfl⟩

include hi hb hb0 hM hcopy in
theorem copyObjDatObj_correct (hdat : bx.tnum = K.tDatObj) :
    CopyOk K h0 r mut' h o (copyObjDatObj K o mut' h) := by
  have hs : K.isStructural bx.tnum := .inr (.inr hdat)
  have hnpos : bx.tnum ≠ K.tPosObj := hdat ▸ K.pos_ne_dat.symm
  have hncom : bx.tnum ≠ K.tComObj := hdat ▸ K.com_ne_dat.symm
  have hreg : h.curRegion = h0.curRegion := hi.frame.region
  refine copyStructural_correct hi hb hb0 hM hcopy hs false _ (1 + datPayloadCount bx.size)
    (fun hIn => ?_) (fun hk fi => fi.complete hb0 rfl rfl hreg (fun j hj => ?_) (fun c hc => ?_))
  · rw [sizeOf_bind, sizeObj_of_get? (markedHeap_get? K hb mut' false), markBag_size]
    exact copyDatWords_correct hb0 hdat _ 1 _ (FillInv.init hi hb hb0 hs hIn false) le_rfl
      fun k h1 h2 => by omega
  · simp only [copyBag, copiedBag, if_neg (show j ≠ 0 by omega), if_neg hnpos, if_neg hncom,
      Bool.false_eq_true, and_false, if_false, if_neg (show ¬ j ≤ datPayloadCount bx.size by omega)]
  · cases hc with
    | pos hk => have := posKind_of_le_real K (K.structural_le_real hs).2 hk; omega
    | com hk => have := comKind_of_le_real K (K.structural_le_real hs).2 hk; omega

end Bodies

/-! ## The dispatch -/

theorem get?_immediate (h : Heap) {o : Nat} (himm : isImmediate o = true) : h.get? o = none := by
  have : isBagRef o = false := by
    cases hr : isBagRef o
    · rfl
    · rw [isImmediate_of_isBagRef hr] at himm; cases himm
  simp [get?, this]

theorem tnumObj_immediate (h : Heap) {o : Nat} (himm : isImmediate o = true) :
    ∃ t, tnumObj K h o = some t ∧ t ≤ K.lastConstantTnum := by
  unfold tnumObj
  split_ifs
  · exact ⟨_, rfl, K.int_le⟩
  · exact ⟨_, rfl, K.ffe_le⟩
  · simp_all [isImmediate]

theorem copyObjFuncs_const {t : Nat} (ht : t ≤ K.lastConstantTnum) (rec : Nat → Int → Kern Nat) :
    copyObjFuncs K t rec = copyObjConstant := by
  simp only [copyObjFuncs, if_pos ht]

theorem copyObjFuncs_copying {u : Nat} (hs : K.isStructural u) (rec : Nat → Int → Kern Nat) :
    copyObjFuncs K (u + K.copying) rec = copyObjCopy := by
  obtain ⟨h1, h2⟩ := K.copying_not_low (K.structural_add_copying hs)
  unfold Tnums.isStructural at h2
  have := K.com_ne_pos; have := K.com_ne_dat; have := K.pos_ne_dat
  -- past the constants and the structural entries, to the entry of `u`
  rcases hs with rfl | rfl | rfl
  · rw [copyObjFuncs, if_neg h1, if_neg, if_neg, if_neg, if_neg, if_pos rfl] <;> first | rfl | omega
  · rw [copyObjFuncs, if_neg h1, if_neg, if_neg, if_neg, if_pos rfl] <;> first | rfl | omega
  · rw [copyObjFuncs, if_neg h1, if_neg, if_neg, if_neg, if_neg, if_neg, if_pos rfl] <;>
      first | rfl | omega

/-- Each call of `COPY_OBJ` keeps the invariant and returns the image of its
argument, from any heap of a copy run, given fuel. -/
theorem copyObjDispatch_correct (hcl : Closed K h0) (hkinds : PlainReach K h0 r)
    (hcopyable : ∀ x b, InM K h0 r x → h0.get? x = some b → K.copyableType (b.words 0) = true) :
    ∀ fuel, RecCorrect K h0 r mut' (copyObjDispatch K fuel)
  | 0 => fun _ _ _ _ _ _ => rfl
  | fuel + 1 => by
    intro o h hi ho hR hM
    have hrec := copyObjDispatch_correct hcl hkinds hcopyable fuel
    rcases ho with himm | horig
    · -- an immediate is returned as it is
      obtain ⟨t, ht, hle⟩ := tnumObj_immediate (K := K) h himm
      simp only [copyObjDispatch, tnumOf_bind K _ ht, copyObjFuncs_const hle]
      exact copyPost_self hi (by simp [isMarked, get?_immediate h himm])
        fun ⟨b, hb, _⟩ => by rw [get?_immediate h0 himm] at hb; cases hb
    obtain ⟨bx, hb0⟩ := Option.isSome_iff_exists.mp horig
    cases hmk : isMarked K h o
    · -- an unmarked original: a constant, or a structural body
      have hb : h.get? o = some bx := (hi.frame.old o bx hb0).resolve_right
        fun ⟨_, b', hb', hm⟩ => by
          rw [isMarked_of_get? K hb', hm.tnum] at hmk
          exact absurd (K.structural_add_copying hm.structural) (of_decide_eq_false hmk)
      simp only [copyObjDispatch, tnumOf_bind K _ (tnumObj_of_get? K hb)]
      rcases hkinds o bx hR hb0 with hle | hs
      · rw [copyObjFuncs_const hle]
        exact copyPost_self hi hmk fun ⟨b, hb', hs, _⟩ => by
          rw [hb0] at hb'; cases hb'; exact (structural_filters K hs).1 hle
      have hcopy := fun hIn => hcopyable o bx hIn hb0
      rcases id hs with hcom | hpos | hdat
      · rw [hcom, copyObjFuncs_com]; exact copyObjComObj_correct hi hb hb0 hM hcopy hcl hrec hcom
      · rw [hpos, copyObjFuncs_pos]; exact copyObjPosObj_correct hi hb hb0 hM hcopy hcl hrec hpos
      · rw [hdat, copyObjFuncs_dat]; exact copyObjDatObj_correct hi hb hb0 hM hcopy hdat
    · -- a marked original: the copy its forwarding record points at
      obtain ⟨bx', -, -, fw⟩ := hi.orig o hmk
      obtain ⟨u, hu, hue⟩ := fw.copying hmk
      simp only [copyObjDispatch, tnumOf_bind K _ (tnumObj_of_get? K fw.marked)]
      rw [hue, copyObjFuncs_copying hu]
      exact copyPost_marked hi hmk

end

end GapObjects
