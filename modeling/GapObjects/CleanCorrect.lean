import GapObjects.CopyCorrect

/-!
# The clean pass restores the source, and `CopyObj` is a deep copy

`CLEAN_OBJ(r)` runs after `COPY_OBJ(r, mut)`; it starts from the root and
stops at every unmarked object. Each call unmarks its argument first and then
cleans the subvalues of the restored original, which are the subvalues the
copy followed (`CleanPost`). So the clean reaches every object the copy
marked, and:

* `copyObj_deep_copy`: `CopyObj(r, mut)` returns the image of `r` under a map
  that is injective on `M(r)`, sends each of its objects to a fresh bag holding
  `copiedBag`, and is the identity elsewhere;
* `copyObj_restores_source`: afterwards every bag of the source heap is as it
  was, and no bag carries `COPYING`.
-/

namespace GapObjects

open Heap

section

variable {K : Kernel} {h0 : Heap}

variable (K h0) in
/-- The heaps `CopyObj` starts from: no bag carries `COPYING`, as between two
copies; what the copy reaches is constrained by `PlainReach` alone. -/
def PlainHeap : Prop :=
  ∀ o b, h0.get? o = some b → ¬ K.isCopying b.tnum

/-! ## What cleaning does to marks -/

section Frame

variable {h h' : Heap} (f : CleanFrame K h h')
include f

/-- Cleaning marks nothing. -/
theorem CleanFrame.isMarked_of {x : Nat} (hx : isMarked K h' x = true) : isMarked K h x = true := by
  obtain ⟨b', hb', hc⟩ := (isMarked_iff K).mp hx
  obtain ⟨k, rfl, hk⟩ := get?_eq_some hb'
  obtain ⟨b, hb⟩ := exists_get?_handle (h := h)
    (by rw [← f.length]; exact (List.getElem?_eq_some_iff.mp hk).1)
  rcases f.old _ b hb with hb2 | ⟨b2, hb2, hu, -⟩
  · rw [hb'] at hb2; cases hb2; exact (isMarked_iff K).mpr ⟨_, hb, hc⟩
  · rw [hb'] at hb2; cases hb2; exact absurd hc (hu.not_copying K)

theorem CleanFrame.unmarked {x : Nat} (hx : isMarked K h x = false) : isMarked K h' x = false := by
  cases hx' : isMarked K h' x with
  | false => rfl
  | true => rw [f.isMarked_of hx'] at hx; cases hx

/-- Cleaning leaves an unmarked bag alone. -/
theorem CleanFrame.get?_of_not_copying {o : Nat} {b : Bag} (hb : h.get? o = some b)
    (hnc : ¬ K.isCopying b.tnum) : h'.get? o = some b :=
  (f.old o b hb).resolve_right fun ⟨_, _, hu, _⟩ => hnc hu.copying

end Frame

/-! ## The heaps of a clean run -/

variable (K h0) in
/-- Between two steps of the clean run that follows `COPY_OBJ(r)` every
original of `h0` is as it was, or is the structural `bx` of `M(r)` marked,
with a forwarding record whose word 1 holds its first word. -/
def CleanInv (r : Nat) (h : Heap) : Prop :=
  ∀ x bx, h0.get? x = some bx → h.get? x = some bx ∨
    ∃ p, h.get? x = some (markBag K bx p) ∧ h.word p 1 = bx.words 0 ∧ K.isStructural bx.tnum ∧
      InM K h0 r x

theorem unmarkBag_markBag (b : Bag) (p : Nat) : unmarkBag K (markBag K b p) (b.words 0) = b := by
  refine Bag.ext' (Nat.add_sub_cancel ..) rfl (funext fun i => ?_) rfl
  by_cases hi : i = 0 <;> simp [unmarkBag, markBag, hi]

/-- A copy run ends on a heap of a clean run: each marked original has its
forwarding record. -/
theorem CopyInv.cleanInv {r : Nat} {h : Heap} (hi : CopyInv K h0 r h) : CleanInv K h0 r h := by
  intro x bx hx0
  rcases hi.frame.old x bx hx0 with hb | ⟨-, b', hb', hm⟩
  · exact .inl hb
  obtain ⟨bx', hbx', hIn, fw⟩ :=
    hi.orig x ((isMarked_iff K).mpr ⟨b', hb', _, hm.structural, hm.tnum⟩)
  rw [hx0] at hbx'; cases hbx'
  refine .inr ⟨_, fw.marked, ?_, hm.structural, hIn⟩
  rw [word_of_get? fw.plist]; rfl

theorem CleanInv.frame (hp : PlainHeap K h0) {r : Nat} {h h' : Heap} (ci : CleanInv K h0 r h)
    (f : CleanFrame K h h') : CleanInv K h0 r h' := by
  intro x bx hx0
  rcases ci x bx hx0 with hb | ⟨p, hb, hw1, hs, hM⟩
  · exact .inl (f.get?_of_not_copying hb (hp _ _ hx0))
  rcases f.old x _ hb with hb' | ⟨b', hb', hu, hw⟩
  · exact .inr ⟨p, hb', by rw [f.word_ne_zero p one_ne_zero, hw1], hs, hM⟩
  -- the clean restored `x`: its first word came back from the record
  refine .inl (hb'.trans (congrArg some (Bag.ext' ?_ hu.size (funext fun i => ?_) hu.region)))
  · rw [hu.tnum]; exact Nat.add_sub_cancel ..
  · by_cases hi : i = 0
    · subst hi; rw [hw, ← hw1]; simp [markBag]
    · rw [hu.words i hi, markBag_words K hi]

/-! ## A call of the clean -/

variable (K h0)

/-- What a clean call on `o` from `h` that ends on `h'` establishes: the clean
frame, `o` unmarked, and the subvalues of every original it unmarked
unmarked too. -/
def CleanPost (h : Heap) (o : Nat) (h' : Heap) : Prop :=
  CleanFrame K h h' ∧ isMarked K h' o = false ∧
    ∀ x bx, h0.get? x = some bx → isMarked K h x = true → isMarked K h' x = false →
      ∀ c, IsChild K bx c → isMarked K h' c = false

/-- What the clean bodies need of the recursive call. -/
def RecCleanCorrect (r : Nat) (rec : Nat → Kern Unit) : Prop :=
  ∀ o h, CleanInv K h0 r h → OrigOrImm h0 o → Reached K h0 r o → LoopOk (CleanPost K h0 h o) (rec o h)

/-- The state of a clean body's subvalue loop started on `h2`: the clean
frame, the subvalues in `seen` unmarked, and the subvalues of every original
unmarked since `h2` unmarked too. -/
structure CleanLoopInv (h2 : Heap) (seen : Nat → Prop) (hk : Heap) : Prop where
  frame : CleanFrame K h2 hk
  seen : ∀ c, seen c → isMarked K hk c = false
  done : ∀ x bx, h0.get? x = some bx → isMarked K h2 x = true → isMarked K hk x = false →
    ∀ c, IsChild K bx c → isMarked K hk c = false

variable {K h0}

theorem CleanLoopInv.start (h2 : Heap) {seen : Nat → Prop} (hs : ∀ c, ¬ seen c) :
    CleanLoopInv K h0 h2 seen h2 :=
  ⟨CleanFrame.refl h2, fun c hc => absurd hc (hs c), fun _ _ _ hx hx' => by rw [hx] at hx'; cases hx'⟩

theorem CleanLoopInv.mono {h2 hk : Heap} {s t : Nat → Prop} (li : CleanLoopInv K h0 h2 s hk)
    (hst : ∀ c, t c → s c) : CleanLoopInv K h0 h2 t hk :=
  ⟨li.frame, fun c hc => li.seen c (hst c hc), li.done⟩

/-- A recursive clean of `c` keeps the loop state and adds `c` to `seen`. -/
theorem CleanLoopInv.call {h2 hk hk' : Heap} {seen : Nat → Prop} {c : Nat}
    (li : CleanLoopInv K h0 h2 seen hk) (hp : CleanPost K h0 hk c hk') :
    CleanLoopInv K h0 h2 (fun c' => seen c' ∨ c' = c) hk' := by
  obtain ⟨f, hc, hdone⟩ := hp
  refine ⟨li.frame.trans f, fun c' hc' => ?_, fun x bx hx0 hx hx' c' hc' => ?_⟩
  · rcases hc' with hs | rfl
    · exact f.unmarked (li.seen c' hs)
    · exact hc
  · cases hxk : isMarked K hk x
    · exact f.unmarked (li.done x bx hx0 hx hxk c' hc')
    · exact hdone x bx hx0 hxk hx' c' hc'

/-! ## The subvalue loops -/

section Loops

variable {rec : Nat → Kern Unit} {h2 : Heap} {r o : Nat} {bx : Bag} (hp : PlainHeap K h0)
  (hcl : Closed K h0) (hrec : RecCleanCorrect K h0 r rec) (hci : CleanInv K h0 r h2)
  (hb2 : h2.get? o = some bx) (hb0 : h0.get? o = some bx) (hM : InM K h0 r o)
include hp hcl hrec hci hb2 hb0 hM

/-- The positional clean loop cleans the non-zero slots it visits. -/
theorem cleanPosSlots_correct (hpos : bx.tnum = K.tPosObj) :
    ∀ n i hk, CleanLoopInv K h0 h2 (fun c => ∃ j, 1 ≤ j ∧ j < i ∧ bx.words j ≠ 0 ∧ c = bx.words j) hk →
      1 ≤ i → (∀ j, i ≤ j → j < i + n → j < bx.size / wordSize) →
      LoopOk (CleanLoopInv K h0 h2
          (fun c => ∃ j, 1 ≤ j ∧ j < i + n ∧ bx.words j ≠ 0 ∧ c = bx.words j))
        (cleanPosSlots rec o n i hk) := by
  intro n
  induction n with
  | zero => intro i hk li _ _; exact li
  | succ n ih =>
    intro i hk li hi hrange
    have hw : hk.word o i = bx.words i :=
      word_of_get? (li.frame.get?_of_not_copying hb2 (hp _ _ hb0)) i
    have hnext := fun hk' li' => ih (i + 1) hk' li' (by omega) fun j h1 h2 => hrange j (by omega) (by omega)
    rw [show i + (n + 1) = i + 1 + n by omega]
    by_cases hv : bx.words i = 0
    · -- an empty slot is passed over
      simpa [cleanPosSlots, hw, hv] using hnext hk (li.mono fun c ⟨j, h1, h2, h3, h4⟩ =>
        ⟨j, h1, lt_of_le_of_ne (Nat.lt_succ_iff.mp h2) fun e => h3 (by rw [e, hv]), h3, h4⟩)
    · have hch : IsChild K bx (bx.words i) := .pos (.inl hpos) hi (hrange i le_rfl (by omega)) hv
      simp only [cleanPosSlots, readWord_bind, hw, ne_eq, hv, not_false_eq_true, if_true, bind_assoc]
      have hres := hrec (bx.words i) hk (hci.frame hp li.frame) (hcl o bx hb0 _ hch) (.child hM hb0 hch)
      cases hr : rec (bx.words i) hk with
      | error e h' => rw [Kern.bind_error hr]; rw [hr] at hres; exact hres
      | ok _ h' =>
        rw [bind_of_ok hr]; rw [hr] at hres
        exact hnext _ ((li.call hres).mono fun c ⟨j, h1, h2, h3, h4⟩ =>
          (Nat.lt_succ_iff_lt_or_eq.mp h2).elim (fun h2 => .inl ⟨j, h1, h2, h3, h4⟩)
            fun e => .inr (by rw [h4, e]))

/-- The component clean loop cleans the values it visits. -/
theorem cleanComEntries_correct (hcom : bx.tnum = K.tComObj) :
    ∀ n i hk, CleanLoopInv K h0 h2 (fun c => ∃ j, 1 ≤ j ∧ j < i ∧ c = bx.words (2 * j + 1)) hk →
      1 ≤ i → (∀ j, i ≤ j → j < i + n → j ≤ bx.words 1) →
      LoopOk (CleanLoopInv K h0 h2 (fun c => ∃ j, 1 ≤ j ∧ j < i + n ∧ c = bx.words (2 * j + 1)))
        (cleanComEntries rec o n i hk) := by
  intro n
  induction n with
  | zero => intro i hk li _ _; exact li
  | succ n ih =>
    intro i hk li hi hrange
    have hw : hk.word o (2 * i + 1) = bx.words (2 * i + 1) :=
      word_of_get? (li.frame.get?_of_not_copying hb2 (hp _ _ hb0)) _
    have hch : IsChild K bx (bx.words (2 * i + 1)) := .com (.inl hcom) hi (hrange i le_rfl (by omega))
    simp only [cleanComEntries, readWord_bind, hw]
    rw [show i + (n + 1) = i + 1 + n by omega]
    have hres := hrec (bx.words (2 * i + 1)) hk (hci.frame hp li.frame) (hcl o bx hb0 _ hch)
      (.child hM hb0 hch)
    cases hr : rec (bx.words (2 * i + 1)) hk with
    | error e h' => rw [Kern.bind_error hr]; rw [hr] at hres; exact hres
    | ok _ h' =>
      rw [bind_of_ok hr]; rw [hr] at hres
      exact ih (i + 1) _ ((li.call hres).mono fun c ⟨j, h1, h2, h3⟩ =>
          (Nat.lt_succ_iff_lt_or_eq.mp h2).elim (fun h2 => .inl ⟨j, h1, h2, h3⟩)
            fun e => .inr (by rw [h3, e]))
        (by omega) (fun j h1 h2 => hrange j (by omega) (by omega))

end Loops

/-! ## The clean bodies -/

section Bodies

variable {h : Heap} {r o p : Nat} {bx : Bag} (hp : PlainHeap K h0) (hci : CleanInv K h0 r h)
  (hb0 : h0.get? o = some bx) (hb : h.get? o = some (markBag K bx p)) (hw1 : h.word p 1 = bx.words 0)
  (hs : K.isStructural bx.tnum)
include hp hci hb0 hb hw1 hs

/-- A clean body on a marked original: it is unmarked, then the loop over its
subvalues runs on the heap that results; once that loop has cleaned every
subvalue, the call is done. -/
theorem cleanCopying_correct (sub : Nat → Kern Unit) (seen : Nat → Prop)
    (hseen : ∀ c, IsChild K bx c → seen c)
    (hsub : ∀ h2, CleanInv K h0 r h2 → h2.get? o = some bx →
      LoopOk (CleanLoopInv K h0 h2 seen) (sub o h2)) :
    LoopOk (CleanPost K h0 h o) (cleanCopying K sub o h) := by
  have hnc := hp _ _ hb0
  have hwp : h.word ((markBag K bx p).words 0) 1 = bx.words 0 := by rw [← hw1]; simp [markBag]
  have f2 := CleanFrame.unmark K hb (f := (unmarkBag K · (bx.words 0)))
    (unmarkBag_unmarks K (K.structural_add_copying hs) _) (by rw [hwp]; simp only [unmarkBag_markBag])
  have hb2 : (h.modify o (unmarkBag K · (bx.words 0))).get? o = some bx := by
    rw [get?_modify, if_pos rfl, hb]; exact congrArg some (unmarkBag_markBag ..)
  rw [cleanCopying_spec K sub hb, hwp]
  have hl := hsub _ (hci.frame hp f2) hb2
  cases hr : sub o (h.modify o (unmarkBag K · (bx.words 0))) with
  | error e _ => rw [hr] at hl; exact hl
  | ok _ hk =>
    rw [hr] at hl
    refine ⟨f2.trans hl.frame, ?_, fun x bx' hx0 hx hx' c hc => ?_⟩
    · rw [isMarked_of_get? K (hl.frame.get?_of_not_copying hb2 hnc)]; exact decide_eq_false hnc
    by_cases hxo : x = o
    · subst hxo; rw [hb0] at hx0; cases hx0; exact hl.seen c (hseen c hc)
    · refine hl.done x bx' hx0 ?_ hx' c hc
      simpa only [isMarked, get?_modify, if_neg hxo] using hx

end Bodies

/-! ## The dispatch -/

theorem cleanObjFuncs_plain {t : Nat} (ht : t ≤ K.lastConstantTnum ∨ K.isStructural t)
    (rec : Nat → Kern Unit) : cleanObjFuncs K t rec = cleanObjNothing := by
  unfold Tnums.isStructural at ht
  by_cases h : t ≤ K.lastConstantTnum
  · rw [cleanObjFuncs, if_pos h]
  · rw [cleanObjFuncs, if_neg h, if_pos]; omega

/-- Each call of `CLEAN_OBJ` from a heap of the clean run unmarks its argument
and the subvalues of every original it unmarks, given fuel. -/
theorem cleanObjDispatch_correct (hp : PlainHeap K h0) (hcl : Closed K h0) {r : Nat}
    (hk : PlainReach K h0 r) : ∀ fuel, RecCleanCorrect K h0 r (cleanObjDispatch K fuel)
  | 0 => fun _ _ _ _ _ => rfl
  | fuel + 1 => by
    intro o h hci ho hR
    have hrec := cleanObjDispatch_correct hp hcl hk fuel
    have hplain : ∀ {t}, tnumObj K h o = some t → isMarked K h o = false →
        t ≤ K.lastConstantTnum ∨ K.isStructural t →
        LoopOk (CleanPost K h0 h o) (cleanObjDispatch K (fuel + 1) o h) := fun ht hm hk => by
      simp only [cleanObjDispatch, tnumOf_bind K _ ht, cleanObjFuncs_plain hk]
      exact ⟨CleanFrame.refl h, hm, fun _ _ _ hx hx' => by rw [hx] at hx'; cases hx'⟩
    rcases ho with himm | horig
    · -- an immediate: nothing to clean
      obtain ⟨t, ht, hle⟩ := tnumObj_immediate (K := K) h himm
      exact hplain ht (by simp [isMarked, get?_immediate h himm]) (.inl hle)
    obtain ⟨bx, hb0⟩ := Option.isSome_iff_exists.mp horig
    rcases hci o bx hb0 with hb | ⟨p, hb, hw1, hs, hM⟩
    · -- an original the copy did not mark is left alone
      exact hplain (tnumObj_of_get? K hb)
        (by rw [isMarked_of_get? K hb]; exact decide_eq_false (hp _ _ hb0)) (hk o bx hR hb0)
    -- a marked original: unmarked, then its subvalues cleaned
    simp only [cleanObjDispatch, tnumOf_bind K _ (tnumObj_of_get? K hb)]
    have hbody := cleanCopying_correct hp hci hb0 hb hw1 hs
    have hreal := (K.structural_le_real hs).2
    rcases hs with hcom | hpos | hdat
    · rw [show (markBag K bx p).tnum = K.tComObj + K.copying by rw [← hcom]; rfl, cleanObjFuncs_com]
      unfold cleanObjComObjCopy
      refine hbody _ (fun c => ∃ j, 1 ≤ j ∧ j < 1 + bx.words 1 ∧ c = bx.words (2 * j + 1))
        (fun c hc => ?_) fun h2 hci2 hb2 => ?_
      · cases hc with
        | pos hk => have := posKind_of_le_real K hreal hk; have := K.com_ne_pos; omega
        | @com i _ h1 h2 => exact ⟨i, h1, by omega, rfl⟩
      · simp only [readWord_bind, word_of_get? hb2]
        exact cleanComEntries_correct hp hcl hrec hci2 hb2 hb0 hM hcom _ 1 h2
          (.start h2 fun c ⟨j, h1, h2, _⟩ => by omega) le_rfl fun j _ h2 => by omega
    · rw [show (markBag K bx p).tnum = K.tPosObj + K.copying by rw [← hpos]; rfl, cleanObjFuncs_pos]
      unfold cleanObjPosObjCopy
      refine hbody _ (fun c => ∃ j, 1 ≤ j ∧ j < 1 + (bx.size / wordSize - 1) ∧ bx.words j ≠ 0 ∧
          c = bx.words j) (fun c hc => ?_) fun h2 hci2 hb2 => ?_
      · cases hc with
        | @pos i _ h1 h2 hne => exact ⟨i, h1, by omega, hne, rfl⟩
        | com hk => have := comKind_of_le_real K hreal hk; have := K.com_ne_pos; omega
      · simp only [sizeOf_bind, sizeObj_of_get? hb2]
        exact cleanPosSlots_correct hp hcl hrec hci2 hb2 hb0 hM hpos _ 1 h2
          (.start h2 fun c ⟨j, h1, h2, _⟩ => by omega) le_rfl fun j _ h2 => by omega
    · rw [show (markBag K bx p).tnum = K.tDatObj + K.copying by rw [← hdat]; rfl, cleanObjFuncs_dat]
      unfold cleanObjDatObjCopy
      refine hbody _ (fun _ => False) (fun c hc => ?_) fun h2 _ _ => .start h2 fun _ h => h
      cases hc with
      | pos hk => have := posKind_of_le_real K hreal hk; have := K.pos_ne_dat; omega
      | com hk => have := comKind_of_le_real K hreal hk; have := K.com_ne_dat; omega

/-! ## `CopyObj` -/

theorem PlainHeap.isMarked_eq_false (hp : PlainHeap K h0) (x : Nat) : isMarked K h0 x = false := by
  cases hx : isMarked K h0 x with
  | false => rfl
  | true => obtain ⟨b, hb, hc⟩ := (isMarked_iff K).mp hx; exact absurd hc (hp _ _ hb)

/-- A copy run starts on a plain heap: nothing is marked yet. -/
theorem CopyInv.start (hp : PlainHeap K h0) (r : Nat) : CopyInv K h0 r h0 := by
  have hm : ∀ x, isMarked K h0 x = true → False := fun x hx => by
    rw [hp.isMarked_eq_false] at hx; cases hx
  exact ⟨Frame.refl h0 h0, fun x hx => (hm x hx).elim, fun x _ hx => (hm x hx).elim,
    fun x _ hx => (hm x hx).elim⟩

section Run

variable (hp : PlainHeap K h0) (hcl : Closed K h0) {r : Nat} (hr : OrigOrImm h0 r)
  (hk : PlainReach K h0 r)
include hp hcl hr hk

/-- The copy pass of `CopyObj` returns the image of `r`, marks exactly `M(r)`
and finishes the copy of each of its objects. -/
theorem copyObjDispatch_run (mut' : Int)
    (hcopyable : ∀ x b, InM K h0 r x → h0.get? x = some b → K.copyableType (b.words 0) = true) :
    ∃ h1, copyObjDispatch K (h0.bags.length + 1) r mut' h0 = .ok (img K h1 r) h1 ∧
      CopyInv K h0 r h1 ∧ (∀ x, isMarked K h1 x = true ↔ InM K h0 r x) ∧
      ∀ x, InM K h0 r x → Complete K h0 mut' h1 x := by
  have hok : CopyOk K h0 r mut' h0 r (copyObjDispatch K (h0.bags.length + 1) r mut' h0) :=
    copyObjDispatch_correct hcl hk hcopyable (h0.bags.length + 1) r h0 (CopyInv.start hp r) hr
      (.self K h0 r) fun hm => .root hm
  have hnf := (copyObjDispatch_recFrame K hcl (h0.bags.length + 1) r mut' h0 (Frame.refl h0 h0) hr).2.1
    (lt_of_le_of_lt (card_unmarked_le K _ _) (Nat.lt_succ_self _))
  cases hc : copyObjDispatch K (h0.bags.length + 1) r mut' h0 with
  | error e h' =>
    rw [hc] at hok hnf
    obtain rfl : e = .outOfFuel := hok
    exact absurd rfl (hnf h')
  | ok v h1 =>
    rw [hc] at hok
    obtain ⟨hi, -, rfl, hroot, hdone⟩ := hok
    have hcomp : ∀ x, isMarked K h1 x = true → Complete K h0 mut' h1 x :=
      fun x hx => hdone x hx (hp.isMarked_eq_false x)
    -- every object of `M(r)` is marked: the root by the call, a child by its parent's copy
    have hM : ∀ x, InM K h0 r x → isMarked K h1 x = true := by
      intro x hx
      induction hx with
      | root hm => exact hroot hm
      | child _ hb hc hm ih =>
        obtain ⟨bx, hbx, -, hch, -⟩ := hcomp _ ih
        rw [hb] at hbx; cases hbx
        exact hch _ hc hm
    exact ⟨h1, rfl, hi, fun x => ⟨fun hx => let ⟨_, _, hIn, _⟩ := hi.orig x hx; hIn, hM x⟩,
      fun x hx => hcomp x (hM x hx)⟩

/-- The clean pass of `CopyObj`, after the copy pass, returns and leaves no
mark. -/
theorem cleanObjDispatch_run {h1 : Heap} (hi : CopyInv K h0 r h1)
    (hmk : ∀ x, isMarked K h1 x = true ↔ InM K h0 r x) :
    ∃ h', cleanObjDispatch K (h1.bags.length + 1) r h1 = .ok () h' ∧ CleanFrame K h1 h' ∧
      ∀ x, isMarked K h' x = false := by
  have hok := cleanObjDispatch_correct hp hcl hk (h1.bags.length + 1) r h1 hi.cleanInv hr (.self K h0 r)
  have hnf := (cleanObjDispatch_recClean K (h1.bags.length + 1) r h1).2
    (lt_of_le_of_lt (card_markedSet_le K h1) (Nat.lt_succ_self _))
  cases hc : cleanObjDispatch K (h1.bags.length + 1) r h1 with
  | error e h' =>
    rw [hc] at hok hnf
    obtain rfl : e = .outOfFuel := hok
    exact absurd rfl (hnf h')
  | ok u h' =>
    rw [hc] at hok
    obtain ⟨f, hroot, hdone⟩ := hok
    -- every object of `M(r)` is unmarked: the root by the call, a child by its parent's clean
    have hM : ∀ x, InM K h0 r x → isMarked K h' x = false := by
      intro x hx
      induction hx with
      | root _ => exact hroot
      | child hx hb hc _ ih => exact hdone _ _ hb ((hmk _).mpr hx) ih _ hc
    refine ⟨h', rfl, f, fun x => ?_⟩
    cases hx : isMarked K h' x with
    | false => rfl
    | true => rw [hM x ((hmk x).mp (f.isMarked_of hx))] at hx; cases hx

/-- `CopyObj` on a plain heap: the copy pass, then the clean pass. -/
theorem copyObj_run (mut' : Int)
    (hcopyable : ∀ x b, InM K h0 r x → h0.get? x = some b → K.copyableType (b.words 0) = true) :
    ∃ h1 h', copyObj K r mut' h0 = .ok (img K h1 r) h' ∧ CopyInv K h0 r h1 ∧
      (∀ x, isMarked K h1 x = true ↔ InM K h0 r x) ∧
      (∀ x, InM K h0 r x → Complete K h0 mut' h1 x) ∧
      CleanFrame K h1 h' ∧ ∀ x, isMarked K h' x = false := by
  obtain ⟨h1, hc, hi, hmk, hcomp⟩ := copyObjDispatch_run hp hcl hr hk mut' hcopyable
  obtain ⟨h', hcl', f, hnm⟩ := cleanObjDispatch_run hp hcl hr hk hi hmk
  refine ⟨h1, h', ?_, hi, hmk, hcomp, f, hnm⟩
  rw [copyObj_apply, bind_of_ok hc, bind_of_ok hcl']
  rfl

/-- `CopyObj` on a plain heap in one statement: it returns `f r` for a map `f`
that is injective on `M(r)`, sends each of its objects to a fresh bag holding
its `copiedBag` through `f` and is the identity elsewhere; every bag of the
source is then as it was, and the heap is plain again. The forwarding records
stay allocated as unreachable plain lists, which `PlainReach` ignores, so a
second `CopyObj` starts from a heap this theorem covers. -/
theorem copyObj_spec (mut' : Int)
    (hcopyable : ∀ x b, InM K h0 r x → h0.get? x = some b → K.copyableType (b.words 0) = true) :
    ∃ f : Nat → Nat, ∃ h', copyObj K r mut' h0 = .ok (f r) h' ∧
      (∀ x y, InM K h0 r x → InM K h0 r y → f x = f y → x = y) ∧
      (∀ x, ¬ InM K h0 r x → f x = x) ∧
      (∀ x bx, InM K h0 r x → h0.get? x = some bx →
        ¬ h0.Allocated (f x) ∧ h'.get? (f x) = some (copiedBag K mut' bx f h0.curRegion)) ∧
      (∀ x bx, h0.get? x = some bx → h'.get? x = some bx) ∧ PlainHeap K h' := by
  obtain ⟨h1, h', hrun, hi, hmk, hcomp, f, hnm⟩ := copyObj_run hp hcl hr hk mut' hcopyable
  have himg : ∀ x, InM K h0 r x → img K h1 x = fwdCopy h1 x := fun x hx => by
    simp only [img, (hmk x).mpr hx, if_true]
  have hid : ∀ x, ¬ InM K h0 r x → img K h1 x = x := fun x hx => by
    have : isMarked K h1 x = false := Bool.eq_false_iff.mpr fun hm => hx ((hmk x).mp hm)
    simp only [img, this, Bool.false_eq_true, if_false]
  -- no bag of the result is marked, so none carries `COPYING`
  have hplain : PlainHeap K h' := fun x b hb hc => by
    have := hnm x
    rw [isMarked_of_get? K hb] at this
    exact of_decide_eq_false this hc
  refine ⟨img K h1, h', hrun, fun x y hx hy he => ?_, hid, fun x bx hx hbx => ?_,
    fun x bx hx0 => ?_, hplain⟩
  · rw [himg x hx, himg y hy] at he
    exact hi.inj x y ((hmk x).mpr hx) ((hmk y).mpr hy) he
  · obtain ⟨bx', hbx', -, -, hcopy⟩ := hcomp x hx
    rw [hbx] at hbx'; cases hbx'
    obtain ⟨_, _, _, fw⟩ := hi.orig x ((hmk x).mpr hx)
    rw [himg x hx]
    exact ⟨fw.copy_fresh, f.get?_of_not_copying hcopy (show ¬ K.isCopying bx.tnum from hp _ _ hbx)⟩
  · rcases hi.cleanInv.frame hp f x bx hx0 with hb | ⟨p, hb, -, hs, -⟩
    · exact hb
    · exact absurd (K.structural_add_copying hs) (hplain x _ hb)

/-- **`CopyObj` is a deep copy.** On a plain heap without dangling handles,
when the objects the passes dispatch on are constants or structural objects
and every object of `M(r)` is copyable and fits its size, `CopyObj(r, mut)`
returns `f r` for a map `f` that is injective on `M(r)`, sends each of its
objects to a fresh bag holding its `copiedBag` through `f`, with nothing past
its size, and is the identity elsewhere; so an immutable `r` comes back as it
is. -/
theorem copyObj_deep_copy (mut' : Int)
    (hcopyable : ∀ x b, InM K h0 r x → h0.get? x = some b → K.copyableType (b.words 0) = true)
    (hfits : ∀ x b, InM K h0 r x → h0.get? x = some b → SizeFits K b) :
    ∃ f : Nat → Nat, ∃ h', copyObj K r mut' h0 = .ok (f r) h' ∧
      (¬ IsMutable K h0 r → f r = r) ∧
      (∀ x y, InM K h0 r x → InM K h0 r y → f x = f y → x = y) ∧
      (∀ x, ¬ InM K h0 r x → f x = x) ∧
      ∀ x bx, InM K h0 r x → h0.get? x = some bx →
        ¬ h0.Allocated (f x) ∧ h'.get? (f x) = some (copiedBag K mut' bx f h0.curRegion) ∧
          (copiedBag K mut' bx f h0.curRegion).Within := by
  obtain ⟨f, h', hrun, hinj, hid, hcopy, -⟩ := copyObj_spec hp hcl hr hk mut' hcopyable
  refine ⟨f, h', hrun, fun hm => hid r fun hIn => hm (hIn.isMutable K h0), hinj, hid,
    fun x bx hx hbx => ⟨(hcopy x bx hx hbx).1, (hcopy x bx hx hbx).2, ?_⟩⟩
  exact copiedBag_within K mut' (hfits x bx hx hbx) f _

/-- **`CopyObj` restores the source.** Under the same hypotheses, `CopyObj(r, mut)`
returns, every bag of the source heap is then exactly as it was, and no bag
carries `COPYING`. -/
theorem copyObj_restores_source (mut' : Int)
    (hcopyable : ∀ x b, InM K h0 r x → h0.get? x = some b → K.copyableType (b.words 0) = true) :
    ∃ v h', copyObj K r mut' h0 = .ok v h' ∧ (∀ x bx, h0.get? x = some bx → h'.get? x = some bx) ∧
      ∀ x b, h'.get? x = some b → ¬ K.isCopying b.tnum := by
  obtain ⟨f, h', hrun, -, -, -, hrest, hplain⟩ := copyObj_spec hp hcl hr hk mut' hcopyable
  exact ⟨f r, h', hrun, hrest, hplain⟩

end Run

theorem loopHeap_bag {o : Nat} {b : Bag} (hb : loopHeap.get? o = some b) :
    b.tnum = 42 ∧ b.words 0 = 100 := by
  obtain ⟨k, rfl, hk⟩ := get?_eq_some hb
  obtain rfl : k = 0 := by
    have := (List.getElem?_eq_some_iff.mp hk).1
    simp only [loopHeap, List.length_singleton] at this; omega
  cases hk; exact ⟨rfl, rfl⟩

theorem loopHeap_plain : PlainHeap sampleKernel loopHeap := fun _ _ hb => by
  rw [(loopHeap_bag hb).1]; decide

theorem loopHeap_plainReach : PlainReach sampleKernel loopHeap (handle 0) := fun _ _ _ hb => by
  rw [(loopHeap_bag hb).1]; decide

theorem loopHeap_copyable : ∀ x b, InM sampleKernel loopHeap (handle 0) x → loopHeap.get? x = some b →
    sampleKernel.copyableType (b.words 0) = true := fun _ _ _ hb => by
  rw [(loopHeap_bag hb).2]; rfl

theorem loopHeap_fits : ∀ x b, InM sampleKernel loopHeap (handle 0) x → loopHeap.get? x = some b →
    SizeFits sampleKernel b := fun _ _ _ hb => by
  rw [(get?_singleton hb).2]; decide

/-- The self-referential `loopHeap` is deep-copied. -/
theorem loopHeap_deep_copy :
    PlainHeap sampleKernel loopHeap ∧ Closed sampleKernel loopHeap ∧ OrigOrImm loopHeap (handle 0) ∧
    PlainReach sampleKernel loopHeap (handle 0) ∧
    (∀ x b, InM sampleKernel loopHeap (handle 0) x → loopHeap.get? x = some b →
      sampleKernel.copyableType (b.words 0) = true) ∧
    (∀ x b, InM sampleKernel loopHeap (handle 0) x → loopHeap.get? x = some b →
      SizeFits sampleKernel b) ∧
    ∃ f : Nat → Nat, ∃ h', copyObj sampleKernel (handle 0) 1 loopHeap = .ok (f (handle 0)) h' ∧
      (¬ IsMutable sampleKernel loopHeap (handle 0) → f (handle 0) = handle 0) ∧
      (∀ x y, InM sampleKernel loopHeap (handle 0) x → InM sampleKernel loopHeap (handle 0) y →
        f x = f y → x = y) ∧
      (∀ x, ¬ InM sampleKernel loopHeap (handle 0) x → f x = x) ∧
      ∀ x bx, InM sampleKernel loopHeap (handle 0) x → loopHeap.get? x = some bx →
        ¬ loopHeap.Allocated (f x) ∧
          h'.get? (f x) = some (copiedBag sampleKernel 1 bx f loopHeap.curRegion) ∧
          (copiedBag sampleKernel 1 bx f loopHeap.curRegion).Within :=
  ⟨loopHeap_plain, loopHeap_closed, by decide, loopHeap_plainReach, loopHeap_copyable, loopHeap_fits,
    copyObj_deep_copy loopHeap_plain loopHeap_closed (by decide) loopHeap_plainReach 1 loopHeap_copyable
      loopHeap_fits⟩

/-- A mutable, copyable data object of size 0. Its word 1, past its end,
stands for the memory that follows the bag. -/
def emptyDatBag : Bag where
  tnum := 43
  size := 0
  size_lt := by decide
  region := none
  words i := if i = 0 then 100 else if i = 1 then 7 else 0

def emptyDatHeap : Heap := { bags := [emptyDatBag], curRegion := none }

/-- On a data object of size 0, `CopyObjDatObj`'s unsigned payload count
wraps to `2^61 - 1`: the copy, a bag of size 0 with no words, receives the
words that follow the original, here the 7 after it, and so is written past
its end. -/
theorem emptyDatHeap_copy_overruns :
    datPayloadCount 0 = 2 ^ 61 - 1 ∧
    ∃ f : Nat → Nat, ∃ h' b, copyObj sampleKernel (handle 0) 1 emptyDatHeap = .ok (f (handle 0)) h' ∧
      h'.get? (f (handle 0)) = some b ∧ b.size = 0 ∧ b.words 1 = 7 ∧ ¬ b.Within := by
  have hp : PlainHeap sampleKernel emptyDatHeap := fun _ _ hb => by rw [(get?_singleton hb).2]; decide
  have hk : PlainReach sampleKernel emptyDatHeap (handle 0) := fun _ _ _ hb => by
    rw [(get?_singleton hb).2]; decide
  have hcl : Closed sampleKernel emptyDatHeap := fun _ _ hb c hc => by
    rw [(get?_singleton hb).2] at hc
    cases hc with
    | pos hk => exact absurd hk (by decide)
    | com hk => exact absurd hk (by decide)
  obtain ⟨f, h', hrun, -, -, hcopy, -⟩ := copyObj_spec (r := handle 0) hp hcl (by decide) hk 1
    fun _ _ _ hb => by rw [(get?_singleton hb).2]; rfl
  have hw : (copiedBag sampleKernel 1 emptyDatBag f emptyDatHeap.curRegion).words 1 = 7 :=
    copiedBag_words_dat sampleKernel 1 rfl one_ne_zero (by decide) f _
  refine ⟨by decide, f, h', _, hrun,
    (hcopy (handle 0) emptyDatBag (.root ⟨_, rfl, by decide, rfl⟩) rfl).2, rfl, hw, fun hin => ?_⟩
  have := hin 1 (show wordsOf 0 ≤ 1 by decide)
  rw [hw] at this; cases this

/-- Copying the self-referential `loopHeap` leaves it as it was. -/
theorem loopHeap_restores_source :
    PlainHeap sampleKernel loopHeap ∧ Closed sampleKernel loopHeap ∧ OrigOrImm loopHeap (handle 0) ∧
    PlainReach sampleKernel loopHeap (handle 0) ∧
    (∀ x b, InM sampleKernel loopHeap (handle 0) x → loopHeap.get? x = some b →
      sampleKernel.copyableType (b.words 0) = true) ∧
    ∃ v h', copyObj sampleKernel (handle 0) 1 loopHeap = .ok v h' ∧
      (∀ x bx, loopHeap.get? x = some bx → h'.get? x = some bx) ∧
      ∀ x b, h'.get? x = some b → ¬ sampleKernel.isCopying b.tnum :=
  ⟨loopHeap_plain, loopHeap_closed, by decide, loopHeap_plainReach, loopHeap_copyable,
    copyObj_restores_source loopHeap_plain loopHeap_closed (by decide) loopHeap_plainReach 1
      loopHeap_copyable⟩

/-! ## A failed copy -/

end

end GapObjects
