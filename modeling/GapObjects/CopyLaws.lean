import GapObjects.Clone
import GapObjects.Immutable
import GapObjects.Sizes

/-!
# Laws of the copy handlers

`IMMUTABLE_COPY_OBJ` and `DEEP_COPY_OBJ` run `CopyObj(obj, 0)` and
`CopyObj(obj, 1)`. Read through `copyObj_spec`, a copy obeys:

* **objects it does not enter** — an immediate, a constant or an immutable
  structural object comes back as it is and nothing changes, on any heap, and
  `MakeImmutable` leaves it alone (`copyObj_of_unentered`,
  `makeImmutable_of_unentered`);
* **`DEEP_COPY_OBJ`** — the mutable part of the copy is the image of the
  original's: `M(f r)` after the copy is `f` applied to `M(r)`
  (`inM_copy_of_inM`, `inM_of_inM_copy`), and all of it is fresh
  (`deepCopy_mutable_part`);
* **`IMMUTABLE_COPY_OBJ`** — when `RESET_FILTER_OBJ` takes mutability away,
  every object the copy makes is immutable, so copying the result again or
  making it immutable changes nothing (`immutableCopy_settled`);
* **`MakeImmutable`** — it resets the root only, so a later copy returns the
  root with its mutable subobjects shared (`makeImmutable_shallow`);
* **saving a copy** — `SaveComObj`, `SavePosObj` and `SaveDatObj` of a copy
  write the original's tokens with the type word `CopyObj` gave the copy and
  every reference renamed through `f`, where the save reads only words the
  copy filled (`save_copy_renames`).
-/

namespace GapObjects

open Heap SaveLoad

section

variable {K : Kernel}

/-! ## Objects a copy does not enter -/

/-- `CopyObj` on an object whose `COPY_OBJ` entry returns it and whose
`CLEAN_OBJ` entry does nothing. -/
theorem copyObj_of_entries {h : Heap} {o t : Nat} (ht : tnumObj K h o = some t)
    (hk : t ≤ K.lastConstantTnum ∨ K.isStructural t) (mut' : Int)
    (hcopy : ∀ rec, copyObjFuncs K t rec o mut' h = .ok o h) : copyObj K o mut' h = .ok o h := by
  have h1 : copyObjDispatch K (h.bags.length + 1) o mut' h = .ok o h := by
    simp only [copyObjDispatch, tnumOf_bind K _ ht, hcopy]
  have h2 : cleanObjDispatch K (h.bags.length + 1) o h = .ok () h := by
    simp only [cleanObjDispatch, tnumOf_bind K _ ht, cleanObjFuncs_plain hk]
    rfl
  rw [copyObj_apply, bind_of_ok h1, bind_of_ok h2]
  rfl

/-- A constant, an immediate included, is its own copy. -/
theorem copyObj_of_const {h : Heap} {o t : Nat} (ht : tnumObj K h o = some t)
    (hc : t ≤ K.lastConstantTnum) (mut' : Int) : copyObj K o mut' h = .ok o h :=
  copyObj_of_entries ht (.inl hc) mut' fun rec => by rw [copyObjFuncs_const hc]; rfl

/-- An immutable structural object is its own copy. -/
theorem copyObj_of_immutable {h : Heap} {o : Nat} {b : Bag} (hb : h.get? o = some b)
    (hs : K.isStructural b.tnum) (hm : K.mutableType (b.words 0) = false) (mut' : Int) :
    copyObj K o mut' h = .ok o h := by
  refine copyObj_of_entries (tnumObj_of_get? K hb) (.inr hs) mut' fun rec => ?_
  have hsame := copyStructural_immutable K hb hs
  rcases hs with he | he | he <;> rw [he]
  · rw [copyObjFuncs_com]; exact hsame true _ mut' hm
  · rw [copyObjFuncs_pos]; exact hsame false _ mut' hm
  · rw [copyObjFuncs_dat]; exact hsame false _ mut' hm

/-! ## The copy of a subvalue -/

/-- The copy holds `f c` where the original holds its subvalue `c`, when `f`
sends no non-zero word to zero. -/
theorem copiedBag_isChild {mut' : Int} {b : Bag} {f : Nat → Nat} {region : Option Region}
    (hs : K.isStructural b.tnum) (hf : ∀ c, c ≠ 0 → f c ≠ 0) {c : Nat} (hc : IsChild K b c) :
    IsChild K (copiedBag K mut' b f region) (f c) := by
  have hreal := (K.structural_le_real hs).2
  cases hc with
  | @pos i hk h1 h2 h3 =>
    have hw := copiedBag_words_pos K mut' (posKind_of_le_real K hreal hk) (by omega) h2 f region
    rw [← hw]
    exact .pos hk h1 h2 (hw ▸ hf _ h3)
  | @com i hk h1 h2 =>
    have hcom := comKind_of_le_real K hreal hk
    have hw1 : (copiedBag K mut' b f region).words 1 = b.words 1 := by
      simp only [copiedBag, if_neg one_ne_zero, if_neg (hcom ▸ K.com_ne_pos), if_pos hcom, if_true]
    rw [← (copiedBag_words_com K mut' hcom h1 h2 f region).2]
    exact .com hk h1 (hw1 ▸ h2)

end

/-! ## The mutable part of a copy -/

section Image

variable {K : Kernel} {h0 h' : Heap} {r : Nat} {f : Nat → Nat}

/-- An old object that is mutable after the copy was mutable before it. -/
theorem isMutable_of_copy (hrest : ∀ x bx, h0.get? x = some bx → h'.get? x = some bx) {z : Nat}
    (hz : OrigOrImm h0 z) (hm : IsMutable K h' z) : IsMutable K h0 z := by
  obtain ⟨b, hb, hs, hm⟩ := hm
  rcases hz with himm | ha
  · rw [get?_immediate h' himm] at hb; cases hb
  · obtain ⟨b0, hb0⟩ := Option.isSome_iff_exists.mp ha
    rw [hrest z b0 hb0] at hb; cases hb
    exact ⟨_, hb0, hs, hm⟩

/-- Zero is no object, so it is outside `M(r)` and the copy map fixes it. -/
theorem copy_zero (hid : ∀ x, ¬ InM K h0 r x → f x = x) : f 0 = 0 := hid 0 fun h0M => by
  obtain ⟨b, hb, -⟩ := h0M.isMutable K h0
  rw [get?_zero] at hb; cases hb

variable (hcopy : ∀ x bx, InM K h0 r x → h0.get? x = some bx →
    ¬ h0.Allocated (f x) ∧ h'.get? (f x) = some (copiedBag K 1 bx f h0.curRegion))
include hcopy

/-- A mutable copy keeps the type word, so the copy of an object of `M(r)` is
mutable. -/
theorem copy_isMutable {x : Nat} (hx : InM K h0 r x) : IsMutable K h' (f x) := by
  obtain ⟨bx, hbx, hs, hm⟩ := hx.isMutable K h0
  exact ⟨_, (hcopy x bx hx hbx).2, hs, hm⟩

/-- A copy is a bag of the result, so `f` keeps every handle non-zero. -/
theorem copy_ne_zero (hid : ∀ x, ¬ InM K h0 r x → f x = x) {c : Nat} (hc : c ≠ 0) : f c ≠ 0 := by
  intro he
  by_cases hcM : InM K h0 r c
  · obtain ⟨bc, hbc, -⟩ := hcM.isMutable K h0
    have := (hcopy c bc hcM hbc).2
    rw [he, get?_zero] at this; cases this
  · exact hc (hid c hcM ▸ he)

/-- The copy of an object of `M(r)` is in `M(f r)`. -/
theorem inM_copy_of_inM (hid : ∀ x, ¬ InM K h0 r x → f x = x) {x : Nat} (hx : InM K h0 r x) :
    InM K h' (f r) (f x) := by
  induction hx with
  | root hm => exact .root (copy_isMutable hcopy (.root hm))
  | @child x c bx hx hbx hc hmc ih =>
    obtain ⟨bx', hbx', hs, -⟩ := hx.isMutable K h0
    rw [hbx] at hbx'; cases hbx'
    exact .child ih (hcopy x bx hx hbx).2 (copiedBag_isChild hs (fun _ => copy_ne_zero hcopy hid) hc)
      (copy_isMutable hcopy (.child hx hbx hc hmc))

/-- Every object of `M(f r)` is the copy of an object of `M(r)`: a subvalue
of a copy is the image of a subvalue of the original, and one that `f` fixes
and that is mutable after the copy was already in `M(r)`. -/
theorem inM_of_inM_copy (hcl : Closed K h0) (hr : OrigOrImm h0 r) (hid : ∀ x, ¬ InM K h0 r x → f x = x)
    (hrest : ∀ x bx, h0.get? x = some bx → h'.get? x = some bx) {y : Nat} (hy : InM K h' (f r) y) :
    ∃ x, InM K h0 r x ∧ y = f x := by
  have hf0 := copy_zero hid
  induction hy with
  | root hm =>
    by_cases hrM : InM K h0 r r
    · exact ⟨r, hrM, rfl⟩
    · exact absurd (.root (isMutable_of_copy hrest hr (hid r hrM ▸ hm))) hrM
  | @child _ c' b' _ hb' hc hmc ih =>
    obtain ⟨x, hx, rfl⟩ := ih
    obtain ⟨bx, hbx, hs, -⟩ := hx.isMutable K h0
    rw [(hcopy x bx hx hbx).2] at hb'; cases hb'
    obtain ⟨c, hc', rfl⟩ := isChild_copiedBag hs hf0 hc
    by_cases hcM : InM K h0 r c
    · exact ⟨c, hcM, rfl⟩
    · rw [hid c hcM] at hmc
      exact absurd (.child hx hbx hc' (isMutable_of_copy hrest (hcl x bx hbx c hc') hmc)) hcM

end Image

section DeepCopy

variable {K : Kernel} {h0 : Heap} (hp : PlainHeap K h0) (hcl : Closed K h0) {r : Nat}
  (hr : OrigOrImm h0 r) (hk : PlainReach K h0 r)
  (hcopyable : ∀ x b, InM K h0 r x → h0.get? x = some b → K.copyableType (b.words 0) = true)
  (hfits : ∀ x b, InM K h0 r x → h0.get? x = some b → SizeFits K b)
include hp hcl hr hk hcopyable hfits

/-- **`DEEP_COPY_OBJ` copies the mutable part.** After `CopyObj(r, 1)`, `f`
maps `M(r)` one to one onto `M(f r)`, the mutable part of the copy, and the
subvalues of each copy `f x` are the images of the subvalues of `x`: the two
parts are isomorphic graphs. Every object of `M(f r)` is fresh and holds
nothing past its size, so no mutable object the copy reaches is shared with
the source. -/
theorem deepCopy_mutable_part :
    ∃ f : Nat → Nat, ∃ h', copyObj K r 1 h0 = .ok (f r) h' ∧
      (∀ y, InM K h' (f r) y ↔ ∃ x, InM K h0 r x ∧ y = f x) ∧
      (∀ x y, InM K h0 r x → InM K h0 r y → f x = f y → x = y) ∧
      (∀ x bx, InM K h0 r x → h0.get? x = some bx → ∃ b', h'.get? (f x) = some b' ∧
        ∀ c, IsChild K b' c ↔ ∃ c0, IsChild K bx c0 ∧ c = f c0) ∧
      ∀ y, InM K h' (f r) y → ¬ h0.Allocated y ∧ ∃ b, h'.get? y = some b ∧ b.Within := by
  obtain ⟨f, h', hrun, hinj, hid, hcopy, hrest, -⟩ := copyObj_spec hp hcl hr hk 1 hcopyable
  have hiff : ∀ y, InM K h' (f r) y ↔ ∃ x, InM K h0 r x ∧ y = f x := fun y =>
    ⟨inM_of_inM_copy hcopy hcl hr hid hrest, fun ⟨x, hx, he⟩ => he ▸ inM_copy_of_inM hcopy hid hx⟩
  refine ⟨f, h', hrun, hiff, hinj, fun x bx hx hbx => ⟨_, (hcopy x bx hx hbx).2, fun c => ?_⟩,
    fun y hy => ?_⟩
  · -- the children of a copy are the images of the original's
    obtain ⟨bx', hbx', hs, -⟩ := hx.isMutable K h0
    rw [hbx] at hbx'; cases hbx'
    exact ⟨isChild_copiedBag hs (copy_zero hid), fun ⟨c0, hc0, he⟩ =>
      he ▸ copiedBag_isChild hs (fun _ => copy_ne_zero hcopy hid) hc0⟩
  · obtain ⟨x, hx, rfl⟩ := (hiff y).mp hy
    obtain ⟨bx, hbx, -⟩ := hx.isMutable K h0
    exact ⟨(hcopy x bx hx hbx).1, _, (hcopy x bx hx hbx).2, copiedBag_within K 1 (hfits x bx hx hbx) f _⟩

end DeepCopy

/-- The self-referential `loopHeap`: the mutable part of its copy is the copy
of its own. -/
theorem loopHeap_deepCopy_mutable_part :
    PlainHeap sampleKernel loopHeap ∧ Closed sampleKernel loopHeap ∧ OrigOrImm loopHeap (handle 0) ∧
    PlainReach sampleKernel loopHeap (handle 0) ∧
    (∀ x b, InM sampleKernel loopHeap (handle 0) x → loopHeap.get? x = some b →
      sampleKernel.copyableType (b.words 0) = true) ∧
    (∀ x b, InM sampleKernel loopHeap (handle 0) x → loopHeap.get? x = some b →
      SizeFits sampleKernel b) ∧
    ∃ f : Nat → Nat, ∃ h', copyObj sampleKernel (handle 0) 1 loopHeap = .ok (f (handle 0)) h' ∧
      (∀ y, InM sampleKernel h' (f (handle 0)) y ↔
        ∃ x, InM sampleKernel loopHeap (handle 0) x ∧ y = f x) ∧
      (∀ x y, InM sampleKernel loopHeap (handle 0) x → InM sampleKernel loopHeap (handle 0) y →
        f x = f y → x = y) ∧
      (∀ x bx, InM sampleKernel loopHeap (handle 0) x → loopHeap.get? x = some bx →
        ∃ b', h'.get? (f x) = some b' ∧ ∀ c, IsChild sampleKernel b' c ↔
          ∃ c0, IsChild sampleKernel bx c0 ∧ c = f c0) ∧
      ∀ y, InM sampleKernel h' (f (handle 0)) y → ¬ loopHeap.Allocated y ∧
        ∃ b, h'.get? y = some b ∧ b.Within :=
  ⟨loopHeap_plain, loopHeap_closed, by decide, loopHeap_plainReach, loopHeap_copyable, loopHeap_fits,
    deepCopy_mutable_part loopHeap_plain loopHeap_closed (by decide) loopHeap_plainReach loopHeap_copyable
      loopHeap_fits⟩

section Unentered

variable {K : Kernel} {h : Heap} {o : Nat}

/-- A constant, or a structural object that is not mutable: an object that
neither `COPY_OBJ` nor `MakeImmutable` enters. -/
theorem copyObj_of_unentered
    (hu : (∃ t, tnumObj K h o = some t ∧ t ≤ K.lastConstantTnum) ∨
      ∃ b, h.get? o = some b ∧ K.isStructural b.tnum ∧ K.mutableType (b.words 0) = false) (mut' : Int) :
    copyObj K o mut' h = .ok o h := by
  rcases hu with ⟨t, ht, hc⟩ | ⟨b, hb, hs, hm⟩
  · exact copyObj_of_const ht hc mut'
  · exact copyObj_of_immutable hb hs hm mut'

theorem makeImmutable_of_unentered
    (hu : (∃ t, tnumObj K h o = some t ∧ t ≤ K.lastConstantTnum) ∨
      ∃ b, h.get? o = some b ∧ K.isStructural b.tnum ∧ K.mutableType (b.words 0) = false)
    (post : Nat → Kern Unit) : makeImmutable K post o h = .ok () h := by
  rcases hu with ⟨t, ht, hc⟩ | ⟨b, hb, hs, hm⟩
  · exact makeImmutable_const post ht hc
  · rw [makeImmutable_structural post hb hs, hm]; rfl

end Unentered

section ImmutableCopy

variable {K : Kernel} {h0 : Heap} (hp : PlainHeap K h0) (hcl : Closed K h0) {r : Nat}
  (hr : OrigOrImm h0 r) (hk : PlainReach K h0 r)
  (hcopyable : ∀ x b, InM K h0 r x → h0.get? x = some b → K.copyableType (b.words 0) = true)
  (hfits : ∀ x b, InM K h0 r x → h0.get? x = some b → SizeFits K b)
include hp hcl hr hk hcopyable hfits

/-- **`IMMUTABLE_COPY_OBJ` settles.** When `RESET_FILTER_OBJ` takes mutability
away from every copyable type, no object `CopyObj(r, 0)` makes is mutable, and
each holds nothing past its size; so copying the result again, mutably or
not, returns it and changes nothing, and `MakeImmutable` on it does nothing,
whatever `PostMakeImmutable` is. -/
theorem immutableCopy_settled
    (hreset : ∀ w, K.copyableType w = true → K.mutableType (K.resetMutable w) = false)
    (post : Nat → Kern Unit) :
    ∃ f : Nat → Nat, ∃ h', copyObj K r 0 h0 = .ok (f r) h' ∧
      (∀ x, InM K h0 r x → ¬ IsMutable K h' (f x) ∧ ∃ b, h'.get? (f x) = some b ∧ b.Within) ∧
      (∀ mut', copyObj K (f r) mut' h' = .ok (f r) h') ∧
      makeImmutable K post (f r) h' = .ok () h' := by
  obtain ⟨f, h', hrun, -, hid, hcopy, hrest, -⟩ := copyObj_spec hp hcl hr hk 0 hcopyable
  -- the copy of an object of `M(r)` has the reset type word
  have himm : ∀ x bx, InM K h0 r x → h0.get? x = some bx →
      h'.get? (f x) = some (copiedBag K 0 bx f h0.curRegion) ∧
        K.mutableType ((copiedBag K 0 bx f h0.curRegion).words 0) = false :=
    fun x bx hx hbx => ⟨(hcopy x bx hx hbx).2, hreset _ (hcopyable x bx hx hbx)⟩
  -- the result is a constant or an immutable structural object: a copy, or a root outside `M(r)`
  have hroot : (∃ t, tnumObj K h' (f r) = some t ∧ t ≤ K.lastConstantTnum) ∨
      ∃ b, h'.get? (f r) = some b ∧ K.isStructural b.tnum ∧ K.mutableType (b.words 0) = false := by
    by_cases hrM : InM K h0 r r
    · obtain ⟨b, hb, hs, -⟩ := hrM.isMutable K h0
      exact .inr ⟨_, (himm r b hrM hb).1, hs, (himm r b hrM hb).2⟩
    rw [hid r hrM]
    rcases hr with hi | ha
    · exact .inl (tnumObj_immediate h' hi)
    obtain ⟨b, hb⟩ := Option.isSome_iff_exists.mp ha
    rcases hk r b (.self K h0 r) hb with hc | hs
    · exact .inl ⟨_, tnumObj_of_get? K (hrest r b hb), hc⟩
    · exact .inr ⟨b, hrest r b hb, hs, Bool.eq_false_iff.mpr fun hm => hrM (.root ⟨b, hb, hs, hm⟩)⟩
  refine ⟨f, h', hrun, fun x hx => ?_, copyObj_of_unentered hroot,
    makeImmutable_of_unentered hroot post⟩
  obtain ⟨bx, hbx, -⟩ := hx.isMutable K h0
  obtain ⟨hb', hm'⟩ := himm x bx hx hbx
  refine ⟨fun ⟨b, hb, _, hm⟩ => ?_, _, hb', copiedBag_within K 0 (hfits x bx hx hbx) f _⟩
  rw [hb'] at hb; cases hb
  rw [hm] at hm'; cases hm'

end ImmutableCopy

/-- In `sampleKernel` the reset of a copyable type word is immutable. -/
theorem sampleKernel_reset_immutable (w : Nat) (hw : sampleKernel.copyableType w = true) :
    sampleKernel.mutableType (sampleKernel.resetMutable w) = false := by
  simp only [sampleKernel, Bool.or_eq_true, beq_iff_eq] at hw
  rcases hw with rfl | rfl <;> rfl

/-- The immutable copy of `loopHeap` settles. -/
theorem loopHeap_immutableCopy_settled :
    PlainHeap sampleKernel loopHeap ∧ Closed sampleKernel loopHeap ∧ OrigOrImm loopHeap (handle 0) ∧
    PlainReach sampleKernel loopHeap (handle 0) ∧
    (∀ x b, InM sampleKernel loopHeap (handle 0) x → loopHeap.get? x = some b →
      sampleKernel.copyableType (b.words 0) = true) ∧
    (∀ x b, InM sampleKernel loopHeap (handle 0) x → loopHeap.get? x = some b →
      SizeFits sampleKernel b) ∧
    (∀ w, sampleKernel.copyableType w = true →
      sampleKernel.mutableType (sampleKernel.resetMutable w) = false) ∧
    ∃ f : Nat → Nat, ∃ h', copyObj sampleKernel (handle 0) 0 loopHeap = .ok (f (handle 0)) h' ∧
      (∀ x, InM sampleKernel loopHeap (handle 0) x → ¬ IsMutable sampleKernel h' (f x) ∧
        ∃ b, h'.get? (f x) = some b ∧ b.Within) ∧
      (∀ mut', copyObj sampleKernel (f (handle 0)) mut' h' = .ok (f (handle 0)) h') ∧
      makeImmutable sampleKernel (fun _ => pure ()) (f (handle 0)) h' = .ok () h' :=
  ⟨loopHeap_plain, loopHeap_closed, by decide, loopHeap_plainReach, loopHeap_copyable, loopHeap_fits,
    sampleKernel_reset_immutable, immutableCopy_settled loopHeap_plain loopHeap_closed (by decide)
      loopHeap_plainReach loopHeap_copyable loopHeap_fits sampleKernel_reset_immutable _⟩

/-! ## `MakeImmutable` and a later copy -/

section Shallow

variable {K : Kernel}

/-- **`MakeImmutable` is shallow.** With a `PostMakeImmutable` that does
nothing, `MakeImmutable` of a mutable structural object whose reset type is
immutable leaves it immutable and every other bag as it was, so its mutable
subobjects stay mutable; `CopyObj` then returns the object itself, sharing
them. -/
theorem makeImmutable_shallow {h : Heap} {o : Nat} {b : Bag} (hb : h.get? o = some b)
    (hs : K.isStructural b.tnum) (hm : K.mutableType (b.words 0) = true)
    (hreset : K.mutableType (K.resetMutable (b.words 0)) = false) (mut' : Int) :
    ∃ h1, makeImmutable K (fun _ => pure ()) o h = .ok () h1 ∧ ¬ IsMutable K h1 o ∧
      (∀ x, x ≠ o → h1.get? x = h.get? x) ∧ copyObj K o mut' h1 = .ok o h1 := by
  have hb1 := resetHeap_get? (K := K) hb o
  rw [if_pos rfl] at hb1
  refine ⟨resetHeap K h o, ?_, fun ⟨b', hb', _, hm'⟩ => ?_, fun x hx => ?_,
    copyObj_of_immutable hb1 hs (by simpa using hreset) mut'⟩
  · rw [makeImmutable_structural _ hb hs, if_pos hm]
    split_ifs <;> rfl
  · rw [hb1] at hb'; cases hb'
    simp [hreset] at hm'
  · rw [resetHeap_get? hb x, if_neg hx]

end Shallow

/-! ## Saving a copy -/

/-- A token with its reference renamed by `f`; a word token is kept. -/
def SaveLoad.Token.rename (f : Nat → Nat) : Token → Token
  | .ref o => .ref (f o)
  | .word w => .word w

/-- A save loop over words that are a map of another bag's reads as that
bag's tokens, mapped. -/
theorem saveWords_map (tok : Nat → Token) (φ : Token → Token) (h h' : Heap) (x x' : Nat) :
    ∀ n i, (∀ k, i ≤ k → k < i + n → tok (h'.word x' k) = φ (tok (h.word x k))) →
      saveWords tok h' x' n i = (saveWords tok h x n i).map φ
  | 0, _, _ => rfl
  | n + 1, i, hw => by
    rw [saveWords, saveWords, List.map_cons, hw i le_rfl (by omega),
      saveWords_map tok φ h h' x x' n (i + 1) fun k h1 h2 => hw k (by omega) (by omega)]

/-- The entry loop of `SaveComObj` over a bag whose record names are
another's and whose values are `f` of the other's. -/
theorem saveComEntries_rename (f : Nat → Nat) (h h' : Heap) (x x' : Nat) :
    ∀ n i, (∀ k, i ≤ k → k < i + n →
      h'.word x' (2 * k) = h.word x (2 * k) ∧ h'.word x' (2 * k + 1) = f (h.word x (2 * k + 1))) →
      saveComEntries h' x' n i = (saveComEntries h x n i).map (Token.rename f)
  | 0, _, _ => rfl
  | n + 1, i, hw => by
    obtain ⟨h1, h2⟩ := hw i le_rfl (by omega)
    rw [saveComEntries, saveComEntries, List.map_cons, List.map_cons, h1, h2,
      saveComEntries_rename f h h' x x' n (i + 1) fun k h1 h2 => hw k (by omega) (by omega)]
    rfl

section SaveCopy

variable {K : Kernel} {h0 : Heap} (hp : PlainHeap K h0) (hcl : Closed K h0) {r : Nat}
  (hr : OrigOrImm h0 r) (hk : PlainReach K h0 r)
  (hcopyable : ∀ x b, InM K h0 r x → h0.get? x = some b → K.copyableType (b.words 0) = true)
  (hfits : ∀ x b, InM K h0 r x → h0.get? x = some b → SizeFits K b)
include hp hcl hr hk hcopyable hfits

/-- **Saving a copy.** After `CopyObj(r, mut)` on objects that fit their
sizes, the workspace tokens of the copy `f x` of an object `x` of `M(r)` are
those of `x` with the type word the copy got and every reference renamed
through `f`, which fixes every object outside `M(r)`: the record names and
the payload words are the original's. The save reads the words the copy
filled for a component object, for a positional object of at least one word,
and for a data object whose rounded size does not wrap. -/
theorem save_copy_renames (mut' : Int) :
    ∃ f : Nat → Nat, ∃ h', copyObj K r mut' h0 = .ok (f r) h' ∧ (∀ x, ¬ InM K h0 r x → f x = x) ∧
      ∀ x bx, InM K h0 r x → h0.get? x = some bx →
        (bx.tnum = K.tComObj → saveComObj h' (f x) =
          .ref (copyTypeWord K mut' (bx.words 0)) :: (saveComObj h0 x).tail.map (Token.rename f)) ∧
        (bx.tnum = K.tPosObj → wordSize ≤ bx.size → savePosObj h' (f x) =
          .ref (copyTypeWord K mut' (bx.words 0)) :: (savePosObj h0 x).tail.map (Token.rename f)) ∧
        (bx.tnum = K.tDatObj → bx.size + wordSize ≤ 2 ^ 64 → saveDatObj h' (f x) =
          .ref (copyTypeWord K mut' (bx.words 0)) :: (saveDatObj h0 x).tail) := by
  obtain ⟨f, h', hrun, -, hid, hcopy, -, -⟩ := copyObj_spec hp hcl hr hk mut' hcopyable
  refine ⟨f, h', hrun, hid, fun x bx hx hbx => ?_⟩
  have hb' := (hcopy x bx hx hbx).2
  have hsz : sizeObj h' (f x) = sizeObj h0 x := by rw [sizeObj_of_get? hb', sizeObj_of_get? hbx]; rfl
  have hw0 : h'.word (f x) 0 = copyTypeWord K mut' (bx.words 0) := by
    rw [word_of_get? hb']; rfl
  refine ⟨fun hcom => ?_, fun hpos hsize => ?_, fun hdat hwrap => ?_⟩
  · -- `LEN_PREC` is copied, the record names verbatim, the values through `f`
    have hw1 : h'.word (f x) 1 = h0.word x 1 := by
      rw [word_of_get? hb', word_of_get? hbx]
      simp only [copiedBag, if_neg one_ne_zero, if_neg (hcom ▸ K.com_ne_pos), if_pos hcom, if_true]
    rw [saveComObj, saveComObj, hw0, hw1, List.tail_cons, List.map_cons]
    refine congrArg _ (congrArg _ (saveComEntries_rename f h0 h' x (f x) _ 1 fun k h1 h2 => ?_))
    simp only [word_of_get? hb', word_of_get? hbx]
    exact copiedBag_words_com K mut' hcom h1 (by rw [word_of_get? hbx] at h2; omega) f _
  · -- every slot the save reads is one the copy filled
    rw [savePosObj, savePosObj, hw0, hsz, List.tail_cons]
    refine congrArg _ (saveWords_map _ _ h0 h' x (f x) _ 1 fun k h1 h2 => ?_)
    have hcount := posSlotCount_succ hsize bx.size_lt
    rw [sizeObj_of_get? hbx] at h2
    rw [word_of_get? hb', word_of_get? hbx, copiedBag_words_pos K mut' hpos (by omega) (by omega)]
    rfl
  · -- the payload words the save reads are the ones the copy copied
    have hpos := (hfits x bx hx hbx).1
    rw [saveDatObj, saveDatObj, hw0, hsz, List.tail_cons]
    refine congrArg _ ((saveWords_map _ id h0 h' x (f x) _ 1 fun k h1 h2 => ?_).trans (List.map_id _))
    have hcount := datWordCount_succ hpos hwrap
    rw [sizeObj_of_get? hbx] at h2
    rw [word_of_get? hb', word_of_get? hbx, copiedBag_words_dat K mut' hdat (by omega)
      (by rw [datPayloadCount_of_pos hpos bx.size_lt]; unfold wordsOf wordSize at hcount; unfold wordSize; omega)]
    rfl

end SaveCopy

/-- Saving the copy of the self-referential `loopHeap`. -/
theorem loopHeap_save_copy_renames :
    PlainHeap sampleKernel loopHeap ∧ Closed sampleKernel loopHeap ∧ OrigOrImm loopHeap (handle 0) ∧
    PlainReach sampleKernel loopHeap (handle 0) ∧
    (∀ x b, InM sampleKernel loopHeap (handle 0) x → loopHeap.get? x = some b →
      sampleKernel.copyableType (b.words 0) = true) ∧
    (∀ x b, InM sampleKernel loopHeap (handle 0) x → loopHeap.get? x = some b →
      SizeFits sampleKernel b) ∧
    ∃ f : Nat → Nat, ∃ h', copyObj sampleKernel (handle 0) 1 loopHeap = .ok (f (handle 0)) h' ∧
      (∀ x, ¬ InM sampleKernel loopHeap (handle 0) x → f x = x) ∧
      ∀ x bx, InM sampleKernel loopHeap (handle 0) x → loopHeap.get? x = some bx →
        (bx.tnum = sampleKernel.tComObj → saveComObj h' (f x) =
          .ref (copyTypeWord sampleKernel 1 (bx.words 0)) ::
            (saveComObj loopHeap x).tail.map (Token.rename f)) ∧
        (bx.tnum = sampleKernel.tPosObj → wordSize ≤ bx.size → savePosObj h' (f x) =
          .ref (copyTypeWord sampleKernel 1 (bx.words 0)) ::
            (savePosObj loopHeap x).tail.map (Token.rename f)) ∧
        (bx.tnum = sampleKernel.tDatObj → bx.size + wordSize ≤ 2 ^ 64 →
          saveDatObj h' (f x) = .ref (copyTypeWord sampleKernel 1 (bx.words 0)) :: (saveDatObj loopHeap x).tail) :=
  ⟨loopHeap_plain, loopHeap_closed, by decide, loopHeap_plainReach, loopHeap_copyable, loopHeap_fits,
    save_copy_renames loopHeap_plain loopHeap_closed (by decide) loopHeap_plainReach loopHeap_copyable
      loopHeap_fits 1⟩

end GapObjects
