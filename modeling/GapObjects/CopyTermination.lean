import GapObjects.CopySteps

/-!
# Termination of the copy and clean recursions

`COPY_OBJ` and the structural bodies call each other, and the heap grows
while they do. The recursion is bounded because

* a structural body marks its argument (`+COPYING`) before it recurses, and
  a marked original is never copied again;
* the loops only follow subvalues of originals (`IsChild`), which in a
  heap without dangling handles (`Closed`) are originals or immediates, never
  a fresh copy or forwarding record.

So the number of unmarked originals (`unmarked`) bounds the depth of the
recursion, and `copyObjDispatch` never runs out of fuel once it has one unit
more than there are bags (`copyObjDispatch_recFrame`). `CLEAN_OBJ` removes a
mark before it recurses, so the number of marked bags bounds it
(`cleanObjDispatch_recClean`).
-/

namespace GapObjects

open Heap

section

variable (K : Kernel)

/-! ## Subvalues and closed heaps -/

/-- A positional object, marked or not. -/
def posKind (t : Nat) : Prop := t = K.tPosObj ∨ t = K.tPosObj + K.copying

/-- A component object, marked or not. -/
def comKind (t : Nat) : Prop := t = K.tComObj ∨ t = K.tComObj + K.copying

instance (t : Nat) : Decidable (posKind K t) := by unfold posKind; infer_instance

instance (t : Nat) : Decidable (comKind K t) := by unfold comKind; infer_instance

/-- `c` is a subvalue the copy and clean loops visit in bag `b`: a non-zero
slot `1 .. SIZE/W - 1` of a positional object, or a value `1 .. LEN_PREC` of a
component object. -/
inductive IsChild (b : Bag) : Nat → Prop
  | pos {i : Nat} : posKind K b.tnum → 1 ≤ i → i < b.size / wordSize → b.words i ≠ 0 →
      IsChild b (b.words i)
  | com {i : Nat} : comKind K b.tnum → 1 ≤ i → i ≤ b.words 1 → IsChild b (b.words (2 * i + 1))

/-- An immediate, or a handle of a bag of `h0`. -/
def OrigOrImm (h0 : Heap) (o : Nat) : Prop := isImmediate o = true ∨ h0.Allocated o

instance (h0 : Heap) (o : Nat) : Decidable (OrigOrImm h0 o) := by unfold OrigOrImm; infer_instance

/-- No subvalue of a bag of `h0` is a dangling handle. -/
def Closed (h0 : Heap) : Prop :=
  ∀ o b, h0.get? o = some b → ∀ c, IsChild K b c → OrigOrImm h0 c

theorem Marks.posKind_iff {b b' : Bag} (hm : Marks K b b') : posKind K b'.tnum ↔ posKind K b.tnum := by
  have hs := K.structural_le_real hm.structural
  have hc := K.copying_gt_real (K.structural_add_copying hm.structural)
  have hk := K.copying_gt_real (K.structural_add_copying (by unfold Tnums.isStructural; omega :
    K.isStructural K.tPosObj))
  have := K.pos_mem
  unfold posKind Tnums.lastRealTnum at *; rw [hm.tnum]; omega

theorem Marks.comKind_iff {b b' : Bag} (hm : Marks K b b') : comKind K b'.tnum ↔ comKind K b.tnum := by
  have hs := K.structural_le_real hm.structural
  have hc := K.copying_gt_real (K.structural_add_copying hm.structural)
  have hk := K.copying_gt_real (K.structural_add_copying (by unfold Tnums.isStructural; omega :
    K.isStructural K.tComObj))
  have := K.com_mem
  unfold comKind Tnums.lastRealTnum at *; rw [hm.tnum]; omega

theorem Marks.isChild_iff {b b' : Bag} (hm : Marks K b b') {c : Nat} :
    IsChild K b' c ↔ IsChild K b c := by
  constructor
  · rintro (⟨hk, h1, h2, h3⟩ | ⟨hk, h1, h2⟩)
    · rw [hm.words _ (by omega)] at h3 ⊢
      exact .pos ((Marks.posKind_iff K hm).mp hk) h1 (hm.size ▸ h2) h3
    · rw [hm.words _ (by omega)] at h2 ⊢
      exact .com ((Marks.comKind_iff K hm).mp hk) h1 (hm.words 1 (by omega) ▸ h2)
  · rintro (⟨hk, h1, h2, h3⟩ | ⟨hk, h1, h2⟩)
    · rw [← hm.words _ (by omega)] at h3 ⊢
      exact .pos ((Marks.posKind_iff K hm).mpr hk) h1 (hm.size.symm ▸ h2) h3
    · rw [← hm.words _ (by omega)]
      exact .com ((Marks.comKind_iff K hm).mpr hk) h1 (by rw [hm.words 1 (by omega)]; exact h2)

/-! ## The measure -/

/-- The originals (among the first `n` bags) that are still unmarked
structural objects in `h`. -/
def unmarked (n : Nat) (h : Heap) : Finset Nat :=
  (Finset.range n).filter fun k =>
    (match h.bags[k]? with | some b => decide (K.isStructural b.tnum) | none => false) = true

theorem mem_unmarked {n : Nat} {h : Heap} {k : Nat} :
    k ∈ unmarked K n h ↔ k < n ∧ ∃ b, h.get? (handle k) = some b ∧ K.isStructural b.tnum := by
  simp only [unmarked, Finset.mem_filter, Finset.mem_range, get?_handle]
  cases h.bags[k]? <;> simp

theorem Frame.unmarked_subset {h0 h h' : Heap} (f : Frame K h0 h h')
    (hlen : h0.bags.length ≤ h.bags.length) :
    unmarked K h0.bags.length h' ⊆ unmarked K h0.bags.length h := by
  intro k hk
  obtain ⟨hkn, b', hb', hs⟩ := (mem_unmarked K).mp hk
  obtain ⟨b, hb⟩ := exists_get?_handle (by omega : k < h.bags.length)
  refine (mem_unmarked K).mpr ⟨hkn, b, hb, ?_⟩
  rcases f.old _ b hb with hb2 | ⟨-, b2, hb2, hm⟩
  · rw [hb'] at hb2; cases hb2; exact hs
  · rw [hb'] at hb2; cases hb2; exact absurd hs (hm.not_structural)

theorem unmarked_modify_fresh {h0 h : Heap} {c : Nat} (hc : ¬ h0.Allocated c) (g : Bag → Bag) :
    unmarked K h0.bags.length (h.modify c g) = unmarked K h0.bags.length h := by
  ext k
  simp only [mem_unmarked, get?_modify]
  constructor <;> rintro ⟨hk, rest⟩ <;> refine ⟨hk, ?_⟩ <;>
    · have hne : handle k ≠ c := by
        rintro rfl; exact hc (allocated_iff.mpr ⟨k, hk, rfl⟩)
      simpa [hne] using rest

/-- An old bag keeps its words past the first through a frame. -/
theorem Frame.word_of_ne_zero {h0 h h' : Heap} (f : Frame K h0 h h') {o : Nat} {b : Bag}
    (hb : h.get? o = some b) {i : Nat} (hi : i ≠ 0) : h'.word o i = b.words i := by
  rcases f.old o b hb with hb' | ⟨-, b', hb', hm⟩
  · exact word_of_get? hb' i
  · rw [word_of_get? hb', hm.words i hi]

/-! ## The traversal -/

/-- A copy call on `o` from `h` that ends on `h'` leaves `o` marked when it is
a mutable, copyable structural bag of `h`, whether the call returned or
failed. -/
def MarksOrig (h0 : Heap) (o : Nat) (h h' : Heap) : Prop :=
  ∀ k b, o = handle k → h.get? o = some b → K.isStructural b.tnum →
    K.mutableType (b.words 0) = true → K.copyableType (b.words 0) = true →
    k ∉ unmarked K h0.bags.length h'

/-- What the traversal needs of the recursive call: from a heap that extends
`h0` by markings, on an original or an immediate, it keeps the frame, it runs
out of fuel only if at least `fuel` originals are unmarked, and, given any
fuel, it marks a mutable, copyable original. -/
def RecFrame (h0 : Heap) (fuel : Nat) (rec : Nat → Int → Kern Nat) : Prop :=
  ∀ o mut' h, Frame K h0 h0 h → OrigOrImm h0 o →
    Frame K h0 h (Kern.heapOf (rec o mut' h)) ∧
    ((unmarked K h0.bags.length h).card < fuel → ∀ h', rec o mut' h ≠ .error .outOfFuel h') ∧
    (0 < fuel → MarksOrig K h0 o h (Kern.heapOf (rec o mut' h)))

section Loops

variable {K} {h0 hbase : Heap} {fuel : Nat}

theorem not_orig_of_fresh (fbase : Frame K h0 h0 hbase) {c : Nat} (hfresh : ¬ hbase.Allocated c) :
    ¬ h0.Allocated c := fun ho => by
  obtain ⟨b0, hb0⟩ := Option.isSome_iff_exists.mp ho
  rcases fbase.old c b0 hb0 with h | ⟨-, b', h, -⟩ <;> exact hfresh (by simp [Allocated, h])

variable (K h0 hbase fuel) in
/-- The traversal's postcondition for a run `r` started on `hk`: the frame
from `hbase`, no lack of fuel when fewer than `fuel` originals are unmarked in
`hk`, and no original of `hk` marked is unmarked again. -/
def TravOk {α : Type} (hk : Heap) (r : EStateM.Result Err Heap α) : Prop :=
  Frame K h0 hbase (Kern.heapOf r) ∧
    ((unmarked K h0.bags.length hk).card < fuel → ∀ h', r ≠ .error .outOfFuel h') ∧
    unmarked K h0.bags.length (Kern.heapOf r) ⊆ unmarked K h0.bags.length hk

theorem travOk_ok {α : Type} {hk : Heap} (fk : Frame K h0 hbase hk) (a : α) :
    TravOk K h0 hbase fuel hk (.ok a hk) :=
  ⟨fk, (fun _ _ h => by cases h), fun _ h => h⟩

/-- The recursive call on a subvalue, the write of its result into the copy
`c`, and then the rest of the loop. -/
theorem rec_then_write {rec : Nat → Int → Kern Nat} (hrec : RecFrame K h0 fuel rec)
    (fbase : Frame K h0 h0 hbase) {c : Nat} (hfresh : ¬ hbase.Allocated c)
    {o : Nat} (ho : OrigOrImm h0 o) (mut' : Int) {hk : Heap} (fk : Frame K h0 hbase hk)
    (i : Nat) (rest : Kern Unit)
    (hrest : ∀ h', Frame K h0 hbase h' →
      unmarked K h0.bags.length h' ⊆ unmarked K h0.bags.length hk →
      TravOk K h0 hbase fuel h' (rest h')) :
    TravOk K h0 hbase fuel hk ((rec o mut' >>= fun tmp => writeWord c i tmp >>= fun _ => rest) hk) := by
  obtain ⟨f1, hfuel, -⟩ := hrec o mut' hk (fbase.trans fk) ho
  have hsub := f1.unmarked_subset K ((fbase.trans fk).length_le)
  rw [Kern.bind_apply]
  cases hr : rec o mut' hk with
  | ok tmp h1 =>
    simp only [hr, Kern.heapOf_ok] at f1 hsub
    have hle : unmarked K h0.bags.length (h1.modify c (·.setWord i tmp)) ⊆
        unmarked K h0.bags.length hk := by
      rw [unmarked_modify_fresh K (not_orig_of_fresh fbase hfresh)]
      exact hsub
    obtain ⟨f2, hf, hs⟩ := hrest _ (Frame.modify_fresh (fk.trans f1) hfresh _) hle
    exact ⟨f2, fun hlt => hf (lt_of_le_of_lt (Finset.card_le_card hle) hlt), hs.trans hle⟩
  | error e h1 =>
    simp only [hr, Kern.heapOf_error] at f1 hfuel hsub
    exact ⟨fk.trans f1, fun hlt h' he => hfuel hlt h' (by simpa using he), hsub⟩

/-- The positional subvalue loop keeps the frame, and has fuel enough. -/
theorem copyPosSlots_trav (hcl : Closed K h0) {rec : Nat → Int → Kern Nat}
    (hrec : RecFrame K h0 fuel rec) (fbase : Frame K h0 h0 hbase) {obj c : Nat}
    (hfresh : ¬ hbase.Allocated c) {b : Bag} (hobj : h0.get? obj = some b)
    (hpos : posKind K b.tnum) (mut' : Int) :
    ∀ n i hk, Frame K h0 hbase hk → 1 ≤ i → (∀ j, i ≤ j → j < i + n → j < b.size / wordSize) →
      TravOk K h0 hbase fuel hk (copyPosSlots rec obj c mut' n i hk) := by
  intro n
  induction n with
  | zero => intro i hk fk _ _; exact travOk_ok fk ()
  | succ n ih =>
    intro i hk fk hi hrange
    have hw : hk.word obj i = b.words i := (fbase.trans fk).word_of_ne_zero K hobj (by omega)
    have hnext := fun h' (f' : Frame K h0 hbase h') =>
      ih (i + 1) h' f' (by omega) fun j h1 h2 => hrange j (by omega) (by omega)
    by_cases hv : b.words i = 0
    · simpa [copyPosSlots, hw, hv] using hnext hk fk
    · simp only [copyPosSlots, readWord_bind, hw, ne_eq, hv, not_false_eq_true, if_true,
        bind_assoc]
      exact rec_then_write hrec fbase hfresh
        (hcl obj b hobj _ (.pos hpos hi (hrange i le_rfl (by omega)) hv)) mut' fk i _
        fun h' f' _ => hnext h' f'

theorem ne_of_orig_fresh (fbase : Frame K h0 h0 hbase) {obj c : Nat} (hobj : h0.Allocated obj)
    (hfresh : ¬ hbase.Allocated c) : obj ≠ c := by
  rintro rfl; exact not_orig_of_fresh fbase hfresh hobj

/-- The component subvalue loop keeps the frame, and has fuel enough. -/
theorem copyComEntries_trav (hcl : Closed K h0) {rec : Nat → Int → Kern Nat}
    (hrec : RecFrame K h0 fuel rec) (fbase : Frame K h0 h0 hbase) {obj c : Nat}
    (hfresh : ¬ hbase.Allocated c) {b : Bag} (hobj : h0.get? obj = some b)
    (hcom : comKind K b.tnum) (mut' : Int) :
    ∀ n i hk, Frame K h0 hbase hk → 1 ≤ i → (∀ j, i ≤ j → j < i + n → j ≤ b.words 1) →
      TravOk K h0 hbase fuel hk (copyComEntries rec obj c mut' n i hk) := by
  have hne := ne_of_orig_fresh fbase (show h0.Allocated obj by simp [Allocated, hobj]) hfresh
  intro n
  induction n with
  | zero => intro i hk fk _ _; exact travOk_ok fk ()
  | succ n ih =>
    intro i hk fk hi hrange
    have hw : ∀ j, j ≠ 0 → hk.word obj j = b.words j := fun j hj =>
      (fbase.trans fk).word_of_ne_zero K hobj hj
    have fk1 := Frame.modify_fresh fk hfresh (·.setWord (2 * i) (b.words (2 * i)))
    have hcard := unmarked_modify_fresh K (h := hk) (not_orig_of_fresh fbase hfresh)
      (·.setWord (2 * i) (b.words (2 * i)))
    simp only [copyComEntries, readWord_bind, writeWord_bind, bind_assoc, hw _ (by omega : 2 * i ≠ 0),
      word_modify, hne, if_false, hw _ (by omega : 2 * i + 1 ≠ 0)]
    have := rec_then_write hrec fbase hfresh
      (hcl obj b hobj _ (.com hcom hi (hrange i le_rfl (by omega)))) mut' fk1 (2 * i + 1)
      (copyComEntries rec obj c mut' n (i + 1))
      fun h' f' _ => ih (i + 1) h' f' (by omega) fun j h1 h2 => hrange j (by omega) (by omega)
    rwa [TravOk, hcard] at this

/-- The raw word loop keeps the frame and never fails. -/
theorem copyDatWords_trav (fbase : Frame K h0 h0 hbase) {obj c : Nat}
    (hfresh : ¬ hbase.Allocated c) :
    ∀ n j hk, Frame K h0 hbase hk → TravOk K h0 hbase fuel hk (copyDatWords obj c n j hk) := by
  intro n
  induction n with
  | zero => intro j hk fk; exact travOk_ok fk ()
  | succ n ih =>
    intro j hk fk
    have := ih (j + 1) _ (Frame.modify_fresh fk hfresh (·.setWord j (hk.word obj j)))
    rw [TravOk, unmarked_modify_fresh K (not_orig_of_fresh fbase hfresh)] at this
    simpa [copyDatWords] using this

end Loops

/-! ## The dispatch -/

/-- A body that returns or raises at once, on the heap it was given. -/
def Inert (f : Nat → Int → Kern Nat) : Prop :=
  ∀ o mut' h, Kern.heapOf (f o mut' h) = h ∧ ∀ h', f o mut' h ≠ .error .outOfFuel h'

theorem Inert.ite {c : Prop} [Decidable c] {a b : Nat → Int → Kern Nat} (ha : c → Inert a)
    (hb : ¬ c → Inert b) : Inert (if c then a else b) := by
  by_cases hc : c
  · rw [if_pos hc]; exact ha hc
  · rw [if_neg hc]; exact hb hc

/-- Every entry of `CopyObjFuncs` but the three structural bodies returns or
raises at once, on the heap it was given. -/
theorem copyObjFuncs_inert {t : Nat} (ht : ¬ K.isStructural t) (rec : Nat → Int → Kern Nat) :
    Inert (copyObjFuncs K t rec) := by
  have herr : Inert (copyObjError K) := fun o mut' h => by
    simp only [copyObjError, tnumOf_bind_eq]
    cases tnumObj K h o <;> simp
  have hconst : Inert copyObjConstant := fun _ _ _ => ⟨rfl, fun _ he => by cases he⟩
  have hcopy : Inert copyObjCopy := fun _ _ _ => ⟨rfl, fun _ he => by cases he⟩
  -- one step per entry of the table: the structural entries contradict `ht`
  refine Inert.ite (fun _ => hconst) fun _ => Inert.ite (fun h => absurd (.inr (.inl h)) ht) fun _ =>
    Inert.ite (fun h => absurd (.inl h) ht) fun _ => Inert.ite (fun h => absurd (.inr (.inr h)) ht) fun _ =>
    Inert.ite (fun _ => hcopy) fun _ => Inert.ite (fun _ => hcopy) fun _ => Inert.ite (fun _ => hcopy) fun _ => herr

theorem markedHeap_get? {h : Heap} {obj : Nat} {b : Bag} (hb : h.get? obj = some b) (mut' : Int)
    (withLen : Bool) :
    (markedHeap K h obj b mut' withLen).get? obj = some (markBag K b (handle (h.bags.length + 1))) := by
  have hne := ne_handle_length hb
  have hne' : obj ≠ handle (h.bags.length + 1) := by
    rintro rfl; rw [get?_handle, List.getElem?_eq_none (by omega)] at hb; cases hb
  simp [markedHeap, get?_modify, get?_alloc, hne, hne', hb]

/-- A marked original is no longer counted. -/
theorem not_mem_unmarked_markedHeap {h : Heap} {obj : Nat} {b : Bag} (hb : h.get? obj = some b)
    (hs : K.isStructural b.tnum) (mut' : Int) (withLen : Bool) {n k : Nat} (hk : obj = handle k) :
    k ∉ unmarked K n (markedHeap K h obj b mut' withLen) := fun hm => by
  obtain ⟨-, b', hb', hs'⟩ := (mem_unmarked K).mp hm
  rw [← hk, markedHeap_get? K hb] at hb'; cases hb'
  exact (markBag_marks K hs _).not_structural K hs'

/-- Marking an unmarked original lowers the measure. -/
theorem unmarked_markedHeap_lt {h0 h : Heap} (fh : Frame K h0 h0 h) {obj : Nat} {b : Bag}
    (horig : h0.Allocated obj) (hb : h.get? obj = some b) (hs : K.isStructural b.tnum)
    (mut' : Int) (withLen : Bool) :
    (unmarked K h0.bags.length (markedHeap K h obj b mut' withLen)).card <
      (unmarked K h0.bags.length h).card := by
  obtain ⟨k, hk, rfl⟩ := allocated_iff.mp horig
  apply Finset.card_lt_card
  refine Finset.ssubset_iff_of_subset
    ((markedHeap_frame K hb horig hs mut' withLen).unmarked_subset K fh.length_le) |>.mpr
    ⟨k, (mem_unmarked K).mpr ⟨hk, b, hb, hs⟩, not_mem_unmarked_markedHeap K hb hs mut' withLen rfl⟩

theorem travOk_then_pure {h0 hbase : Heap} {fuel : Nat} {hk : Heap} {x : Kern Unit} {c : Nat}
    (hx : TravOk K h0 hbase fuel hk (x hk)) :
    TravOk K h0 hbase fuel hk ((x >>= fun _ => pure c) hk) := by
  cases hr : x hk with
  | ok _ h' => rw [bind_of_ok hr]; rw [hr] at hx; exact ⟨hx.1, (fun _ _ he => by cases he), hx.2.2⟩
  | error e h' =>
    rw [Kern.bind_error hr]; rw [hr] at hx
    exact ⟨hx.1, fun hlt h'' he => hx.2.1 hlt h'' (by cases he; rfl), hx.2.2⟩

/-- A structural body, given a subvalue loop that keeps the frame from the
marked heap on: the body keeps the frame, needs no more fuel than the loop,
and leaves its argument marked once it has marked it. -/
theorem copyStructural_recFrame {h0 h : Heap} {fuel : Nat} (fh : Frame K h0 h0 h) {o : Nat}
    {b : Bag} (horig : h0.Allocated o) (hb : h.get? o = some b) (hs : K.isStructural b.tnum)
    (withLen : Bool) (sub : Nat → Nat → Int → Kern Unit) (mut' : Int)
    (hsub : TravOk K h0 h fuel (markedHeap K h o b mut' withLen)
      (sub o (handle h.bags.length) mut' (markedHeap K h o b mut' withLen))) :
    Frame K h0 h (Kern.heapOf (copyStructural K withLen sub o mut' h)) ∧
      ((unmarked K h0.bags.length h).card < fuel + 1 →
        ∀ h', copyStructural K withLen sub o mut' h ≠ .error .outOfFuel h') ∧
      MarksOrig K h0 o h (Kern.heapOf (copyStructural K withLen sub o mut' h)) := by
  have hbody : ∀ b', h.get? o = some b' → K.mutableType (b'.words 0) = true →
      K.copyableType (b'.words 0) = true → K.mutableType (b.words 0) = true ∧
        K.copyableType (b.words 0) = true := fun b' hb' hm hc => by
    rw [hb] at hb'; cases hb'; exact ⟨hm, hc⟩
  cases hm : K.mutableType (b.words 0)
  · rw [copyStructural_immutable K hb hs withLen sub mut' hm]
    refine ⟨Frame.refl h0 h, (fun _ _ he => by cases he), fun _ b' _ hb' _ hm' hc' => ?_⟩
    rw [(hbody b' hb' hm' hc').1] at hm; cases hm
  cases hc : K.copyableType (b.words 0)
  · rw [copyStructural_not_copyable K hb hs withLen sub mut' hm hc]
    refine ⟨Frame.refl h0 h, (fun _ _ he => by cases he), fun _ b' _ hb' _ hm' hc' => ?_⟩
    rw [(hbody b' hb' hm' hc').2] at hc; cases hc
  rw [copyStructural_copy K hb hs withLen sub mut' hm hc]
  have hlt := unmarked_markedHeap_lt K fh horig hb hs mut' withLen
  obtain ⟨f, hfuel, hsub'⟩ := travOk_then_pure K hsub (c := handle h.bags.length)
  exact ⟨f, fun hle => hfuel (by omega),
    fun k _ hk _ _ _ _ hmem => not_mem_unmarked_markedHeap K hb hs mut' withLen hk (hsub' hmem)⟩

theorem copyObjFuncs_pos (rec : Nat → Int → Kern Nat) :
    copyObjFuncs K K.tPosObj rec = copyObjPosObj K rec := by
  have := (structural_filters K (by unfold Tnums.isStructural; omega : K.isStructural K.tPosObj)).1
  simp [copyObjFuncs, this]

theorem copyObjFuncs_com (rec : Nat → Int → Kern Nat) :
    copyObjFuncs K K.tComObj rec = copyObjComObj K rec := by
  have := (structural_filters K (by unfold Tnums.isStructural; omega : K.isStructural K.tComObj)).1
  simp [copyObjFuncs, this, K.com_ne_pos]

theorem copyObjFuncs_dat (rec : Nat → Int → Kern Nat) :
    copyObjFuncs K K.tDatObj rec = copyObjDatObj K := by
  have := (structural_filters K (by unfold Tnums.isStructural; omega : K.isStructural K.tDatObj))
  simp [copyObjFuncs, this.1, K.com_ne_dat.symm, K.pos_ne_dat.symm]

/-- What `TNUM_OBJ` finds on an original or an immediate of a heap that
extends `h0` by markings: a type number with no structural body, or an
unmarked original. -/
theorem tnum_class {h0 h : Heap} (fh : Frame K h0 h0 h) {o : Nat} (ho : OrigOrImm h0 o) :
    ∃ t, tnumObj K h o = some t ∧ (¬ K.isStructural t ∨
      ∃ b, h.get? o = some b ∧ h0.get? o = some b ∧ t = b.tnum ∧ K.isStructural t) := by
  rcases ho with himm | horig
  · have hconst : ∀ t, t ≤ K.lastConstantTnum → ¬ K.isStructural t := fun t ht hs =>
      absurd (structural_filters K hs).1 (by omega)
    simp only [isImmediate, Bool.or_eq_true] at himm
    by_cases hi : isIntObj o = true
    · exact ⟨_, by simp [tnumObj, hi], .inl (hconst _ K.int_le)⟩
    · exact ⟨_, by simp [tnumObj, hi, himm.resolve_left hi], .inl (hconst _ K.ffe_le)⟩
  · obtain ⟨b0, hb0⟩ := Option.isSome_iff_exists.mp horig
    rcases fh.old o b0 hb0 with hb | ⟨-, b', hb, hm⟩
    · refine ⟨b0.tnum, tnumObj_of_get? K hb, ?_⟩
      by_cases hs : K.isStructural b0.tnum
      · exact .inr ⟨b0, hb, hb0, rfl, hs⟩
      · exact .inl hs
    · exact ⟨b'.tnum, tnumObj_of_get? K hb, .inl (hm.not_structural K)⟩

/-- **Traversal of `COPY_OBJ`.** On a closed heap `h0`, from any heap that
extends `h0` by markings, `COPY_OBJ` on an original or an immediate keeps
that frame, and runs out of fuel only if it is given no more fuel than there
are unmarked originals. -/
theorem copyObjDispatch_recFrame {h0 : Heap} (hcl : Closed K h0) :
    ∀ fuel, RecFrame K h0 fuel (copyObjDispatch K fuel) := by
  intro fuel
  induction fuel with
  | zero =>
    intro o mut' h _ _
    exact ⟨by simpa [copyObjDispatch] using Frame.refl h0 h, fun hlt => absurd hlt (Nat.not_lt_zero _),
      fun h => absurd h (Nat.lt_irrefl 0)⟩
  | succ fuel ih =>
    intro o mut' h fh ho
    obtain ⟨t, ht, hns | ⟨b, hb, hb0, rfl, hs⟩⟩ := tnum_class K fh ho
    · obtain ⟨h1, h2⟩ := copyObjFuncs_inert K hns (copyObjDispatch K fuel) o mut' h
      simp only [copyObjDispatch, tnumOf_bind K _ ht]
      refine ⟨by rw [h1]; exact Frame.refl h0 h, fun _ => h2, fun _ _ b' _ hb' hs' => ?_⟩
      rw [tnumObj_of_get? K hb'] at ht; cases ht
      exact absurd hs' hns
    have horig : h0.Allocated o := by simp [Allocated, hb0]
    have hfresh := alloc_handle_not_allocated h
    simp only [copyObjDispatch, tnumOf_bind K _ ht]
    have fk := markedHeap_frame K hb horig hs mut'
    have hget := markedHeap_get? K hb mut'
    rcases id hs with hcom | hpos | hdat
    · rw [hcom, copyObjFuncs_com]; unfold copyObjComObj
      refine (copyStructural_recFrame K fh horig hb hs true _ mut' ?_).imp id (.imp id fun h _ => h)
      simp only [readWord_bind, word_of_get? (hget true), markBag_words K one_ne_zero]
      exact copyComEntries_trav hcl ih fh hfresh hb0 (.inl hcom) mut' (b.words 1) 1
        (markedHeap K h o b mut' true) (fk true) le_rfl (fun j _ _ => by omega)
    · rw [hpos, copyObjFuncs_pos]; unfold copyObjPosObj
      refine (copyStructural_recFrame K fh horig hb hs false _ mut' ?_).imp id (.imp id fun h _ => h)
      simp only [sizeOf_bind, sizeObj_of_get? (hget false), markBag_size]
      exact copyPosSlots_trav hcl ih fh hfresh hb0 (.inl hpos) mut' (b.size / wordSize - 1) 1
        (markedHeap K h o b mut' false) (fk false) le_rfl (fun j _ _ => by omega)
    · rw [hdat, copyObjFuncs_dat]; unfold copyObjDatObj
      refine (copyStructural_recFrame K fh horig hb hs false _ mut' ?_).imp id (.imp id fun h _ => h)
      rw [sizeOf_bind, sizeObj_of_get? (hget false), markBag_size]
      exact copyDatWords_trav fh hfresh (datPayloadCount b.size) 1
        (markedHeap K h o b mut' false) (fk false)

/-! ## Cleaning -/

/-- What cleaning does to a marked bag: `COPYING` removed, its first word
replaced, everything else kept. -/
structure Unmarks (b b' : Bag) : Prop where
  copying : K.isCopying b.tnum
  tnum : b'.tnum = b.tnum - K.copying
  size : b'.size = b.size
  region : b'.region = b.region
  words : ∀ i, i ≠ 0 → b'.words i = b.words i

theorem Unmarks.not_copying {b b' : Bag} (hu : Unmarks K b b') : ¬ K.isCopying b'.tnum := by
  obtain ⟨u, hs, hu'⟩ := hu.copying
  rw [hu.tnum, hu', Nat.add_sub_cancel]
  exact K.not_copying_of_le_real (K.structural_le_real hs).2

/-- `h'` is `h` with some marked bags unmarked, each first word taken from
word 1 of the bag it pointed at: what a clean run does. -/
structure CleanFrame (h h' : Heap) : Prop where
  length : h'.bags.length = h.bags.length
  region : h'.curRegion = h.curRegion
  old : ∀ o b, h.get? o = some b → h'.get? o = some b ∨
    ∃ b', h'.get? o = some b' ∧ Unmarks K b b' ∧ b'.words 0 = h.word (b.words 0) 1

namespace CleanFrame

variable {K} {h h1 h2 : Heap}

theorem refl (h : Heap) : CleanFrame K h h := ⟨rfl, rfl, fun _ _ hb => .inl hb⟩

/-- Cleaning changes first words only. -/
theorem word_ne_zero (f : CleanFrame K h h1) (p : Nat) {i : Nat} (hi : i ≠ 0) :
    h1.word p i = h.word p i := by
  cases hp : h.get? p with
  | none =>
    have hp1 : h1.get? p = none := by
      cases hp' : h1.get? p with
      | none => rfl
      | some b' =>
        obtain ⟨k, rfl, hk⟩ := get?_eq_some hp'
        obtain ⟨b, hb⟩ := exists_get?_handle (h := h)
          (by rw [← f.length]; exact (List.getElem?_eq_some_iff.mp hk).1)
        rw [hp] at hb; cases hb
    rw [word_def, word_def, hp, hp1]
  | some b =>
    rcases f.old p b hp with hb' | ⟨b', hb', hu, -⟩
    · rw [word_of_get? hb', word_of_get? hp]
    · rw [word_of_get? hb', word_of_get? hp, hu.words i hi]

theorem trans (f1 : CleanFrame K h h1) (f2 : CleanFrame K h1 h2) : CleanFrame K h h2 := by
  refine ⟨f2.length.trans f1.length, f2.region.trans f1.region, fun o b hb => ?_⟩
  rcases f1.old o b hb with hb1 | ⟨b1, hb1, hu1, hw1⟩
  · rcases f2.old o b hb1 with hb2 | ⟨b2, hb2, hu2, hw2⟩
    · exact .inl hb2
    · exact .inr ⟨b2, hb2, hu2, hw2.trans (f1.word_ne_zero _ one_ne_zero)⟩
  · rcases f2.old o b1 hb1 with hb2 | ⟨b2, -, hu2, -⟩
    · exact .inr ⟨b1, hb2, hu1, hw1⟩
    · exact absurd hu2.copying (hu1.not_copying K)

end CleanFrame

/-- The bags of `h` that are marked. -/
def markedSet (h : Heap) : Finset Nat :=
  (Finset.range h.bags.length).filter fun k =>
    (match h.bags[k]? with | some b => decide (K.isCopying b.tnum) | none => false) = true

theorem mem_markedSet {h : Heap} {k : Nat} :
    k ∈ markedSet K h ↔ ∃ b, h.get? (handle k) = some b ∧ K.isCopying b.tnum := by
  simp only [markedSet, Finset.mem_filter, Finset.mem_range, get?_handle]
  constructor
  · rintro ⟨-, hk⟩; revert hk; cases h.bags[k]? <;> simp
  · rintro ⟨b, hb, hc⟩
    exact ⟨(List.getElem?_eq_some_iff.mp hb).1, by simp [hb, hc]⟩

theorem CleanFrame.markedSet_subset {h h' : Heap} (f : CleanFrame K h h') :
    markedSet K h' ⊆ markedSet K h := by
  intro k hk
  obtain ⟨b', hb', hc⟩ := (mem_markedSet K).mp hk
  have hlt : k < h.bags.length := by
    rw [get?_handle] at hb'
    have := (List.getElem?_eq_some_iff.mp hb').1; have := f.length; omega
  obtain ⟨b, hb⟩ := exists_get?_handle hlt
  refine (mem_markedSet K).mpr ⟨b, hb, ?_⟩
  rcases f.old _ b hb with hb2 | ⟨b2, hb2, hu, -⟩
  · rw [hb'] at hb2; cases hb2; exact hc
  · exact hu.copying

/-- What the clean traversal needs of the recursive call: it keeps the clean
frame, and runs out of fuel only if at least `fuel` bags are marked. -/
def RecClean (fuel : Nat) (rec : Nat → Kern Unit) : Prop :=
  ∀ o h, CleanFrame K h (Kern.heapOf (rec o h)) ∧
    ((markedSet K h).card < fuel → ∀ h', rec o h ≠ .error .outOfFuel h')

section CleanLoops

variable {K} {hbase : Heap} {fuel : Nat}

variable (K hbase fuel) in
/-- The clean traversal's postcondition for a run `r` started on `hk`. -/
def CleanOk {α : Type} (hk : Heap) (r : EStateM.Result Err Heap α) : Prop :=
  CleanFrame K hbase (Kern.heapOf r) ∧
    ((markedSet K hk).card < fuel → ∀ h', r ≠ .error .outOfFuel h')

theorem cleanOk_ok {α : Type} {hk : Heap} (fk : CleanFrame K hbase hk) (a : α) :
    CleanOk K hbase fuel hk (.ok a hk) :=
  ⟨fk, fun _ _ h => by cases h⟩

/-- The recursive clean of a subvalue, then the rest of the loop. -/
theorem rec_then_rest {rec : Nat → Kern Unit} (hrec : RecClean K fuel rec) (o : Nat) {hk : Heap}
    (fk : CleanFrame K hbase hk) (rest : Kern Unit)
    (hrest : ∀ h', CleanFrame K hbase h' → (markedSet K h').card ≤ (markedSet K hk).card →
      CleanOk K hbase fuel h' (rest h')) :
    CleanOk K hbase fuel hk ((rec o >>= fun _ => rest) hk) := by
  obtain ⟨f1, hfuel⟩ := hrec o hk
  cases hr : rec o hk with
  | ok _ h1 =>
    rw [bind_of_ok hr]; rw [hr] at f1
    have hle := Finset.card_le_card (f1.markedSet_subset K)
    exact (hrest h1 (fk.trans f1) hle).imp id fun hf hlt => hf (lt_of_le_of_lt hle hlt)
  | error e h1 =>
    rw [Kern.bind_error hr]; rw [hr] at f1 hfuel
    exact ⟨fk.trans f1, fun hlt h' he => hfuel hlt h' he⟩

theorem cleanPosSlots_ok {rec : Nat → Kern Unit} (hrec : RecClean K fuel rec) (obj : Nat) :
    ∀ n i hk, CleanFrame K hbase hk → CleanOk K hbase fuel hk (cleanPosSlots rec obj n i hk) := by
  intro n
  induction n with
  | zero => intro i hk fk; exact cleanOk_ok fk ()
  | succ n ih =>
    intro i hk fk
    by_cases hv : hk.word obj i = 0
    · simpa [cleanPosSlots, hv] using ih (i + 1) hk fk
    · simp only [cleanPosSlots, readWord_bind, ne_eq, hv, not_false_eq_true, if_true, bind_assoc]
      exact rec_then_rest hrec _ fk _ fun h' f' _ => ih (i + 1) h' f'

theorem cleanComEntries_ok {rec : Nat → Kern Unit} (hrec : RecClean K fuel rec) (obj : Nat) :
    ∀ n i hk, CleanFrame K hbase hk → CleanOk K hbase fuel hk (cleanComEntries rec obj n i hk) := by
  intro n
  induction n with
  | zero => intro i hk fk; exact cleanOk_ok fk ()
  | succ n ih =>
    intro i hk fk
    simp only [cleanComEntries, readWord_bind]
    exact rec_then_rest hrec _ fk _ fun h' f' _ => ih (i + 1) h' f'

end CleanLoops

/-! ## One clean step -/

/-- The bag `CleanCopying` leaves in place of the marked bag `b`: word 0 comes
back from the forwarding record and `COPYING` is removed. -/
def unmarkBag (b : Bag) (w : Nat) : Bag := (b.setWord 0 w).retype (b.tnum - K.copying)

theorem unmarkBag_unmarks {b : Bag} (hc : K.isCopying b.tnum) (w : Nat) :
    Unmarks K b (unmarkBag K b w) :=
  ⟨hc, rfl, rfl, rfl, fun i hi => by simp [unmarkBag, hi]⟩

theorem cleanCopying_spec (sub : Nat → Kern Unit) {h : Heap} {obj : Nat} {b : Bag}
    (hb : h.get? obj = some b) :
    cleanCopying K sub obj h = sub obj (h.modify obj (unmarkBag K · (h.word (b.words 0) 1))) := by
  have ht : tnumObj K (h.modify obj (·.setWord 0 (h.word (b.words 0) 1))) obj = some b.tnum := by
    rw [tnumObj_of_get? K (by rw [get?_modify, if_pos rfl, hb]; rfl)]; rfl
  simp only [cleanCopying, readWord_bind, word_of_get? hb, writeWord_bind, tnumOf_bind K _ ht,
    retypeBag_bind, modify_modify]
  exact congrArg _ (modify_congr fun b' hb' => by rw [hb] at hb'; cases hb'; rfl)

theorem CleanFrame.unmark {h : Heap} {o : Nat} {b : Bag} (hb : h.get? o = some b) {f : Bag → Bag}
    (hu : Unmarks K b (f b)) (hw : (f b).words 0 = h.word (b.words 0) 1) :
    CleanFrame K h (h.modify o f) := by
  refine ⟨by simp, by simp, fun o' b' hb' => ?_⟩
  rw [get?_modify]
  split
  · subst_vars; rw [hb] at hb'; cases hb'; exact .inr ⟨_, by simp [hb], hu, hw⟩
  · exact .inl hb'

theorem markedSet_unmark_lt {h : Heap} {o : Nat} {b : Bag} (hb : h.get? o = some b)
    {f : Bag → Bag} (hu : Unmarks K b (f b)) (hw : (f b).words 0 = h.word (b.words 0) 1) :
    (markedSet K (h.modify o f)).card < (markedSet K h).card := by
  obtain ⟨k, rfl, -⟩ := get?_eq_some hb
  refine Finset.card_lt_card ((Finset.ssubset_iff_of_subset
    (CleanFrame.unmark K hb hu hw).markedSet_subset).mpr
      ⟨k, (mem_markedSet K).mpr ⟨b, hb, hu.copying⟩, ?_⟩)
  rw [mem_markedSet]
  rintro ⟨b', hb', hc⟩
  rw [get?_modify, if_pos rfl, hb] at hb'; cases hb'
  exact hu.not_copying K hc

theorem get?_of_tnumObj {h : Heap} {o t : Nat} (ht : tnumObj K h o = some t)
    (hlt : K.lastConstantTnum < t) : ∃ b, h.get? o = some b ∧ b.tnum = t := by
  unfold tnumObj at ht
  split_ifs at ht
  · cases ht; exact absurd K.int_le (by omega)
  · cases ht; exact absurd K.ffe_le (by omega)
  · exact Option.map_eq_some'.mp ht

theorem cleanObjFuncs_inert {t : Nat} (ht : ¬ K.isCopying t) (rec : Nat → Kern Unit) (o : Nat)
    (h : Heap) : Kern.heapOf (cleanObjFuncs K t rec o h) = h ∧
      ∀ h', cleanObjFuncs K t rec o h ≠ .error .outOfFuel h' := by
  have herr : Kern.heapOf (cleanObjError K o h) = h ∧
      ∀ h', cleanObjError K o h ≠ .error .outOfFuel h' := by
    simp only [cleanObjError, tnumOf_bind_eq]
    cases tnumObj K h o <;> simp
  have hnothing : Kern.heapOf (cleanObjNothing o h) = h ∧
      ∀ h', cleanObjNothing o h ≠ .error .outOfFuel h' := ⟨rfl, fun _ he => by cases he⟩
  have hcop : ∀ u, K.isStructural u → ¬ t = u + K.copying := fun u hu he => ht ⟨u, hu, he⟩
  have hpos := hcop _ (Or.inr (Or.inl rfl))
  have hcom := hcop _ (Or.inl rfl)
  have hdat := hcop _ (Or.inr (Or.inr rfl))
  unfold cleanObjFuncs
  split_ifs <;> first | exact hnothing | exact herr

theorem cleanObjFuncs_pos (rec : Nat → Kern Unit) :
    cleanObjFuncs K (K.tPosObj + K.copying) rec = cleanObjPosObjCopy K rec := by
  obtain ⟨h1, h2⟩ := K.copying_not_low (K.structural_add_copying (Or.inr (Or.inl rfl)))
  unfold Tnums.isStructural at h2
  rw [cleanObjFuncs, if_neg h1, if_neg, if_pos rfl]
  omega

theorem cleanObjFuncs_com (rec : Nat → Kern Unit) :
    cleanObjFuncs K (K.tComObj + K.copying) rec = cleanObjComObjCopy K rec := by
  obtain ⟨h1, h2⟩ := K.copying_not_low (K.structural_add_copying (Or.inl rfl))
  unfold Tnums.isStructural at h2
  have := K.com_ne_pos
  rw [cleanObjFuncs, if_neg h1, if_neg, if_neg, if_pos rfl] <;> omega

theorem cleanObjFuncs_dat (rec : Nat → Kern Unit) :
    cleanObjFuncs K (K.tDatObj + K.copying) rec = cleanObjDatObjCopy K := by
  obtain ⟨h1, h2⟩ := K.copying_not_low (K.structural_add_copying (Or.inr (Or.inr rfl)))
  unfold Tnums.isStructural at h2
  have := K.com_ne_dat; have := K.pos_ne_dat
  rw [cleanObjFuncs, if_neg h1, if_neg, if_neg, if_neg, if_pos rfl] <;> omega

/-- **Clean terminates.** Each call unmarks one bag before it recurses, so
one unit of fuel per marked bag, and one more, is enough. -/
theorem cleanObjDispatch_recClean : ∀ fuel, RecClean K fuel (cleanObjDispatch K fuel)
  | 0 => fun _ h => ⟨CleanFrame.refl h, fun hlt => absurd hlt (Nat.not_lt_zero _)⟩
  | fuel + 1 => by
    intro o h
    have hrec := cleanObjDispatch_recClean fuel
    cases ht : tnumObj K h o with
    | none =>
      simp only [cleanObjDispatch, tnumOf_bind_none K _ ht]
      exact ⟨CleanFrame.refl h, fun _ _ he => by cases he⟩
    | some t =>
      simp only [cleanObjDispatch, tnumOf_bind K _ ht]
      by_cases hc : K.isCopying t
      case neg =>
        obtain ⟨h1, h2⟩ := cleanObjFuncs_inert K hc (cleanObjDispatch K fuel) o h
        exact ⟨by rw [h1]; exact CleanFrame.refl h, fun _ => h2⟩
      obtain ⟨b, hb, rfl⟩ := get?_of_tnumObj K ht (Nat.lt_of_not_le (K.copying_not_low hc).1)
      -- the bag is unmarked first; its subvalues are cleaned on the heap that results
      have hu := unmarkBag_unmarks K hc (h.word (b.words 0) 1)
      have hw : (unmarkBag K b (h.word (b.words 0) 1)).words 0 = h.word (b.words 0) 1 := by
        simp [unmarkBag]
      have f2 := CleanFrame.unmark K hb (f := (unmarkBag K · (h.word (b.words 0) 1))) hu hw
      have hlt := markedSet_unmark_lt K hb (f := (unmarkBag K · (h.word (b.words 0) 1))) hu hw
      have lift : ∀ r : EStateM.Result Err Heap Unit,
          CleanOk K h fuel (h.modify o (unmarkBag K · (h.word (b.words 0) 1))) r →
          CleanFrame K h (Kern.heapOf r) ∧
            ((markedSet K h).card < fuel + 1 → ∀ h', r ≠ .error .outOfFuel h') :=
        fun r hr => ⟨hr.1, fun hl => hr.2 (by omega)⟩
      obtain ⟨u, hs, hbt⟩ := hc
      rcases hs with rfl | rfl | rfl
      · rw [hbt, cleanObjFuncs_com]; unfold cleanObjComObjCopy
        rw [cleanCopying_spec K _ hb, readWord_bind]
        exact lift _ (cleanComEntries_ok hrec o _ 1 _ f2)
      · rw [hbt, cleanObjFuncs_pos]; unfold cleanObjPosObjCopy
        rw [cleanCopying_spec K _ hb, sizeOf_bind]
        exact lift _ (cleanPosSlots_ok hrec o _ 1 _ f2)
      · rw [hbt, cleanObjFuncs_dat]; unfold cleanObjDatObjCopy
        rw [cleanCopying_spec K _ hb]
        exact lift _ (cleanOk_ok f2 ())

/-! ## Both passes terminate -/

theorem card_unmarked_le (n : Nat) (h : Heap) : (unmarked K n h).card ≤ n :=
  (Finset.card_filter_le _ _).trans (Finset.card_range n).le

theorem card_markedSet_le (h : Heap) : (markedSet K h).card ≤ h.bags.length :=
  (Finset.card_filter_le _ _).trans (Finset.card_range _).le

theorem copyObj_apply (o : Nat) (mut' : Int) (h : Heap) :
    copyObj K o mut' h = (copyObjDispatch K (h.bags.length + 1) o mut' >>= fun new h' =>
      (cleanObjDispatch K (h'.bags.length + 1) o >>= fun _ => pure new) h') h := rfl

/-- **Copy and clean terminate.** On a heap without dangling handles, the copy
recursion from an original or an immediate never runs out of fuel once it has
more units than the heap has bags; the clean recursion never does on any
heap; so `CopyObj`, which gives each pass that much, never does. -/
theorem copy_clean_terminate {h0 : Heap} (hcl : Closed K h0) {o : Nat} (ho : OrigOrImm h0 o)
    (mut' : Int) :
    (∀ fuel, h0.bags.length < fuel → ∀ h', copyObjDispatch K fuel o mut' h0 ≠ .error .outOfFuel h') ∧
    (∀ h fuel, h.bags.length < fuel → ∀ o' h', cleanObjDispatch K fuel o' h ≠ .error .outOfFuel h') ∧
    ∀ h', copyObj K o mut' h0 ≠ .error .outOfFuel h' := by
  have hcopy : ∀ fuel, h0.bags.length < fuel → ∀ h',
      copyObjDispatch K fuel o mut' h0 ≠ .error .outOfFuel h' := fun fuel hf =>
    (copyObjDispatch_recFrame K hcl fuel o mut' h0 (Frame.refl h0 h0) ho).2.1
      (lt_of_le_of_lt (card_unmarked_le K _ _) hf)
  have hclean : ∀ h fuel, h.bags.length < fuel → ∀ o' h',
      cleanObjDispatch K fuel o' h ≠ .error .outOfFuel h' := fun h fuel hf o' =>
    (cleanObjDispatch_recClean K fuel o' h).2 (lt_of_le_of_lt (card_markedSet_le K h) hf)
  refine ⟨hcopy, hclean, fun h' => ?_⟩
  rw [copyObj_apply]
  cases hc : copyObjDispatch K (h0.bags.length + 1) o mut' h0 with
  | error e h1 => rw [Kern.bind_error hc]; rw [← hc]; exact hcopy _ (Nat.lt_succ_self _) h'
  | ok new h1 =>
    rw [bind_of_ok hc]
    cases hcl' : cleanObjDispatch K (h1.bags.length + 1) o h1 with
    | error e h2 =>
      rw [Kern.bind_error hcl']
      exact fun he => hclean _ _ (Nat.lt_succ_self _) o h' (by cases he; exact hcl')
    | ok _ h2 => rw [bind_of_ok hcl']; exact fun he => by cases he

theorem loopHeap_closed : Closed sampleKernel loopHeap := by
  intro o b hb c hc
  obtain ⟨k, rfl, hk⟩ := get?_eq_some hb
  have hk0 : k = 0 := by
    have := (List.getElem?_eq_some_iff.mp hk).1; simp only [loopHeap, List.length_singleton] at this
    omega
  subst hk0
  cases hk
  cases hc with
  | @pos i _ h1 h2 _ =>
    have h2' : i < 3 := h2
    obtain rfl | rfl : i = 1 ∨ i = 2 := by omega
    all_goals decide
  | com hk => exact absurd hk (by decide)

/-- Copying the self-referential `loopHeap` terminates. -/
theorem loopHeap_copy_clean_terminate :
    Closed sampleKernel loopHeap ∧ OrigOrImm loopHeap (handle 0) ∧
    ((∀ fuel, loopHeap.bags.length < fuel → ∀ h',
        copyObjDispatch sampleKernel fuel (handle 0) 1 loopHeap ≠ .error .outOfFuel h') ∧
      (∀ h fuel, h.bags.length < fuel → ∀ o' h',
        cleanObjDispatch sampleKernel fuel o' h ≠ .error .outOfFuel h') ∧
      ∀ h', copyObj sampleKernel (handle 0) 1 loopHeap ≠ .error .outOfFuel h') :=
  ⟨loopHeap_closed, by decide,
    copy_clean_terminate sampleKernel loopHeap_closed (o := handle 0) (by decide) 1⟩

end

end GapObjects
