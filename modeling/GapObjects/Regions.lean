import GapObjects.CleanCorrect

/-!
# Region guards of the copy handlers

`ImmutableCopyObjHandler` and `MutableCopyObjHandler` call `WriteGuard` on
their argument, then `CopyObj`. The guard looks at the root only, while the
copy pass writes a forwarding record into the first word of every object of
`M(r)` and retypes it `+COPYING`, whatever region it lives in; the clean pass
undoes these writes afterwards. So a thread writes, transiently, sub-objects
in regions it does not own (`copyObjHandler_writes_subobjects`,
`foreignHeap_handler_writes_foreign`).
-/

namespace GapObjects

open Heap

/-- `CheckWrite` of HPC-GAP: thread `t` may write a bag of the public region
or of a region it owns. -/
def canWrite (t : Nat) (b : Bag) : Bool :=
  match b.region with
  | none => true
  | some r => r.owner == some t

/-- `WriteGuard(obj)` in thread `t`: an immediate passes, a bag passes when
`t` may write it. -/
def writeGuard (t obj : Nat) : Kern Unit := fun h =>
  match h.get? obj with
  | some b => if canWrite t b then .ok () h else .error (.noAccess obj) h
  | none => .ok () h

section

variable (K : Kernel)

/-- The body of `ImmutableCopyObjHandler` and `MutableCopyObjHandler` in
thread `t`. -/
def copyObjHandler (mut' : Int) (t obj : Nat) : Kern Nat := do
  writeGuard t obj
  copyObj K obj mut'

/-- `ImmutableCopyObjHandler(self, obj)`. -/
def immutableCopyObjHandler (t obj : Nat) : Kern Nat := copyObjHandler K 0 t obj

/-- `MutableCopyObjHandler(self, obj)`. -/
def mutableCopyObjHandler (t obj : Nat) : Kern Nat := copyObjHandler K 1 t obj

/-- The guard passes exactly when the root is an immediate or a bag `t` may
write, and it changes nothing. -/
theorem writeGuard_ok {t obj : Nat} {h : Heap} (hg : ∀ b, h.get? obj = some b → canWrite t b = true) :
    writeGuard t obj h = .ok () h := by
  unfold writeGuard
  cases hb : h.get? obj with
  | none => rfl
  | some b => simp only [hg b hb, if_true]

theorem writeGuard_error {t obj : Nat} {h : Heap} {b : Bag} (hb : h.get? obj = some b)
    (hw : canWrite t b = false) : writeGuard t obj h = .error (.noAccess obj) h := by
  simp only [writeGuard, hb, hw, Bool.false_eq_true, if_false]

end

section Run

variable {K : Kernel} {h0 : Heap} {r : Nat}
variable (hp : PlainHeap K h0) (hcl : Closed K h0) (hr : OrigOrImm h0 r) (hk : PlainReach K h0 r)
include hp hcl hr hk

/-- **The copy handlers guard the root only.** When thread `t` may write the
root, the handler passes its guard and runs the copy pass, which rewrites
the bag of every object of `M(r)`, in whatever region; the clean pass then
starts from that heap. -/
theorem copyObjHandler_writes_subobjects (mut' : Int)
    (hcopyable : ∀ x b, InM K h0 r x → h0.get? x = some b → K.copyableType (b.words 0) = true)
    {t : Nat} (hguard : ∀ b, h0.get? r = some b → canWrite t b = true) :
    ∃ h1, copyObjDispatch K (h0.bags.length + 1) r mut' h0 = .ok (img K h1 r) h1 ∧
      copyObjHandler K mut' t r h0 =
        (cleanObjDispatch K (h1.bags.length + 1) r >>= fun _ => pure (img K h1 r)) h1 ∧
      ∀ x bx, InM K h0 r x → h0.get? x = some bx → h1.get? x ≠ some bx := by
  obtain ⟨h1, hc, -, hmk, -⟩ := copyObjDispatch_run hp hcl hr hk mut' hcopyable
  refine ⟨h1, hc, ?_, fun x bx hx hbx he => ?_⟩
  · simp only [copyObjHandler, bind_of_ok (writeGuard_ok hguard), copyObj_apply, bind_of_ok hc]
  · -- a marked bag carries `COPYING`, which no bag of a plain heap does
    have hm := (hmk x).mpr hx
    rw [isMarked_of_get? K he] at hm
    exact hp _ _ hbx (of_decide_eq_true hm)

end Run

/-- A public positional object of the mutable, copyable type word 100 whose
first slot holds a positional object of the same type in a region owned by
thread 1. -/
def foreignHeap : Heap where
  bags := [{ tnum := 42, size := 2 * wordSize, size_lt := by decide, region := none,
             words := fun i => if i = 0 then 100 else if i = 1 then handle 1 else 0 },
           { tnum := 42, size := wordSize, size_lt := by decide, region := some ⟨some 1⟩,
             words := fun i => if i = 0 then 100 else 0 }]
  curRegion := none

theorem foreignHeap_bag {o : Nat} {b : Bag} (hb : foreignHeap.get? o = some b) :
    b.tnum = 42 ∧ b.words 0 = 100 := by
  obtain ⟨k, rfl, hk⟩ := get?_eq_some hb
  have hlt : k < 2 := (List.getElem?_eq_some_iff.mp hk).1
  obtain rfl | rfl : k = 0 ∨ k = 1 := by omega
  all_goals cases hk; exact ⟨rfl, rfl⟩

theorem foreignHeap_closed : Closed sampleKernel foreignHeap := by
  intro o b hb c hc
  obtain ⟨k, rfl, hk⟩ := get?_eq_some hb
  have hlt : k < 2 := (List.getElem?_eq_some_iff.mp hk).1
  obtain rfl | rfl : k = 0 ∨ k = 1 := by omega
  all_goals cases hk
  all_goals cases hc with
  | @pos i _ h1 h2 _ =>
    first
    | (obtain rfl : i = 1 := by have h2' : i < 2 := h2; omega); decide
    | (have h2' : i < 1 := h2; omega)
  | com hk => exact absurd hk (by decide)

/-- Thread 0 copies the public root of `foreignHeap`: the guard passes, and
the copy pass rewrites the child, which lives in thread 1's region. -/
theorem foreignHeap_handler_writes_foreign :
    PlainHeap sampleKernel foreignHeap ∧ Closed sampleKernel foreignHeap ∧
    OrigOrImm foreignHeap (handle 0) ∧ PlainReach sampleKernel foreignHeap (handle 0) ∧
    (∀ x b, InM sampleKernel foreignHeap (handle 0) x → foreignHeap.get? x = some b →
      sampleKernel.copyableType (b.words 0) = true) ∧
    (∀ b, foreignHeap.get? (handle 0) = some b → canWrite 0 b = true) ∧
    InM sampleKernel foreignHeap (handle 0) (handle 1) ∧
    (∀ b, foreignHeap.get? (handle 1) = some b → canWrite 0 b = false) ∧
    ∃ h1, copyObjDispatch sampleKernel (foreignHeap.bags.length + 1) (handle 0) 0 foreignHeap =
        .ok (img sampleKernel h1 (handle 0)) h1 ∧
      copyObjHandler sampleKernel 0 0 (handle 0) foreignHeap =
        (cleanObjDispatch sampleKernel (h1.bags.length + 1) (handle 0) >>= fun _ =>
          pure (img sampleKernel h1 (handle 0))) h1 ∧
      ∀ x bx, InM sampleKernel foreignHeap (handle 0) x → foreignHeap.get? x = some bx →
        h1.get? x ≠ some bx := by
  have hp : PlainHeap sampleKernel foreignHeap := fun _ _ hb => by
    rw [(foreignHeap_bag hb).1]; decide
  have hk : PlainReach sampleKernel foreignHeap (handle 0) := fun _ _ _ hb => by
    rw [(foreignHeap_bag hb).1]; decide
  have hcopy : ∀ x b, InM sampleKernel foreignHeap (handle 0) x → foreignHeap.get? x = some b →
      sampleKernel.copyableType (b.words 0) = true := fun _ _ _ hb => by
    rw [(foreignHeap_bag hb).2]; rfl
  have hguard : ∀ b, foreignHeap.get? (handle 0) = some b → canWrite 0 b = true := by
    intro b hb; cases hb; rfl
  have hroot : IsMutable sampleKernel foreignHeap (handle 0) := ⟨_, rfl, by decide, rfl⟩
  have hchild : InM sampleKernel foreignHeap (handle 0) (handle 1) :=
    .child (.root hroot) rfl (.pos (i := 1) (by decide) le_rfl (by decide) (by decide))
      ⟨_, rfl, by decide, rfl⟩
  exact ⟨hp, foreignHeap_closed, by decide, hk, hcopy, hguard, hchild, fun b hb => by cases hb; rfl,
    copyObjHandler_writes_subobjects hp foreignHeap_closed (by decide) hk 0 hcopy hguard⟩

end GapObjects
