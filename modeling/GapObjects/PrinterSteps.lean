import GapObjects.Printer

/-!
# The pieces of a printer call, one at a time

For each piece of `PrintObj` and `ViewObj` the state it leaves, written out
(`pushed`, `popped`, `entered`), and the condition under which it stays inside
the arrays: the frame push and pop, the ancestor scan `IS_MARKED`, the `~`
path loop and the dispatch. The theorems about runs are assembled from these
and never unfold a piece again.
-/

namespace GapObjects.Printer

open Heap

/-! ## The monad -/

section Monad

variable {α : Type}

@[simp] theorem PrintM.get_bind (f : PState → PrintM α) (s : PState) : (get >>= f) s = f s s := rfl

@[simp] theorem PrintM.set_bind (s' : PState) (f : PUnit → PrintM α) (s : PState) :
    (set s' >>= f) s = f () s' := rfl

@[simp] theorem PrintM.modify_bind (g : PState → PState) (f : PUnit → PrintM α) (s : PState) :
    (modify g >>= f) s = f () (g s) := rfl

@[simp] theorem PrintM.modify_apply (g : PState → PState) (s : PState) :
    (modify g : PrintM PUnit) s = .ok () (g s) := rfl

@[simp] theorem PrintM.pure_apply (a : α) (s : PState) : (pure a : PrintM α) s = .ok a s := rfl

@[simp] theorem PrintM.pure_bind {β : Type} (a : β) (f : β → PrintM α) (s : PState) :
    (pure a >>= f) s = f a s := rfl

@[simp] theorem PrintM.throw_apply (e : PErr) (s : PState) :
    (throw e : PrintM α) s = .error e s := rfl

theorem PrintM.bind_of_error {β : Type} {x : PrintM β} {s s' : PState} {e : PErr}
    (hx : x s = .error e s') (f : β → PrintM α) : (x >>= f) s = .error e s' := by
  simp only [bind, EStateM.bind, hx]

@[simp] theorem emit_map {β : Type} (o : Out) (f : PUnit → β) (s : PState) :
    (f <$> emit o) s = .ok (f ()) { s with out := s.out ++ [o] } := rfl

@[simp] theorem emit_bind (o : Out) (f : PUnit → PrintM α) (s : PState) :
    (emit o >>= f) s = f () { s with out := s.out ++ [o] } := rfl

theorem readThis_bind {i : Int} (hi : 0 ≤ i ∧ i < maxPrintDepth) (f : Nat → PrintM α)
    (s : PState) : (readThis i >>= f) s = f (s.printObjThiss i.toNat) s := by
  simp only [bind, EStateM.bind, readThis, if_pos hi]

theorem writeFrame_bind {i : Int} (hi : 0 ≤ i ∧ i < maxPrintDepth) (obj : Nat) (index : Int)
    (f : PUnit → PrintM α) (s : PState) : (writeFrame i obj index >>= f) s =
      f () { s with printObjThiss := Function.update s.printObjThiss i.toNat obj,
                    printObjIndices := Function.update s.printObjIndices i.toNat index } := by
  simp only [bind, EStateM.bind, writeFrame, if_pos hi]

theorem readIndex_bind {i : Int} (hi : 0 ≤ i ∧ i < maxPrintDepth) (f : Int → PrintM α)
    (s : PState) : (readIndex i >>= f) s = f (s.printObjIndices i.toNat) s := by
  simp only [bind, EStateM.bind, readIndex, if_pos hi]

end Monad

/-! ## Frames -/

/-- The state `pushFrame obj` leaves. -/
def pushed (s : PState) (obj : Nat) : PState :=
  { s with
    printObjDepth := s.printObjDepth + 1
    printObjThis := obj
    printObjIndex := 0
    printObjThiss := if 0 < s.printObjDepth then
      Function.update s.printObjThiss (s.printObjDepth - 1).toNat s.printObjThis else s.printObjThiss
    printObjIndices := if 0 < s.printObjDepth then
      Function.update s.printObjIndices (s.printObjDepth - 1).toNat s.printObjIndex
      else s.printObjIndices }

theorem pushFrame_spec {s : PState} (hlt : s.printObjDepth < maxPrintDepth) (obj : Nat) :
    pushFrame obj s = .ok () (pushed s obj) := by
  unfold pushFrame
  by_cases hd : 0 < s.printObjDepth
  · have hi : 0 ≤ s.printObjDepth - 1 ∧ s.printObjDepth - 1 < maxPrintDepth := by omega
    simp only [PrintM.get_bind, if_pos hd, writeFrame_bind hi, PrintM.modify_apply, pushed]
  · simp only [PrintM.get_bind, if_neg hd, PrintM.pure_bind, PrintM.modify_apply, pushed]

@[simp] theorem pushed_depth (s : PState) (obj : Nat) :
    (pushed s obj).printObjDepth = s.printObjDepth + 1 := rfl
@[simp] theorem pushed_this (s : PState) (obj : Nat) : (pushed s obj).printObjThis = obj := rfl
@[simp] theorem pushed_lastPV (s : PState) (obj : Nat) : (pushed s obj).lastPV = s.lastPV := rfl
@[simp] theorem pushed_out (s : PState) (obj : Nat) : (pushed s obj).out = s.out := rfl

/-- Pushing writes only the slot below the new top. -/
theorem pushed_frame (s : PState) (obj : Nat) {j : Nat} (hj : (j : Int) ≠ s.printObjDepth - 1) :
    (pushed s obj).printObjThiss j = s.printObjThiss j ∧
      (pushed s obj).printObjIndices j = s.printObjIndices j := by
  simp only [pushed]
  split_ifs with hd
  · have hne : j ≠ (s.printObjDepth - 1).toNat := by omega
    simp [Function.update_noteq hne]
  · simp

/-- The slot below the new top holds the enclosing frame. -/
theorem pushed_saved (s : PState) (obj : Nat) (hd : 0 < s.printObjDepth) :
    (pushed s obj).printObjThiss (s.printObjDepth - 1).toNat = s.printObjThis ∧
      (pushed s obj).printObjIndices (s.printObjDepth - 1).toNat = s.printObjIndex := by
  simp [pushed, hd]

/-- The state `popFrame` leaves. -/
def popped (s : PState) : PState :=
  if 0 < s.printObjDepth - 1 then
    { s with printObjDepth := s.printObjDepth - 1,
             printObjThis := s.printObjThiss (s.printObjDepth - 2).toNat,
             printObjIndex := s.printObjIndices (s.printObjDepth - 2).toNat }
  else { s with printObjDepth := s.printObjDepth - 1 }

@[simp] theorem popped_depth (s : PState) : (popped s).printObjDepth = s.printObjDepth - 1 := by
  unfold popped; split_ifs <;> rfl
@[simp] theorem popped_lastPV (s : PState) : (popped s).lastPV = s.lastPV := by
  unfold popped; split_ifs <;> rfl
@[simp] theorem popped_out (s : PState) : (popped s).out = s.out := by
  unfold popped; split_ifs <;> rfl
@[simp] theorem popped_thiss (s : PState) : (popped s).printObjThiss = s.printObjThiss := by
  unfold popped; split_ifs <;> rfl
@[simp] theorem popped_indices (s : PState) : (popped s).printObjIndices = s.printObjIndices := by
  unfold popped; split_ifs <;> rfl

/-- Popping restores the frame saved below the old top. -/
theorem popped_restores (s : PState) (hd : 0 < s.printObjDepth - 1) :
    (popped s).printObjThis = s.printObjThiss (s.printObjDepth - 2).toNat ∧
      (popped s).printObjIndex = s.printObjIndices (s.printObjDepth - 2).toNat := by
  simp [popped, hd]

/-! ## The ancestor scan and the path -/

section Scan

variable (E : PrintEnv)

/-- `IS_MARKED`'s loop finds `obj` among the entries from `i` below `bound`,
and stays inside the array when `bound` does. -/
theorem markScan_spec (obj bound : Nat) (s : PState) (hb : bound ≤ maxPrintDepth) :
    ∀ n i, i + n = maxPrintDepth → ∃ b, markScan obj bound n i s = .ok b s ∧
      (b = true ↔ ∃ j, i ≤ j ∧ j < bound ∧ s.printObjThiss j = obj) := by
  intro n
  induction n with
  | zero =>
    intro i hi
    refine ⟨false, by simp only [markScan, if_neg (show ¬ i < bound by omega)]; rfl, ?_⟩
    simp only [Bool.false_eq_true, false_iff, not_exists, not_and]
    intro j h1 h2; omega
  | succ n ih =>
    intro i hi
    by_cases hib : i < bound
    · have hr : (0 : Int) ≤ (i : Int) ∧ (i : Int) < maxPrintDepth := by omega
      by_cases ht : s.printObjThiss i = obj
      · refine ⟨true, ?_, by simp only [true_iff]; exact ⟨i, le_rfl, hib, ht⟩⟩
        simp only [markScan, if_pos hib, readThis_bind hr, Int.toNat_ofNat, if_pos ht]; rfl
      · obtain ⟨b, hrun, hb⟩ := ih (i + 1) (by omega)
        refine ⟨b, ?_, hb.trans ⟨fun ⟨j, h1, h2, h3⟩ => ⟨j, by omega, h2, h3⟩,
          fun ⟨j, h1, h2, h3⟩ => ⟨j, lt_of_le_of_ne h1 fun e => ht (e ▸ h3), h2, h3⟩⟩⟩
        simp only [markScan, if_pos hib, readThis_bind hr, Int.toNat_ofNat, if_neg ht, hrun]
    · refine ⟨false, by simp only [markScan, if_neg hib]; rfl, ?_⟩
      simp only [Bool.false_eq_true, false_iff, not_exists, not_and]
      intro j h1 h2; omega

/-- `IS_MARKED(obj)` at a positive depth: `obj` is markable and saved in a
frame below the current one. It reads nothing outside the array. -/
theorem isMarked_spec {s : PState} (h1 : 0 < s.printObjDepth)
    (h2 : s.printObjDepth ≤ maxPrintDepth + 1) (obj : Nat) :
    ∃ b, isMarked E obj s = .ok b s ∧
      (b = true ↔ isMarkable E obj = true ∧
        ∃ j : Nat, (j : Int) < s.printObjDepth - 1 ∧ s.printObjThiss j = obj) := by
  unfold isMarked
  by_cases hm : isMarkable E obj = true
  · have hmod : (s.printObjDepth - 1) % 2 ^ 64 = s.printObjDepth - 1 :=
      Int.emod_eq_of_lt (by omega) (by unfold maxPrintDepth at h2; omega)
    obtain ⟨b, hrun, hb⟩ := markScan_spec obj ((s.printObjDepth - 1) % 2 ^ 64).toNat s
      (by rw [hmod]; omega) maxPrintDepth 0 (Nat.zero_add _)
    refine ⟨b, by rw [if_pos hm]; exact hrun, hb.trans ?_⟩
    rw [hmod]
    exact ⟨fun ⟨j, _, h3, h4⟩ => ⟨hm, j, by omega, h4⟩, fun ⟨_, j, h3, h4⟩ => ⟨j, by omega, by omega, h4⟩⟩
  · refine ⟨false, by rw [if_neg hm], ?_⟩
    simp only [Bool.false_eq_true, false_iff, not_and]
    exact fun h => absurd h hm

theorem isMarked_bind_const {s : PState} (h1 : 0 < s.printObjDepth)
    (h2 : s.printObjDepth ≤ maxPrintDepth + 1) {β : Type} (obj : Nat) (x : PrintM β) :
    (isMarked E obj >>= fun _ => x) s = x s := by
  obtain ⟨b, hb, -⟩ := isMarked_spec E h1 h2 obj
  exact bind_of_ok hb _

/-- What the `~` loop prints for the frames from `i` below `j`. -/
def pathOut (s : PState) (i j : Nat) : List Out :=
  (List.range' i (j - i)).map fun m => .path (s.printObjThiss m) (s.printObjIndices m)

theorem printPath_bind_of_has {obj : Nat} (hp : hasPathPrinter E obj = true) (index : Int)
    {β : Type} (f : PUnit → PrintM β) (s : PState) :
    (printPath E obj index >>= f) s = f () { s with out := s.out ++ [.path obj index] } := by
  simp only [printPath, hp, if_true, emit_bind]

theorem printPath_bind_of_not_has {obj : Nat} (hp : hasPathPrinter E obj = false) (index : Int)
    {β : Type} (f : PUnit → PrintM β) (s : PState) : (printPath E obj index >>= f) s = .error .abort s := by
  simp only [printPath, hp, Bool.false_eq_true, if_false]; rfl

/-- The `~` loop, when `j` is the first frame from `i` on that holds the
current object or whose type has no path printer: it prints the selectors of
the frames before `j`, then stops at `j`, returning if `j` holds the object
and leaving by `PrintPathError`'s error if not. -/
theorem pathLoop_spec :
    ∀ n i (s : PState), i + n = maxPrintDepth → ∀ j, i ≤ j → j < maxPrintDepth →
      (s.printObjThiss j = s.printObjThis ∨ hasPathPrinter E (s.printObjThiss j) = false) →
      (∀ m, i ≤ m → m < j →
        s.printObjThiss m ≠ s.printObjThis ∧ hasPathPrinter E (s.printObjThiss m) = true) →
      pathLoop E n i s = if s.printObjThiss j = s.printObjThis
        then .ok () { s with out := s.out ++ pathOut s i j }
        else .error .abort { s with out := s.out ++ pathOut s i j } := by
  intro n
  induction n with
  | zero => intro i s hi j h1 h2; omega
  | succ n ih =>
    intro i s hi j h1 h2 hj hfirst
    have hr : (0 : Int) ≤ (i : Int) ∧ (i : Int) < maxPrintDepth := by omega
    have hnil : pathOut s i i = [] := by simp [pathOut]
    by_cases ht : s.printObjThis = s.printObjThiss i
    · -- the frame `i` holds the object: the loop stops there
      obtain rfl : i = j := by
        by_contra hij; exact (hfirst i le_rfl (by omega)).1 ht.symm
      have hc : ¬ (s.printObjThis ≠ s.printObjThiss i) := not_not.mpr ht
      simp only [pathLoop, readThis_bind hr, Int.toNat_ofNat, PrintM.get_bind, hc, if_false,
        if_pos ht.symm, hnil, List.append_nil]
      rfl
    · by_cases hp : hasPathPrinter E (s.printObjThiss i) = true
      · -- a path printer prints the selector of frame `i`, and the loop goes on
        have hij : i < j := lt_of_le_of_ne h1 fun e => by
          subst e; rcases hj with h | h
          · exact ht h.symm
          · rw [hp] at h; cases h
        have hrec := ih (i + 1) { s with out := s.out ++ [.path (s.printObjThiss i)
            (s.printObjIndices i)] } (by omega) j hij h2 hj fun m hm1 hm2 => hfirst m (by omega) hm2
        have hout : pathOut s i j = .path (s.printObjThiss i) (s.printObjIndices i) :: pathOut s (i + 1) j := by
          simp only [pathOut, show j - i = (j - (i + 1)) + 1 by omega, List.range'_succ, List.map_cons]
        simp only [pathLoop, readThis_bind hr, Int.toNat_ofNat, PrintM.get_bind, ne_eq, ht,
          not_false_eq_true, if_true, readIndex_bind hr, printPath_bind_of_has E hp, hrec, hout,
          List.append_assoc, List.singleton_append]
        rfl
      · -- `PrintPathError` at frame `i`, the first stop
        obtain rfl : i = j := by
          by_contra hij; exact hp (hfirst i le_rfl (by omega)).2
        simp only [Bool.not_eq_true] at hp
        simp only [pathLoop, readThis_bind hr, Int.toNat_ofNat, PrintM.get_bind, ne_eq, ht,
          not_false_eq_true, if_true, readIndex_bind hr, printPath_bind_of_not_has E hp,
          if_neg (Ne.symm ht), hnil, List.append_nil]

/-- The object a call has just entered is marked: markable, and saved in a
frame below the current one. -/
def Marked (s : PState) : Prop :=
  isMarkable E s.printObjThis = true ∧
    ∃ j : Nat, (j : Int) < s.printObjDepth - 1 ∧ s.printObjThiss j = s.printObjThis

/-- The dispatch on an unmarked object: the body below `MAXPRINTDEPTH`, the
notice at it. -/
theorem dispatch_of_not_marked {s : PState} (h1 : 0 < s.printObjDepth)
    (h2 : s.printObjDepth ≤ maxPrintDepth) (hm : ¬ Marked E s) (k : Kind) :
    dispatch E k s = if s.printObjDepth < maxPrintDepth then .ok .body s
      else .ok .stopped { s with out := s.out ++ [.stopped k] } := by
  obtain ⟨b, hb, hiff⟩ := isMarked_spec E h1 (by omega) s.printObjThis
  obtain rfl : b = false := by cases b; rfl; exact absurd (hiff.mp rfl) hm
  unfold dispatch
  simp only [PrintM.get_bind, bind_of_ok hb, Bool.not_false, if_true]
  split_ifs <;> rfl

/-- The dispatch on a marked object: `~`, then the path up to the first frame
that holds the object or whose type has no path printer, which lies below
the current one; the call goes on at a frame that holds the object, and
leaves by `PrintPathError`'s error at one that does not. -/
theorem dispatch_of_marked {s : PState} (h1 : 0 < s.printObjDepth)
    (h2 : s.printObjDepth ≤ maxPrintDepth) (hm : Marked E s) (k : Kind) :
    ∃ j : Nat, (j : Int) < s.printObjDepth - 1 ∧
      (s.printObjThiss j = s.printObjThis ∨ hasPathPrinter E (s.printObjThiss j) = false) ∧
      (∀ m, m < j → s.printObjThiss m ≠ s.printObjThis ∧ hasPathPrinter E (s.printObjThiss m) = true) ∧
      dispatch E k s = if s.printObjThiss j = s.printObjThis
        then .ok .path { s with out := s.out ++ .tilde :: pathOut s 0 j }
        else .error .abort { s with out := s.out ++ .tilde :: pathOut s 0 j } := by
  obtain ⟨b, hb, hiff⟩ := isMarked_spec E h1 (by omega) s.printObjThis
  obtain rfl : b = true := by cases b; exact absurd (hiff.mpr hm) (by simp); rfl
  have hex : ∃ j, s.printObjThiss j = s.printObjThis ∨ hasPathPrinter E (s.printObjThiss j) = false :=
    let ⟨_, j, _, hj⟩ := hm; ⟨j, .inl hj⟩
  obtain ⟨_, j, hjd, hj⟩ := hm
  have hle : Nat.find hex ≤ j := Nat.find_min' hex (.inl hj)
  have hfirst : ∀ m, m < Nat.find hex →
      s.printObjThiss m ≠ s.printObjThis ∧ hasPathPrinter E (s.printObjThiss m) = true :=
    fun m hm => by simpa only [not_or, Bool.not_eq_false] using Nat.find_min hex hm
  refine ⟨Nat.find hex, by omega, Nat.find_spec hex, hfirst, ?_⟩
  have hrun := pathLoop_spec E maxPrintDepth 0 { s with out := s.out ++ [.tilde] } (by omega)
    (Nat.find hex) (Nat.zero_le _) (by omega) (Nat.find_spec hex) fun m _ hm => hfirst m hm
  unfold dispatch
  simp only [PrintM.get_bind, bind_of_ok hb, Bool.not_true, Bool.false_eq_true, if_false,
    PrintM.pure_bind, emit_bind]
  simp only [bind, EStateM.bind, hrun]
  split_ifs <;> simp only [List.append_assoc, List.singleton_append] <;> rfl

/-- The dispatch on a marked object when every frame below the current one
has a path printer: `~` and the path up to the first frame that holds it. -/
theorem dispatch_of_marked_paths {s : PState} (h1 : 0 < s.printObjDepth)
    (h2 : s.printObjDepth ≤ maxPrintDepth) (hm : Marked E s)
    (hp : ∀ m : Nat, (m : Int) < s.printObjDepth - 1 → hasPathPrinter E (s.printObjThiss m) = true)
    (k : Kind) :
    ∃ j : Nat, (j : Int) < s.printObjDepth - 1 ∧ s.printObjThiss j = s.printObjThis ∧
      (∀ m, m < j → s.printObjThiss m ≠ s.printObjThis) ∧
      dispatch E k s = .ok .path { s with out := s.out ++ .tilde :: pathOut s 0 j } := by
  obtain ⟨j, hj, hstop, hfirst, hd⟩ := dispatch_of_marked E h1 h2 hm k
  have hjt : s.printObjThiss j = s.printObjThis := hstop.resolve_right (by rw [hp j hj]; decide)
  exact ⟨j, hj, hjt, fun m hm => (hfirst m hm).1, by rw [hd, if_pos hjt]⟩

/-- The dispatch at a depth inside the arrays writes only output. It runs
the body exactly when the object is not marked and the depth allows it, and
writes the notice only at the depth bound; it leaves by `PrintPathError`'s
error only when the path passes a frame whose type has no path printer. -/
theorem dispatch_spec {s : PState} (h1 : 0 < s.printObjDepth) (h2 : s.printObjDepth ≤ maxPrintDepth)
    (k : Kind) :
    ∃ o, ((∃ d, dispatch E k s = .ok d { s with out := s.out ++ o } ∧
          (d = .body ↔ ¬ Marked E s ∧ s.printObjDepth < maxPrintDepth)) ∨
        (dispatch E k s = .error .abort { s with out := s.out ++ o } ∧
          ∃ m : Nat, (m : Int) < s.printObjDepth - 1 ∧ hasPathPrinter E (s.printObjThiss m) = false)) ∧
      ∀ k', Out.stopped k' ∈ o → (maxPrintDepth : Int) ≤ s.printObjDepth := by
  by_cases hm : Marked E s
  · obtain ⟨j, hj, hstop, -, hd⟩ := dispatch_of_marked E h1 h2 hm k
    refine ⟨.tilde :: pathOut s 0 j, ?_, fun k' hk => by simp [pathOut] at hk⟩
    by_cases hjt : s.printObjThiss j = s.printObjThis
    · rw [if_pos hjt] at hd; exact .inl ⟨.path, hd, by simp [hm]⟩
    · rw [if_neg hjt] at hd; exact .inr ⟨hd, j, hj, hstop.resolve_left hjt⟩
  · rw [dispatch_of_not_marked E h1 h2 hm]
    by_cases hd : s.printObjDepth < maxPrintDepth
    · exact ⟨[], .inl ⟨.body, by simp [hd], by simp [hm, hd]⟩, by simp⟩
    · exact ⟨[.stopped k], .inl ⟨.stopped, by simp [hd], by simp [hd]⟩, fun _ _ => by omega⟩

end Scan

/-! ## Entering and leaving -/

section Enter

variable (E : PrintEnv)

/-- `PrintObj`'s `fromview`: a print of the object the innermost open view
is viewing. -/
def isFromview (k : Kind) (obj : Nat) (s : PState) : Bool :=
  k == Kind.print && s.lastPV == 2 && obj == s.printObjThis

/-- The state `enter k obj` leaves for an accessible object. -/
def entered (k : Kind) (obj : Nat) (s : PState) : PState :=
  if isFromview k obj s then { s with lastPV := 1 }
  else pushed { s with lastPV := if k == Kind.print then 1 else 2 } obj

theorem isFromview_spec {k : Kind} {obj : Nat} {s : PState} (hf : isFromview k obj s = true) :
    k = .print ∧ s.lastPV = 2 ∧ obj = s.printObjThis := by
  simpa only [isFromview, Bool.and_eq_true, beq_iff_eq, and_assoc] using hf

@[simp] theorem entered_this (k : Kind) (obj : Nat) (s : PState) :
    (entered k obj s).printObjThis = obj := by
  cases hf : isFromview k obj s
  · simp [entered, hf]
  · rw [entered, if_pos hf]; exact (isFromview_spec hf).2.2.symm

@[simp] theorem entered_out (k : Kind) (obj : Nat) (s : PState) : (entered k obj s).out = s.out := by
  cases hf : isFromview k obj s <;> simp [entered, hf]

theorem entered_depth (k : Kind) (obj : Nat) (s : PState) :
    (entered k obj s).printObjDepth =
      if isFromview k obj s then s.printObjDepth else s.printObjDepth + 1 := by
  cases hf : isFromview k obj s <;> simp [entered, hf]

theorem entered_lastPV (k : Kind) (obj : Nat) (s : PState) :
    (entered k obj s).lastPV = if k = .print then 1 else 2 := by
  cases hf : isFromview k obj s
  · cases k <;> simp [entered, hf]
  · rw [entered, if_pos hf, if_pos (isFromview_spec hf).1]

/-- Entering keeps the frames below the one it saves. -/
theorem entered_frame (k : Kind) (obj : Nat) (s : PState) {j : Nat}
    (hj : (j : Int) < s.printObjDepth - 1) :
    (entered k obj s).printObjThiss j = s.printObjThiss j ∧
      (entered k obj s).printObjIndices j = s.printObjIndices j := by
  cases hf : isFromview k obj s
  · simp only [entered, hf, Bool.false_eq_true, if_false]
    exact pushed_frame _ obj (by simp only; omega)
  · rw [entered, if_pos hf]; exact ⟨rfl, rfl⟩

/-- Entering without `fromview` saves the enclosing frame. -/
theorem entered_saved (k : Kind) (obj : Nat) (s : PState) (hf : isFromview k obj s = false)
    (hd : 0 < s.printObjDepth) :
    (entered k obj s).printObjThiss (s.printObjDepth - 1).toNat = s.printObjThis ∧
      (entered k obj s).printObjIndices (s.printObjDepth - 1).toNat = s.printObjIndex := by
  simp only [entered, hf, Bool.false_eq_true, if_false]
  exact pushed_saved _ obj hd

/-- A `fromview` print keeps the frame it is in. -/
theorem entered_fromview (k : Kind) (obj : Nat) (s : PState) (hf : isFromview k obj s = true) :
    (entered k obj s).printObjIndex = s.printObjIndex ∧
      (entered k obj s).printObjThiss = s.printObjThiss ∧
      (entered k obj s).printObjIndices = s.printObjIndices := by
  rw [entered, if_pos hf]; exact ⟨rfl, rfl, rfl⟩

theorem enter_inaccessible {k : Kind} {obj : Nat} (s : PState)
    (hr : (isBagRef obj && !E.checkRead obj) = true) :
    enter E k obj s = .ok none { s with out := s.out ++ [.inaccessible obj] } := by
  simp only [enter, hr, if_true, emit_bind]; rfl

theorem enter_accessible {k : Kind} {obj : Nat} {s : PState}
    (hr : (isBagRef obj && !E.checkRead obj) = false) (hlt : s.printObjDepth < maxPrintDepth) :
    enter E k obj s = .ok (some (s.lastPV, isFromview k obj s)) (entered k obj s) := by
  unfold enter entered
  have hfv : (k == Kind.print && s.lastPV == 2 && obj == s.printObjThis) = isFromview k obj s := rfl
  simp only [hr, Bool.false_eq_true, if_false, PrintM.pure_bind, PrintM.get_bind, PrintM.set_bind,
    hfv]
  cases hf : isFromview k obj s
  · simp only [Bool.not_false, if_true, Bool.false_eq_true, if_false,
      bind_of_ok (pushFrame_spec (s := { s with lastPV := if (k == Kind.print) = true then 1
        else 2 }) hlt obj), PrintM.pure_apply]
  · have hk : (k == Kind.print) = true := by
      simp only [isFromview, Bool.and_eq_true] at hf; exact hf.1.1
    simp only [Bool.not_true, Bool.false_eq_true, if_false, PrintM.pure_bind, PrintM.pure_apply,
      hk, if_true]

theorem popFrame_spec {s : PState} (h2 : s.printObjDepth ≤ maxPrintDepth) :
    popFrame E s = .ok () (popped s) := by
  unfold popFrame popped
  simp only [PrintM.modify_bind, PrintM.get_bind]
  by_cases hd : 0 < s.printObjDepth - 1
  · have hr : 0 ≤ s.printObjDepth - 1 - 1 ∧ s.printObjDepth - 1 - 1 < maxPrintDepth := by omega
    simp only [if_pos hd, readThis_bind hr, readIndex_bind hr, PrintM.set_bind]
    rw [isMarked_bind_const E ?_ ?_]
    · rw [show s.printObjDepth - 1 - 1 = s.printObjDepth - 2 by omega]; rfl
    · exact hd
    · show s.printObjDepth - 1 ≤ _; omega
  · simp only [if_neg hd, PrintM.pure_apply]

theorem leave_spec (pv : Nat) (fv : Bool) {s : PState} (h2 : s.printObjDepth ≤ maxPrintDepth) :
    leave E pv fv s =
      .ok () (if fv then { s with lastPV := pv } else { popped s with lastPV := pv }) := by
  cases fv
  · simp only [leave, Bool.not_false, if_true, bind_of_ok (popFrame_spec E h2),
      PrintM.modify_apply, Bool.false_eq_true, if_false]
  · simp only [leave, Bool.not_true, Bool.false_eq_true, if_false, PrintM.pure_bind,
      PrintM.modify_apply, if_true]

/-- The prefix of a call from a state between two actions: an inaccessible
object is named and nothing else happens; otherwise the frame is entered,
then dispatched, which leaves the call only by `PrintPathError`'s error. -/
theorem callPrefix_spec (k : Kind) (obj : Nat) {s : PState} (h0 : 0 ≤ s.printObjDepth)
    (hlt : s.printObjDepth < maxPrintDepth) (hview : s.lastPV = 2 → 0 < s.printObjDepth) :
    callPrefix E k obj s = .ok none { s with out := s.out ++ [.inaccessible obj] } ∨
      0 < (entered k obj s).printObjDepth ∧ (entered k obj s).printObjDepth ≤ maxPrintDepth ∧
      ∃ o, ((∃ d, callPrefix E k obj s = .ok (some (s.lastPV, isFromview k obj s, d))
              { entered k obj s with out := s.out ++ o } ∧
            (d = .body ↔ ¬ Marked E (entered k obj s) ∧ (entered k obj s).printObjDepth < maxPrintDepth)) ∨
          (callPrefix E k obj s = .error .abort { entered k obj s with out := s.out ++ o } ∧
            ∃ m : Nat, (m : Int) < (entered k obj s).printObjDepth - 1 ∧
              hasPathPrinter E ((entered k obj s).printObjThiss m) = false)) ∧
        ∀ k', Out.stopped k' ∈ o → (maxPrintDepth : Int) ≤ (entered k obj s).printObjDepth := by
  cases hr : (isBagRef obj && !E.checkRead obj)
  · right
    have hd : 0 < (entered k obj s).printObjDepth ∧ (entered k obj s).printObjDepth ≤ maxPrintDepth := by
      rw [entered_depth]
      split_ifs with hf
      · exact ⟨hview (isFromview_spec hf).2.1, by omega⟩
      · omega
    obtain ⟨o, hdis, hstop⟩ := dispatch_spec E hd.1 hd.2 k
    refine ⟨hd.1, hd.2, o, ?_, hstop⟩
    have hen := enter_accessible E (k := k) hr hlt
    rcases hdis with ⟨d, hdis, hbody⟩ | ⟨hdis, hm⟩
    · refine .inl ⟨d, ?_, hbody⟩
      simp only [callPrefix, bind_of_ok hen, bind_of_ok hdis, PrintM.pure_apply, entered_out]
    · refine .inr ⟨?_, hm⟩
      simp only [callPrefix, bind_of_ok hen, PrintM.bind_of_error hdis, entered_out]
  · left
    simp only [callPrefix, bind_of_ok (enter_inaccessible E s hr), PrintM.pure_apply]

end Enter

end GapObjects.Printer
