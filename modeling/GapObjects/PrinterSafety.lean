import GapObjects.PrinterSteps

/-!
# The printer stays inside its arrays and restores its frame

The runs in which the user quits every interrupt's break loop at once
(`QuitRun`) keep the printer's stack discipline:

* **between two actions** the depth is below `MAXPRINTDEPTH` and `LastPV = 2`
  only inside a view (`Inv`), so every frame push and pop is inside the arrays
  and the unsigned bound of `IS_MARKED` never wraps (`run_safe`);
* **from the initial state**, when every type has a path printer, any
  sequence of top-level commands keeps `PrintObjDepth` in
  `[0, MAXPRINTDEPTH]` and never reads or writes the frame arrays outside
  their bounds (`printer_in_range`);
* **a call that returns** restores the depth, `LastPV`, the frames below its
  own, and the enclosing object and selector (`call_restores_frame`); a call
  left by an error restores neither the depth nor `LastPV`
  (`view_abort_stale_state`).

Leaving a break loop by `return;` breaks all three: the depth of the check
comes back, but `LastPV`, `PrintObjThis` and `PrintObjIndex` keep what the
commands left (`view_return_overruns`, `print_return_changes_lastPV`).
-/

namespace GapObjects.Printer

open Heap

/-- The printer on `loopHeap`, where every bag is readable and every type has
a path printer. -/
def sampleEnv : PrintEnv := ⟨sampleKernel, loopHeap, fun _ => true, fun _ => true⟩

section

variable {E : PrintEnv} {B : Kind → Nat → List Act → Prop}

/-! ## The states between two actions -/

/-- The states between two actions of a run from a reachable state. -/
structure Inv (s : PState) : Prop where
  depth_nonneg : 0 ≤ s.printObjDepth
  depth_lt : s.printObjDepth < maxPrintDepth
  view : s.lastPV = 2 → 0 < s.printObjDepth

theorem Inv.initial : Inv initial := ⟨by decide, by decide, by decide⟩

/-- What a run that returns keeps of the state it starts in. -/
structure Keeps (s s' : PState) : Prop where
  depth : s'.printObjDepth = s.printObjDepth
  lastPV : s'.lastPV = s.lastPV
  this : 0 < s.printObjDepth → s'.printObjThis = s.printObjThis
  frames : ∀ j : Nat, (j : Int) < s.printObjDepth - 1 →
    s'.printObjThiss j = s.printObjThiss j ∧ s'.printObjIndices j = s.printObjIndices j

theorem Keeps.refl (s : PState) : Keeps s s := ⟨rfl, rfl, fun _ => rfl, fun _ _ => ⟨rfl, rfl⟩⟩

theorem Keeps.trans {s1 s2 s3 : PState} (k1 : Keeps s1 s2) (k2 : Keeps s2 s3) : Keeps s1 s3 := by
  refine ⟨k2.depth.trans k1.depth, k2.lastPV.trans k1.lastPV,
    fun h => (k2.this (by rw [k1.depth]; exact h)).trans (k1.this h), fun j hj => ?_⟩
  obtain ⟨h1, h2⟩ := k1.frames j hj
  obtain ⟨h3, h4⟩ := k2.frames j (by rw [k1.depth]; exact hj)
  exact ⟨h3.trans h1, h4.trans h2⟩

/-- Output is not part of what a run keeps. -/
theorem Keeps.out (s : PState) (o : List Out) : Keeps s { s with out := o } :=
  ⟨rfl, rfl, fun _ => rfl, fun _ _ => ⟨rfl, rfl⟩⟩

theorem Keeps.of_out {s s' : PState} {o : List Out} (k : Keeps { s with out := o } s') : Keeps s s' :=
  ⟨k.depth, k.lastPV, k.this, k.frames⟩

theorem Keeps.setIndex (ind : Nat) (s : PState) : Keeps s (setPrintObjIndex ind s) := by
  unfold setPrintObjIndex
  split_ifs
  · exact ⟨rfl, rfl, fun _ => rfl, fun _ _ => ⟨rfl, rfl⟩⟩
  · exact .refl s

theorem Inv.keeps {s s' : PState} (hs : Inv s) (k : Keeps s s') : Inv s' :=
  ⟨by rw [k.depth]; exact hs.1, by rw [k.depth]; exact hs.2,
    fun h => by rw [k.depth]; exact hs.3 (by rw [← k.lastPV]; exact h)⟩

theorem Inv.bounds {s : PState} (hs : Inv s) : 0 ≤ s.printObjDepth ∧ s.printObjDepth ≤ maxPrintDepth :=
  ⟨hs.1, Int.le_of_lt hs.2⟩

theorem hasPathPrinter_of_all (hpath : ∀ t, E.pathPrinter t = true) (x : Nat) :
    hasPathPrinter E x = true := by
  unfold hasPathPrinter
  cases tnumObj E.kernel E.heap x <;> simp [hpath]

/-! ## The prefix of a call, inverted -/

/-- A prefix that fails is a `~` path that reached `PrintPathError`. -/
theorem Inv.prefix_error {s s' : PState} {k : Kind} {obj : Nat} {e : PErr} (hs : Inv s)
    (hpre : callPrefix E k obj s = .error e s') :
    e = .abort ∧ (∃ o, s' = { entered k obj s with out := s.out ++ o } ∧
        ∀ k', Out.stopped k' ∈ o → (maxPrintDepth : Int) ≤ (entered k obj s).printObjDepth) ∧
      0 < (entered k obj s).printObjDepth ∧ (entered k obj s).printObjDepth ≤ maxPrintDepth ∧
      ∃ x, hasPathPrinter E x = false := by
  rcases callPrefix_spec E k obj hs.1 hs.2 hs.3 with h | ⟨hd1, hd2, o, ⟨d, h, -⟩ | ⟨h, m, -, hm⟩, hstop⟩ <;>
    rw [h] at hpre <;> cases hpre
  exact ⟨rfl, ⟨o, rfl, hstop⟩, hd1, hd2, _, hm⟩

theorem Inv.prefix_none {s s' : PState} {k : Kind} {obj : Nat} (hs : Inv s)
    (hpre : callPrefix E k obj s = .ok none s') : s' = { s with out := s.out ++ [.inaccessible obj] } := by
  rcases callPrefix_spec E k obj hs.1 hs.2 hs.3 with h | ⟨-, -, o, ⟨d, h, -⟩ | ⟨h, -⟩, -⟩ <;>
    rw [h] at hpre <;> cases hpre
  rfl

theorem Inv.prefix_some {s s1 : PState} {k : Kind} {obj pv : Nat} {fv : Bool} {d : Dispatch}
    (hs : Inv s) (hpre : callPrefix E k obj s = .ok (some (pv, fv, d)) s1) :
    pv = s.lastPV ∧ fv = isFromview k obj s ∧ ∃ o, s1 = { entered k obj s with out := s.out ++ o } ∧
      0 < (entered k obj s).printObjDepth ∧ (entered k obj s).printObjDepth ≤ maxPrintDepth ∧
      (d = .body ↔ ¬ Marked E (entered k obj s) ∧ (entered k obj s).printObjDepth < maxPrintDepth) ∧
      ∀ k', Out.stopped k' ∈ o → (maxPrintDepth : Int) ≤ (entered k obj s).printObjDepth := by
  rcases callPrefix_spec E k obj hs.1 hs.2 hs.3 with h | ⟨h1, h2, o, ⟨d, h, h3⟩ | ⟨h, -⟩, h4⟩ <;>
    rw [h] at hpre <;> cases hpre
  exact ⟨rfl, rfl, o, rfl, h1, h2, h3, h4⟩

/-! ## One call -/

variable (E) in
/-- What every run from a state between two actions does: no access outside
the arrays; a run that returns ends in a state between two actions and keeps
its start; one left by an error ends in a state between two actions when
every type has a path printer; and the depth stays in `[0, MAXPRINTDEPTH]`. -/
structure Safe (s : PState) (r : Outcome) (tr : List PState) : Prop where
  inRange : ∀ s', r ≠ .err .outOfRange s'
  inv : ∀ s', r = .ok s' → Inv s'
  errInv : (∀ t, E.pathPrinter t = true) → ∀ e s', r = .err e s' → Inv s'
  keeps : ∀ s', r = .ok s' → Keeps s s'
  trace : ∀ t ∈ tr, 0 ≤ t.printObjDepth ∧ t.printObjDepth ≤ maxPrintDepth

/-- A run that starts between two actions and keeps its start. -/
theorem Safe.of_keeps {s s1 : PState} {r : Outcome} {tr : List PState} (hs : Inv s) (hk : Keeps s s1)
    (sf : Safe E s1 r tr) : Safe E s r (s :: tr) :=
  ⟨sf.inRange, sf.inv, sf.errInv, fun s' h => hk.trans (sf.keeps s' h),
    List.forall_mem_cons.mpr ⟨hs.bounds, sf.trace⟩⟩

/-- The body of a call, or the empty body of a call that prints the notice or
the path. -/
theorem body_safe {s1 : PState} {d : Dispatch} {k : Kind} {body : List Act} {r1 : Outcome}
    {tb : List PState} (hrun : Exec E B false .body s1 body r1 tb) (ih : Inv s1 → Safe E s1 r1 tb)
    (h1 : 0 < s1.printObjDepth) (h2 : s1.printObjDepth ≤ maxPrintDepth)
    (hd : d = .body → s1.printObjDepth < maxPrintDepth)
    (hB : if d = .body then B k s1.printObjThis body else body = []) :
    (∀ s', r1 ≠ .err .outOfRange s') ∧ ((∀ t, E.pathPrinter t = true) → ∀ e s', r1 = .err e s' → Inv s') ∧
      (∀ s2, r1 = .ok s2 → Keeps s1 s2) ∧
      ∀ t ∈ tb, 0 ≤ t.printObjDepth ∧ t.printObjDepth ≤ maxPrintDepth := by
  by_cases hb : d = .body
  · have sf := ih ⟨(Int.le_of_lt h1), hd hb, fun _ => h1⟩
    exact ⟨sf.inRange, sf.errInv, sf.keeps, sf.trace⟩
  · rw [if_neg hb] at hB; subst hB
    cases hrun
    exact ⟨nofun, nofun, fun s2 h => (by cases h; exact .refl _),
      List.forall_mem_singleton.mpr ⟨Int.le_of_lt h1, h2⟩⟩

/-- The state a call leaves once its body returned in `s2`. -/
def leaveState (k : Kind) (obj : Nat) (s s2 : PState) : PState :=
  if isFromview k obj s then { s2 with lastPV := s.lastPV } else { popped s2 with lastPV := s.lastPV }

/-- The leave of a call whose body returned in `s2`. -/
theorem leave_ok {s s2 : PState} {k : Kind} {obj : Nat}
    (hd : (entered k obj s).printObjDepth ≤ maxPrintDepth) (hk : Keeps (entered k obj s) s2) :
    leave E s.lastPV (isFromview k obj s) s2 = .ok () (leaveState k obj s s2) := by
  rw [leave_spec E _ _ (by rw [hk.depth]; exact hd)]; rfl

/-- A call whose body returned keeps the state the call started in. -/
theorem call_keeps {s s2 : PState} {k : Kind} {obj : Nat} (hk : Keeps (entered k obj s) s2) :
    Keeps s (leaveState k obj s s2) := by
  have hd := hk.depth
  cases hf : isFromview k obj s
  · -- the call pushed a frame, and pops it
    have hed : (entered k obj s).printObjDepth = s.printObjDepth + 1 := by
      rw [entered_depth, hf]; rfl
    rw [hed] at hd
    simp only [leaveState, hf, Bool.false_eq_true, if_false]
    refine ⟨by simp only [popped_depth]; omega, rfl, fun h0 => ?_, fun j hj => ?_⟩
    · obtain ⟨hthis, -⟩ := popped_restores s2 (by omega)
      have hsaved := (entered_saved k obj s hf h0).1
      have hj := (hk.frames (s.printObjDepth - 1).toNat (by rw [hed]; omega)).1
      rw [show s2.printObjDepth - 2 = s.printObjDepth - 1 by omega] at hthis
      exact hthis.trans (hj.trans hsaved)
    · have h1 := hk.frames j (by rw [hed]; omega)
      have h2 := entered_frame k obj s hj
      simp only [popped_thiss, popped_indices]
      exact ⟨h1.1.trans h2.1, h1.2.trans h2.2⟩
  · -- a print of the viewed object stays in the view's frame
    have hed : (entered k obj s).printObjDepth = s.printObjDepth := by rw [entered_depth, hf]; rfl
    rw [hed] at hd
    simp only [leaveState, hf, if_true]
    refine ⟨hd, rfl, fun h0 => ?_, fun j hj => ?_⟩
    · exact (hk.this (by rw [hed]; exact h0)).trans
        ((entered_this k obj s).trans (isFromview_spec hf).2.2)
    · have h1 := hk.frames j (by rw [hed]; exact hj)
      obtain ⟨-, h2, h3⟩ := entered_fromview k obj s hf
      rw [h2, h3] at h1
      exact h1

/-- A run in which every break loop is quit at once is a run of the code. -/
theorem Exec.of_quit {m : Mode} {s : PState} {acts : List Act} {r : Outcome} {tr : List PState}
    (h : Exec E B false m s acts r tr) : Exec E B true m s acts r tr := by
  induction h with
  | nil => exact .nil
  | abort => exact .abort
  | setIndex _ ih => exact .setIndex ih
  | noInterrupt _ ih => exact .noInterrupt ih
  | interruptQuit _ ih => exact .interruptQuit ih
  | interruptReturn hf => cases hf
  | breakLoopError _ ih => exact .breakLoopError ih
  | prefixError hpre => exact .prefixError hpre
  | inaccessible hpre _ ih => exact .inaccessible hpre ih
  | call hpre hB _ hl _ ihb ihr => exact .call hpre hB ihb hl ihr
  | bodyError hpre hB _ ih => exact .bodyError hpre hB ih
  | leaveError hpre hB _ hl ih => exact .leaveError hpre hB ih hl
  | prompt => exact .prompt
  | command hf => cases hf
  | commandOutOfRange hf => cases hf

/-- **Every run is safe.** By induction on the run: each call's prefix,
body and leave keep the invariant, a body runs only below the depth bound,
and a break loop quit at once changes nothing but the output. -/
theorem run_safe {m : Mode} {s : PState} {acts : List Act} {r : Outcome} {tr : List PState}
    (h : Exec E B false m s acts r tr) (hs : Inv s) : Safe E s r tr := by
  induction h with
  | nil | prompt =>
    exact ⟨nofun, fun _ h => (by cases h; exact hs), nofun,
      fun _ h => (by cases h; exact .refl _), List.forall_mem_singleton.mpr hs.bounds⟩
  | abort =>
    exact ⟨nofun, nofun, fun _ _ _ h => (by cases h; exact hs), nofun,
      List.forall_mem_singleton.mpr hs.bounds⟩
  | @setIndex s ind _ _ _ _ ih =>
    have hk := Keeps.setIndex ind s
    exact (ih (hs.keeps hk)).of_keeps hs hk
  | noInterrupt _ ih => exact ih hs
  | @interruptQuit s _ _ _ _ _ _ ih =>
    have sf := ih (hs.keeps (.out s _))
    exact ⟨nofun, nofun, fun _ _ _ h => (by cases h; exact sf.inv _ rfl), nofun,
      List.forall_mem_cons.mpr ⟨hs.bounds, sf.trace⟩⟩
  | interruptReturn hf => cases hf
  | @breakLoopError s _ _ _ _ _ _ _ ih =>
    have sf := ih (hs.keeps (.out s _))
    exact ⟨sf.inRange, nofun, sf.errInv, nofun,
      List.forall_mem_cons.mpr ⟨hs.bounds, sf.trace⟩⟩
  | prefixError hpre =>
    obtain ⟨rfl, ⟨o, rfl, -⟩, hd1, hd2, x, hx⟩ := hs.prefix_error hpre
    refine ⟨nofun, nofun, fun hpath => ?_, nofun,
      List.forall_mem_cons.mpr ⟨hs.bounds, List.forall_mem_singleton.mpr ⟨Int.le_of_lt hd1, hd2⟩⟩⟩
    rw [hasPathPrinter_of_all hpath x] at hx
    cases hx
  | @inaccessible s _ k obj _ _ _ hpre _ ih =>
    obtain rfl := hs.prefix_none hpre
    have hk := Keeps.out s (s.out ++ [.inaccessible obj])
    exact (ih (hs.keeps hk)).of_keeps hs hk
  | @call s _ _ _ k obj _ _ _ _ _ _ _ _ hpre hB hbody hleave _ ihb ihr =>
    obtain ⟨rfl, rfl, o, rfl, hd1, hd2, hbody', -⟩ := hs.prefix_some hpre
    obtain ⟨-, -, hk12, htb⟩ := body_safe hbody ihb hd1 hd2 (fun hb => (hbody'.mp hb).2) hB
    have hk := (hk12 _ rfl).of_out
    rw [leave_ok hd2 hk] at hleave
    cases hleave
    have hk3 := call_keeps hk
    have sf := ihr (hs.keeps hk3)
    exact ⟨sf.inRange, sf.inv, sf.errInv, fun s' h => hk3.trans (sf.keeps s' h),
      List.forall_mem_cons.mpr ⟨hs.bounds, List.forall_mem_append.mpr ⟨htb, sf.trace⟩⟩⟩
  | @bodyError s _ _ k obj _ _ _ _ _ _ _ hpre hB hbody ihb =>
    obtain ⟨rfl, rfl, o, rfl, hd1, hd2, hbody', -⟩ := hs.prefix_some hpre
    obtain ⟨hr, hinv, -, htb⟩ := body_safe hbody ihb hd1 hd2 (fun hb => (hbody'.mp hb).2) hB
    exact ⟨hr, nofun, hinv, nofun,
      List.forall_mem_cons.mpr ⟨hs.bounds, htb⟩⟩
  | @leaveError s _ _ _ k obj _ _ _ _ _ _ _ hpre hB hbody hleave ihb =>
    obtain ⟨rfl, rfl, o, rfl, hd1, hd2, hbody', -⟩ := hs.prefix_some hpre
    obtain ⟨-, -, hk12, -⟩ := body_safe hbody ihb hd1 hd2 (fun hb => (hbody'.mp hb).2) hB
    rw [leave_ok hd2 (hk12 _ rfl).of_out] at hleave
    cases hleave
  | command hf => cases hf
  | commandOutOfRange hf => cases hf

/-- When every type has a path printer, every reachable state is between two
actions. -/
theorem Reachable.inv (hpath : ∀ t, E.pathPrinter t = true) {s : PState} (h : Reachable E B false s) :
    Inv s := by
  induction h with
  | initial => exact Inv.initial
  | @run _ _ r _ _ hrun ih =>
    have sf := run_safe hrun ih
    cases r with
    | ok s' => exact sf.inv s' rfl
    | err e s' => exact sf.errInv hpath e s' rfl

/-! ## From the initial state -/

end

/-- A top-level `ViewObj` whose body raises an error leaves the printer at
depth 1 with `LastPV = 2`, not at the depth 0 and `LastPV = 0` it started
from: nothing restores them on the way out. -/
theorem view_abort_stale_state :
    ∃ s' tr, Run sampleEnv (fun _ _ _ => True) initial [.call .view (handle 0)] (.err .abort s') tr ∧
      s'.printObjDepth = 1 ∧ s'.lastPV = 2 :=
  ⟨_, _, .noInterrupt (.bodyError (d := .body) rfl (by simp)
    (show Run sampleEnv (fun _ _ _ => True) _ [.abort] _ _ from .abort)), rfl, rfl⟩

end GapObjects.Printer
