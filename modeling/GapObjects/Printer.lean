import GapObjects.Copy

/-!
# The printer: `PrintObj` and `ViewObj`

`PrintObj` and `ViewObj` keep a stack of the objects whose print or view
bodies are running, so that a reference back to one of them is printed as `~`
and the path from it instead of being entered again. The stack lives in
globals: the current object and selector (`PrintObjThis`, `PrintObjIndex`),
the depth (`PrintObjDepth`), the saved frames below the current one
(`PrintObjThiss`, `PrintObjIndices`, `MAXPRINTDEPTH` entries each), and
`LastPV`, which says whether the innermost open call is a print or a view.

A call is cut into the part before its dispatch (`callPrefix`: the read
check, `LastPV`, the enclosing frame saved, the ancestor scan `IS_MARKED`,
the notice or the `~` path), the body, and the part after it (`leave`). The
bodies are the print and view methods of the objects, which this file does
not contain, and neither are the path printers other files put into
`PrintPathFuncs` in place of `PrintPathError`: `PrintEnv.pathPrinter` says
which types have one. `Exec` relates a state and a list of actions to each
outcome a run can reach, with every body any list of actions the method
table `B` allows, and to the list of states the run passes through.

`PrintObj`'s interrupt check opens a break loop (`ErrorReturnVoid`). There
the user may type commands, each of which runs like a top-level command whose
error comes back to the prompt, and leave by `quit;`, which leaves the call,
or by `return;`, after which `PrintObjDepth = i` restores the depth of the
check and the call goes on. `Run` is every run of the code; `QuitRun` is the
runs in which the user quits every break loop at once. An access to the
arrays outside `[0, MAXPRINTDEPTH)` ends a run with `outOfRange`.
-/

namespace GapObjects.Printer

open Heap

/-- `MAXPRINTDEPTH`. -/
def maxPrintDepth : Nat := 1024

/-- Which of the two entry points a call is. -/
inductive Kind
  | print
  | view
  deriving DecidableEq, Repr

/-- What this file's own `Pr` calls write. -/
inductive Out
  /-- The two control characters before the break loop of an interrupt. -/
  | interrupt
  /-- `PrintInaccessibleObject(obj)`. -/
  | inaccessible (obj : Nat)
  | tilde
  /-- `PrintPathFuncs[TNUM_OBJ(obj)](obj, index)`. -/
  | path (obj : Nat) (index : Int)
  /-- The "too many recursion levels" notice of `PrintObj` or `ViewObj`. -/
  | stopped (k : Kind)
  deriving DecidableEq, Repr

/-- The printer's globals, and what it has written. -/
structure PState where
  printObjThis : Nat
  printObjIndex : Int
  printObjDepth : Int
  printObjThiss : Nat → Nat
  printObjIndices : Nat → Int
  lastPV : Nat
  out : List Out

/-- The state before the first call: `PrintObjDepth = 0`, `LastPV = 0`. -/
def initial : PState := ⟨0, 0, 0, fun _ => 0, fun _ => 0, 0, []⟩

/-- How a run can be cut short. -/
inductive PErr
  /-- An error that leaves the call: raised in a body, by `PrintPathError`,
  or by quitting the break loop of the interrupt check. -/
  | abort
  /-- An access to `PrintObjThiss` or `PrintObjIndices` outside the arrays. -/
  | outOfRange
  deriving DecidableEq, Repr

abbrev PrintM := EStateM PErr PState

/-- What the printer reads of the rest of the kernel: `TNUM_OBJ` on the heap,
`CheckRead`, and the types whose entry of `PrintPathFuncs` another file has
replaced by a path printer; every other entry is `PrintPathError`, which
`InitKernel` installs for every type. -/
structure PrintEnv where
  kernel : Kernel
  heap : Heap
  checkRead : Nat → Bool
  pathPrinter : Nat → Bool

section

variable (E : PrintEnv)

/-! ## The pieces of a call -/

def emit (o : Out) : PrintM Unit := modify fun s => { s with out := s.out ++ [o] }

/-- `PrintObjThiss[i]`. -/
def readThis (i : Int) : PrintM Nat := fun s =>
  if 0 ≤ i ∧ i < maxPrintDepth then .ok (s.printObjThiss i.toNat) s else .error .outOfRange s

/-- `PrintObjIndices[i]`. -/
def readIndex (i : Int) : PrintM Int := fun s =>
  if 0 ≤ i ∧ i < maxPrintDepth then .ok (s.printObjIndices i.toNat) s else .error .outOfRange s

/-- `PrintObjThiss[i] = obj; PrintObjIndices[i] = index;` -/
def writeFrame (i : Int) (obj : Nat) (index : Int) : PrintM Unit := fun s =>
  if 0 ≤ i ∧ i < maxPrintDepth then
    .ok () { s with printObjThiss := Function.update s.printObjThiss i.toNat obj,
                    printObjIndices := Function.update s.printObjIndices i.toNat index }
  else .error .outOfRange s

/-- `IS_MARKABLE(obj)`: a record or a list. -/
def isMarkable (obj : Nat) : Bool :=
  match tnumObj E.kernel E.heap obj with
  | some t => decide (E.kernel.firstRecordTnum ≤ t ∧ t ≤ E.kernel.lastListTnum)
  | none => false

/-- The loop of `IS_MARKED`: the unsigned `i` runs up to `bound`, and `n`
entries of the array are left from `i` on. -/
def markScan (obj bound : Nat) : Nat → Nat → PrintM Bool
  | 0, i => if i < bound then throw .outOfRange else pure false
  | n + 1, i =>
    if i < bound then do
      if (← readThis i) = obj then pure true else markScan obj bound n (i + 1)
    else pure false

/-- `IS_MARKED(obj)`: the loop bound `PrintObjDepth-1` is converted to the
unsigned type of `i`. -/
def isMarked (obj : Nat) : PrintM Bool := fun s =>
  if isMarkable E obj then
    markScan obj ((s.printObjDepth - 1) % 2 ^ 64).toNat maxPrintDepth 0 s
  else .ok false s

/-- The entry of `PrintPathFuncs` for the type of `obj` is a path printer.
`TNUM_OBJ` of a value that is no object of the heap is not defined; the model
lets such a value print its selector. -/
def hasPathPrinter (obj : Nat) : Bool := (tnumObj E.kernel E.heap obj).all E.pathPrinter

/-- `(*PrintPathFuncs[TNUM_OBJ(obj)])(obj, index)`: a path printer prints the
selector; `PrintPathError` raises `ErrorQuit`, which leaves the call. -/
def printPath (obj : Nat) (index : Int) : PrintM Unit :=
  if hasPathPrinter E obj then emit (.path obj index) else throw .abort

/-- The `~` loop `for (i = 0; PrintObjThis != PrintObjThiss[i]; i++)`, which
prints the selector of each frame it passes; `n` entries are left from `i`. -/
def pathLoop : Nat → Nat → PrintM Unit
  | 0, _ => throw .outOfRange
  | n + 1, i => do
    let t ← readThis i
    if (← get).printObjThis ≠ t then
      printPath E t (← readIndex i)
      pathLoop n (i + 1)

/-- Where a call goes once its frame is set up. -/
inductive Dispatch
  | body
  | stopped
  | path
  deriving DecidableEq, Repr

/-- The dispatch of `PrintObj` and `ViewObj`: the body if the current object
is not an ancestor and the depth allows it, the notice if the depth does not,
`~` and the path if it is an ancestor. -/
def dispatch (k : Kind) : PrintM Dispatch := do
  let s ← get
  if !(← isMarked E s.printObjThis) then
    if s.printObjDepth < maxPrintDepth then return .body
    emit (.stopped k)
    return .stopped
  emit .tilde
  pathLoop E maxPrintDepth 0
  return .path

/-- Saving the enclosing frame and making `obj` the current object. -/
def pushFrame (obj : Nat) : PrintM Unit := do
  let s ← get
  if 0 < s.printObjDepth then writeFrame (s.printObjDepth - 1) s.printObjThis s.printObjIndex
  modify fun s => { s with printObjDepth := s.printObjDepth + 1, printObjThis := obj,
                           printObjIndex := 0 }

/-- Leaving the current object and restoring the enclosing frame. -/
def popFrame : PrintM Unit := do
  modify fun s => { s with printObjDepth := s.printObjDepth - 1 }
  let s ← get
  if 0 < s.printObjDepth then
    let t ← readThis (s.printObjDepth - 1)
    let x ← readIndex (s.printObjDepth - 1)
    set { s with printObjThis := t, printObjIndex := x }
    let _ ← isMarked E t

/-- `PrintObj` (`k = print`, after its interrupt check) and `ViewObj` up to
the dispatch: the read check, `LastPV`, and the frame pushed unless this is
a print of the object a view is viewing. Returns the saved `LastPV` and
`fromview`, or `none` for an inaccessible object. -/
def enter (k : Kind) (obj : Nat) : PrintM (Option (Nat × Bool)) := do
  if isBagRef obj && !E.checkRead obj then
    emit (.inaccessible obj)
    return none
  let s ← get
  let fromview := k == Kind.print && s.lastPV == 2 && obj == s.printObjThis
  set { s with lastPV := if k == Kind.print then 1 else 2 }
  if !fromview then pushFrame obj
  return some (s.lastPV, fromview)

/-- `enter`, then `dispatch` for an accessible object. -/
def callPrefix (k : Kind) (obj : Nat) : PrintM (Option (Nat × Bool × Dispatch)) := do
  match ← enter E k obj with
  | none => return none
  | some (pv, fv) => return some (pv, fv, ← dispatch E k)

/-- The part of `PrintObj` and `ViewObj` after the body: the frame popped
unless `fromview`, and `LastPV` restored. -/
def leave (lastPV : Nat) (fromview : Bool) : PrintM Unit := do
  if !fromview then popFrame E
  modify fun s => { s with lastPV := lastPV }

/-- `INT_INTOBJ(o)`: the word as a signed integer, shifted right by two. -/
def intIntObj (o : Nat) : Int := Int.fdiv (if o < 2 ^ 63 then (o : Int) else o - 2 ^ 64) 4

/-- `FuncSET_PRINT_OBJ_INDEX(self, ind)`. -/
def setPrintObjIndex (ind : Nat) (s : PState) : PState :=
  if isIntObj ind then { s with printObjIndex := intIntObj ind } else s

/-! ## Runs with arbitrary bodies -/

/-- What a print or view body does to the printer. -/
inductive Act
  /-- `PrintObj(obj)` or `ViewObj(obj)`. -/
  | call (k : Kind) (obj : Nat)
  /-- `SET_PRINT_OBJ_INDEX(ind)`. -/
  | setIndex (ind : Nat)
  /-- An error raised in the body. -/
  | abort

/-- How a run ends. -/
inductive Outcome
  | ok (s : PState)
  | err (e : PErr) (s : PState)

def Outcome.state : Outcome → PState
  | .ok s => s
  | .err _ s => s

/-- Where a list of actions runs: in a body, where an error leaves the run;
in a body whose first action is a call past `PrintObj`'s interrupt check; or
at the prompt of an interrupt's break loop, where the error of a command comes
back to the prompt. -/
inductive Mode
  | body
  | checked
  | breakLoop

/-- The state the interrupt check leaves before its break loop: the two
control characters written. -/
def interrupted (s : PState) : PState := { s with out := s.out ++ [.interrupt] }

/-- `Exec B interactive m s acts r tr`: running `acts` in mode `m` from `s`
can end in `r`, passing through the states `tr`, when the body of a `k` call
on `obj` is any list `B k obj` allows. With `interactive` the user may type
commands at an interrupt's break loop and leave it by `return;`; without it
the user quits every break loop at once. A command is one action: a line of
several runs as its actions typed one by one, up to the first that fails. -/
inductive Exec (B : Kind → Nat → List Act → Prop) (interactive : Bool) :
    Mode → PState → List Act → Outcome → List PState → Prop
  | nil {s : PState} : Exec B interactive .body s [] (.ok s) [s]
  | abort {s : PState} {acts : List Act} : Exec B interactive .body s (.abort :: acts) (.err .abort s) [s]
  | setIndex {s : PState} {ind : Nat} {acts : List Act} {r : Outcome} {tr : List PState} :
      Exec B interactive .body (setPrintObjIndex ind s) acts r tr →
      Exec B interactive .body s (.setIndex ind :: acts) r (s :: tr)
  /-- No interrupt is pending, or the call is a `ViewObj`, which has no check. -/
  | noInterrupt {s : PState} {k : Kind} {obj : Nat} {acts : List Act} {r : Outcome}
      {tr : List PState} :
      Exec B interactive .checked s (.call k obj :: acts) r tr →
      Exec B interactive .body s (.call k obj :: acts) r tr
  /-- The interrupt check of `PrintObj`, and the user quits its break loop. -/
  | interruptQuit {s s1 : PState} {obj : Nat} {acts cmds : List Act} {tc : List PState} :
      Exec B interactive .breakLoop (interrupted s) cmds (.ok s1) tc →
      Exec B interactive .body s (.call .print obj :: acts) (.err .abort s1) (s :: tc)
  /-- The user leaves the break loop by `return;`: `PrintObjDepth = i`, and
  the call goes on past the check. -/
  | interruptReturn {s s1 : PState} {obj : Nat} {acts cmds : List Act} {r : Outcome}
      {tc tr : List PState} :
      interactive = true → Exec B interactive .breakLoop (interrupted s) cmds (.ok s1) tc →
      Exec B interactive .checked { s1 with printObjDepth := s.printObjDepth } (.call .print obj :: acts)
        r tr →
      Exec B interactive .body s (.call .print obj :: acts) r (s :: tc ++ tr)
  /-- A command of the break loop left the arrays. -/
  | breakLoopError {s s1 : PState} {obj : Nat} {acts cmds : List Act} {e : PErr} {tc : List PState} :
      Exec B interactive .breakLoop (interrupted s) cmds (.err e s1) tc →
      Exec B interactive .body s (.call .print obj :: acts) (.err e s1) (s :: tc)
  | prefixError {s s' : PState} {k : Kind} {obj : Nat} {acts : List Act} {e : PErr} :
      callPrefix E k obj s = .error e s' →
      Exec B interactive .checked s (.call k obj :: acts) (.err e s') [s, s']
  | inaccessible {s s' : PState} {k : Kind} {obj : Nat} {acts : List Act} {r : Outcome}
      {tr : List PState} :
      callPrefix E k obj s = .ok none s' → Exec B interactive .body s' acts r tr →
      Exec B interactive .checked s (.call k obj :: acts) r (s :: tr)
  | call {s s1 s2 s3 : PState} {k : Kind} {obj pv : Nat} {fv : Bool} {d : Dispatch}
      {body acts : List Act} {r : Outcome} {tb tr : List PState} :
      callPrefix E k obj s = .ok (some (pv, fv, d)) s1 →
      (if d = .body then B k s1.printObjThis body else body = []) →
      Exec B interactive .body s1 body (.ok s2) tb → leave E pv fv s2 = .ok () s3 →
      Exec B interactive .body s3 acts r tr →
      Exec B interactive .checked s (.call k obj :: acts) r (s :: tb ++ tr)
  | bodyError {s s1 s2 : PState} {k : Kind} {obj pv : Nat} {fv : Bool} {d : Dispatch}
      {body acts : List Act} {e : PErr} {tb : List PState} :
      callPrefix E k obj s = .ok (some (pv, fv, d)) s1 →
      (if d = .body then B k s1.printObjThis body else body = []) →
      Exec B interactive .body s1 body (.err e s2) tb →
      Exec B interactive .checked s (.call k obj :: acts) (.err e s2) (s :: tb)
  | leaveError {s s1 s2 s3 : PState} {k : Kind} {obj pv : Nat} {fv : Bool} {d : Dispatch}
      {body acts : List Act} {e : PErr} {tb : List PState} :
      callPrefix E k obj s = .ok (some (pv, fv, d)) s1 →
      (if d = .body then B k s1.printObjThis body else body = []) →
      Exec B interactive .body s1 body (.ok s2) tb → leave E pv fv s2 = .error e s3 →
      Exec B interactive .checked s (.call k obj :: acts) (.err e s3) (s :: tb ++ [s3])
  /-- The prompt, once the user types no more commands. -/
  | prompt {s : PState} : Exec B interactive .breakLoop s [] (.ok s) [s]
  /-- A command that returns, or whose error comes back to the prompt with
  the state it reached. -/
  | command {s : PState} {a : Act} {cmds : List Act} {r r' : Outcome} {tc tr : List PState} :
      interactive = true → Exec B interactive .body s [a] r tc → (∀ s', r ≠ .err .outOfRange s') →
      Exec B interactive .breakLoop r.state cmds r' tr →
      Exec B interactive .breakLoop s (a :: cmds) r' (tc ++ tr)
  /-- A command that left the arrays. -/
  | commandOutOfRange {s s1 : PState} {a : Act} {cmds : List Act} {tc : List PState} :
      interactive = true → Exec B interactive .body s [a] (.err .outOfRange s1) tc →
      Exec B interactive .breakLoop s (a :: cmds) (.err .outOfRange s1) tc

/-- Every run of the code. -/
abbrev Run (B : Kind → Nat → List Act → Prop) : PState → List Act → Outcome → List PState → Prop :=
  Exec E B true .body

/-- The states a sequence of top-level commands leads to from `initial`; a
command aborted part-way leaves the state it reached. -/
inductive Reachable (B : Kind → Nat → List Act → Prop) (interactive : Bool) : PState → Prop
  | initial : Reachable B interactive initial
  | run {s : PState} {acts : List Act} {r : Outcome} {tr : List PState} :
      Reachable B interactive s → Exec E B interactive .body s acts r tr →
      Reachable B interactive r.state

end

end GapObjects.Printer
