import GapObjects.Heap

/-!
# The deep-copy and clean engine

`CopyObj(obj, mut)` runs `COPY_OBJ` and then `CLEAN_OBJ` on the original.
`COPY_OBJ` dispatches through `CopyObjFuncs` on the type number. A mutable,
copyable structural object is copied once: the copy is allocated, the
original's first word is replaced by a forwarding record (a plain list
`[old first word, copy]`), the original is retyped `+COPYING`, and its
subvalues are copied. A second visit finds the `+COPYING` entry, which just
returns the copy from the forwarding record. `CLEAN_OBJ` undoes the marks.

The three structural bodies share everything but the subvalue loop, so they
are one definition, `copyStructural`, applied to the loop of each kind;
likewise `cleanCopying` for the three clean bodies. The recursion between
`COPY_OBJ` and the bodies is explicit: a body receives the recursive call as
its first argument, and `copyObjDispatch` spends one unit of fuel per call.
-/

namespace GapObjects

section

variable (K : Kernel)

/-! ## Heap primitives as kernel computations -/

/-- `TNUM_OBJ(o)` on a heap: immediates carry their type number in their
tag bits. -/
def tnumObj (h : Heap) (o : Nat) : Option Nat :=
  if isIntObj o then some K.tInt
  else if isFfe o then some K.tFfe
  else (h.get? o).map (·.tnum)

/-- `SIZE_OBJ(o)`. -/
def sizeObj (h : Heap) (o : Nat) : Nat := ((h.get? o).map (·.size)).getD 0

/-- `TNUM_OBJ(o)` in a computation; an unallocated handle stops it. -/
def tnumOf (o : Nat) : Kern Nat := fun h =>
  match tnumObj K h o with
  | some t => .ok t h
  | none => .error (.badHandle o) h

/-- `SIZE_OBJ(o)` in a computation. -/
def sizeOf (o : Nat) : Kern Nat := fun h => .ok (sizeObj h o) h

/-- `ADDR_OBJ(o)[i]`. -/
def readWord (o i : Nat) : Kern Nat := fun h => .ok (h.word o i) h

/-- `ADDR_OBJ(o)[i] = v`. -/
def writeWord (o i v : Nat) : Kern Unit := fun h => .ok () (h.modify o (·.setWord i v))

/-- `RetypeBag(o, t)`. -/
def retypeBag (o t : Nat) : Kern Unit := fun h => .ok () (h.modify o (·.retype t))

/-- `NewBag(t, size)`: a zero-filled bag in the current region. -/
def newBag (t size : Nat) : Kern Nat := fun h =>
  let b : Bag := { tnum := t, size := size % 2 ^ 64, size_lt := Nat.mod_lt _ (Nat.two_pow_pos 64),
                   words := fun _ => 0, region := h.curRegion }
  .ok (h.alloc b).2 (h.alloc b).1

/-- `NEW_PLIST(T_PLIST, len)` of `plist.h`: a plain list has its length in
word 0 and element `i` in word `i`. -/
def newPlist (len : Nat) : Kern Nat := newBag K.tPlist ((len + 1) * wordSize)

/-! ## The type filters -/

/-- `IS_MUTABLE_OBJ(o)`, through `IsMutableObjFuncs`: constants are not
mutable, external objects ask the filter on their type word, any other type
number reaches `IsMutableObjError`. -/
def isMutableObj (o : Nat) : Kern Bool := do
  let t ← tnumOf K o
  if t ≤ K.lastConstantTnum then pure false
  else if K.firstExternalTnum ≤ t ∧ t ≤ K.lastExternalTnum then
    pure (K.mutableType (← readWord o 0))
  else throw (.quit "Panic: tried to test mutability of unknown type '%d'" t)

/-- `IS_COPYABLE_OBJ(o)`, through `IsCopyableObjFuncs`. -/
def isCopyableObj (o : Nat) : Kern Bool := do
  let t ← tnumOf K o
  if t ≤ K.lastConstantTnum then pure false
  else if K.firstExternalTnum ≤ t ∧ t ≤ K.lastExternalTnum then
    pure (K.copyableType (← readWord o 0))
  else throw (.quit "Panic: tried to test copyability of unknown type '%d'" t)

/-- `CALL_2ARGS(RESET_FILTER_OBJ, o, IsMutableObjFilt)`: install the type
without the mutability filter. -/
def resetFilterObj (o : Nat) : Kern Unit := do
  writeWord o 0 (K.resetMutable (← readWord o 0))

/-! ## The copy bodies -/

/-- The "make a copy" block of the structural bodies: a new bag with the
original's type number, size and type word (`withLen`: and `LEN_PREC`, for a
component object), made immutable when `mut` is zero. -/
def makeCopy (obj : Nat) (mut' : Int) (withLen : Bool) : Kern Nat := do
  let copy ← newBag (← tnumOf K obj) (← sizeOf obj)
  writeWord copy 0 (← readWord obj 0)
  if withLen then writeWord copy 1 (← readWord obj 1)
  if mut' = 0 then resetFilterObj K copy
  pure copy

/-- The "leave a forwarding pointer" block: the first word of `obj` becomes
a plain list `[old first word, copy]`, and `obj` is retyped `+COPYING`. -/
def leaveForwardingPointer (obj copy : Nat) : Kern Unit := do
  let tmp ← newPlist K 2
  writeWord tmp 0 2
  writeWord tmp 1 (← readWord obj 0)
  writeWord tmp 2 copy
  writeWord obj 0 tmp
  retypeBag obj ((← tnumOf K obj) + K.copying)

/-- The common shape of `CopyObjPosObj`, `CopyObjComObj` and
`CopyObjDatObj`: return immutable objects, refuse non-copyable ones, copy,
leave the forwarding pointer, then copy the subvalues. -/
def copyStructural (withLen : Bool) (copySubvalues : Nat → Nat → Int → Kern Unit)
    (obj : Nat) (mut' : Int) : Kern Nat := do
  if (← isMutableObj K obj) then
    if (← isCopyableObj K obj) then
      let copy ← makeCopy K obj mut' withLen
      leaveForwardingPointer K obj copy
      copySubvalues obj copy mut'
      pure copy
    else throw (.quit "Panic: encountered mutable, non-copyable object" 0)
  else pure obj

/-- The subvalue loop of `CopyObjPosObj`, from slot `i`, `n` iterations:
non-zero slots are copied recursively. -/
def copyPosSlots (rec : Nat → Int → Kern Nat) (obj copy : Nat) (mut' : Int) :
    Nat → Nat → Kern Unit
  | 0, _ => pure ()
  | n + 1, i => do
    let v ← readWord obj i
    if v ≠ 0 then
      writeWord copy i (← rec v mut')
    copyPosSlots rec obj copy mut' n (i + 1)

/-- The subvalue loop of `CopyObjComObj`, from entry `i`, `n` iterations:
the record name (`GET_RNAM_PREC`, word `2i`) is copied, the value
(`GET_ELM_PREC`, word `2i+1`) is copied recursively. -/
def copyComEntries (rec : Nat → Int → Kern Nat) (obj copy : Nat) (mut' : Int) :
    Nat → Nat → Kern Unit
  | 0, _ => pure ()
  | n + 1, i => do
    writeWord copy (2 * i) (← readWord obj (2 * i))
    writeWord copy (2 * i + 1) (← rec (← readWord obj (2 * i + 1)) mut')
    copyComEntries rec obj copy mut' n (i + 1)

/-- The raw copy loop of `CopyObjDatObj`, from word `j`, `n` words. -/
def copyDatWords (obj copy : Nat) : Nat → Nat → Kern Unit
  | 0, _ => pure ()
  | n + 1, j => do
    writeWord copy j (← readWord obj j)
    copyDatWords obj copy n (j + 1)

/-- The number of payload words `CopyObjDatObj` copies:
`(SIZE_OBJ(obj)-sizeof(Obj)+sizeof(Int)-1) / sizeof(Int)` in `UInt`. -/
def datPayloadCount (size : Nat) : Nat :=
  uSub (uAdd (uSub size wordSize) wordSize) 1 / wordSize

/-- The payload count of a non-empty bag: `SIZE_OBJ - sizeof(Obj)` wraps for
a bag shorter than a word, and adding `sizeof(Int)` wraps back. -/
theorem datPayloadCount_of_pos {s : Nat} (h0 : 0 < s) (hlt : s < 2 ^ 64) :
    datPayloadCount s = (s - 1) / wordSize := by
  unfold datPayloadCount uAdd uSub wordSize
  omega

/-- `CopyObjPosObj`: slots `1 .. SIZE_OBJ(obj)/sizeof(Obj) - 1`. -/
def copyObjPosObj (rec : Nat → Int → Kern Nat) : Nat → Int → Kern Nat :=
  copyStructural K false fun obj copy mut' => do
    copyPosSlots rec obj copy mut' ((← sizeOf obj) / wordSize - 1) 1

/-- `CopyObjComObj`: entries `1 .. LEN_PREC(obj)`. -/
def copyObjComObj (rec : Nat → Int → Kern Nat) : Nat → Int → Kern Nat :=
  copyStructural K true fun obj copy mut' => do
    copyComEntries rec obj copy mut' (← readWord obj 1) 1

/-- `CopyObjDatObj`: the payload words after the type word, verbatim. -/
def copyObjDatObj : Nat → Int → Kern Nat :=
  copyStructural K false fun obj copy _ => do
    copyDatWords obj copy (datPayloadCount (← sizeOf obj)) 1

/-- `CopyObjPosObjCopy`, `CopyObjComObjCopy`, `CopyObjDatObjCopy`: the copy
recorded in the forwarding record, `ELM_PLIST(ADDR_OBJ(obj)[0], 2)`. -/
def copyObjCopy (obj : Nat) (_mut : Int) : Kern Nat := do
  readWord (← readWord obj 0) 2

def copyObjPosObjCopy : Nat → Int → Kern Nat := copyObjCopy
def copyObjComObjCopy : Nat → Int → Kern Nat := copyObjCopy
def copyObjDatObjCopy : Nat → Int → Kern Nat := copyObjCopy

/-- `CopyObjConstant`. -/
def copyObjConstant (obj : Nat) (_mut : Int) : Kern Nat := pure obj

/-- `CopyObjError`. -/
def copyObjError (obj : Nat) (_mut : Int) : Kern Nat := do
  throw (.quit "Panic: tried to copy object of unknown type '%d'" (← tnumOf K obj))

/-- `CopyObjFuncs` as `InitKernel` fills it. Entries of other files (lists,
records) are not part of this model; the unfilled entries of the `+COPYING`
range are null pointers in C, modelled as `CopyObjError`. -/
def copyObjFuncs (t : Nat) (rec : Nat → Int → Kern Nat) : Nat → Int → Kern Nat :=
  if t ≤ K.lastConstantTnum then copyObjConstant
  else if t = K.tPosObj then copyObjPosObj K rec
  else if t = K.tComObj then copyObjComObj K rec
  else if t = K.tDatObj then copyObjDatObj K
  else if t = K.tPosObj + K.copying then copyObjPosObjCopy
  else if t = K.tComObj + K.copying then copyObjComObjCopy
  else if t = K.tDatObj + K.copying then copyObjDatObjCopy
  else copyObjError K

/-- `COPY_OBJ(obj, mut')`: dispatch on the type number, one unit of fuel per
call. -/
def copyObjDispatch : Nat → Nat → Int → Kern Nat
  | 0, _, _ => throw .outOfFuel
  | fuel + 1, obj, mut' => do
    copyObjFuncs K (← tnumOf K obj) (copyObjDispatch fuel) obj mut'

/-! ## The clean bodies -/

/-- The subvalue loop of `CleanObjPosObjCopy`: non-zero slots are cleaned. -/
def cleanPosSlots (rec : Nat → Kern Unit) (obj : Nat) : Nat → Nat → Kern Unit
  | 0, _ => pure ()
  | n + 1, i => do
    let v ← readWord obj i
    if v ≠ 0 then rec v
    cleanPosSlots rec obj n (i + 1)

/-- The subvalue loop of `CleanObjComObjCopy`: every value is cleaned. -/
def cleanComEntries (rec : Nat → Kern Unit) (obj : Nat) : Nat → Nat → Kern Unit
  | 0, _ => pure ()
  | n + 1, i => do
    rec (← readWord obj (2 * i + 1))
    cleanComEntries rec obj n (i + 1)

/-- The common shape of the `Clean...Copy` bodies: restore the first word
from the forwarding record, remove `COPYING`, clean the subvalues. -/
def cleanCopying (cleanSubvalues : Nat → Kern Unit) (obj : Nat) : Kern Unit := do
  writeWord obj 0 (← readWord (← readWord obj 0) 1)
  retypeBag obj ((← tnumOf K obj) - K.copying)
  cleanSubvalues obj

/-- `CleanObjPosObjCopy`. -/
def cleanObjPosObjCopy (rec : Nat → Kern Unit) : Nat → Kern Unit :=
  cleanCopying K fun obj => do cleanPosSlots rec obj ((← sizeOf obj) / wordSize - 1) 1

/-- `CleanObjComObjCopy`. -/
def cleanObjComObjCopy (rec : Nat → Kern Unit) : Nat → Kern Unit :=
  cleanCopying K fun obj => do cleanComEntries rec obj (← readWord obj 1) 1

/-- `CleanObjDatObjCopy`. -/
def cleanObjDatObjCopy : Nat → Kern Unit := cleanCopying K fun _ => pure ()

/-- `CleanObjConstant`, `CleanObjPosObj`, `CleanObjComObj`, `CleanObjDatObj`:
an object that was not copied is left alone. -/
def cleanObjNothing (_obj : Nat) : Kern Unit := pure ()

/-- `CleanObjError`. -/
def cleanObjError (obj : Nat) : Kern Unit := do
  throw (.quit "Panic: tried to clean object of unknown type '%d'" (← tnumOf K obj))

/-- `CleanObjFuncs` as `InitKernel` fills it. -/
def cleanObjFuncs (t : Nat) (rec : Nat → Kern Unit) : Nat → Kern Unit :=
  if t ≤ K.lastConstantTnum then cleanObjNothing
  else if t = K.tPosObj ∨ t = K.tComObj ∨ t = K.tDatObj then cleanObjNothing
  else if t = K.tPosObj + K.copying then cleanObjPosObjCopy K rec
  else if t = K.tComObj + K.copying then cleanObjComObjCopy K rec
  else if t = K.tDatObj + K.copying then cleanObjDatObjCopy K
  else cleanObjError K

/-- `CLEAN_OBJ(obj)`. -/
def cleanObjDispatch : Nat → Nat → Kern Unit
  | 0, _ => throw .outOfFuel
  | fuel + 1, obj => do
    cleanObjFuncs K (← tnumOf K obj) (cleanObjDispatch fuel) obj

/-- `CopyObj(obj, mut')`: copy, then clean the marks from the original. Each
pass gets one unit of fuel per bag of the heap it starts on, and one more. -/
def copyObj (obj : Nat) (mut' : Int) : Kern Nat := do
  let new ← copyObjDispatch K ((← get).bags.length + 1) obj mut'
  cleanObjDispatch K ((← get).bags.length + 1) obj
  pure new

end

/-- A one-bag heap: a positional object of type word 100 whose first slot
points to itself and whose second slot holds the small integer 2. -/
def loopHeap : Heap where
  bags := [{ tnum := 42, size := 3 * wordSize, size_lt := by decide, region := none,
             words := fun i => if i = 0 then 100 else if i = 1 then handle 0 else if i = 2 then 9
                               else 0 }]
  curRegion := none

end GapObjects
