import GapObjects.CopySteps

/-!
# Saving and loading component, positional and data objects

`SaveComObj`, `SavePosObj` and `SaveDatObj` write an object to the workspace
stream, a reference token for each `SaveSubObj` and a word token for each
`SaveUInt`; `LoadComObj`, `LoadPosObj` and `LoadDatObj` read the tokens back
into a fresh bag. A load writes through `storeWord`, which stops with
`outOfBag` at a word past the bag: C would write memory the bag does not own.

* **loops** — a load loop over the tokens of the matching save loop, followed
  by any stream, fills exactly the words the loop covers and leaves the rest
  of the stream (`loadWords_saveWords`, `loadComEntries_saveComEntries`);
* **round trip** — when the bag holds its type word (and, for a component
  object, its `LEN_PREC` entries), a load over the tokens of the save
  restores every word the save wrote and nothing else
  (`save_load_round_trip`);
* **short bags** — a positional object of size 0 has no type word; its slot
  count wraps to `2^64 - 1` and the load writes outside the bag at once
  (`shortPosObj_load_outside`).
-/

namespace GapObjects.SaveLoad

open Heap

/-! ## The stream -/

/-- A token of the workspace stream: `SaveSubObj` writes a reference,
`SaveUInt` a word. -/
inductive Token
  | ref (o : Nat)
  | word (w : Nat)
  deriving DecidableEq, Repr

/-- The object a reference token names. -/
def Token.ref? : Token → Option Nat
  | .ref o => some o
  | .word _ => none

/-- The word a word token holds. -/
def Token.word? : Token → Option Nat
  | .word w => some w
  | .ref _ => none

/-! ## Saving -/

/-- The loops of `SavePosObj` and `SaveDatObj` from word `i`, `n` words:
`tok` is `SaveSubObj` for a positional object, `SaveUInt` for a data object. -/
def saveWords (tok : Nat → Token) (h : Heap) (x : Nat) : Nat → Nat → List Token
  | 0, _ => []
  | n + 1, i => tok (h.word x i) :: saveWords tok h x n (i + 1)

/-- The loop of `SaveComObj` from entry `i`, `n` entries: `GET_RNAM_PREC`
(word `2i`) as a word, then `GET_ELM_PREC` (word `2i+1`) as a reference. -/
def saveComEntries (h : Heap) (x : Nat) : Nat → Nat → List Token
  | 0, _ => []
  | n + 1, i => .word (h.word x (2 * i)) :: .ref (h.word x (2 * i + 1)) :: saveComEntries h x n (i + 1)

/-- `SaveComObj`: `TYPE_COMOBJ`, `LEN_PREC` (word 1), then the entries. -/
def saveComObj (h : Heap) (x : Nat) : List Token :=
  .ref (h.word x 0) :: .word (h.word x 1) :: saveComEntries h x (h.word x 1) 1

/-- The slot count of `SavePosObj` and `LoadPosObj`,
`SIZE_OBJ(posobj)/sizeof(Obj) - 1` in `UInt`. -/
def posSlotCount (size : Nat) : Nat := uSub (size / wordSize) 1

/-- `SavePosObj`: `TYPE_POSOBJ`, then the slots. -/
def savePosObj (h : Heap) (x : Nat) : List Token :=
  .ref (h.word x 0) :: saveWords .ref h x (posSlotCount (sizeObj h x)) 1

/-- The payload count of `SaveDatObj` and `LoadDatObj`,
`(SIZE_OBJ(datobj)+sizeof(UInt)-1)/sizeof(UInt) - 1` in `UInt`. -/
def datWordCount (size : Nat) : Nat := uSub (uAdd size (wordSize - 1) / wordSize) 1

/-- `SaveDatObj`: `TYPE_DATOBJ`, then the payload words. -/
def saveDatObj (h : Heap) (x : Nat) : List Token :=
  .ref (h.word x 0) :: saveWords .word h x (datWordCount (sizeObj h x)) 1

/-! ## Loading -/

/-- Why a load stopped. -/
inductive LoadErr
  /-- The stream has no token left. -/
  | endOfStream
  /-- The next token is of the other kind. -/
  | badToken
  /-- A write to word `i` of `o`, past the bag's words. -/
  | outOfBag (o i : Nat)
  deriving DecidableEq, Repr

/-- The heap being loaded into and the rest of the stream. -/
structure LoadState where
  heap : Heap
  input : List Token

abbrev LoadM := EStateM LoadErr LoadState

/-- Take the next token; `sel` reads a token of the expected kind. -/
def popToken (sel : Token → Option Nat) : LoadM Nat := fun s =>
  match s.input with
  | t :: rest =>
    match sel t with
    | some v => .ok v { s with input := rest }
    | none => .error .badToken s
  | [] => .error .endOfStream s

/-- `LoadSubObj`. -/
def loadSubObj : LoadM Nat := popToken Token.ref?

/-- `LoadUInt`. -/
def loadUInt : LoadM Nat := popToken Token.word?

/-- `SIZE_OBJ(o)` during a load. -/
def loadSizeOf (o : Nat) : LoadM Nat := fun s => .ok (sizeObj s.heap o) s

/-- `ADDR_OBJ(o)[i] = v` during a load, inside the bag's words. -/
def storeWord (o i v : Nat) : LoadM Unit := fun s =>
  if i < wordsOf (sizeObj s.heap o) then .ok () { s with heap := s.heap.modify o (·.setWord i v) }
  else .error (.outOfBag o i) s

/-- The loops of `LoadPosObj` and `LoadDatObj` from word `i`, `n` words:
`load` is `LoadSubObj` for a positional object, `LoadUInt` for a data
object. -/
def loadWords (load : LoadM Nat) (o : Nat) : Nat → Nat → LoadM Unit
  | 0, _ => pure ()
  | n + 1, i => do
    storeWord o i (← load)
    loadWords load o n (i + 1)

/-- The loop of `LoadComObj` from entry `i`, `n` entries: `SET_RNAM_PREC`
then `SET_ELM_PREC`. -/
def loadComEntries (o : Nat) : Nat → Nat → LoadM Unit
  | 0, _ => pure ()
  | n + 1, i => do
    storeWord o (2 * i) (← loadUInt)
    storeWord o (2 * i + 1) (← loadSubObj)
    loadComEntries o n (i + 1)

/-- `LoadComObj`: `TYPE_COMOBJ`, `SET_LEN_PREC`, then the entries. -/
def loadComObj (o : Nat) : LoadM Unit := do
  storeWord o 0 (← loadSubObj)
  let len ← loadUInt
  storeWord o 1 len
  loadComEntries o len 1

/-- `LoadPosObj`: `TYPE_POSOBJ`, then the slots. -/
def loadPosObj (o : Nat) : LoadM Unit := do
  storeWord o 0 (← loadSubObj)
  loadWords loadSubObj o (posSlotCount (← loadSizeOf o)) 1

/-- `LoadDatObj`: `TYPE_DATOBJ`, then the payload words. -/
def loadDatObj (o : Nat) : LoadM Unit := do
  storeWord o 0 (← loadSubObj)
  loadWords loadUInt o (datWordCount (← loadSizeOf o)) 1

/-! ## One token, one word -/

@[simp] theorem LoadM.pure_apply {α : Type} (a : α) (s : LoadState) :
    (pure a : LoadM α) s = .ok a s := rfl

theorem popToken_cons {sel : Token → Option Nat} {t : Token} {v : Nat} (ht : sel t = some v)
    (hp : Heap) (rest : List Token) : popToken sel ⟨hp, t :: rest⟩ = .ok v ⟨hp, rest⟩ := by
  simp only [popToken, ht]

theorem storeWord_of_lt {o i : Nat} (v : Nat) {hp : Heap} (rest : List Token)
    (hi : i < wordsOf (sizeObj hp o)) :
    storeWord o i v ⟨hp, rest⟩ = .ok () ⟨hp.modify o (·.setWord i v), rest⟩ := by
  simp only [storeWord, if_pos hi]

@[simp] theorem loadSubObj_cons (hp : Heap) (o : Nat) (rest : List Token) :
    loadSubObj ⟨hp, .ref o :: rest⟩ = .ok o ⟨hp, rest⟩ := rfl

@[simp] theorem loadUInt_cons (hp : Heap) (w : Nat) (rest : List Token) :
    loadUInt ⟨hp, .word w :: rest⟩ = .ok w ⟨hp, rest⟩ := rfl

/-- Storing a word keeps every bag's size. -/
@[simp] theorem sizeObj_modify_setWord (hp : Heap) (o o' i v : Nat) :
    sizeObj (hp.modify o (·.setWord i v)) o' = sizeObj hp o' := by
  unfold sizeObj; rw [get?_modify]
  split
  · subst_vars; cases hp.get? o' <;> rfl
  · rfl

/-! ## Filling words -/

/-- The bag with words `i .. i+n-1` taken from `src`. -/
def fillWords (src : Nat → Nat) (i n : Nat) (b : Bag) : Bag :=
  { b with words := fun j => if i ≤ j ∧ j < i + n then src j else b.words j }

@[simp] theorem fillWords_size (src : Nat → Nat) (i n : Nat) (b : Bag) :
    (fillWords src i n b).size = b.size := rfl

theorem fillWords_zero (src : Nat → Nat) (i : Nat) (b : Bag) : fillWords src i 0 b = b :=
  Bag.ext' rfl rfl (funext fun _ => if_neg (by omega)) rfl

theorem modify_fillWords_zero (hp : Heap) (o : Nat) (src : Nat → Nat) (i : Nat) :
    hp.modify o (fillWords src i 0) = hp := by
  rw [modify_congr (g := id) fun b _ => fillWords_zero src i b, modify_id]

/-- Storing word `i`, then filling from `i + 1`, fills from `i`. -/
theorem fillWords_setWord (src : Nat → Nat) (i n : Nat) (b : Bag) :
    fillWords src (i + 1) n (b.setWord i (src i)) = fillWords src i (n + 1) b := by
  refine Bag.ext' rfl rfl (funext fun j => ?_) rfl
  simp only [fillWords, Bag.setWord, Function.update_apply]
  split_ifs <;> first | rfl | omega | (subst_vars; rfl)

/-! ## The loops -/

section Loops

variable (h : Heap) (x o : Nat) (rest : List Token)

/-- A load loop over the tokens of the matching save loop fills the words it
covers and leaves the rest of the stream. -/
theorem loadWords_saveWords {tok : Nat → Token} {sel : Token → Option Nat}
    (hsel : ∀ v, sel (tok v) = some v) :
    ∀ n i (hp : Heap), i + n ≤ wordsOf (sizeObj hp o) →
      loadWords (popToken sel) o n i ⟨hp, saveWords tok h x n i ++ rest⟩ =
        .ok () ⟨hp.modify o (fillWords (h.word x) i n), rest⟩
  | 0, i, hp, _ => by
    rw [modify_fillWords_zero]; rfl
  | n + 1, i, hp, hn => by
    have hi : i < wordsOf (sizeObj hp o) := by omega
    have ih := loadWords_saveWords hsel n (i + 1) (hp.modify o (·.setWord i (h.word x i)))
      (by rw [sizeObj_modify_setWord]; omega)
    simp only [loadWords, saveWords, List.cons_append, bind_of_ok (popToken_cons (hsel _) _ _),
      bind_of_ok (storeWord_of_lt _ _ hi), ih, modify_modify]
    congr 2
    exact modify_congr fun b _ => fillWords_setWord (h.word x) i n b

/-- The entry loop of `LoadComObj` over the tokens of `SaveComObj`'s fills
words `2i .. 2(i+n)-1`. -/
theorem loadComEntries_saveComEntries :
    ∀ n i (hp : Heap), 2 * (i + n) ≤ wordsOf (sizeObj hp o) →
      loadComEntries o n i ⟨hp, saveComEntries h x n i ++ rest⟩ =
        .ok () ⟨hp.modify o (fillWords (h.word x) (2 * i) (2 * n)), rest⟩
  | 0, i, hp, _ => by
    rw [modify_fillWords_zero]; rfl
  | n + 1, i, hp, hn => by
    have h1 : 2 * i < wordsOf (sizeObj hp o) := by omega
    have h2 : 2 * i + 1 < wordsOf (sizeObj (hp.modify o (·.setWord (2 * i) (h.word x (2 * i)))) o) := by
      rw [sizeObj_modify_setWord]; omega
    have ih := loadComEntries_saveComEntries n (i + 1)
      ((hp.modify o (·.setWord (2 * i) (h.word x (2 * i)))).modify o
        (·.setWord (2 * i + 1) (h.word x (2 * i + 1)))) (by rw [sizeObj_modify_setWord, sizeObj_modify_setWord]; omega)
    simp only [loadComEntries, saveComEntries, List.cons_append,
      bind_of_ok (loadUInt_cons _ _ _), bind_of_ok (storeWord_of_lt _ _ h1),
      bind_of_ok (loadSubObj_cons _ _ _), bind_of_ok (storeWord_of_lt _ _ h2), ih]
    simp only [modify_modify]
    congr 2
    refine modify_congr fun b _ => ?_
    simp only [Function.comp_apply, show 2 * (i + 1) = 2 * i + 1 + 1 by omega,
      fillWords_setWord, show 2 * (n + 1) = 2 * n + 1 + 1 by omega]

end Loops

/-! ## Round trips -/

section RoundTrip

variable (h h' : Heap) (x o : Nat) (rest : List Token)

theorem sizeObj_lt (hp : Heap) (o : Nat) : sizeObj hp o < 2 ^ 64 := by
  unfold sizeObj
  cases hp.get? o with
  | none => exact Nat.two_pow_pos 64
  | some b => exact b.size_lt

theorem loadSizeOf_bind {α : Type} (o : Nat) (f : Nat → LoadM α) (hp : Heap) (rest : List Token) :
    (loadSizeOf o >>= f) ⟨hp, rest⟩ = f (sizeObj hp o) ⟨hp, rest⟩ := rfl

/-- Storing the first word, then filling from word 1, fills from word 0. -/
theorem fillWords_one (src : Nat → Nat) (n : Nat) (b : Bag) :
    fillWords src 1 n (b.setWord 0 (src 0)) = fillWords src 0 (n + 1) b :=
  fillWords_setWord src 0 n b

theorem le_wordsOf {n size : Nat} (h : n * wordSize ≤ size) : n ≤ wordsOf size := by
  unfold wordsOf wordSize at *; omega

/-- The slot count of a bag that holds its type word does not wrap. -/
theorem posSlotCount_succ {size : Nat} (hw : wordSize ≤ size) (hlt : size < 2 ^ 64) :
    posSlotCount size + 1 = size / wordSize := by
  unfold posSlotCount wordSize at *
  rw [uSub_of_le (by omega) (by omega)]
  omega

/-- The payload count of a non-empty bag whose rounded size does not wrap. -/
theorem datWordCount_succ {size : Nat} (hpos : 0 < size) (hwrap : size + wordSize ≤ 2 ^ 64) :
    datWordCount size + 1 = wordsOf size := by
  unfold datWordCount uAdd wordsOf wordSize at *
  rw [Nat.mod_eq_of_lt (by omega), uSub_of_le (by omega) (by omega)]
  omega

/-- `LoadComObj` over the tokens of `SaveComObj` restores the type word,
`LEN_PREC` and the entries, when they fit in the bag. -/
theorem loadComObj_saveComObj (hfit : (2 * h.word x 1 + 2) * wordSize ≤ sizeObj h' o) :
    loadComObj o ⟨h', saveComObj h x ++ rest⟩ =
      .ok () ⟨h'.modify o (fillWords (h.word x) 0 (2 * h.word x 1 + 2)), rest⟩ := by
  have hw := le_wordsOf hfit
  have h0 : 0 < wordsOf (sizeObj h' o) := by omega
  have h1 : 1 < wordsOf (sizeObj (h'.modify o (·.setWord 0 (h.word x 0))) o) := by
    rw [sizeObj_modify_setWord]; omega
  have h2 : 2 * (1 + h.word x 1) ≤ wordsOf (sizeObj ((h'.modify o (·.setWord 0 (h.word x 0))).modify o
      (·.setWord 1 (h.word x 1))) o) := by
    rw [sizeObj_modify_setWord, sizeObj_modify_setWord]; omega
  rw [loadComObj, saveComObj, List.cons_append, List.cons_append, bind_of_ok (loadSubObj_cons _ _ _),
    bind_of_ok (storeWord_of_lt _ _ h0), bind_of_ok (loadUInt_cons _ _ _),
    bind_of_ok (storeWord_of_lt _ _ h1), loadComEntries_saveComEntries h x o rest _ 1 _ h2,
    modify_modify, modify_modify]
  congr 2
  refine modify_congr fun b _ => ?_
  rw [Function.comp_apply, Function.comp_apply, show 2 * 1 = 1 + 1 from rfl, fillWords_setWord,
    fillWords_one]

/-- `LoadPosObj` over the tokens of `SavePosObj` restores the type word and
every slot, when the bag holds its type word. -/
theorem loadPosObj_savePosObj (hsz : sizeObj h' o = sizeObj h x) (hw : wordSize ≤ sizeObj h x) :
    loadPosObj o ⟨h', savePosObj h x ++ rest⟩ =
      .ok () ⟨h'.modify o (fillWords (h.word x) 0 (sizeObj h x / wordSize)), rest⟩ := by
  have hcount := posSlotCount_succ hw (sizeObj_lt h x)
  have hfit := le_wordsOf (Nat.div_mul_le_self (sizeObj h x) wordSize)
  have h0 : 0 < wordsOf (sizeObj h' o) := by rw [hsz]; unfold wordSize at *; omega
  have h1 : 1 + posSlotCount (sizeObj h x) ≤
      wordsOf (sizeObj (h'.modify o (·.setWord 0 (h.word x 0))) o) := by
    rw [sizeObj_modify_setWord, hsz]; omega
  -- the counts are left symbolic: `simp` would try to evaluate them
  rw [loadPosObj, savePosObj, List.cons_append, bind_of_ok (loadSubObj_cons _ _ _),
    bind_of_ok (storeWord_of_lt _ _ h0), loadSizeOf_bind, sizeObj_modify_setWord, hsz,
    show loadSubObj = popToken Token.ref? from rfl, loadWords_saveWords h x o rest (fun _ => rfl) _ 1 _ h1,
    modify_modify]
  congr 2
  refine modify_congr fun b _ => ?_
  rw [Function.comp_apply, fillWords_one, hcount]

/-- `LoadDatObj` over the tokens of `SaveDatObj` restores the type word and
every payload word, when the bag is not empty and its rounded size does not
wrap. -/
theorem loadDatObj_saveDatObj (hsz : sizeObj h' o = sizeObj h x) (hpos : 0 < sizeObj h x)
    (hwrap : sizeObj h x + wordSize ≤ 2 ^ 64) :
    loadDatObj o ⟨h', saveDatObj h x ++ rest⟩ =
      .ok () ⟨h'.modify o (fillWords (h.word x) 0 (wordsOf (sizeObj h x))), rest⟩ := by
  have hcount := datWordCount_succ hpos hwrap
  have h0 : 0 < wordsOf (sizeObj h' o) := by rw [hsz]; omega
  have h1 : 1 + datWordCount (sizeObj h x) ≤
      wordsOf (sizeObj (h'.modify o (·.setWord 0 (h.word x 0))) o) := by
    rw [sizeObj_modify_setWord, hsz]; omega
  rw [loadDatObj, saveDatObj, List.cons_append, bind_of_ok (loadSubObj_cons _ _ _),
    bind_of_ok (storeWord_of_lt _ _ h0), loadSizeOf_bind, sizeObj_modify_setWord, hsz,
    show loadUInt = popToken Token.word? from rfl, loadWords_saveWords h x o rest (fun _ => rfl) _ 1 _ h1,
    modify_modify]
  congr 2
  refine modify_congr fun b _ => ?_
  rw [Function.comp_apply, fillWords_one, hcount]

/-- **Save then load restores the object.** Over the tokens a save of `x`
writes, followed by any stream, the matching load into a bag `o` of `x`'s
size consumes exactly those tokens and stores into `o` the words of `x` the
save read, nothing else, and no word past the bag: the type word and, for a
component object, `LEN_PREC` and its entries when they fit; for a positional
object of at least one word, every slot; for a non-empty data object whose
rounded size does not wrap, every payload word. -/
theorem save_load_round_trip (hsz : sizeObj h' o = sizeObj h x) :
    ((2 * h.word x 1 + 2) * wordSize ≤ sizeObj h x →
      loadComObj o ⟨h', saveComObj h x ++ rest⟩ =
        .ok () ⟨h'.modify o (fillWords (h.word x) 0 (2 * h.word x 1 + 2)), rest⟩) ∧
    (wordSize ≤ sizeObj h x →
      loadPosObj o ⟨h', savePosObj h x ++ rest⟩ =
        .ok () ⟨h'.modify o (fillWords (h.word x) 0 (sizeObj h x / wordSize)), rest⟩) ∧
    (0 < sizeObj h x → sizeObj h x + wordSize ≤ 2 ^ 64 →
      loadDatObj o ⟨h', saveDatObj h x ++ rest⟩ =
        .ok () ⟨h'.modify o (fillWords (h.word x) 0 (wordsOf (sizeObj h x))), rest⟩) :=
  ⟨fun hfit => loadComObj_saveComObj h h' x o rest (hsz ▸ hfit), loadPosObj_savePosObj h h' x o rest hsz,
    loadDatObj_saveDatObj h h' x o rest hsz⟩

end RoundTrip

/-- A one-bag heap: a component object of type word 100 with one entry,
record name 5 and the object itself as value. -/
def comHeap : Heap where
  bags := [{ tnum := 41, size := 4 * wordSize, size_lt := by decide, region := none,
             words := fun i => if i = 0 then 100 else if i = 1 then 1 else if i = 2 then 5
                               else if i = 3 then handle 0 else 0 }]
  curRegion := none

/-- Saving and reloading the bag of `comHeap` over itself, as each of the
three kinds. -/
theorem comHeap_round_trip :
    sizeObj comHeap (handle 0) = sizeObj comHeap (handle 0) ∧
    (2 * comHeap.word (handle 0) 1 + 2) * wordSize ≤ sizeObj comHeap (handle 0) ∧
    0 < sizeObj comHeap (handle 0) ∧ sizeObj comHeap (handle 0) + wordSize ≤ 2 ^ 64 ∧
    ((2 * comHeap.word (handle 0) 1 + 2) * wordSize ≤ sizeObj comHeap (handle 0) →
      loadComObj (handle 0) ⟨comHeap, saveComObj comHeap (handle 0) ++ []⟩ =
        .ok () ⟨comHeap.modify (handle 0)
          (fillWords (comHeap.word (handle 0)) 0 (2 * comHeap.word (handle 0) 1 + 2)), []⟩) ∧
    (wordSize ≤ sizeObj comHeap (handle 0) →
      loadPosObj (handle 0) ⟨comHeap, savePosObj comHeap (handle 0) ++ []⟩ =
        .ok () ⟨comHeap.modify (handle 0)
          (fillWords (comHeap.word (handle 0)) 0 (sizeObj comHeap (handle 0) / wordSize)), []⟩) ∧
    (0 < sizeObj comHeap (handle 0) → sizeObj comHeap (handle 0) + wordSize ≤ 2 ^ 64 →
      loadDatObj (handle 0) ⟨comHeap, saveDatObj comHeap (handle 0) ++ []⟩ =
        .ok () ⟨comHeap.modify (handle 0)
          (fillWords (comHeap.word (handle 0)) 0 (wordsOf (sizeObj comHeap (handle 0)))), []⟩) :=
  ⟨rfl, by decide, by decide, by decide, save_load_round_trip comHeap comHeap (handle 0) (handle 0) [] rfl⟩

theorem saveWords_length (tok : Nat → Token) (h : Heap) (x : Nat) :
    ∀ n i, (saveWords tok h x n i).length = n
  | 0, _ => rfl
  | n + 1, i => by rw [saveWords, List.length_cons, saveWords_length tok h x n (i + 1)]

/-- A bag of size 0 retagged as a positional object, which
`SET_TYPE_POSOBJ` allows. -/
def shortHeap : Heap where
  bags := [{ tnum := 42, size := 0, size_lt := by decide, region := none, words := fun _ => 0 }]
  curRegion := none

/-- `SavePosObj` of a positional object of size 0 writes `2^64` tokens, and
`LoadPosObj` into such a bag writes its type word past the bag. -/
theorem shortPosObj_load_outside :
    (savePosObj shortHeap (handle 0)).length = 2 ^ 64 ∧
    ∃ s', loadPosObj (handle 0) ⟨shortHeap, savePosObj shortHeap (handle 0)⟩ =
      .error (.outOfBag (handle 0) 0) s' := by
  refine ⟨?_, _, rfl⟩
  rw [savePosObj, List.length_cons, saveWords_length]
  decide

end GapObjects.SaveLoad
