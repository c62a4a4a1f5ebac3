import GapObjects.SaveLoad
import GapObjects.Printer

/-!
# Slot and word counts of positional and data objects

`SET_TYPE_POSOBJ_Handler` and `SET_TYPE_DATOBJ_Handler` retag a bag of any
size: they write its type word and change its type number, and neither looks
at `SIZE_OBJ`. Four places then derive a count from the size, all in `UInt`:

* positional objects: `SIZE_OBJ/sizeof(Obj) - 1` slots in `SavePosObj`,
  `LoadPosObj` and `LEN_POSOBJ_Handler` (`posSlotCount`, `posObjLen`), while
  `CopyObjPosObj` loops `for (i = 1; i < SIZE_OBJ/sizeof(Obj); i++)`;
* data objects: `(SIZE_OBJ-sizeof(Obj)+sizeof(Int)-1)/sizeof(Int)` payload
  words in `CopyObjDatObj` (`datPayloadCount`) and
  `(SIZE_OBJ+sizeof(UInt)-1)/sizeof(UInt) - 1` in `SaveDatObj` and
  `LoadDatObj` (`datWordCount`).

The counts agree, and every access (type word included) falls inside the
bag, exactly when a positional object holds its type word and when a data
object is non-empty and its rounded size does not wrap; below that the
unsigned subtractions wrap (`size_counts_agree_iff`).

The length comes back to GAP as a small integer, `INTOBJ_INT` of a signed
count. The encoding and `INT_INTOBJ` are inverse on the small integers and the
words tagged `01`, and every length, `-1` included, survives the trip
(`smallInt_round_trip`).
-/

namespace GapObjects

open Heap SaveLoad

/-! ## Signed and unsigned words -/

/-- A `UInt` converted to C's `Int`: two's complement. -/
def uIntAsInt (w : Nat) : Int := if w < 2 ^ 63 then w else (w : Int) - 2 ^ 64

/-- `INTOBJ_INT(i)`: the small integer `i` as an object word, `(i << 2) + 1`
modulo the word. -/
def intObjInt (i : Int) : Nat := ((4 * i + 1) % 2 ^ 64).toNat

theorem uIntAsInt_of_lt {w : Nat} (h : w < 2 ^ 63) : uIntAsInt w = w := if_pos h

theorem uIntAsInt_max : uIntAsInt (2 ^ 64 - 1) = -1 := by decide

/-- `INT_INTOBJ` reads back what `INTOBJ_INT` wrote, for a value in the small
integer range. -/
theorem intIntObj_intObjInt {i : Int} (h0 : -2 ^ 61 ≤ i) (h1 : i < 2 ^ 61) :
    Printer.intIntObj (intObjInt i) = i := by
  unfold Printer.intIntObj intObjInt
  have hnn : 0 ≤ (4 * i + 1) % 2 ^ 64 := Int.emod_nonneg _ (by decide)
  have hv : (4 * i + 1) % 2 ^ 64 = if 0 ≤ i then 4 * i + 1 else 4 * i + 1 + 2 ^ 64 := by
    split_ifs <;> omega
  rw [Int.fdiv_eq_ediv _ (by decide)]
  split_ifs with hlt <;> rw [Int.toNat_of_nonneg hnn] <;> omega

theorem intObjInt_lt (i : Int) : intObjInt i < 2 ^ 64 := by
  unfold intObjInt; omega

/-- `INTOBJ_INT` sets the tag bits `01`. -/
theorem intObjInt_mod_four (i : Int) : intObjInt i % 4 = 1 := by
  unfold intObjInt; omega

/-- A word tagged `01` is `INTOBJ_INT` of what `INT_INTOBJ` reads from it. -/
theorem intObjInt_intIntObj {o : Nat} (hlt : o < 2 ^ 64) (h1 : o % 4 = 1) :
    intObjInt (Printer.intIntObj o) = o := by
  unfold Printer.intIntObj intObjInt
  rw [Int.fdiv_eq_ediv _ (by decide)]
  split_ifs <;> omega

theorem intIntObj_range {o : Nat} (hlt : o < 2 ^ 64) (h1 : o % 4 = 1) :
    -2 ^ 61 ≤ Printer.intIntObj o ∧ Printer.intIntObj o < 2 ^ 61 := by
  unfold Printer.intIntObj
  rw [Int.fdiv_eq_ediv _ (by decide)]
  split_ifs <;> omega

/-- A word tagged `11` passes `IS_INTOBJ`, which tests only the low bit, and
reads as the small integer whose word is two below it. -/
theorem intObjInt_intIntObj_of_three {o : Nat} (hlt : o < 2 ^ 64) (h3 : o % 4 = 3) :
    intObjInt (Printer.intIntObj o) = o - 2 := by
  unfold Printer.intIntObj intObjInt
  rw [Int.fdiv_eq_ediv _ (by decide)]
  split_ifs <;> omega

section

variable (K : Kernel)

/-! ## The handlers -/

/-- `T_APOSOBJ`, `T_ALIST` and `T_FIXALIST`: the type numbers
`SET_TYPE_POSOBJ_Handler` and `LEN_POSOBJ_Handler` treat as atomic. -/
def isAtomicPos (t : Nat) : Prop := t = K.tAposObj ∨ t = K.tAlist ∨ t = K.tFixAlist

instance (t : Nat) : Decidable (isAtomicPos K t) := by unfold isAtomicPos; infer_instance

/-- `SET_TYPE_POSOBJ_Handler(self, obj, kind)`. An atomic object takes the
type through `SET_TYPE_OBJ` (`setTypeObj`, whose bodies are outside this
file) and becomes `T_APOSOBJ`; any other gets `TYPE_POSOBJ(obj) = kind` in
word 0 and becomes `T_POSOBJ`. The size is not checked. -/
def setTypePosObjHandler (setTypeObj : Nat → Nat → Kern Unit) (obj kind : Nat) : Kern Nat := do
  if isAtomicPos K (← tnumOf K obj) then
    setTypeObj obj kind
    retypeBag obj K.tAposObj
  else
    writeWord obj 0 kind
    retypeBag obj K.tPosObj
  pure obj

/-- `SET_TYPE_DATOBJ_Handler(self, obj, kind)`: `TYPE_DATOBJ(obj) = kind` in
word 0, then `T_DATOBJ`; the size is not checked. -/
def setTypeDatObjHandler (obj kind : Nat) : Kern Nat := do
  writeWord obj 0 kind
  retypeBag obj K.tDatObj
  pure obj

/-- The length `LEN_POSOBJ_Handler` reports for a positional object of
`size` bytes: `SIZE_OBJ(obj)/sizeof(Obj) - 1` in `UInt`, passed to
`INTOBJ_INT` as an `Int`. -/
def posObjLen (size : Nat) : Int := uIntAsInt (posSlotCount size)

/-- `LEN_POSOBJ_Handler(self, obj)`: an atomic object keeps its length in
word 0. -/
def lenPosObjHandler (obj : Nat) : Kern Nat := do
  if isAtomicPos K (← tnumOf K obj) then
    pure (intObjInt (uIntAsInt (← readWord obj 0)))
  else
    pure (intObjInt (posObjLen (← sizeOf obj)))

variable {K}

/-- `SET_TYPE_POSOBJ_Handler` on a bag that is not atomic, whatever its
size. -/
theorem setTypePosObjHandler_apply (setTypeObj : Nat → Nat → Kern Unit) {h : Heap} {o : Nat}
    {b : Bag} (hb : h.get? o = some b) (ha : ¬ isAtomicPos K b.tnum) (kind : Nat) :
    setTypePosObjHandler K setTypeObj o kind h =
      .ok o (h.modify o fun b => (b.setWord 0 kind).retype K.tPosObj) := by
  rw [setTypePosObjHandler, tnumOf_bind K _ (tnumObj_of_get? K hb), if_neg ha]
  simp only [writeWord_bind, retypeBag_bind, Kern.pure_apply, modify_modify]
  rfl

/-- `SET_TYPE_DATOBJ_Handler` on any bag. -/
theorem setTypeDatObjHandler_apply (h : Heap) (o kind : Nat) :
    setTypeDatObjHandler K o kind h = .ok o (h.modify o fun b => (b.setWord 0 kind).retype K.tDatObj) := by
  simp only [setTypeDatObjHandler, writeWord_bind, retypeBag_bind, Kern.pure_apply, modify_modify]
  rfl

theorem lenPosObjHandler_apply {h : Heap} {o : Nat} {b : Bag} (hb : h.get? o = some b)
    (ha : ¬ isAtomicPos K b.tnum) :
    lenPosObjHandler K o h = .ok (intObjInt (posObjLen (sizeObj h o))) h := by
  rw [lenPosObjHandler, tnumOf_bind K _ (tnumObj_of_get? K hb), if_neg ha]
  rfl

end

/-! ## The counts -/

section Counts

variable {s : Nat}

theorem posSlotCount_of_lt (hs : s < wordSize) : posSlotCount s = 2 ^ 64 - 1 := by
  unfold posSlotCount uSub wordSize at *
  rw [Nat.div_eq_of_lt hs]
  decide

theorem posSlotCount_of_le (hs : wordSize ≤ s) (hlt : s < 2 ^ 64) : posSlotCount s = s / wordSize - 1 := by
  have := posSlotCount_succ hs hlt
  omega

theorem datWordCount_zero : datWordCount 0 = 2 ^ 64 - 1 := by decide

/-- A rounded size past the word wraps the payload count to `2^64 - 1`. -/
theorem datWordCount_of_wrap (hw : 2 ^ 64 < s + wordSize) (hlt : s < 2 ^ 64) :
    datWordCount s = 2 ^ 64 - 1 := by
  unfold datWordCount uAdd uSub wordSize at *
  have : (s + (8 - 1)) % 2 ^ 64 / 8 = 0 := by omega
  rw [this]
  decide

theorem datPayloadCount_zero : datPayloadCount 0 = 2 ^ 61 - 1 := by decide

theorem posObjLen_of_le (hs : wordSize ≤ s) (hlt : s < 2 ^ 64) :
    posObjLen s = ((s / wordSize - 1 : Nat) : Int) := by
  unfold posObjLen
  rw [posSlotCount_of_le hs hlt, uIntAsInt_of_lt]
  unfold wordSize; omega

theorem posObjLen_of_lt (hs : s < wordSize) : posObjLen s = -1 := by
  unfold posObjLen
  rw [posSlotCount_of_lt hs, uIntAsInt_max]

/-- Every length `LEN_POSOBJ_Handler` computes is a small integer. -/
theorem posObjLen_range (hlt : s < 2 ^ 64) : -1 ≤ posObjLen s ∧ posObjLen s < 2 ^ 61 := by
  rcases Nat.lt_or_ge s wordSize with hs | hs
  · rw [posObjLen_of_lt hs]; decide
  · rw [posObjLen_of_le hs hlt]; unfold wordSize; omega

/-- The slot counts of a positional object agree and stay inside the bag
exactly when it holds its type word. -/
theorem pos_counts_iff (hlt : s < 2 ^ 64) :
    (posSlotCount s = s / wordSize - 1 ∧ posObjLen s = ((s / wordSize - 1 : Nat) : Int) ∧
      posSlotCount s < wordsOf s) ↔ wordSize ≤ s := by
  constructor
  · rintro ⟨h1, -, -⟩
    by_contra hs
    rw [posSlotCount_of_lt (by omega)] at h1
    unfold wordSize at *; omega
  · intro hs
    refine ⟨posSlotCount_of_le hs hlt, posObjLen_of_le hs hlt, ?_⟩
    rw [posSlotCount_of_le hs hlt]
    unfold wordsOf wordSize at *; omega

/-- The payload counts of a data object agree and stay inside the bag exactly
when it is non-empty and its rounded size does not wrap. -/
theorem dat_counts_iff (hlt : s < 2 ^ 64) :
    (datPayloadCount s = datWordCount s ∧ datWordCount s < wordsOf s) ↔
      0 < s ∧ s + wordSize ≤ 2 ^ 64 := by
  constructor
  · rintro ⟨h1, h2⟩
    by_contra hs
    rcases Nat.eq_zero_or_pos s with rfl | h0
    · rw [datPayloadCount_zero, datWordCount_zero] at h1; omega
    · rw [datWordCount_of_wrap (by omega) hlt] at h2
      unfold wordsOf wordSize at h2; omega
  · rintro ⟨h0, hw⟩
    have hsucc := datWordCount_succ h0 hw
    rw [datPayloadCount_of_pos h0 hlt]
    unfold wordsOf wordSize at *
    omega

end Counts

/-- **The counts of the objects `SET_TYPE_POSOBJ` and `SET_TYPE_DATOBJ`
make.** Both handlers retag a bag of any size. For a positional object, the
counts of `CopyObjPosObj` (`SIZE/W - 1`, no wrap), of `SavePosObj` and
`LoadPosObj` (`posSlotCount`) and of `LEN_POSOBJ_Handler` (`posObjLen`) agree
and reach only words below `ceil(SIZE/W)` exactly when `W ≤ SIZE`; below,
the save and load count is `2^64 - 1` and the length `-1`. For a data object,
`CopyObjDatObj`'s `datPayloadCount` and the save and load's `datWordCount`
agree and stay inside exactly when `0 < SIZE` and `SIZE + W ≤ 2^64`; at size
0 they are `2^61 - 1` and `2^64 - 1`. -/
theorem size_counts_agree_iff (K : Kernel) (setTypeObj : Nat → Nat → Kern Unit) (h : Heap)
    (o kind : Nat) :
    (∀ b, h.get? o = some b → ¬ isAtomicPos K b.tnum →
      setTypePosObjHandler K setTypeObj o kind h =
        .ok o (h.modify o fun b => (b.setWord 0 kind).retype K.tPosObj) ∧
      lenPosObjHandler K o h = .ok (intObjInt (posObjLen (sizeObj h o))) h) ∧
    setTypeDatObjHandler K o kind h = .ok o (h.modify o fun b => (b.setWord 0 kind).retype K.tDatObj) ∧
    ((posSlotCount (sizeObj h o) = sizeObj h o / wordSize - 1 ∧
        posObjLen (sizeObj h o) = ((sizeObj h o / wordSize - 1 : Nat) : Int) ∧
        posSlotCount (sizeObj h o) < wordsOf (sizeObj h o)) ↔ wordSize ≤ sizeObj h o) ∧
    (sizeObj h o < wordSize →
      posSlotCount (sizeObj h o) = 2 ^ 64 - 1 ∧ posObjLen (sizeObj h o) = -1 ∧
        sizeObj h o / wordSize - 1 = 0) ∧
    ((datPayloadCount (sizeObj h o) = datWordCount (sizeObj h o) ∧
        datWordCount (sizeObj h o) < wordsOf (sizeObj h o)) ↔
      0 < sizeObj h o ∧ sizeObj h o + wordSize ≤ 2 ^ 64) ∧
    (sizeObj h o = 0 → datPayloadCount (sizeObj h o) = 2 ^ 61 - 1 ∧
      datWordCount (sizeObj h o) = 2 ^ 64 - 1) := by
  have hlt := sizeObj_lt h o
  refine ⟨fun b hb ha => ⟨setTypePosObjHandler_apply setTypeObj hb ha kind,
      lenPosObjHandler_apply hb ha⟩, setTypeDatObjHandler_apply h o kind, pos_counts_iff hlt,
    fun hs => ⟨posSlotCount_of_lt hs, posObjLen_of_lt hs, ?_⟩, dat_counts_iff hlt,
    fun hs => ?_⟩
  · unfold wordSize at *; omega
  · rw [hs]; exact ⟨datPayloadCount_zero, datWordCount_zero⟩

/-- **Small integers.** `INTOBJ_INT` and `INT_INTOBJ` are inverse between the
integers `-2^61 .. 2^61-1` and the words tagged `01`, and
`SET_PRINT_OBJ_INDEX(INTOBJ_INT(i))` sets `PrintObjIndex` to `i`.
`IS_INTOBJ` tests only the low bit, so a word tagged `11` passes it too and
reads as the integer of the word two below. Every length `LEN_POSOBJ_Handler`
encodes, `-1` included, reads back unchanged. -/
theorem smallInt_round_trip (K : Kernel) :
    (∀ i : Int, -2 ^ 61 ≤ i → i < 2 ^ 61 →
      intObjInt i < 2 ^ 64 ∧ intObjInt i % 4 = 1 ∧ Printer.intIntObj (intObjInt i) = i ∧
      ∀ s, (Printer.setPrintObjIndex (intObjInt i) s).printObjIndex = i) ∧
    (∀ o, o < 2 ^ 64 → o % 4 = 1 →
      (-2 ^ 61 ≤ Printer.intIntObj o ∧ Printer.intIntObj o < 2 ^ 61) ∧
        intObjInt (Printer.intIntObj o) = o) ∧
    (∀ o, o < 2 ^ 64 → o % 4 = 3 → isIntObj o = true ∧ intObjInt (Printer.intIntObj o) = o - 2) ∧
    ∀ h o b, h.get? o = some b → ¬ isAtomicPos K b.tnum →
      ∃ w, lenPosObjHandler K o h = .ok w h ∧ Printer.intIntObj w = posObjLen (sizeObj h o) := by
  have hodd : ∀ o, o % 4 = 1 ∨ o % 4 = 3 → isIntObj o = true := fun o ho => by
    simp only [isIntObj, beq_iff_eq]; omega
  refine ⟨fun i h0 h1 => ⟨intObjInt_lt i, intObjInt_mod_four i, intIntObj_intObjInt h0 h1, fun s => ?_⟩,
    fun o hlt h1 => ⟨intIntObj_range hlt h1, intObjInt_intIntObj hlt h1⟩,
    fun o hlt h3 => ⟨hodd o (.inr h3), intObjInt_intIntObj_of_three hlt h3⟩,
    fun h o b hb ha => ⟨_, lenPosObjHandler_apply hb ha, ?_⟩⟩
  · rw [Printer.setPrintObjIndex, if_pos (hodd _ (.inl (intObjInt_mod_four i))), intIntObj_intObjInt h0 h1]
  · obtain ⟨h0, h1⟩ := posObjLen_range (sizeObj_lt h o)
    exact intIntObj_intObjInt (by omega) h1

/-- The word of `-1`, a word tagged `11`, and the length of `loopHeap`'s
positional object. -/
theorem smallInt_round_trip_samples :
    Printer.intIntObj (intObjInt (-1)) = -1 ∧ intObjInt (Printer.intIntObj (2 ^ 64 - 3)) = 2 ^ 64 - 3 ∧
    intObjInt (Printer.intIntObj 7) = 5 ∧
    ∃ w, lenPosObjHandler sampleKernel (handle 0) loopHeap = .ok w loopHeap ∧
      Printer.intIntObj w = posObjLen (sizeObj loopHeap (handle 0)) :=
  ⟨((smallInt_round_trip sampleKernel).1 (-1) (by decide) (by decide)).2.2.1,
    ((smallInt_round_trip sampleKernel).2.1 _ (by decide) (by decide)).2,
    ((smallInt_round_trip sampleKernel).2.2.1 7 (by decide) (by decide)).2,
    (smallInt_round_trip sampleKernel).2.2.2 loopHeap (handle 0) _ rfl (by decide)⟩

end GapObjects
