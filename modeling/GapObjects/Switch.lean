import GapObjects.Regions

/-!
# Exchanging the identities of two objects

`SWITCH_OBJ(obj1, obj2)` and `FORCE_SWITCH_OBJ(obj1, obj2)` exchange what two
handles refer to: the body pointer `PTR_BAG` and the region `DS_BAG`. A handle
names a master pointer, so the state here is the table of master pointers
(`Master`), entry `k` for `handle k`; `view` reads a heap through it. The two
functions differ only in their region test and in the name their errors
carry, so both are `switchWith`.

* **one call** — a call either fails with the table as it was, or exchanges
  the entries of its two handles and leaves every other entry alone
  (`switchWith_error`, `switchWith_ok`, `masterOf_exchange`); it succeeds
  exactly on two handles of allocated bags whose regions pass the test
  (`switchWith_ok_iff`), and an immediate argument is the recoverable failure
  (`switchWith_immediate`);
* **heaps** — through `view`, a successful call exchanges the two bags
  (`view_exchange`);
* **runs** — over any sequence of calls the table is a permutation of the one
  it started from, so an injective handle-to-body map stays injective
  (`runCalls_perm`);
* **involution** — a call that succeeded succeeds again on its result and
  restores the table (`switchWith_twice`).
-/

namespace GapObjects.Switch

/-! ## The master pointer table -/

/-- The master pointer of a handle: the body it refers to (`PTR_BAG`) and its
region (`DS_BAG`, `none` for the public region). -/
structure Master where
  ptr : Nat
  ds : Option Region
  deriving DecidableEq, Repr

/-- The entry of a word that is the handle of an allocated bag. -/
def masterOf (m : List Master) (o : Nat) : Option Master :=
  if isBagRef o then m[o / 4 - 1]? else none

/-- `DS_BAG(o) = e.ds; PTR_BAG(o) = e.ptr`. -/
def setMaster (m : List Master) (o : Nat) (e : Master) : List Master :=
  if isBagRef o then m.set (o / 4 - 1) e else m

/-- The heap the table shows when the body at address `p` is `body p`: handle
`handle k` refers to the body its entry points to, in the entry's region. -/
def view (body : Nat → Bag) (m : List Master) (cur : Option Region) : Heap :=
  ⟨m.map fun e => { body e.ptr with region := e.ds }, cur⟩

theorem masterOf_handle (m : List Master) (k : Nat) : masterOf m (handle k) = m[k]? := by
  simp only [masterOf, isBagRef_handle, if_true, handle_index]

theorem masterOf_eq_some {m : List Master} {o : Nat} {e : Master} (he : masterOf m o = some e) :
    ∃ k, o = handle k ∧ m[k]? = some e := by
  unfold masterOf at he
  split at he
  · rename_i href
    simp only [isBagRef, Bool.and_eq_true, bne_iff_ne, beq_iff_eq] at href
    exact ⟨o / 4 - 1, by unfold handle; omega, he⟩
  · cases he

theorem isImmediate_of_masterOf {m : List Master} {o : Nat} {e : Master} (he : masterOf m o = some e) :
    isImmediate o = false := by
  obtain ⟨k, rfl, -⟩ := masterOf_eq_some he
  exact isImmediate_of_isBagRef (isBagRef_handle k)

/-- Two tables with the same entry for every handle are equal. -/
theorem masterOf_ext {m m' : List Master} (h : ∀ o, masterOf m o = masterOf m' o) : m = m' :=
  List.ext_getElem? fun k => by rw [← masterOf_handle, ← masterOf_handle, h]

theorem masterOf_setMaster {m : List Master} {o : Nat} {e : Master} (ho : (masterOf m o).isSome)
    (o' : Nat) : masterOf (setMaster m o e) o' = if o' = o then some e else masterOf m o' := by
  obtain ⟨e0, he0⟩ := Option.isSome_iff_exists.mp ho
  obtain ⟨k, rfl, hk⟩ := masterOf_eq_some he0
  have hlt := (List.getElem?_eq_some_iff.mp hk).1
  unfold setMaster masterOf
  rw [if_pos (isBagRef_handle k), handle_index]
  by_cases heq : o' = handle k
  · subst heq
    rw [if_pos (isBagRef_handle k), handle_index, if_pos rfl, List.getElem?_set_self hlt]
  · rw [if_neg heq]
    split
    · rename_i href
      simp only [isBagRef, Bool.and_eq_true, bne_iff_ne, beq_iff_eq] at href
      exact List.getElem?_set_ne (by unfold handle at heq; omega)
    · rfl

theorem setMaster_handle (m : List Master) (k : Nat) (e : Master) :
    setMaster m (handle k) e = m.set k e := by
  simp only [setMaster, isBagRef_handle, if_true, handle_index]

/-- The bag a handle shows in `view`. -/
theorem view_get? (body : Nat → Bag) (m : List Master) (cur : Option Region) (o : Nat) :
    (view body m cur).get? o = (masterOf m o).map fun e => { body e.ptr with region := e.ds } := by
  unfold Heap.get? masterOf view
  split <;> simp

/-! ## Exchanging two entries -/

section Exchange

variable {m : List Master} {obj1 obj2 : Nat} {e1 e2 : Master}
  (h1 : masterOf m obj1 = some e1) (h2 : masterOf m obj2 = some e2)
include h1 h2

/-- The table after a successful switch: each handle gets the other's entry. -/
theorem masterOf_exchange (o : Nat) :
    masterOf (setMaster (setMaster m obj2 e1) obj1 e2) o =
      if o = obj1 then some e2 else if o = obj2 then some e1 else masterOf m o := by
  have h1' : (masterOf (setMaster m obj2 e1) obj1).isSome := by
    rw [masterOf_setMaster (by rw [h2]; rfl), h1]; split <;> rfl
  rw [masterOf_setMaster h1', masterOf_setMaster (by rw [h2]; rfl)]

/-- Exchanging two entries permutes the table. -/
theorem exchange_perm : (setMaster (setMaster m obj2 e1) obj1 e2).Perm m := by
  obtain ⟨i, rfl, hi⟩ := masterOf_eq_some h1
  obtain ⟨j, rfl, hj⟩ := masterOf_eq_some h2
  obtain ⟨hil, rfl⟩ := List.getElem?_eq_some_iff.mp hi
  obtain ⟨hjl, rfl⟩ := List.getElem?_eq_some_iff.mp hj
  rw [setMaster_handle, setMaster_handle]
  rw [List.perm_iff_count]
  intro b
  have hle := List.boole_getElem_le_countP (· == b) m j hjl
  rw [← List.count_eq_countP] at hle
  by_cases hij : i = j
  · subst hij
    rw [List.set_set, List.count_set _ _ _ _ hil]
    split_ifs at * <;> omega
  · have hil' : i < (m.set j m[i]).length := by rw [List.length_set]; exact hil
    rw [List.count_set _ _ _ _ hil', List.count_set _ _ _ _ hjl, List.getElem_set_ne (Ne.symm hij)]
    split_ifs at * <;> omega

/-- Through `view`, the two handles exchange their bags. -/
theorem view_exchange (body : Nat → Bag) (cur : Option Region) (o : Nat) :
    (view body (setMaster (setMaster m obj2 e1) obj1 e2) cur).get? o =
      if o = obj1 then (view body m cur).get? obj2
      else if o = obj2 then (view body m cur).get? obj1 else (view body m cur).get? o := by
  simp only [view_get?, masterOf_exchange h1 h2, h1, h2]
  split_ifs <;> rfl

end Exchange

/-! ## The two functions -/

/-- The region test of `FuncSWITCH_OBJ` in thread `t`: `!ds || ds->owner != TLS`
fails, so only a region `t` owns passes. -/
def switchRegionOk (t : Nat) : Option Region → Bool
  | none => false
  | some r => r.owner == some t

/-- The region test of `FuncFORCE_SWITCH_OBJ` in thread `t`:
`ds && ds->owner != TLS` fails, so the public region passes too. -/
def forceSwitchRegionOk (t : Nat) : Option Region → Bool
  | none => true
  | some r => r.owner == some t

/-- The body shared by `FuncSWITCH_OBJ` and `FuncFORCE_SWITCH_OBJ`: `name`
starts the region errors and `regionOk` is the region test. The immediate
checks come first; then `PTR_BAG` and `DS_BAG` of both arguments are read (on
a word that is no handle of a bag, undefined behaviour in C); then both
regions are tested; only then are the entries written,
`DS_BAG(obj2) = ds1; PTR_BAG(obj2) = ptr1; DS_BAG(obj1) = ds2; PTR_BAG(obj1) = ptr2`. -/
def switchWith (name : String) (regionOk : Option Region → Bool) (obj1 obj2 : Nat) :
    EStateM Err (List Master) Unit := fun m =>
  if isIntObj obj1 || isIntObj obj2 then
    .error (.returnVoid "small integer objects cannot be switched"
      "you can 'return;' to leave them in place") m
  else if isFfe obj1 || isFfe obj2 then
    .error (.returnVoid "finite field elements cannot be switched"
      "you can 'return;' to leave them in place") m
  else
    match masterOf m obj1, masterOf m obj2 with
    | some e1, some e2 =>
      if !regionOk e1.ds then .error (.quit (name ++ ": Cannot write to first object's region.") 0) m
      else if !regionOk e2.ds then .error (.quit (name ++ ": Cannot write to second object's region.") 0) m
      else .ok () (setMaster (setMaster m obj2 e1) obj1 e2)
    | none, _ => .error (.badHandle obj1) m
    | some _, none => .error (.badHandle obj2) m

/-- `FuncSWITCH_OBJ(self, obj1, obj2)` in thread `t`. -/
def switchObj (t obj1 obj2 : Nat) : EStateM Err (List Master) Unit :=
  switchWith "SWITCH_OBJ" (switchRegionOk t) obj1 obj2

/-- `FuncFORCE_SWITCH_OBJ(self, obj1, obj2)` in thread `t`. -/
def forceSwitchObj (t obj1 obj2 : Nat) : EStateM Err (List Master) Unit :=
  switchWith "FORCE_SWITCH_OBJ" (forceSwitchRegionOk t) obj1 obj2

section Spec

variable {name : String} {regionOk : Option Region → Bool} {obj1 obj2 : Nat} {m : List Master}

/-- A failed call writes nothing. -/
theorem switchWith_error {e : Err} {m' : List Master}
    (h : switchWith name regionOk obj1 obj2 m = .error e m') : m' = m := by
  unfold switchWith at h
  split_ifs at h
  · cases h; rfl
  · cases h; rfl
  · split at h
    · split_ifs at h <;> cases h <;> rfl
    · cases h; rfl
    · cases h; rfl

/-- A successful call found two handles of allocated bags whose regions pass
the test, and exchanged their entries. -/
theorem switchWith_ok {u : Unit} {m' : List Master} (h : switchWith name regionOk obj1 obj2 m = .ok u m') :
    ∃ e1 e2, masterOf m obj1 = some e1 ∧ masterOf m obj2 = some e2 ∧ regionOk e1.ds = true ∧
      regionOk e2.ds = true ∧ m' = setMaster (setMaster m obj2 e1) obj1 e2 := by
  unfold switchWith at h
  split_ifs at h
  split at h
  · rename_i e1 e2 he1 he2
    split_ifs at h with hr1 hr2
    cases h
    simp only [Bool.not_eq_true', Bool.not_eq_false] at hr1 hr2
    exact ⟨e1, e2, he1, he2, hr1, hr2, rfl⟩
  · cases h
  · cases h

/-- Two handles of allocated bags whose regions pass the test are exchanged. -/
theorem switchWith_of_masterOf {e1 e2 : Master} (h1 : masterOf m obj1 = some e1)
    (h2 : masterOf m obj2 = some e2) (hr1 : regionOk e1.ds = true) (hr2 : regionOk e2.ds = true) :
    switchWith name regionOk obj1 obj2 m = .ok () (setMaster (setMaster m obj2 e1) obj1 e2) := by
  have hi1 := isImmediate_of_masterOf h1
  have hi2 := isImmediate_of_masterOf h2
  simp only [isImmediate, Bool.or_eq_false_iff] at hi1 hi2
  simp only [switchWith, hi1, hi2, Bool.or_false, Bool.false_eq_true, if_false, h1, h2, hr1, hr2,
    Bool.not_true]

/-- A refused region is the `ErrorQuit` that names the argument whose region
failed, the first one tested first. -/
theorem switchWith_region_refused {e1 e2 : Master} (h1 : masterOf m obj1 = some e1)
    (h2 : masterOf m obj2 = some e2) :
    (regionOk e1.ds = false → switchWith name regionOk obj1 obj2 m =
      .error (.quit (name ++ ": Cannot write to first object's region.") 0) m) ∧
    (regionOk e1.ds = true → regionOk e2.ds = false → switchWith name regionOk obj1 obj2 m =
      .error (.quit (name ++ ": Cannot write to second object's region.") 0) m) := by
  have hi1 := isImmediate_of_masterOf h1
  have hi2 := isImmediate_of_masterOf h2
  simp only [isImmediate, Bool.or_eq_false_iff] at hi1 hi2
  refine ⟨fun hr1 => ?_, fun hr1 hr2 => ?_⟩
  · simp only [switchWith, hi1, hi2, Bool.or_false, Bool.false_eq_true, if_false, h1, h2, hr1,
      Bool.not_false, if_true]
  · simp only [switchWith, hi1, hi2, Bool.or_false, Bool.false_eq_true, if_false, h1, h2, hr1,
      Bool.not_true, Bool.not_false, if_true, hr2]

theorem switchWith_ok_iff :
    (∃ m', switchWith name regionOk obj1 obj2 m = .ok () m') ↔
      ∃ e1 e2, masterOf m obj1 = some e1 ∧ masterOf m obj2 = some e2 ∧ regionOk e1.ds = true ∧
        regionOk e2.ds = true :=
  ⟨fun ⟨_, h⟩ => let ⟨e1, e2, h1, h2, hr1, hr2, _⟩ := switchWith_ok h; ⟨e1, e2, h1, h2, hr1, hr2⟩,
   fun ⟨_, _, h1, h2, hr1, hr2⟩ => ⟨_, switchWith_of_masterOf h1 h2 hr1 hr2⟩⟩

/-- An immediate argument is the recoverable failure of `ErrorReturnVoid`. -/
theorem switchWith_immediate (h : isImmediate obj1 = true ∨ isImmediate obj2 = true) :
    ∃ msg hint, switchWith name regionOk obj1 obj2 m = .error (.returnVoid msg hint) m := by
  unfold switchWith
  by_cases hi : (isIntObj obj1 || isIntObj obj2) = true
  · exact ⟨_, _, if_pos hi⟩
  · have hf : (isFfe obj1 || isFfe obj2) = true := by
      simp only [isImmediate, Bool.or_eq_true] at h hi ⊢; tauto
    exact ⟨_, _, by rw [if_neg hi, if_pos hf]⟩

/-- A call either fails with the table as it was or exchanges two entries. -/
theorem switchWith_cases :
    (∃ e, switchWith name regionOk obj1 obj2 m = .error e m) ∨
      ∃ e1 e2, masterOf m obj1 = some e1 ∧ masterOf m obj2 = some e2 ∧
        switchWith name regionOk obj1 obj2 m = .ok () (setMaster (setMaster m obj2 e1) obj1 e2) := by
  cases h : switchWith name regionOk obj1 obj2 m with
  | error e m' => exact .inl ⟨e, by rw [switchWith_error h]⟩
  | ok u m' =>
    obtain ⟨e1, e2, h1, h2, -, -, rfl⟩ := switchWith_ok h
    exact .inr ⟨e1, e2, h1, h2, rfl⟩

/-- **Involution.** A call that succeeded succeeds again on its result and
gives back the table it started from. -/
theorem switchWith_twice {m' : List Master} (h : switchWith name regionOk obj1 obj2 m = .ok () m') :
    switchWith name regionOk obj1 obj2 m' = .ok () m := by
  obtain ⟨e1, e2, h1, h2, hr1, hr2, rfl⟩ := switchWith_ok h
  have h1' : masterOf (setMaster (setMaster m obj2 e1) obj1 e2) obj1 = some e2 := by
    rw [masterOf_exchange h1 h2, if_pos rfl]
  have h2' : masterOf (setMaster (setMaster m obj2 e1) obj1 e2) obj2 = some e1 := by
    rw [masterOf_exchange h1 h2]
    by_cases he : obj2 = obj1
    · rw [if_pos he]; subst he; rw [h1] at h2; cases h2; rfl
    · rw [if_neg he, if_pos rfl]
  rw [switchWith_of_masterOf h1' h2' hr2 hr1]
  refine congrArg _ (masterOf_ext fun o => ?_)
  rw [masterOf_exchange h1' h2', masterOf_exchange h1 h2]
  split_ifs with ho1 ho2 <;> first | rfl | (subst_vars; first | exact h1.symm | exact h2.symm)

end Spec

/-! ## Runs -/

/-- A call of `SWITCH_OBJ` or `FORCE_SWITCH_OBJ`. -/
inductive Call
  | switch (obj1 obj2 : Nat)
  | force (obj1 obj2 : Nat)
  deriving DecidableEq, Repr

namespace Call

def obj1 : Call → Nat
  | .switch a _ => a
  | .force a _ => a

def obj2 : Call → Nat
  | .switch _ b => b
  | .force _ b => b

/-- The name the call's region errors carry. -/
def name : Call → String
  | .switch _ _ => "SWITCH_OBJ"
  | .force _ _ => "FORCE_SWITCH_OBJ"

/-- The region test of the call's function in thread `t`. -/
def regionOk (t : Nat) : Call → Option Region → Bool
  | .switch _ _ => switchRegionOk t
  | .force _ _ => forceSwitchRegionOk t

/-- The call, made by thread `t`. -/
def run (t : Nat) : Call → EStateM Err (List Master) Unit
  | .switch a b => switchObj t a b
  | .force a b => forceSwitchObj t a b

theorem run_eq (t : Nat) (c : Call) : c.run t = switchWith c.name (c.regionOk t) c.obj1 c.obj2 := by
  cases c <;> rfl

end Call

/-- The table a call leaves, whether it returned or failed. -/
def tableOf {α : Type} : EStateM.Result Err (List Master) α → List Master
  | .ok _ m => m
  | .error _ m => m

/-- The table after thread `t` made the calls `cs` in turn; a failed call
leaves the table it failed on for the next one. -/
def runCalls (t : Nat) : List Call → List Master → List Master
  | [], m => m
  | c :: cs, m => runCalls t cs (tableOf (c.run t m))

/-- One call permutes the table. -/
theorem tableOf_run_perm (t : Nat) (c : Call) (m : List Master) : (tableOf (c.run t m)).Perm m := by
  rw [Call.run_eq]
  rcases @switchWith_cases c.name (c.regionOk t) c.obj1 c.obj2 m with ⟨e, he⟩ | ⟨e1, e2, h1, h2, he⟩
  · rw [he]; exact List.Perm.refl m
  · rw [he]; exact exchange_perm h1 h2

/-- Every run permutes the table. -/
theorem runCalls_perm (t : Nat) : ∀ (cs : List Call) (m : List Master), (runCalls t cs m).Perm m
  | [], m => List.Perm.refl m
  | c :: cs, m => (runCalls_perm t cs _).trans (tableOf_run_perm t c m)

theorem switchRegionOk_eq_true {t : Nat} {ds : Option Region} :
    switchRegionOk t ds = true ↔ ∃ r, ds = some r ∧ r.owner = some t := by
  cases ds <;> simp [switchRegionOk]

theorem forceSwitchRegionOk_eq_true {t : Nat} {ds : Option Region} :
    forceSwitchRegionOk t ds = true ↔ ds = none ∨ ∃ r, ds = some r ∧ r.owner = some t := by
  cases ds <;> simp [forceSwitchRegionOk]

/-- **Switching identities.** For thread `t`, on every table: a call fails
with the table as it was, or exchanges the entries of its two handles and
leaves every other one alone; it succeeds exactly on two handles of allocated
bags whose regions pass its test (`SWITCH_OBJ`: a region `t` owns;
`FORCE_SWITCH_OBJ`: the public region or one `t` owns); an immediate is the
recoverable failure, a refused region the `ErrorQuit` that names the argument
it belongs to; and a success repeated at once succeeds and restores the
table. Over any run the table is a permutation of the one it started from, so
an injective handle-to-body map stays injective. -/
theorem switch_calls_exchange (t : Nat) (m : List Master) (cs : List Call) :
    (∀ (c : Call) (m' : List Master),
      ((∃ err, c.run t m' = .error err m') ∨
        ∃ m'', c.run t m' = .ok () m'' ∧ ∀ o, masterOf m'' o =
          if o = c.obj1 then masterOf m' c.obj2 else if o = c.obj2 then masterOf m' c.obj1
          else masterOf m' o) ∧
      ((∃ m'', c.run t m' = .ok () m'') ↔ ∃ e1 e2, masterOf m' c.obj1 = some e1 ∧
        masterOf m' c.obj2 = some e2 ∧ c.regionOk t e1.ds = true ∧ c.regionOk t e2.ds = true) ∧
      (isImmediate c.obj1 = true ∨ isImmediate c.obj2 = true →
        ∃ msg hint, c.run t m' = .error (.returnVoid msg hint) m') ∧
      (∀ e1 e2, masterOf m' c.obj1 = some e1 → masterOf m' c.obj2 = some e2 →
        (c.regionOk t e1.ds = false → c.run t m' =
          .error (.quit (c.name ++ ": Cannot write to first object's region.") 0) m') ∧
        (c.regionOk t e1.ds = true → c.regionOk t e2.ds = false → c.run t m' =
          .error (.quit (c.name ++ ": Cannot write to second object's region.") 0) m')) ∧
      ∀ m'', c.run t m' = .ok () m'' → c.run t m'' = .ok () m') ∧
    (∀ ds, switchRegionOk t ds = true ↔ ∃ r, ds = some r ∧ r.owner = some t) ∧
    (∀ ds, forceSwitchRegionOk t ds = true ↔ ds = none ∨ ∃ r, ds = some r ∧ r.owner = some t) ∧
    (runCalls t cs m).Perm m ∧
    ((m.map Master.ptr).Nodup → ((runCalls t cs m).map Master.ptr).Nodup) := by
  refine ⟨fun c m' => ?_, fun _ => switchRegionOk_eq_true, fun _ => forceSwitchRegionOk_eq_true,
    runCalls_perm t cs m, fun hinj => ((runCalls_perm t cs m).map Master.ptr).nodup_iff.mpr hinj⟩
  rw [Call.run_eq]
  refine ⟨?_, switchWith_ok_iff, switchWith_immediate, fun _ _ => switchWith_region_refused,
    fun _ => switchWith_twice⟩
  rcases @switchWith_cases c.name (c.regionOk t) c.obj1 c.obj2 m' with he | ⟨e1, e2, h1, h2, he⟩
  · exact .inl he
  · refine .inr ⟨_, he, fun o => ?_⟩
    rw [masterOf_exchange h1 h2, h1, h2]

/-- Two handles, the first in a region no thread owns, the second in a region
thread 0 owns. -/
def ownerlessTable : List Master := [⟨0, some ⟨none⟩⟩, ⟨1, some ⟨some 0⟩⟩]

/-- Neither region of `ownerlessTable` is public or owned by a thread other
than 0, yet both functions refuse the switch in thread 0: the test is
`ds->owner != TLS`, which a region without an owner fails. -/
theorem ownerless_region_blocks_switch :
    ownerlessTable.map Master.ds = [some ⟨none⟩, some ⟨some 0⟩] ∧
    switchObj 0 (handle 0) (handle 1) ownerlessTable =
      .error (.quit "SWITCH_OBJ: Cannot write to first object's region." 0) ownerlessTable ∧
    forceSwitchObj 0 (handle 0) (handle 1) ownerlessTable =
      .error (.quit "FORCE_SWITCH_OBJ: Cannot write to first object's region." 0) ownerlessTable :=
  ⟨rfl, rfl, rfl⟩

end GapObjects.Switch
