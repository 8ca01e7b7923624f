import RustDds.Structure
import Mathlib.Data.Int.Interval

/-!
# The writer proxy

Modelled from the spec: the Reader's bookkeeping for one matched writer, `RtpsWriterProxy`
(`rtps/rtps_writer_proxy.rs` is not in the source; `reader.rs` calls it, and reads and writes
its public fields `remote_writer_guid`, `unicast_locator_list`, `received_heartbeat_count`
and `sent_ack_nack_count`).

The spec's `received_set` is the set of sequence numbers the proxy *accounts for*: those
delivered, and those a GAP or a HEARTBEAT's `first_sn` declared irrelevant. §4.2 keeps it as a
*history floor*, the end of a contiguous prefix of accounted numbers, and a sparse set of the
numbers accounted for above it, and folds the sparse set's minimum into the prefix whenever
the two meet. `ReceivedSet` is that representation. Every number below the floor is accounted
for; a fresh proxy's floor is 1, so the numbers below 1 are accounted for from the start. The
last two fields of `ReceivedSet` say that the fold has been done: the sparse set lies above
the floor, so the floor itself is never accounted for.

* `received_changes_add s t`, `set_irrelevant_change s` and `irrelevant_changes_range lo hi`
  add `s` or `[lo, hi)` to the sparse set and fold (`ReceivedSet.addSet`);
* `irrelevant_changes_up_to n` raises the floor to `n` and folds (`ReceivedSet.raiseFloor`).

The fold is `ReceivedSet.fold`, and `ReceivedSet.mem_fold` says that it accounts for what it
was given and for nothing more; since the folded form is canonical (`ReceivedSet.ext`), the
order of the operations does not matter. `should_ignore_change` is membership,
`all_ackable_before` is the floor, the least number from 1 on that is not accounted for
(`allAckableBefore_spec`), and `missing_seqnums` lists the numbers of an interval that are not.
-/

namespace RustDds

/-- The spec's `received_set`, kept as §4.2 suggests: every number below the history floor
`ackBase` is accounted for, and so is every number of the sparse set `changes` above it. -/
structure ReceivedSet where
  ackBase : Int
  changes : Finset Int
  one_le_ackBase : 1 ≤ ackBase
  ackBase_lt_of_mem_changes : ∀ s ∈ changes, ackBase < s
  deriving DecidableEq

namespace ReceivedSet

instance : Membership Int ReceivedSet := ⟨fun rs s => s < rs.ackBase ∨ s ∈ rs.changes⟩

theorem mem_def {rs : ReceivedSet} {s : Int} : s ∈ rs ↔ s < rs.ackBase ∨ s ∈ rs.changes :=
  Iff.rfl

instance (s : Int) (rs : ReceivedSet) : Decidable (s ∈ rs) := decidable_of_iff _ mem_def.symm

/-- A fresh proxy's: the floor at 1 and nothing above it. -/
def init : ReceivedSet := ⟨1, ∅, le_rfl, fun _ h => absurd h (Finset.not_mem_empty _)⟩

/-- The first number from `n` on outside `s`, looking at most `fuel` numbers ahead. -/
def firstUnaccountedFrom (s : Finset Int) : Nat → Int → Int
  | 0, n => n
  | fuel + 1, n => if n ∈ s then firstUnaccountedFrom s fuel (n + 1) else n

/-- The search from `n` stops at `m ≥ n` with `[n, m)` in `s`, and either at a number outside
`s` or after `fuel` steps. -/
theorem firstUnaccountedFrom_spec (s : Finset Int) :
    ∀ (fuel : Nat) (n : Int),
      n ≤ firstUnaccountedFrom s fuel n ∧
      (∀ x, n ≤ x → x < firstUnaccountedFrom s fuel n → x ∈ s) ∧
      (firstUnaccountedFrom s fuel n ∉ s ∨ firstUnaccountedFrom s fuel n = n + fuel)
  | 0, n => ⟨le_rfl, fun x hx hx' => absurd hx' (not_lt.mpr hx), .inr (by simp [firstUnaccountedFrom])⟩
  | fuel + 1, n => by
    unfold firstUnaccountedFrom
    split_ifs with h
    · obtain ⟨h₁, h₂, h₃⟩ := firstUnaccountedFrom_spec s fuel (n + 1)
      refine ⟨by omega, fun x hx hx' => ?_, ?_⟩
      · rcases eq_or_lt_of_le hx with rfl | hx
        · exact h
        · exact h₂ x (by omega) hx'
      · rcases h₃ with h₃ | h₃
        · exact .inl h₃
        · right; rw [h₃]; omega
    · exact ⟨le_rfl, fun x hx hx' => absurd hx' (not_lt.mpr hx), .inl h⟩

/-- Looking `s.card` numbers ahead finds a number outside `s`: the `card` numbers the search
passes over are all in `s`, so one more would be too many. -/
theorem firstUnaccountedFrom_card_not_mem (s : Finset Int) (n : Int) :
    firstUnaccountedFrom s s.card n ∉ s := by
  obtain ⟨-, h₂, h₃⟩ := firstUnaccountedFrom_spec s s.card n
  intro hmem
  have h := h₃.resolve_left (not_not_intro hmem)
  have hsub : Finset.Ico n (firstUnaccountedFrom s s.card n + 1) ⊆ s := fun x hx => by
    rw [Finset.mem_Ico] at hx
    rcases eq_or_lt_of_le (Int.lt_add_one_iff.mp hx.2) with hx' | hx'
    · exact hx' ▸ hmem
    · exact h₂ x hx.1 hx'
  have := Finset.card_le_card hsub
  rw [Int.card_Ico] at this
  omega

/-- The fold of §4.2: the floor `floor` moves up over every number of `S` it meets, and what
of `S` lies above the new floor stays in the sparse set. -/
def fold (floor : Int) (S : Finset Int) (h : 1 ≤ floor) : ReceivedSet :=
  ⟨firstUnaccountedFrom S S.card floor, S.filter (firstUnaccountedFrom S S.card floor < ·),
    h.trans (firstUnaccountedFrom_spec S S.card floor).1, fun _ hs => (Finset.mem_filter.mp hs).2⟩

/-- Account for the numbers of `S` as well. -/
def addSet (rs : ReceivedSet) (S : Finset Int) : ReceivedSet :=
  fold rs.ackBase (rs.changes ∪ S) rs.one_le_ackBase

/-- Raise the history floor to `n`, if it is below. -/
def raiseFloor (rs : ReceivedSet) (n : Int) : ReceivedSet :=
  fold (max rs.ackBase n) rs.changes (rs.one_le_ackBase.trans (le_max_left _ _))

variable {rs : ReceivedSet} {s : Int}

/-- **The fold accounts for what it is given**: the numbers below the old floor and those of
`S`, and no others. -/
@[simp] theorem mem_fold {floor : Int} {S : Finset Int} {h : 1 ≤ floor} :
    s ∈ fold floor S h ↔ s < floor ∨ s ∈ S := by
  obtain ⟨h₁, h₂, -⟩ := firstUnaccountedFrom_spec S S.card floor
  have h₃ := firstUnaccountedFrom_card_not_mem S floor
  simp only [fold, mem_def, Finset.mem_filter]
  constructor
  · rintro (hs | ⟨hs, -⟩)
    · exact (lt_or_le s floor).imp_right fun hf => h₂ s hf hs
    · exact .inr hs
  · rintro (hs | hs)
    · exact .inl (lt_of_lt_of_le hs h₁)
    · rcases lt_trichotomy s (firstUnaccountedFrom S S.card floor) with hlt | rfl | hgt
      · exact .inl hlt
      · exact absurd hs h₃
      · exact .inr ⟨hs, hgt⟩

@[simp] theorem mem_init : s ∈ init ↔ s < 1 := by
  simp [init, mem_def]

@[simp] theorem mem_addSet {S : Finset Int} : s ∈ rs.addSet S ↔ s ∈ rs ∨ s ∈ S := by
  rw [addSet, mem_fold, Finset.mem_union, mem_def, or_assoc]

@[simp] theorem mem_raiseFloor {n : Int} : s ∈ rs.raiseFloor n ↔ s ∈ rs ∨ s < n := by
  rw [raiseFloor, mem_fold, lt_max_iff, mem_def]
  tauto

/-- Every number below the floor is accounted for, and the floor is not. -/
theorem ackBase_spec (rs : ReceivedSet) : rs.ackBase ∉ rs ∧ ∀ s < rs.ackBase, s ∈ rs :=
  ⟨fun h => h.elim (lt_irrefl _) fun h => lt_irrefl _ (rs.ackBase_lt_of_mem_changes _ h),
    fun _ h => .inl h⟩

/-- The floor passes a gap once it is filled, and a raised floor passes what was received
above it. -/
example : ((ReceivedSet.init.addSet {3}).addSet {1}).ackBase = 2 ∧
    (((ReceivedSet.init.addSet {3}).addSet {1}).addSet {2}).ackBase = 4 ∧
    ((ReceivedSet.init.addSet {5}).raiseFloor 5).ackBase = 6 := by decide

/-- The numbers below 1 are accounted for from the start. -/
theorem mem_of_lt_one (rs : ReceivedSet) (h : s < 1) : s ∈ rs :=
  .inl (lt_of_lt_of_le h rs.one_le_ackBase)

/-- So raising the floor to `n` adds `[1, n)`. -/
theorem mem_or_lt_iff {n : Int} : s ∈ rs ∨ s < n ↔ s ∈ rs ∨ 1 ≤ s ∧ s < n := by
  by_cases h : 1 ≤ s
  · simp [h]
  · simp only [h, false_and, or_false, or_iff_left_iff_imp]
    exact fun _ => rs.mem_of_lt_one (by omega)

theorem ackBase_le_of_subset {a b : ReceivedSet} (h : ∀ s, s ∈ a → s ∈ b) :
    a.ackBase ≤ b.ackBase :=
  not_lt.mp fun hlt => b.ackBase_spec.1 (h _ (a.ackBase_spec.2 _ hlt))

theorem mem_changes_iff : s ∈ rs.changes ↔ rs.ackBase < s ∧ s ∈ rs :=
  ⟨fun h => ⟨rs.ackBase_lt_of_mem_changes s h, .inr h⟩,
    fun ⟨hlt, h⟩ => h.resolve_left (not_lt.mpr hlt.le)⟩

/-- **The folded form is canonical**: two received sets that account for the same numbers are
the same. -/
@[ext] theorem ext {a b : ReceivedSet} (h : ∀ s, s ∈ a ↔ s ∈ b) : a = b := by
  have hb : a.ackBase = b.ackBase :=
    le_antisymm (ackBase_le_of_subset fun s => (h s).mp) (ackBase_le_of_subset fun s => (h s).mpr)
  have hc : a.changes = b.changes :=
    Finset.ext fun s => by rw [mem_changes_iff, mem_changes_iff, hb, h]
  cases a; cases b
  simp only [mk.injEq]
  exact ⟨hb, hc⟩

theorem addSet_empty (rs : ReceivedSet) : rs.addSet ∅ = rs :=
  ext fun s => by simp

theorem addSet_addSet (rs : ReceivedSet) (S T : Finset Int) :
    (rs.addSet S).addSet T = rs.addSet (S ∪ T) :=
  ext fun s => by simp [or_assoc]

end ReceivedSet

/-- Modelled from the spec: `RtpsWriterProxy`, the Reader's bookkeeping for one matched
writer. -/
structure RtpsWriterProxy where
  remoteWriterGuid : GUID
  unicastLocatorList : List Locator
  multicastLocatorList : List Locator
  remoteGroupEntityId : EntityId
  receivedSet : ReceivedSet
  receivedHeartbeatCount : Int
  sentAckNackCount : Int
  lastChangeTimestamp : Option Int
  deriving DecidableEq

namespace RtpsWriterProxy

/-- `RtpsWriterProxy::new`: nothing accounted for from 1 on, both counters at 0. -/
def new (remoteWriterGuid : GUID) (unicastLocatorList multicastLocatorList : List Locator)
    (remoteGroupEntityId : EntityId) : RtpsWriterProxy :=
  ⟨remoteWriterGuid, unicastLocatorList, multicastLocatorList, remoteGroupEntityId,
    ReceivedSet.init, 0, 0, none⟩

/-- `update_contents`: a re-announced writer brings new locators and group; the accounting
stays ("updates or adds a new writer proxy, doesn't touch changes", `update_writer_proxy`). -/
def updateContents (p other : RtpsWriterProxy) : RtpsWriterProxy :=
  { p with unicastLocatorList := other.unicastLocatorList,
           multicastLocatorList := other.multicastLocatorList,
           remoteGroupEntityId := other.remoteGroupEntityId }

/-- `received_changes_add`: `sn` was delivered at `receiveTimestamp`. -/
def receivedChangesAdd (p : RtpsWriterProxy) (sn : Int) (receiveTimestamp : Int) :
    RtpsWriterProxy :=
  { p with receivedSet := p.receivedSet.addSet {sn},
           lastChangeTimestamp := some receiveTimestamp }

/-- `set_irrelevant_change`. -/
def setIrrelevantChange (p : RtpsWriterProxy) (sn : Int) : RtpsWriterProxy :=
  { p with receivedSet := p.receivedSet.addSet {sn} }

/-- `irrelevant_changes_range`: `[removeFrom, removeUntilBefore)` is irrelevant. -/
def irrelevantChangesRange (p : RtpsWriterProxy) (removeFrom removeUntilBefore : Int) :
    RtpsWriterProxy :=
  { p with receivedSet := p.receivedSet.addSet (Finset.Ico removeFrom removeUntilBefore) }

/-- `irrelevant_changes_up_to`: the writer's history starts at `smallestSeqnum`, which becomes
the history floor if it is above it. -/
def irrelevantChangesUpTo (p : RtpsWriterProxy) (smallestSeqnum : Int) :
    RtpsWriterProxy :=
  { p with receivedSet := p.receivedSet.raiseFloor smallestSeqnum }

/-- `should_ignore_change`: `sn` is already accounted for. -/
def shouldIgnoreChange (p : RtpsWriterProxy) (sn : Int) : Bool := sn ∈ p.receivedSet

/-- `all_ackable_before`: the history floor. -/
def allAckableBefore (p : RtpsWriterProxy) : Int := p.receivedSet.ackBase

/-- The numbers of `[first, last]`, in increasing order. -/
def seqRange (first last : Int) : List Int :=
  (List.range (last - first + 1).toNat).map fun i : Nat => first + i

/-- `missing_seqnums`: the numbers of `[first, last]` not accounted for, in increasing
order. -/
def missingSeqnums (p : RtpsWriterProxy) (first last : Int) : List Int :=
  (seqRange first last).filter fun s => s ∉ p.receivedSet

/-- `next_ack_nack_sequence_number`: the current ACKNACK count, and the proxy with the `i32`
counter incremented. -/
def nextAckNackSequenceNumber (p : RtpsWriterProxy) : Int × RtpsWriterProxy :=
  (p.sentAckNackCount, { p with sentAckNackCount := wrapI32 (p.sentAckNackCount + 1) })

/-- `no_changes_received`: nothing accounted for beyond what a fresh proxy accounts for. -/
def noChangesReceived (p : RtpsWriterProxy) : Bool := p.receivedSet = ReceivedSet.init

/-! ### What each operation does to the set and the counters -/

@[simp] theorem remoteWriterGuid_new (g : GUID) (uc mc : List Locator) (e : EntityId) :
    (new g uc mc e).remoteWriterGuid = g := rfl

@[simp] theorem receivedSet_new (g : GUID) (uc mc : List Locator) (e : EntityId) :
    (new g uc mc e).receivedSet = ReceivedSet.init := rfl

@[simp] theorem receivedSet_updateContents (p o : RtpsWriterProxy) :
    (p.updateContents o).receivedSet = p.receivedSet := rfl

@[simp] theorem receivedSet_receivedChangesAdd (p : RtpsWriterProxy) (sn : Int)
    (t : Int) : (p.receivedChangesAdd sn t).receivedSet = p.receivedSet.addSet {sn} := rfl

@[simp] theorem receivedSet_setIrrelevantChange (p : RtpsWriterProxy) (sn : Int) :
    (p.setIrrelevantChange sn).receivedSet = p.receivedSet.addSet {sn} := rfl

@[simp] theorem receivedSet_irrelevantChangesRange (p : RtpsWriterProxy) (a b : Int) :
    (p.irrelevantChangesRange a b).receivedSet = p.receivedSet.addSet (Finset.Ico a b) := rfl

@[simp] theorem receivedSet_irrelevantChangesUpTo (p : RtpsWriterProxy) (n : Int) :
    (p.irrelevantChangesUpTo n).receivedSet = p.receivedSet.raiseFloor n := rfl

@[simp] theorem receivedSet_nextAckNackSequenceNumber (p : RtpsWriterProxy) :
    p.nextAckNackSequenceNumber.2.receivedSet = p.receivedSet := rfl

@[simp] theorem sentAckNackCount_nextAckNackSequenceNumber (p : RtpsWriterProxy) :
    p.nextAckNackSequenceNumber.2.sentAckNackCount = wrapI32 (p.sentAckNackCount + 1) := rfl

@[simp] theorem fst_nextAckNackSequenceNumber (p : RtpsWriterProxy) :
    p.nextAckNackSequenceNumber.1 = p.sentAckNackCount := rfl

/-- `set_irrelevant_change` over the members of a GAP's list accounts for them all at once. -/
theorem foldl_setIrrelevantChange (l : List Int) (p : RtpsWriterProxy) :
    l.foldl setIrrelevantChange p = { p with receivedSet := p.receivedSet.addSet l.toFinset } := by
  induction l generalizing p with
  | nil => rw [List.toFinset_nil, ReceivedSet.addSet_empty]; rfl
  | cons s l ih =>
    rw [List.foldl_cons, ih]
    simp [setIrrelevantChange, ReceivedSet.addSet_addSet, Finset.insert_eq]

@[simp] theorem shouldIgnoreChange_iff (p : RtpsWriterProxy) (sn : Int) :
    p.shouldIgnoreChange sn = true ↔ sn ∈ p.receivedSet := by
  simp [shouldIgnoreChange]

/-! ### `all_ackable_before` -/

/-- **`all_ackable_before` is the least number from 1 on outside the accounted set**: it is at
least 1, it is not accounted for, and every number below it is. -/
theorem allAckableBefore_spec (p : RtpsWriterProxy) :
    1 ≤ p.allAckableBefore ∧ p.allAckableBefore ∉ p.receivedSet ∧
      ∀ s < p.allAckableBefore, s ∈ p.receivedSet :=
  ⟨p.receivedSet.one_le_ackBase, p.receivedSet.ackBase_spec⟩

/-- `all_ackable_before` reads the set only. -/
theorem allAckableBefore_congr {p q : RtpsWriterProxy} (h : p.receivedSet = q.receivedSet) :
    p.allAckableBefore = q.allAckableBefore :=
  congrArg ReceivedSet.ackBase h

@[simp] theorem mem_missingSeqnums (p : RtpsWriterProxy) (first last s : Int) :
    s ∈ p.missingSeqnums first last ↔ first ≤ s ∧ s ≤ last ∧ s ∉ p.receivedSet := by
  simp only [missingSeqnums, seqRange, List.mem_filter, List.mem_map, List.mem_range,
    decide_eq_true_eq]
  constructor
  · rintro ⟨⟨i, hi, rfl⟩, h⟩; exact ⟨by omega, by omega, h⟩
  · rintro ⟨h₁, h₂, h⟩; exact ⟨⟨(s - first).toNat, by omega, by omega⟩, h⟩

end RtpsWriterProxy

end RustDds
