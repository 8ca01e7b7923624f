import RustDds.Steps

/-!
# What the topic cache keeps

Two operations change which changes the topic cache holds: `remove_changes_before` trims it,
and `make_cache_change` inserts a change under the instant its sample was received.

* `TopicCache.removeChangesBefore_toList` — trimming keeps the changes from index
  `min (max 0 R) (len - 1)` on whose key is at least the cutoff, `R` being the `i32` count of
  changes over `max_samples`: the split key is the later of the cutoff and the key at that index.
* `remove_changes_before_keeps_newest` — with a positive `max_samples` (and counts that fit an
  `i32`) the cache keeps exactly its newest `max_samples` changes that are not before the cutoff,
  with their values; at most `max_samples` remain.

With `max_samples` at most 0 the split key is the newest key, so the newest change survives
whenever it is not before the cutoff (`TopicCache.removeChangesBefore_toList_of_nonpos`): more
changes remain than `max_samples` allows (`remove_changes_before_over_zero_max_samples`).

The history cache is a `BTreeMap` keyed by the instant, and `add_change` is its `insert`: two
changes received at the same instant share a key, and the second replaces the first
(`make_cache_change_replaces_at_equal_instant`). A clock that never returns an instant twice
rules this out:

* `Reader.step_stores` — a step stores at most one change, under the instant of its DATA or
  DATAFRAG;
* `Run.mem_changes` — every key of the history cache was there at the start of the run or is
  the instant of one of its DATA or DATAFRAG;
* `changes_kept_under_increasing_clock` — along a run without trimming whose DATA and DATAFRAG
  are handled at strictly increasing instants, the cache keeps every change it started with and
  every change the run stores.
-/

namespace RustDds

/-! ### Trimming the topic cache -/

/-- The last of the first `j + 1` members of a list: its member `j`, or its last when it is
shorter. -/
theorem getLast?_take_succ {α : Type} (l : List α) (j : Nat) :
    (l.take (j + 1)).getLast? = l[min j (l.length - 1)]? := by
  rw [List.getLast?_take, if_neg (Nat.succ_ne_zero j), Nat.add_sub_cancel]
  by_cases hj : j < l.length
  · rw [min_eq_left (by omega), List.getElem?_eq_getElem hj]; rfl
  · rw [List.getElem?_eq_none (by omega), min_eq_right (by omega), List.getLast?_eq_getElem?]
    rfl

namespace OrdMap

variable {κ ν : Type} [LinearOrder κ]

/-- Keeping the keys from the one at index `i` on keeps the entries from index `i` on. -/
theorem filter_le_getElem_eq_drop :
    ∀ {l : List (κ × ν)} (_ : l.Pairwise (fun a b => a.1 < b.1)) {i : Nat} (hi : i < l.length),
      l.filter (fun p => decide (l[i].1 ≤ p.1)) = l.drop i
  | x :: xs, hl, 0, _ => by
    rw [List.pairwise_cons] at hl
    simp only [List.getElem_cons_zero, List.filter_cons, le_refl, decide_True, if_true,
      List.drop_zero, List.cons.injEq, true_and, List.filter_eq_self, decide_eq_true_eq]
    exact fun y hy => (hl.1 y hy).le
  | x :: xs, hl, i + 1, hi => by
    rw [List.pairwise_cons] at hl
    have hlt := hl.1 _ (List.getElem_mem (Nat.lt_of_succ_lt_succ hi))
    simp only [List.getElem_cons_succ, List.filter_cons, not_le.mpr hlt, decide_False,
      Bool.false_eq_true, if_false, List.drop_succ_cons]
    exact filter_le_getElem_eq_drop hl.2 _

/-- `split_off` keeps the entries from its key on. -/
theorem find?_splitOff (m : OrdMap κ ν) (k k' : κ) :
    (m.splitOff k).find? k' = (m.find? k').filter fun _ => decide (k ≤ k') :=
  find?_filter (fun k' _ => decide (k ≤ k')) m k'

end OrdMap

namespace TopicCache

/-- **What `remove_changes_before` keeps**: with `R` the `i32` count of changes over
`max_samples`, the changes from index `min (max 0 R) (len - 1)` on whose key is at least
`instant`, in key order and with their values. -/
theorem removeChangesBefore_toList (tc : TopicCache) (instant : Int) :
    let l := tc.historyCache.changes.toList
    let removeCount := wrapI32 (wrapI32 l.length -
      (tc.topicQos.resourceLimits.getD ⟨1024, 1024, 64⟩).maxSamples)
    (tc.removeChangesBefore instant).historyCache.changes.toList =
      (l.drop (min (max 0 removeCount).toNat (l.length - 1))).filter
        fun p => decide (instant ≤ p.1) := by
  intro l removeCount
  have hsorted : l.Pairwise (fun a b => a.1 < b.1) := tc.historyCache.changes.sorted
  simp only [removeChangesBefore, DDSHistoryCache.changes_removeChangesBefore, OrdMap.splitOff,
    OrdMap.keys, OrdMap.size]
  simp only [getLast?_take_succ, List.length_map]
  by_cases hl : l = []
  · simp only [l] at hl ⊢; simp [hl]
  · have hi : min (max 0 removeCount).toNat (l.length - 1) < l.length := by
      have := List.length_pos.mpr hl; omega
    rw [List.getElem?_map, List.getElem?_eq_getElem hi]
    simp only [Option.map_some', Option.getD_some, max_le_iff]
    rw [← OrdMap.filter_le_getElem_eq_drop hsorted hi, List.filter_filter]
    exact List.filter_congr fun p _ => by simp [Bool.and_comm]

/-- The index `remove_changes_before` keeps from, when the `i32` count of changes over
`max_samples` is exact. -/
theorem removeChangesBefore_toList_of_fits (tc : TopicCache) (instant : Int)
    (hlen : tc.historyCache.changes.toList.length < 2147483648)
    (hlo : -2147483648 ≤ (tc.historyCache.changes.toList.length : Int) -
      (tc.topicQos.resourceLimits.getD ⟨1024, 1024, 64⟩).maxSamples)
    (hhi : (tc.historyCache.changes.toList.length : Int) -
      (tc.topicQos.resourceLimits.getD ⟨1024, 1024, 64⟩).maxSamples < 2147483648) :
    (tc.removeChangesBefore instant).historyCache.changes.toList =
      (tc.historyCache.changes.toList.drop
        (min ((tc.historyCache.changes.toList.length : Int) -
          (tc.topicQos.resourceLimits.getD ⟨1024, 1024, 64⟩).maxSamples).toNat
          (tc.historyCache.changes.toList.length - 1))).filter
        fun p => decide (instant ≤ p.1) := by
  have hn : wrapI32 tc.historyCache.changes.toList.length = tc.historyCache.changes.toList.length :=
    wrapI32_of_lt (by omega) (by omega)
  have hidx : (max 0 ((tc.historyCache.changes.toList.length : Int) -
      (tc.topicQos.resourceLimits.getD ⟨1024, 1024, 64⟩).maxSamples)).toNat =
      ((tc.historyCache.changes.toList.length : Int) -
        (tc.topicQos.resourceLimits.getD ⟨1024, 1024, 64⟩).maxSamples).toNat := by omega
  rw [removeChangesBefore_toList, hn, wrapI32_of_lt hlo hhi, hidx]

/-- **With `max_samples` at most 0** the split key is the newest key, so the newest change
survives whenever it is not before `instant`. -/
theorem removeChangesBefore_toList_of_nonpos (tc : TopicCache) (instant : Int)
    (hM : (tc.topicQos.resourceLimits.getD ⟨1024, 1024, 64⟩).maxSamples ≤ 0)
    (hfit : (tc.historyCache.changes.toList.length : Int) -
      (tc.topicQos.resourceLimits.getD ⟨1024, 1024, 64⟩).maxSamples < 2147483648) :
    (tc.removeChangesBefore instant).historyCache.changes.toList =
      (tc.historyCache.changes.toList.drop (tc.historyCache.changes.toList.length - 1)).filter
        fun p => decide (instant ≤ p.1) := by
  rw [removeChangesBefore_toList_of_fits tc instant (by omega) (by omega) hfit]
  congr 2
  omega

end TopicCache

/-- **`remove_changes_before` with a positive `max_samples`**: while the counts are `i32`s, the
cache keeps exactly its newest `max_samples` changes whose key is at least `instant`, in key
order and with their values, so at most `max_samples` remain. -/
theorem remove_changes_before_keeps_newest (tc : TopicCache) (instant : Int)
    (hM : 1 ≤ (tc.topicQos.resourceLimits.getD ⟨1024, 1024, 64⟩).maxSamples)
    (hM' : (tc.topicQos.resourceLimits.getD ⟨1024, 1024, 64⟩).maxSamples < 2147483648)
    (hlen : tc.historyCache.changes.size < 2147483648) :
    let M := (tc.topicQos.resourceLimits.getD ⟨1024, 1024, 64⟩).maxSamples
    let l := tc.historyCache.changes.toList
    (tc.removeChangesBefore instant).historyCache.changes.toList =
        (l.drop (l.length - M.toNat)).filter (fun p => decide (instant ≤ p.1)) ∧
      (tc.removeChangesBefore instant).historyCache.changes.size ≤ M.toNat := by
  intro M l
  have hlen' : tc.historyCache.changes.toList.length < 2147483648 := hlen
  have hidx : min ((l.length : Int) - M).toNat (l.length - 1) = l.length - M.toNat := by omega
  have hl : (tc.removeChangesBefore instant).historyCache.changes.toList =
      (l.drop (l.length - M.toNat)).filter (fun p => decide (instant ≤ p.1)) := by
    rw [TopicCache.removeChangesBefore_toList_of_fits tc instant hlen' (by omega) (by omega)]
    exact congrArg (fun i => (l.drop i).filter _) hidx
  refine ⟨hl, ?_⟩
  calc (tc.removeChangesBefore instant).historyCache.changes.size
      = ((l.drop (l.length - M.toNat)).filter (fun p => decide (instant ≤ p.1))).length :=
        congrArg List.length hl
    _ ≤ (l.drop (l.length - M.toNat)).length := List.length_filter_le _ _
    _ ≤ M.toNat := by rw [List.length_drop]; omega

theorem example_remove_changes_before_keeps_newest :
    let tc := exampleSample.post.topicCache
    1 ≤ (tc.topicQos.resourceLimits.getD ⟨1024, 1024, 64⟩).maxSamples ∧
    (tc.topicQos.resourceLimits.getD ⟨1024, 1024, 64⟩).maxSamples < 2147483648 ∧
    tc.historyCache.changes.size < 2147483648 ∧
    let M := (tc.topicQos.resourceLimits.getD ⟨1024, 1024, 64⟩).maxSamples
    let l := tc.historyCache.changes.toList
    (tc.removeChangesBefore 11).historyCache.changes.toList =
        (l.drop (l.length - M.toNat)).filter (fun p => decide (11 ≤ p.1)) ∧
      (tc.removeChangesBefore 11).historyCache.changes.size ≤ M.toNat :=
  ⟨by decide, by decide, by decide,
    remove_changes_before_keeps_newest _ 11 (by decide) (by decide) (by decide)⟩

/-- **With `max_samples` 0 a change survives trimming**: the topic cache of the example Reader
after its first sample, with its resource limit set to 0 samples, keeps that sample. -/
theorem remove_changes_before_over_zero_max_samples :
    let tc : TopicCache := { exampleSample.post.topicCache with
      topicQos := { exampleSample.post.topicCache.topicQos with resourceLimits := some ⟨0, 1024, 64⟩ } }
    Run exampleCompliance exampleReader [exampleMatch, exampleSample] exampleSample.post ∧
    (tc.topicQos.resourceLimits.getD ⟨1024, 1024, 64⟩).maxSamples = 0 ∧
    tc.historyCache.changes.size = 1 ∧
    (tc.removeChangesBefore 0).historyCache.changes.toList = tc.historyCache.changes.toList ∧
    (tc.removeChangesBefore 0).historyCache.changes.size = 1 := by
  intro tc
  have hkept := TopicCache.removeChangesBefore_toList_of_nonpos tc 0 (by decide) (by decide)
  have hl : (tc.historyCache.changes.toList.drop (tc.historyCache.changes.toList.length - 1)).filter
      (fun p => decide (0 ≤ p.1)) = tc.historyCache.changes.toList := by decide
  rw [hl] at hkept
  exact ⟨exampleRun, rfl, by decide, hkept, by simp only [OrdMap.size, hkept]; decide⟩

/-! ### Changes stored at one instant -/

/-- `exampleWriter` sends the DATA of its sample 2, handled at the instant of sample 1. -/
def exampleSecondSample : StepRecord :=
  let data : Data := ⟨⟨0, ⟨0⟩⟩, exampleWriter.entityId, 2, none, some [0, 1, 0, 0, 6]⟩
  let mr : MessageReceiverState := ⟨exampleWriter.guidPrefix, [], [], none⟩
  let res := exampleSample.post.handleDataMsg data ⟨true, false⟩ mr 10
  ⟨exampleSample.post, .handleDataMsg data ⟨true, false⟩ mr 10, res.2, res.1⟩

/-- **A change stored at an instant that already holds one replaces it**: the example Reader
handles two DATA of its writer at the same instant 10; the change of sample 1 is gone from the
topic cache, though the writer's proxy records sample 1 as received. -/
theorem make_cache_change_replaces_at_equal_instant :
    Run exampleCompliance exampleReader [exampleMatch, exampleSample, exampleSecondSample]
      exampleSecondSample.post ∧
    exampleSample.input = .handleDataMsg ⟨⟨0, ⟨0⟩⟩, exampleWriter.entityId, 1, none, some [0, 1, 0, 0, 5]⟩
      ⟨true, false⟩ ⟨exampleWriter.guidPrefix, [], [], none⟩ 10 ∧
    exampleSecondSample.input = .handleDataMsg ⟨⟨0, ⟨0⟩⟩, exampleWriter.entityId, 2, none,
      some [0, 1, 0, 0, 6]⟩ ⟨true, false⟩ ⟨exampleWriter.guidPrefix, [], [], none⟩ 10 ∧
    exampleSample.post.topicCache.historyCache.changes.toList.map
      (fun p => (p.1, p.2.writerGuid, p.2.sequenceNumber)) = [(10, exampleWriter, 1)] ∧
    exampleSecondSample.post.topicCache.historyCache.changes.toList.map
      (fun p => (p.1, p.2.writerGuid, p.2.sequenceNumber)) = [(10, exampleWriter, 2)] ∧
    ∃ wp, exampleSecondSample.post.matchedWriters.find? exampleWriter = some wp ∧ 1 ∈ wp.receivedSet :=
  ⟨(Run.snoc exampleRun rfl : Run exampleCompliance exampleReader
      ([exampleMatch, exampleSample] ++ [exampleSecondSample]) _),
    rfl, rfl, by decide, by decide, _, rfl, by decide⟩

/-! ### Changes kept under a strictly increasing clock -/

/-- The instant under which the effect stores a change. -/
def Effect.storesAt? : Effect → Option Int
  | .addChange receiveTimestamp _ => some receiveTimestamp
  | _ => none

/-- The instant a DATA or DATAFRAG is handled at, its `Timestamp::now()`. -/
def Input.receivedAt? : Input → Option Int
  | .handleDataMsg _ _ _ now => some now
  | .handleDatafragMsg _ _ _ now => some now
  | _ => none

/-- Replaying effects that store nothing under `k` leaves the change under `k`. -/
theorem find?_applyEffects_of_not_stored {es : List Effect} {k : Int}
    (h : ∀ e ∈ es, e.storesAt? ≠ some k) (tc : TopicCache) :
    (applyEffects tc es).historyCache.changes.find? k = tc.historyCache.changes.find? k := by
  induction es generalizing tc with
  | nil => rfl
  | cons e es ih =>
    rw [applyEffects_cons, ih (fun e' he' => h e' (List.mem_cons_of_mem _ he'))]
    cases e with
    | addChange t cc =>
      have htk : t ≠ k := fun htk => h _ (List.mem_cons_self _ _) (by rw [htk]; rfl)
      simp [TopicCache.addChange, DDSHistoryCache.addChange, htk]
    | markReliablyReceivedBefore g sn => simp
    | _ => rfl

namespace Reader

variable {cfw : QosPolicies → QosPolicies → Option QosPolicyId} {r r' : Reader} {i : Input}
  {es : List Effect}

/-- `process_received_data` stores the sample's change under the instant it is handled at,
followed by effects that store nothing, or stores nothing. -/
theorem processReceivedData_stores (dd : DDSData) (t : Int) (wo : WriteOptions) (g : GUID)
    (s : Int) :
    (∀ e ∈ (r.processReceivedData dd t wo g s).2, e.storesAt? = none) ∨
      ∃ cc rest, (r.processReceivedData dd t wo g s).2 = .addChange t cc :: rest ∧
        ∀ e ∈ rest, e.storesAt? = none := by
  rw [processReceivedData_spec]
  split
  · refine .inr ⟨_, _, rfl, fun e he => ?_⟩
    rcases List.mem_append.mp he with he | he
    · obtain ⟨wp, -, rfl⟩ := mem_markAfterAdd _ he; rfl
    · obtain rfl := List.mem_singleton.mp he; rfl
  · exact .inl fun e he => nomatch he

/-- **A step stores at most one change**, under the instant of its DATA or DATAFRAG. -/
theorem step_stores (h : r.step cfw i = .ok (r', es)) :
    (∀ e ∈ es, e.storesAt? = none) ∨
      ∃ t cc rest, i.receivedAt? = some t ∧ es = .addChange t cc :: rest ∧
        ∀ e ∈ rest, e.storesAt? = none := by
  cases i with
  | handleDataMsg d f mr now =>
    rcases step_sample_cases h with ⟨-, rfl⟩ | ⟨dd, h⟩
    · exact .inl fun e he => nomatch he
    · obtain ⟨-, rfl⟩ := Prod.ext_iff.mp h
      exact (processReceivedData_stores ..).imp_right fun ⟨cc, rest, hes, hr⟩ =>
        ⟨now, cc, rest, rfl, hes, hr⟩
  | handleDatafragMsg d f mr now =>
    rcases step_fragment_cases h with ⟨l, fa, -, rfl⟩ | ⟨fa, dd, h⟩
    · exact .inl fun e he => nomatch he
    · obtain ⟨-, rfl⟩ := Prod.ext_iff.mp h
      exact (processReceivedData_stores ..).imp_right fun ⟨cc, rest, hes, hr⟩ =>
        ⟨now, cc, rest, rfl, hes, hr⟩
  | _ =>
    refine .inl fun e he => ?_
    cases e with
    | addChange t cc =>
      have hmem : cc.sequenceNumber ∈ insertedSns cc.writerGuid es :=
        List.mem_filterMap.mpr ⟨_, he, by simp⟩
      rcases step_insertedSns h cc.writerGuid with hnil | ⟨s, -, -, hw⟩
      · rw [hnil] at hmem; cases hmem
      · cases hw
    | _ => rfl

/-- **A step whose instant holds no change yet keeps every change**, and holds the change it
stores under its instant. -/
theorem step_find?_of_fresh (h : r.step cfw i = .ok (r', es))
    (hi : ∀ instant, i ≠ .removeChangesBefore instant)
    (hfresh : ∀ t, i.receivedAt? = some t → t ∉ r.topicCache.historyCache.changes) :
    (∀ k cc, r.topicCache.historyCache.changes.find? k = some cc →
      r'.topicCache.historyCache.changes.find? k = some cc) ∧
    ∀ t cc, .addChange t cc ∈ es → r'.topicCache.historyCache.changes.find? t = some cc := by
  rw [step_topicCache h hi]
  rcases step_stores h with hnone | ⟨t, cc, rest, ht, rfl, hrest⟩
  · refine ⟨fun k cc hk => ?_, fun t cc he => absurd (hnone _ he) (by simp [Effect.storesAt?])⟩
    rw [find?_applyEffects_of_not_stored (fun e he => by simp [hnone e he])]; exact hk
  · have hnot (k : Int) : ∀ e ∈ rest, e.storesAt? ≠ some k := fun e he => by simp [hrest e he]
    refine ⟨fun k cc' hk => ?_, fun t' cc' he => ?_⟩
    · have hkt : t ≠ k := fun htk => hfresh t ht (htk ▸ OrdMap.mem_iff.mpr ⟨cc', hk⟩)
      rw [applyEffects_cons, find?_applyEffects_of_not_stored (hnot k)]
      simpa [TopicCache.addChange, DDSHistoryCache.addChange, hkt] using hk
    · rcases List.mem_cons.mp he with he | he
      · cases he
        rw [applyEffects_cons, find?_applyEffects_of_not_stored (hnot t)]
        simp [TopicCache.addChange, DDSHistoryCache.addChange]
      · exact absurd (hrest _ he) (by simp [Effect.storesAt?])

/-- A step stores nothing under a key other than the instant of its DATA or DATAFRAG. -/
theorem step_not_stored (h : r.step cfw i = .ok (r', es)) {k : Int} (hk : i.receivedAt? ≠ some k) :
    ∀ e ∈ es, e.storesAt? ≠ some k := by
  rcases step_stores h with hnone | ⟨t, cc, rest, ht, rfl, hrest⟩
  · exact fun e he => by simp [hnone e he]
  · intro e he
    rcases List.mem_cons.mp he with rfl | he
    · exact fun htk => hk (ht.trans htk)
    · simp [hrest e he]

/-- **A key a step leaves in the history cache** was there before it, or is the instant of its
DATA or DATAFRAG. -/
theorem step_mem_changes (h : r.step cfw i = .ok (r', es)) {k : Int}
    (hk : k ∈ r'.topicCache.historyCache.changes) :
    k ∈ r.topicCache.historyCache.changes ∨ i.receivedAt? = some k := by
  by_cases hki : i.receivedAt? = some k
  · exact .inr hki
  left
  rw [OrdMap.mem_iff] at hk ⊢
  obtain ⟨v, hv⟩ := hk
  cases i with
  | removeChangesBefore x =>
    simp only [step, Except.ok.injEq, Prod.ext_iff] at h; obtain ⟨rfl, rfl⟩ := h
    simp only [TopicCache.removeChangesBefore, DDSHistoryCache.changes_removeChangesBefore,
      OrdMap.find?_splitOff] at hv
    cases hf : r.topicCache.historyCache.changes.find? k
    · simp [hf] at hv
    · exact ⟨_, rfl⟩
  | _ =>
    rw [step_topicCache h (by simp), find?_applyEffects_of_not_stored (step_not_stored h hki)] at hv
    exact ⟨v, hv⟩

end Reader

namespace Run

variable {cfw : QosPolicies → QosPolicies → Option QosPolicyId} {r₀ r : Reader}
  {L : List StepRecord}

/-- **Every key of the history cache** was there at the start of the run, or is the instant of
one of its DATA or DATAFRAG. -/
theorem mem_changes (h : Run cfw r₀ L r) {k : Int} (hk : k ∈ r.topicCache.historyCache.changes) :
    k ∈ r₀.topicCache.historyCache.changes ∨ ∃ t ∈ L, t.input.receivedAt? = some k := by
  induction h with
  | nil => exact .inl hk
  | snoc _ hs ih =>
    rcases Reader.step_mem_changes hs hk with hold | hnew
    · exact (ih hold).imp_right fun ⟨t, ht, hkt⟩ => ⟨t, List.mem_append_left _ ht, hkt⟩
    · exact .inr ⟨_, List.mem_append_right _ (List.mem_singleton_self _), hnew⟩

end Run

/-- **Under a strictly increasing clock no change is replaced.** Along a run without trimming
whose DATA and DATAFRAG are handled at strictly increasing instants, all after the keys the
history cache starts with, the cache keeps every change it started with and every change the
run stores, each under its instant. -/
theorem changes_kept_under_increasing_clock {cfw : QosPolicies → QosPolicies → Option QosPolicyId}
    {r₀ r : Reader} {L : List StepRecord} (hrun : Run cfw r₀ L r)
    (hclock : (L.filterMap fun t => t.input.receivedAt?).Sorted (· < ·))
    (hinit : ∀ k ∈ r₀.topicCache.historyCache.changes, ∀ t ∈ L, ∀ now,
      t.input.receivedAt? = some now → k < now)
    (htrim : ∀ t ∈ L, ∀ instant, t.input ≠ .removeChangesBefore instant) :
    (∀ k cc, r₀.topicCache.historyCache.changes.find? k = some cc →
      r.topicCache.historyCache.changes.find? k = some cc) ∧
    ∀ t ∈ L, ∀ now cc, .addChange now cc ∈ t.effects →
      r.topicCache.historyCache.changes.find? now = some cc := by
  induction hrun with
  | nil => exact ⟨fun _ _ h => h, fun _ ht => nomatch ht⟩
  | @snoc L r r' i es hprev hs ih =>
    rw [List.Sorted, List.filterMap_append, List.pairwise_append] at hclock
    obtain ⟨hkeep, hstored⟩ := ih hclock.1
      (fun k hk t ht => hinit k hk t (List.mem_append_left _ ht))
      (fun t ht => htrim t (List.mem_append_left _ ht))
    have hlast : ⟨r, i, es, r'⟩ ∈ L ++ [⟨r, i, es, r'⟩] := List.mem_append_right _ (List.mem_singleton_self _)
    have hfresh (now : Int) (hnow : i.receivedAt? = some now) :
        now ∉ r.topicCache.historyCache.changes := fun hmem => by
      rcases hprev.mem_changes hmem with h₀ | ⟨t, ht, htnow⟩
      · exact lt_irrefl _ (hinit now h₀ _ hlast now hnow)
      · have := hclock.2.2 now (List.mem_filterMap.mpr ⟨t, ht, htnow⟩) now (by simp [hnow])
        exact lt_irrefl _ this
    obtain ⟨hkeep', hstore⟩ := Reader.step_find?_of_fresh hs (htrim _ hlast) hfresh
    refine ⟨fun k cc hk => hkeep' k cc (hkeep k cc hk), fun t ht now cc he => ?_⟩
    rcases List.mem_append.mp ht with ht | ht
    · exact hkeep' now cc (hstored t ht now cc he)
    · obtain rfl := List.mem_singleton.mp ht
      exact hstore now cc he

theorem example_changes_kept_under_increasing_clock :
    ([exampleMatch, exampleSample].filterMap fun t => t.input.receivedAt?).Sorted (· < ·) ∧
    (∀ k ∈ exampleReader.topicCache.historyCache.changes, ∀ t ∈ [exampleMatch, exampleSample],
      ∀ now, t.input.receivedAt? = some now → k < now) ∧
    (∀ t ∈ [exampleMatch, exampleSample], ∀ instant, t.input ≠ .removeChangesBefore instant) ∧
    (∀ k cc, exampleReader.topicCache.historyCache.changes.find? k = some cc →
      exampleSample.post.topicCache.historyCache.changes.find? k = some cc) ∧
    ∀ t ∈ [exampleMatch, exampleSample], ∀ now cc, .addChange now cc ∈ t.effects →
      exampleSample.post.topicCache.historyCache.changes.find? now = some cc := by
  have hclock : ([exampleMatch, exampleSample].filterMap fun t => t.input.receivedAt?).Sorted
      (· < ·) := by decide
  have hinit : ∀ k ∈ exampleReader.topicCache.historyCache.changes,
      ∀ t ∈ [exampleMatch, exampleSample], ∀ now, t.input.receivedAt? = some now → k < now :=
    fun k hk => absurd hk (OrdMap.not_mem_empty k)
  have htrim : ∀ t ∈ [exampleMatch, exampleSample], ∀ instant,
      t.input ≠ .removeChangesBefore instant := by
    intro t ht instant
    rcases List.mem_cons.mp ht with rfl | ht
    · exact fun h => Input.noConfusion h
    · obtain rfl := List.mem_singleton.mp ht; exact fun h => Input.noConfusion h
  exact ⟨hclock, hinit, htrim, changes_kept_under_increasing_clock exampleRun hclock hinit htrim⟩

end RustDds
