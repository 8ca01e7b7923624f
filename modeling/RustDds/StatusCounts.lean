import RustDds.Stateless

/-!
# Deadline and incompatible-QoS statuses

Two `i32` counters of the Reader number the statuses it reports to its DataReader:
`requested_deadline_missed_count` the `RequestedDeadlineMissed` statuses of the deadline checks,
and `offered_incompatible_qos_count` the `RequestedIncompatibleQos` statuses of discovery. Each
status carries the counter as it stands after the increment, with change 1.

The statuses of a step are read off its effects (`statusCountsIn`), and the statuses a step is
meant to report off the state before it (`Reader.deadlineReports`, `Reader.incompatibleOffers`):

* `Reader.calculateIfRequestedDeadlineIsMissed_eq` — a deadline check reports one status per
  matched writer whose last change is absent or more than the deadline before `now`
  (`Reader.deadlineMisses`), none without a deadline, counting on from the counter;
* `Reader.step_statusCounts` — each step moves each counter by the statuses it reports, and
  those statuses carry the counts in between (`countsFrom`), wrapped as an `i32` holds them;
* `Run.statusCounts` and `deadline_and_incompatible_qos_counts` — over a run from
  `Reader::new` each counter is the number of its statuses so far, wrapped, and the statuses
  carry `1, 2, 3, …`, wrapped, in the order they are reported.

Two things keep the counts from being "the number of incompatible `update_writer_proxy` calls"
and "`1, 2, 3, …` with no repeat": a stateless Reader returns from `update_writer_proxy` before
it asks whether the offered QoS is compatible, and after `2^31` statuses the counter wraps
(`deadline_and_incompatible_counts_diverge`).
-/

namespace RustDds

/-! ### Status counts -/

/-- The count of a `RequestedDeadlineMissed` status. -/
def DataReaderStatus.deadlineMissed? : DataReaderStatus → Option CountWithChange
  | .requestedDeadlineMissed count => some count
  | _ => none

/-- The count of a `RequestedIncompatibleQos` status. -/
def DataReaderStatus.incompatibleQos? : DataReaderStatus → Option CountWithChange
  | .requestedIncompatibleQos count .. => some count
  | _ => none

/-- The counts of the statuses `sel` picks among some effects, in order. -/
def statusCountsIn (sel : DataReaderStatus → Option CountWithChange) (es : List Effect) :
    List CountWithChange :=
  es.filterMap fun
    | .statusChange s => sel s
    | _ => none

@[simp] theorem statusCountsIn_nil (sel : DataReaderStatus → Option CountWithChange) :
    statusCountsIn sel [] = [] := rfl

@[simp] theorem statusCountsIn_append (sel : DataReaderStatus → Option CountWithChange)
    (es es' : List Effect) :
    statusCountsIn sel (es ++ es') = statusCountsIn sel es ++ statusCountsIn sel es' :=
  List.filterMap_append ..

/-- The counts `c + 1, …, c + n`, each with change `1`, as an `i32` holds them. -/
def countsFrom (c : Int) (n : Nat) : List CountWithChange :=
  (List.range' 1 n).map fun k : Nat => ⟨wrapI32 (c + k), 1⟩

@[simp] theorem countsFrom_zero (c : Int) : countsFrom c 0 = [] := rfl

/-- `m + n` counts past `c` are `m` counts past `c`, then `n` past where they stop. -/
theorem countsFrom_add (c : Int) (m n : Nat) :
    countsFrom c (m + n) = countsFrom c m ++ countsFrom (wrapI32 (c + m)) n := by
  rw [countsFrom, add_comm, ← List.range'_append_1, List.map_append, add_comm 1 m,
    ← List.map_add_range', List.map_map]
  congr 1
  refine List.map_congr_left fun k _ => ?_
  simp only [Function.comp, wrapI32_wrapI32_add, CountWithChange.mk.injEq, and_true]
  congr 1; omega

/-- Below `2^31` the counts past 0 are `1, …, n`. -/
theorem countsFrom_zero_of_lt {n : Nat} (hn : n < 2147483648) :
    countsFrom 0 n = (List.range' 1 n).map fun k : Nat => ⟨k, 1⟩ :=
  List.map_congr_left fun k hk => by
    have := (List.mem_range'_1.mp hk).2
    rw [zero_add, wrapI32_of_lt (by omega) (by omega)]

@[simp] theorem length_countsFrom (c : Int) (n : Nat) : (countsFrom c n).length = n := by
  simp [countsFrom]

/-- The last of `n + 1` counts past `c`. -/
theorem getLast?_countsFrom (c : Int) (n : Nat) :
    (countsFrom c (n + 1)).getLast? = some ⟨wrapI32 (c + (n + 1 : Nat)), 1⟩ := by
  rw [countsFrom_add, List.getLast?_append]
  simp [countsFrom, wrapI32_wrapI32_add, add_assoc]

/-! ### The deadline check -/

namespace Reader

/-- The number of matched writers a deadline check at `now` reports: with a deadline `d`, those
whose last change is absent or more than `d` before `now`; without a deadline, none. -/
def deadlineMisses (r : Reader) (now : Int) : Nat :=
  match r.qosPolicy.deadline with
  | none => 0
  | some d => r.matchedWriters.toList.countP fun p => p.2.lastChangeTimestamp.all fun t => now - t > d

theorem deadlineMissed_eq_all (now d : Int) (wp : RtpsWriterProxy) :
    deadlineMissed now d wp = wp.lastChangeTimestamp.all fun t => now - t > d := by
  unfold deadlineMissed; cases wp.lastChangeTimestamp <;> rfl

/-- **The deadline loop** counts on from `c` once per writer that missed the deadline. -/
theorem deadlineMissedLoop_eq (now d : Int) {c : Int} (hc : wrapI32 c = c)
    (l : List (GUID × RtpsWriterProxy)) :
    deadlineMissedLoop now d c l =
      (wrapI32 (c + l.countP fun p => deadlineMissed now d p.2),
        (countsFrom c (l.countP fun p => deadlineMissed now d p.2)).map .requestedDeadlineMissed) := by
  induction l generalizing c with
  | nil => simp [deadlineMissedLoop, hc]
  | cons p l ih =>
    obtain ⟨g, wp⟩ := p
    unfold deadlineMissedLoop
    split <;> rename_i hm
    · dsimp only
      rw [ih (wrapI32_wrapI32 _), List.countP_cons, if_pos hm, Nat.add_comm _ 1, countsFrom_add,
        wrapI32_wrapI32_add]
      simp only [Prod.mk.injEq, List.map_append, Nat.cast_one]
      exact ⟨congrArg wrapI32 (by omega), rfl⟩
    · rw [ih hc, List.countP_cons, if_neg hm, add_zero]

variable (r : Reader)

/-- **A deadline check** reports one `RequestedDeadlineMissed` status per writer that missed the
deadline, with the counts following `requested_deadline_missed_count`. -/
theorem calculateIfRequestedDeadlineIsMissed_eq (now : Int)
    (hc : wrapI32 r.requestedDeadlineMissedCount = r.requestedDeadlineMissedCount) :
    r.calculateIfRequestedDeadlineIsMissed now =
      ({ r with requestedDeadlineMissedCount :=
          wrapI32 (r.requestedDeadlineMissedCount + r.deadlineMisses now) },
        (countsFrom r.requestedDeadlineMissedCount (r.deadlineMisses now)).map
          .requestedDeadlineMissed) := by
  unfold calculateIfRequestedDeadlineIsMissed deadlineMisses
  cases r.qosPolicy.deadline with
  | none => simp [hc]
  | some d =>
    have hcount : (r.matchedWriters.toList.countP fun p => deadlineMissed now d p.2) =
        r.matchedWriters.toList.countP fun p => p.2.lastChangeTimestamp.all fun t => now - t > d :=
      List.countP_congr fun p _ => by rw [deadlineMissed_eq_all]
    simp only [deadlineMissedLoop_eq now d hc, hcount]

/-- The statuses a deadline check reports, as effects. -/
theorem statusCountsIn_deadlineStatuses (sel : DataReaderStatus → Option CountWithChange)
    (l : List CountWithChange) :
    statusCountsIn sel ((l.map DataReaderStatus.requestedDeadlineMissed).map .statusChange) =
      l.filterMap fun c => sel (.requestedDeadlineMissed c) := by
  simp [statusCountsIn, List.filterMap_map, Function.comp_def]

/-- **Timer events**: each `DeadlineMissedCheck` event is one deadline check at `now`, and the
checks report their counts one after another. -/
theorem handleTimedEvent_counts (now : Int) (evs : List TimedEvent)
    (hc : wrapI32 r.requestedDeadlineMissedCount = r.requestedDeadlineMissedCount) :
    let n := evs.length * r.deadlineMisses now
    (r.handleTimedEvent now evs).1.requestedDeadlineMissedCount =
        wrapI32 (r.requestedDeadlineMissedCount + n) ∧
      (r.handleTimedEvent now evs).1.offeredIncompatibleQosCount = r.offeredIncompatibleQosCount ∧
      statusCountsIn DataReaderStatus.deadlineMissed? (r.handleTimedEvent now evs).2 =
        countsFrom r.requestedDeadlineMissedCount n ∧
      statusCountsIn DataReaderStatus.incompatibleQos? (r.handleTimedEvent now evs).2 = [] := by
  induction evs generalizing r with
  | nil => simp [handleTimedEvent, hc]
  | cons ev evs ih =>
    cases ev
    let r₁ : Reader := { r with
      requestedDeadlineMissedCount :=
        wrapI32 (r.requestedDeadlineMissedCount + r.deadlineMisses now) }
    have hmiss : r₁.deadlineMisses now = r.deadlineMisses now := rfl
    obtain ⟨h₁, h₂, h₃, h₄⟩ := ih r₁ (wrapI32_wrapI32 _)
    have htimer (sel : DataReaderStatus → Option CountWithChange) (r' : Reader) :
        statusCountsIn sel r'.setRequestedDeadlineCheckTimer = [] := by
      unfold setRequestedDeadlineCheckTimer; split <;> rfl
    rw [hmiss] at h₁ h₃
    simp only [handleTimedEvent, handleRequestedDeadlineEvent,
      calculateIfRequestedDeadlineIsMissed_eq r now hc, statusCountsIn_append, htimer,
      statusCountsIn_deadlineStatuses, List.append_nil, List.length_cons, Nat.add_mul, one_mul]
    refine ⟨?_, h₂, ?_, ?_⟩
    · rw [h₁, wrapI32_wrapI32_add]
      congr 1; push_cast; omega
    · rw [h₃, Nat.add_comm _ (r.deadlineMisses now), countsFrom_add]
      simp [DataReaderStatus.deadlineMissed?, countsFrom]
    · rw [h₄]; simp [DataReaderStatus.incompatibleQos?]

/-! ### Discovery -/

section Discovery

variable (cfw : QosPolicies → QosPolicies → Option QosPolicyId)

/-- **`update_writer_proxy`** counts an incompatible offered QoS of a stateful Reader once and
reports it with the new count, leaving the matched writers alone; it reports no deadline. -/
theorem updateWriterProxy_counts (p : RtpsWriterProxy) (q : QosPolicies)
    (hc : wrapI32 r.offeredIncompatibleQosCount = r.offeredIncompatibleQosCount) :
    let res := r.updateWriterProxy cfw p q
    let k : Nat := if !r.likeStateless && (cfw q r.qosPolicy).isSome then 1 else 0
    res.1.requestedDeadlineMissedCount = r.requestedDeadlineMissedCount ∧
      res.1.offeredIncompatibleQosCount = wrapI32 (r.offeredIncompatibleQosCount + k) ∧
      statusCountsIn DataReaderStatus.deadlineMissed? res.2 = [] ∧
      statusCountsIn DataReaderStatus.incompatibleQos? res.2 = countsFrom r.offeredIncompatibleQosCount k ∧
      (k = 1 → res.1.matchedWriters = r.matchedWriters) := by
  rcases Bool.eq_false_or_eq_true r.likeStateless with hs | hs
  · simp [updateWriterProxy_of_likeStateless cfw r p q hs, hs, hc]
  cases hq : cfw q r.qosPolicy with
  | some b =>
    simp [updateWriterProxy_of_incompatible cfw r hs hq, hs, statusCountsIn,
      DataReaderStatus.deadlineMissed?, DataReaderStatus.incompatibleQos?, countsFrom,
      CountWithChange.new]
  | none =>
    cases hop : r.matchedWriters.find? p.remoteWriterGuid with
    | some op => simp [updateWriterProxy_of_find? cfw r hs hq hop, hc]
    | none =>
      simp [updateWriterProxy_of_not_mem cfw r hs hq (OrdMap.not_mem_iff.mpr hop), hc, statusCountsIn,
        DataReaderStatus.deadlineMissed?, DataReaderStatus.incompatibleQos?]

end Discovery

/-! ### The steps that report neither -/

section Quiet

variable (sel : DataReaderStatus → Option CountWithChange)

theorem statusCountsIn_markAndNotify (tc : TopicCache) (g : GUID) (sn : Int) :
    statusCountsIn sel (markAndNotify tc g sn).2 = [] := by
  rw [markAndNotify_snd]; split <;> rfl

theorem processReceivedData_counts (dd : DDSData) (t : Int) (wo : WriteOptions) (g : GUID)
    (s : Int) :
    let res := r.processReceivedData dd t wo g s
    res.1.requestedDeadlineMissedCount = r.requestedDeadlineMissedCount ∧
      res.1.offeredIncompatibleQosCount = r.offeredIncompatibleQosCount ∧
      ∀ sel, statusCountsIn sel res.2 = [] := by
  rw [processReceivedData_spec]
  split
  · refine ⟨by simp [recordReceived], by simp [recordReceived], fun sel => ?_⟩
    unfold markAfterAdd; split <;> rfl
  · exact ⟨rfl, rfl, fun _ => rfl⟩

theorem statusCountsIn_heartbeatWorker (hb : Heartbeat) (fin : Bool)
    (mr : MessageReceiverState) (g : GUID) (wp : RtpsWriterProxy) :
    statusCountsIn sel (heartbeatWorker hb fin mr g r wp).2.2.1 = [] := by
  rcases le_or_lt hb.count wp.receivedHeartbeatCount with h | h
  · rw [heartbeatWorker_of_le r h]; rfl
  · rw [heartbeatWorker_of_lt r fin mr g h]
    dsimp only
    rw [statusCountsIn_append, statusCountsIn_markAndNotify]
    split
    · simp only [heartbeatReply]; split <;> simp [statusCountsIn]
    · rfl

theorem statusCountsIn_sendPreemptiveAcknacks :
    statusCountsIn sel r.sendPreemptiveAcknacks.2 = [] := by
  unfold sendPreemptiveAcknacks
  split
  · rfl
  · refine List.filterMap_eq_nil_iff.mpr fun e he => ?_
    obtain ⟨⟨_, wp⟩, -, he⟩ := List.mem_filterMap.mp he
    by_cases h : wp.noChangesReceived
    · simp only [h, if_true, Option.some.injEq] at he; subst he; rfl
    · simp [h] at he

/-- Dropping writers reports `SubscriptionMatched` statuses only. -/
theorem statusCountsIn_removeWriterProxies
    (hsel : ∀ total current writer, sel (.subscriptionMatched total current writer) = none)
    (ws : List GUID) : statusCountsIn sel (r.removeWriterProxies ws).2 = [] := by
  induction ws generalizing r with
  | nil => rfl
  | cons g ws ih =>
    show statusCountsIn sel ((r.removeWriterProxy g).2 ++
      (removeWriterProxies (r.removeWriterProxy g).1 ws).2) = _
    rw [statusCountsIn_append, ih]
    unfold removeWriterProxy; split <;> simp [statusCountsIn, hsel]

end Quiet

/-- `Reader::new` starts both counters at 0. -/
theorem new_statusCounters {i : ReaderIngredients} {now : Int} {r₀ : Reader}
    (h : Reader.new i now = .ok r₀) :
    r₀.requestedDeadlineMissedCount = 0 ∧ r₀.offeredIncompatibleQosCount = 0 := by
  unfold Reader.new at h
  split_ifs at h
  cases h
  exact ⟨rfl, rfl⟩

/-! ### One step -/

/-- The `RequestedDeadlineMissed` statuses an input is meant to report, read off the state
before it: for each `DeadlineMissedCheck` event of a timer step, one per writer that missed the
deadline; none for any other step. -/
def deadlineReports (r : Reader) : Input → Nat
  | .handleTimedEvent evs now => evs.length * r.deadlineMisses now
  | _ => 0

/-- The incompatible offers an input makes a Reader count: an `update_writer_proxy` call on a
stateful Reader whose offered QoS fails the compliance test. -/
def incompatibleOffers (complianceFailureWrt : QosPolicies → QosPolicies → Option QosPolicyId)
    (r : Reader) : Input → Nat
  | .updateWriterProxy _ _ _ _ q =>
    if !r.likeStateless && (complianceFailureWrt q r.qosPolicy).isSome then 1 else 0
  | _ => 0

variable {cfw : QosPolicies → QosPolicies → Option QosPolicyId} {r r' : Reader} {i : Input}
  {es : List Effect}

/-- **The deadline and incompatible-QoS statuses of a step**: each counter moves on by the
statuses the step reports, which carry the counts in between, as an `i32` holds them. -/
theorem step_statusCounts (h : r.step cfw i = .ok (r', es))
    (hd : wrapI32 r.requestedDeadlineMissedCount = r.requestedDeadlineMissedCount)
    (hq : wrapI32 r.offeredIncompatibleQosCount = r.offeredIncompatibleQosCount) :
    r'.requestedDeadlineMissedCount =
        wrapI32 (r.requestedDeadlineMissedCount + r.deadlineReports i) ∧
      statusCountsIn DataReaderStatus.deadlineMissed? es =
        countsFrom r.requestedDeadlineMissedCount (r.deadlineReports i) ∧
      r'.offeredIncompatibleQosCount =
        wrapI32 (r.offeredIncompatibleQosCount + r.incompatibleOffers cfw i) ∧
      statusCountsIn DataReaderStatus.incompatibleQos? es =
        countsFrom r.offeredIncompatibleQosCount (r.incompatibleOffers cfw i) ∧
      (r.incompatibleOffers cfw i = 1 → r'.matchedWriters = r.matchedWriters) := by
  have hquiet : ∀ {r'' : Reader} {es' : List Effect},
      r''.requestedDeadlineMissedCount = r.requestedDeadlineMissedCount →
      r''.offeredIncompatibleQosCount = r.offeredIncompatibleQosCount →
      (∀ sel, (∀ total current writer, sel (.subscriptionMatched total current writer) = none) →
        statusCountsIn sel es' = []) →
      r''.requestedDeadlineMissedCount = wrapI32 (r.requestedDeadlineMissedCount + (0 : Nat)) ∧
        statusCountsIn DataReaderStatus.deadlineMissed? es' =
          countsFrom r.requestedDeadlineMissedCount 0 ∧
        r''.offeredIncompatibleQosCount = wrapI32 (r.offeredIncompatibleQosCount + (0 : Nat)) ∧
        statusCountsIn DataReaderStatus.incompatibleQos? es' =
          countsFrom r.offeredIncompatibleQosCount 0 ∧
        ((0 : Nat) = 1 → r''.matchedWriters = r.matchedWriters) :=
    fun h₁ h₂ h₃ => by
      simp [h₁, h₂, h₃ DataReaderStatus.deadlineMissed? fun _ _ _ => rfl,
        h₃ DataReaderStatus.incompatibleQos? fun _ _ _ => rfl, hd, hq]
  cases i
  case handleDataMsg d f mr now =>
    rcases step_sample_cases h with ⟨rfl, rfl⟩ | ⟨dd, h⟩
    · exact hquiet rfl rfl fun _ _ => rfl
    · obtain ⟨rfl, rfl⟩ := Prod.ext_iff.mp h
      obtain ⟨h₁, h₂, h₃⟩ := processReceivedData_counts r dd now (writeOptionsOf mr d.inlineQos) _ d.writerSn
      exact hquiet h₁ h₂ fun sel _ => h₃ sel
  case handleDatafragMsg d f mr now =>
    rcases step_fragment_cases h with ⟨l, fa, rfl, rfl⟩ | ⟨fa, dd, h⟩
    · exact hquiet rfl rfl fun _ _ => rfl
    · obtain ⟨rfl, rfl⟩ := Prod.ext_iff.mp h
      obtain ⟨h₁, h₂, h₃⟩ := processReceivedData_counts { r with fragmentAssemblers := fa } dd now
        (writeOptionsOf mr d.inlineQos) _ d.writerSn
      exact hquiet h₁ h₂ fun sel _ => h₃ sel
  case handleHeartbeatMsg hb fin mr =>
    rcases step_handleHeartbeatMsg_cases h with ⟨-, rfl, rfl⟩ | ⟨wp, -, -, rfl, rfl⟩
    · exact hquiet rfl rfl fun _ _ => rfl
    · exact hquiet rfl rfl fun sel _ => statusCountsIn_heartbeatWorker _ sel ..
  all_goals simp only [step, Except.ok.injEq, Prod.ext_iff] at h; obtain ⟨rfl, rfl⟩ := h
  case updateWriterProxy g uc mc e q =>
    obtain ⟨h₁, h₂, h₃, h₄, h₅⟩ := updateWriterProxy_counts r cfw (RtpsWriterProxy.new g uc mc e) q hq
    exact ⟨by simpa [deadlineReports, hd] using h₁, by simpa [deadlineReports] using h₃, h₂, h₄, h₅⟩
  case handleTimedEvent evs now =>
    obtain ⟨h₁, h₂, h₃, h₄⟩ := handleTimedEvent_counts r now evs hd
    exact ⟨h₁, h₃, by simpa [incompatibleOffers, hq] using h₂, by simpa [incompatibleOffers] using h₄,
      by simp [incompatibleOffers]⟩
  case removeWriterProxy g =>
    refine hquiet (by rw [removeWriterProxy_fst]) (by rw [removeWriterProxy_fst]) fun sel hsel => ?_
    unfold removeWriterProxy; split <;> simp [statusCountsIn, hsel]
  case participantLost p =>
    exact hquiet (by rw [participantLost_fst]) (by rw [participantLost_fst]) fun sel hsel =>
      statusCountsIn_removeWriterProxies r sel hsel _
  case handleGapMsg gap mr =>
    rcases handleGapMsg_cases r gap mr with ⟨wp, hs, hwp, h₁, h₂⟩ | ⟨-, h⟩
    · rw [handleGapMsg_of_valid r rfl hs hwp h₁ h₂]
      exact hquiet rfl rfl fun sel _ => statusCountsIn_markAndNotify sel ..
    · rw [h]; exact hquiet rfl rfl fun _ _ => rfl
  case sendPreemptiveAcknacks =>
    exact hquiet (by rw [sendPreemptiveAcknacks_fst]) (by rw [sendPreemptiveAcknacks_fst])
      fun sel _ => statusCountsIn_sendPreemptiveAcknacks r sel
  all_goals exact hquiet rfl rfl fun _ _ => rfl

end Reader

/-! ### Runs -/

/-- The `RequestedDeadlineMissed` statuses the steps of a run are meant to report. -/
def deadlineReportsIn : List StepRecord → Nat
  | [] => 0
  | t :: L => t.pre.deadlineReports t.input + deadlineReportsIn L

/-- The incompatible offers the steps of a run make their Reader count. -/
def incompatibleOffersIn (complianceFailureWrt : QosPolicies → QosPolicies → Option QosPolicyId) :
    List StepRecord → Nat
  | [] => 0
  | t :: L => t.pre.incompatibleOffers complianceFailureWrt t.input +
    incompatibleOffersIn complianceFailureWrt L

/-- The effects of the steps of a run, in order. -/
def effectsIn (L : List StepRecord) : List Effect := L.flatMap StepRecord.effects

@[simp] theorem deadlineReportsIn_append (L L' : List StepRecord) :
    deadlineReportsIn (L ++ L') = deadlineReportsIn L + deadlineReportsIn L' := by
  induction L with
  | nil => simp [deadlineReportsIn]
  | cons t L ih => simp [deadlineReportsIn, ih, Nat.add_assoc]

@[simp] theorem incompatibleOffersIn_append (cfw : QosPolicies → QosPolicies → Option QosPolicyId)
    (L L' : List StepRecord) :
    incompatibleOffersIn cfw (L ++ L') = incompatibleOffersIn cfw L + incompatibleOffersIn cfw L' := by
  induction L with
  | nil => simp [incompatibleOffersIn]
  | cons t L ih => simp [incompatibleOffersIn, ih, Nat.add_assoc]

@[simp] theorem effectsIn_append (L L' : List StepRecord) :
    effectsIn (L ++ L') = effectsIn L ++ effectsIn L' :=
  List.flatMap_append ..

namespace Run

variable {cfw : QosPolicies → QosPolicies → Option QosPolicyId} {r₀ r : Reader}
  {L : List StepRecord}

/-- One counter over a run: after `n` statuses from `c₀`, the counter is `c₀ + n` wrapped and
the statuses carry the counts in between. -/
theorem counts_snoc {c₀ c c' : Int} {n k : Nat} {cs ds : List CountWithChange}
    (hc : c = wrapI32 (c₀ + n)) (hcs : cs = countsFrom c₀ n) (hc' : c' = wrapI32 (c + k))
    (hds : ds = countsFrom c k) :
    c' = wrapI32 (c₀ + (n + k : Nat)) ∧ cs ++ ds = countsFrom c₀ (n + k) := by
  subst hc hcs hc' hds
  rw [wrapI32_wrapI32_add, countsFrom_add]
  exact ⟨congrArg wrapI32 (by push_cast; omega), rfl⟩

/-- **Deadline and incompatible-QoS statuses over a run**: each counter is its start plus the
statuses reported so far, wrapped as an `i32`, and the statuses carry the counts in between, in
the order they are reported. -/
theorem statusCounts (h : Run cfw r₀ L r)
    (hd : wrapI32 r₀.requestedDeadlineMissedCount = r₀.requestedDeadlineMissedCount)
    (hq : wrapI32 r₀.offeredIncompatibleQosCount = r₀.offeredIncompatibleQosCount) :
    r.requestedDeadlineMissedCount =
        wrapI32 (r₀.requestedDeadlineMissedCount + deadlineReportsIn L) ∧
      statusCountsIn DataReaderStatus.deadlineMissed? (effectsIn L) =
        countsFrom r₀.requestedDeadlineMissedCount (deadlineReportsIn L) ∧
      r.offeredIncompatibleQosCount =
        wrapI32 (r₀.offeredIncompatibleQosCount + incompatibleOffersIn cfw L) ∧
      statusCountsIn DataReaderStatus.incompatibleQos? (effectsIn L) =
        countsFrom r₀.offeredIncompatibleQosCount (incompatibleOffersIn cfw L) := by
  induction h with
  | nil => simp [hd, hq, effectsIn, deadlineReportsIn, incompatibleOffersIn]
  | snoc _ hs ih =>
    obtain ⟨h₁, h₂, h₃, h₄⟩ := ih
    obtain ⟨s₁, s₂, s₃, s₄, -⟩ := Reader.step_statusCounts hs (by rw [h₁, wrapI32_wrapI32])
      (by rw [h₃, wrapI32_wrapI32])
    obtain ⟨d₁, d₂⟩ := counts_snoc h₁ h₂ s₁ s₂
    obtain ⟨q₁, q₂⟩ := counts_snoc h₃ h₄ s₃ s₄
    simp only [deadlineReportsIn_append, incompatibleOffersIn_append, effectsIn_append,
      statusCountsIn_append]
    exact ⟨d₁, by simpa [effectsIn, deadlineReportsIn] using d₂, q₁,
      by simpa [effectsIn, incompatibleOffersIn] using q₂⟩

end Run

/-- **Deadline and incompatible-QoS statuses over a run from `Reader::new`.** A timer step reports,
for each `DeadlineMissedCheck` event, one `RequestedDeadlineMissed` status per matched writer
whose last change is absent or more than the deadline before `now`, and none without a deadline;
no other step reports one. An `update_writer_proxy` call on a stateful Reader with an
incompatible offered QoS reports one `RequestedIncompatibleQos` status and leaves the matched
writers alone; no other step reports one. Each counter is the number of its statuses so far,
wrapped as an `i32`, and the statuses carry the counts `1, 2, 3, …`, wrapped, in the order
they are reported; below `2^31` nothing wraps. -/
theorem deadline_and_incompatible_qos_counts
    {cfw : QosPolicies → QosPolicies → Option QosPolicyId} {ingredients : ReaderIngredients}
    {now : Int} {r₀ r : Reader} {L : List StepRecord}
    (hnew : Reader.new ingredients now = .ok r₀) (hrun : Run cfw r₀ L r) :
    (∀ t ∈ L,
      (statusCountsIn DataReaderStatus.deadlineMissed? t.effects).length =
          t.pre.deadlineReports t.input ∧
        (statusCountsIn DataReaderStatus.incompatibleQos? t.effects).length =
          t.pre.incompatibleOffers cfw t.input ∧
        (t.pre.incompatibleOffers cfw t.input = 1 → t.post.matchedWriters = t.pre.matchedWriters)) ∧
    r.requestedDeadlineMissedCount = wrapI32 (deadlineReportsIn L) ∧
    statusCountsIn DataReaderStatus.deadlineMissed? (effectsIn L) =
      countsFrom 0 (deadlineReportsIn L) ∧
    r.offeredIncompatibleQosCount = wrapI32 (incompatibleOffersIn cfw L) ∧
    statusCountsIn DataReaderStatus.incompatibleQos? (effectsIn L) =
      countsFrom 0 (incompatibleOffersIn cfw L) ∧
    (deadlineReportsIn L < 2147483648 →
      r.requestedDeadlineMissedCount = deadlineReportsIn L ∧
      statusCountsIn DataReaderStatus.deadlineMissed? (effectsIn L) =
        (List.range' 1 (deadlineReportsIn L)).map fun k : Nat => ⟨k, 1⟩) ∧
    (incompatibleOffersIn cfw L < 2147483648 →
      r.offeredIncompatibleQosCount = incompatibleOffersIn cfw L ∧
      statusCountsIn DataReaderStatus.incompatibleQos? (effectsIn L) =
        (List.range' 1 (incompatibleOffersIn cfw L)).map fun k : Nat => ⟨k, 1⟩) := by
  obtain ⟨hd₀, hq₀⟩ := Reader.new_statusCounters hnew
  have hcounts : ∀ {L r}, Run cfw r₀ L r →
      r.requestedDeadlineMissedCount = wrapI32 (deadlineReportsIn L) ∧
      statusCountsIn DataReaderStatus.deadlineMissed? (effectsIn L) =
        countsFrom 0 (deadlineReportsIn L) ∧
      r.offeredIncompatibleQosCount = wrapI32 (incompatibleOffersIn cfw L) ∧
      statusCountsIn DataReaderStatus.incompatibleQos? (effectsIn L) =
        countsFrom 0 (incompatibleOffersIn cfw L) := fun h => by
    simpa [hd₀, hq₀] using h.statusCounts (by rw [hd₀]; rfl) (by rw [hq₀]; rfl)
  obtain ⟨h₁, h₂, h₃, h₄⟩ := hcounts hrun
  refine ⟨fun t ht => ?_, h₁, h₂, h₃, h₄, fun hlt => ?_, fun hlt => ?_⟩
  · obtain ⟨L₁, -, -, hpre, hs, -⟩ := hrun.of_mem ht
    obtain ⟨p₁, -, p₃, -⟩ := hcounts hpre
    obtain ⟨-, s₂, -, s₄, s₅⟩ := Reader.step_statusCounts hs (by rw [p₁, wrapI32_wrapI32])
      (by rw [p₃, wrapI32_wrapI32])
    exact ⟨by simp [s₂, countsFrom], by simp [s₄, countsFrom], s₅⟩
  · exact ⟨by rw [h₁, wrapI32_of_lt (by omega) (by omega)], by rw [h₂, countsFrom_zero_of_lt hlt]⟩
  · exact ⟨by rw [h₃, wrapI32_of_lt (by omega) (by omega)], by rw [h₄, countsFrom_zero_of_lt hlt]⟩

/-! ### Examples

A stateful reliable Reader whose QoS requests a deadline of 5 ticks matches `exampleWriter`,
which never sends, and checks the deadline at 100. -/

/-- The example QoS with a deadline of 5 ticks. -/
def exampleDeadlineQos : QosPolicies := { exampleQos with deadline := some 5 }

/-- The ingredients of a stateful reliable Reader with a deadline. -/
def exampleDeadlineIngredients : ReaderIngredients :=
  ⟨⟨⟨2⟩, ⟨1, ⟨7⟩⟩⟩, "topic", TopicCache.new "topic", false, exampleDeadlineQos⟩

/-- The Reader `Reader::new` builds from `exampleDeadlineIngredients` at time 0. -/
def exampleDeadlineReader : Reader := { exampleReader with qosPolicy := exampleDeadlineQos }

theorem new_exampleDeadlineIngredients :
    Reader.new exampleDeadlineIngredients 0 = .ok exampleDeadlineReader := rfl

/-- Discovery matches `exampleWriter`. -/
def exampleDeadlineMatch : StepRecord :=
  let res := exampleDeadlineReader.updateWriterProxy exampleCompliance
    (RtpsWriterProxy.new exampleWriter [] [] ⟨0, ⟨0⟩⟩) QosPolicies.default
  ⟨exampleDeadlineReader, .updateWriterProxy exampleWriter [] [] ⟨0, ⟨0⟩⟩ QosPolicies.default,
    res.2, res.1⟩

/-- The Reader with `exampleWriter` matched and its deadline counter at `c`. -/
def exampleDeadlineReaderAt (c : Int) : Reader :=
  { exampleDeadlineMatch.post with requestedDeadlineMissedCount := c }

/-- A deadline check at 100, from the counter at `c`. -/
def deadlineTick (c : Int) : StepRecord :=
  let res := (exampleDeadlineReaderAt c).handleTimedEvent 100 [.deadlineMissedCheck]
  ⟨exampleDeadlineReaderAt c, .handleTimedEvent [.deadlineMissedCheck] 100, res.2, res.1⟩

theorem example_deadline_and_incompatible_qos_counts :
    let L := [exampleDeadlineMatch, deadlineTick 0]
    let r := (deadlineTick 0).post
    (∀ t ∈ L,
      (statusCountsIn DataReaderStatus.deadlineMissed? t.effects).length =
          t.pre.deadlineReports t.input ∧
        (statusCountsIn DataReaderStatus.incompatibleQos? t.effects).length =
          t.pre.incompatibleOffers exampleCompliance t.input ∧
        (t.pre.incompatibleOffers exampleCompliance t.input = 1 →
          t.post.matchedWriters = t.pre.matchedWriters)) ∧
    r.requestedDeadlineMissedCount = wrapI32 (deadlineReportsIn L) ∧
    statusCountsIn DataReaderStatus.deadlineMissed? (effectsIn L) =
      countsFrom 0 (deadlineReportsIn L) ∧
    r.offeredIncompatibleQosCount = wrapI32 (incompatibleOffersIn exampleCompliance L) ∧
    statusCountsIn DataReaderStatus.incompatibleQos? (effectsIn L) =
      countsFrom 0 (incompatibleOffersIn exampleCompliance L) ∧
    (deadlineReportsIn L < 2147483648 →
      r.requestedDeadlineMissedCount = deadlineReportsIn L ∧
      statusCountsIn DataReaderStatus.deadlineMissed? (effectsIn L) =
        (List.range' 1 (deadlineReportsIn L)).map fun k : Nat => ⟨k, 1⟩) ∧
    (incompatibleOffersIn exampleCompliance L < 2147483648 →
      r.offeredIncompatibleQosCount = incompatibleOffersIn exampleCompliance L ∧
      statusCountsIn DataReaderStatus.incompatibleQos? (effectsIn L) =
        (List.range' 1 (incompatibleOffersIn exampleCompliance L)).map fun k : Nat => ⟨k, 1⟩) :=
  deadline_and_incompatible_qos_counts new_exampleDeadlineIngredients
    (Run.snoc (Run.snoc Run.nil rfl) rfl : Run exampleCompliance exampleDeadlineReader
      ([] ++ [exampleDeadlineMatch] ++ [deadlineTick 0]) _)

/-! ### The counters wrap -/

/-- `n` deadline checks, one after another. -/
def deadlineTicks : Nat → List StepRecord
  | 0 => []
  | n + 1 => deadlineTicks n ++ [deadlineTick (wrapI32 n)]

theorem run_deadlineTick (c : Int) :
    Run exampleCompliance (exampleDeadlineReaderAt c) [deadlineTick c]
      (exampleDeadlineReaderAt (wrapI32 (c + 1))) ∧ deadlineReportsIn [deadlineTick c] = 1 :=
  ⟨(Run.snoc Run.nil rfl : Run exampleCompliance (exampleDeadlineReaderAt c)
      ([] ++ [deadlineTick c]) _), rfl⟩

theorem run_deadlineTicks (n : Nat) :
    Run exampleCompliance (exampleDeadlineReaderAt 0) (deadlineTicks n)
      (exampleDeadlineReaderAt (wrapI32 n)) ∧ deadlineReportsIn (deadlineTicks n) = n := by
  induction n with
  | zero => exact ⟨.nil, rfl⟩
  | succ n ih =>
    obtain ⟨hrun, hadd⟩ := run_deadlineTick (wrapI32 n)
    rw [wrapI32_wrapI32_add] at hrun
    exact ⟨ih.1.append hrun, by simp [deadlineTicks, ih.2, hadd]⟩

/-- A QoS module that finds every offered QoS incompatible. -/
def exampleRejection : QosPolicies → QosPolicies → Option QosPolicyId := fun _ _ => some ⟨1⟩

/-- **Two ways the counts leave `1, 2, 3, …`.** A stateless Reader offered an incompatible QoS
counts nothing and reports nothing. The Reader with a deadline, after `2^31` deadline checks
with its writer silent, has reported `2^31` `RequestedDeadlineMissed` statuses, the last one
with count `-2^31`, and its counter holds `-2^31`. -/
theorem deadline_and_incompatible_counts_diverge :
    (Reader.new exampleStatelessIngredients 0 = .ok exampleStatelessReader ∧
      Run exampleRejection exampleStatelessReader [exampleStatelessMatch] exampleStatelessMatch.post ∧
      exampleStatelessMatch.input = .updateWriterProxy exampleWriter [] [] ⟨0, ⟨0⟩⟩ QosPolicies.default ∧
      exampleRejection QosPolicies.default exampleStatelessReader.qosPolicy = some ⟨1⟩ ∧
      exampleStatelessMatch.post.offeredIncompatibleQosCount = 0 ∧
      statusCountsIn DataReaderStatus.incompatibleQos? (effectsIn [exampleStatelessMatch]) = []) ∧
    (Reader.new exampleDeadlineIngredients 0 = .ok exampleDeadlineReader ∧
      ∃ L r, Run exampleCompliance exampleDeadlineReader L r ∧
        (statusCountsIn DataReaderStatus.deadlineMissed? (effectsIn L)).length = 2147483648 ∧
        (statusCountsIn DataReaderStatus.deadlineMissed? (effectsIn L)).getLast? =
          some ⟨-2147483648, 1⟩ ∧
        r.requestedDeadlineMissedCount = -2147483648) := by
  refine ⟨⟨rfl, (Run.snoc Run.nil rfl : Run exampleRejection exampleStatelessReader
    ([] ++ [exampleStatelessMatch]) _), rfl, rfl, rfl, rfl⟩, new_exampleDeadlineIngredients, ?_⟩
  obtain ⟨hticks, hn⟩ := run_deadlineTicks 2147483648
  have hrun : Run exampleCompliance exampleDeadlineReader
      ([exampleDeadlineMatch] ++ deadlineTicks 2147483648)
      (exampleDeadlineReaderAt (wrapI32 (2147483648 : Nat))) :=
    (Run.snoc Run.nil rfl : Run exampleCompliance exampleDeadlineReader
      ([] ++ [exampleDeadlineMatch]) _).append hticks
  have hreports : deadlineReportsIn ([exampleDeadlineMatch] ++ deadlineTicks 2147483648) =
      2147483647 + 1 := by
    rw [deadlineReportsIn_append, hn]; rfl
  have hcounts := (hrun.statusCounts rfl rfl).2.1
  rw [hreports] at hcounts
  refine ⟨_, _, hrun, ?_, ?_, by decide⟩
  · rw [hcounts, length_countsFrom]
  · rw [hcounts, getLast?_countsFrom]; decide

end RustDds
