import RustDds.Steps

/-!
# Matching writers

Discovery tells the Reader which writers to listen to: `update_writer_proxy` matches a writer
whose offered QoS is compatible (`matched_writer_update` inserts its proxy, or updates the proxy
of a writer already matched), `remove_writer_proxy` drops one, and `participant_lost` drops
every writer of a participant, one `remove_writer_proxy` after another. Each writer matched or
dropped is reported with a `SubscriptionMatched` status whose current count is the number of
writers matched after it; `writer_match_count_total` counts the writers ever matched, in an
`i32`.

`Steps` already shows which writers each step leaves matched (`step_mem_matchedWriters`) and
that a step addressed to one writer leaves the others' proxies alone (`step_find?_of_ne`). This
module adds the counter and the statuses:

* `step_writerMatchCountTotal` — only a step that matches a new writer (`matchesNewWriter`)
  moves the counter, by one, wrapping as an `i32` does;
* `step_subscriptionMatchedIn` — the statuses a step reports are those `matchStatuses` lists:
  one per writer matched or dropped, with the number of writers matched after it;
* `Run.writerMatchCountTotal` and `Run.size_le` — over a run, the counter is the number of
  additions, wrapped, and bounds the number of matched writers;
* `matched_writers_of_run` — all of it for the runs from `Reader::new` with fewer than `2^31`
  additions;
* `writer_match_count_total_wraps` — a run from `Reader::new` that matches and drops one writer
  `2^31` times, after which the counter, declared in `reader.rs` as the "total count, never
  decreases", has gone from 0 down to `-2^31`.
-/

namespace RustDds

/-- The current count, its change and the writer of a `SubscriptionMatched` status. -/
def Effect.subscriptionMatched? : Effect → Option (Int × Int × GUID)
  | .statusChange (.subscriptionMatched _ current writer) =>
    some (current.count, current.countChange, writer)
  | _ => none

/-- The `SubscriptionMatched` statuses among some effects, in order. -/
def subscriptionMatchedIn (es : List Effect) : List (Int × Int × GUID) :=
  es.filterMap Effect.subscriptionMatched?

@[simp] theorem subscriptionMatchedIn_nil : subscriptionMatchedIn [] = [] := rfl

@[simp] theorem subscriptionMatchedIn_cons (e : Effect) (es : List Effect) :
    subscriptionMatchedIn (e :: es) =
      (e.subscriptionMatched?.map fun s => [s]).getD [] ++ subscriptionMatchedIn es := by
  simp only [subscriptionMatchedIn, List.filterMap_cons]
  cases e.subscriptionMatched? <;> rfl

@[simp] theorem subscriptionMatchedIn_append (es es' : List Effect) :
    subscriptionMatchedIn (es ++ es') = subscriptionMatchedIn es ++ subscriptionMatchedIn es' :=
  List.filterMap_append ..

namespace Reader

/-- Whether an input matched a writer that was not matched before it, judged from the states
before and after it. -/
def matchesNewWriter (r r' : Reader) : Input → Bool
  | .updateWriterProxy g _ _ _ _ => decide (g ∉ r.matchedWriters ∧ g ∈ r'.matchedWriters)
  | _ => false

/-- The `SubscriptionMatched` statuses an input is meant to report, from the states before and
after it: a new writer with the number of writers matched after it and change `+1`, a
dropped one with that number and change `-1`, and for a lost participant its matched writers in
key order, each with the number left after dropping it. -/
def matchStatuses (r r' : Reader) : Input → List (Int × Int × GUID)
  | .updateWriterProxy g _ _ _ _ =>
    if g ∉ r.matchedWriters ∧ g ∈ r'.matchedWriters then [(r'.matchedWriters.size, 1, g)] else []
  | .removeWriterProxy g =>
    if g ∈ r.matchedWriters then [(r'.matchedWriters.size, -1, g)] else []
  | .participantLost p =>
    (r.matchedWriters.keys.filter fun g => g.guidPrefix = p).mapIdx fun j g =>
      ((r.matchedWriters.size : Int) - (j + 1), -1, g)
  | _ => []

/-! ### The handlers that report no match -/

section Handlers

variable (r : Reader)

theorem subscriptionMatchedIn_markAndNotify (tc : TopicCache) (g : GUID) (sn : Int) :
    subscriptionMatchedIn (markAndNotify tc g sn).2 = [] := by
  rw [markAndNotify_snd]; split <;> rfl

theorem subscriptionMatchedIn_processReceivedData (dd : DDSData) (t : Int) (wo : WriteOptions)
    (g : GUID) (s : Int) : subscriptionMatchedIn (r.processReceivedData dd t wo g s).2 = [] := by
  rw [processReceivedData_spec]
  split
  · unfold markAfterAdd; split <;> rfl
  · rfl

theorem subscriptionMatchedIn_heartbeatWorker (hb : Heartbeat) (fin : Bool)
    (mr : MessageReceiverState) (g : GUID) (wp : RtpsWriterProxy) :
    subscriptionMatchedIn (heartbeatWorker hb fin mr g r wp).2.2.1 = [] := by
  rcases le_or_lt hb.count wp.receivedHeartbeatCount with h | h
  · rw [heartbeatWorker_of_le r h]; rfl
  · rw [heartbeatWorker_of_lt r fin mr g h]
    dsimp only
    rw [subscriptionMatchedIn_append, subscriptionMatchedIn_markAndNotify]
    split
    · simp only [heartbeatReply]; split <;> simp [Effect.subscriptionMatched?]
    · rfl

theorem subscriptionMatchedIn_sendPreemptiveAcknacks :
    subscriptionMatchedIn r.sendPreemptiveAcknacks.2 = [] := by
  unfold sendPreemptiveAcknacks
  split
  · rfl
  · refine List.filterMap_eq_nil_iff.mpr fun e he => ?_
    obtain ⟨⟨_, wp⟩, -, he⟩ := List.mem_filterMap.mp he
    by_cases h : wp.noChangesReceived
    · simp only [h, if_true, Option.some.injEq] at he; subst he; rfl
    · simp [h] at he

theorem deadlineMissedLoop_subscriptionMatched (now d c : Int)
    (l : List (GUID × RtpsWriterProxy)) :
    subscriptionMatchedIn ((deadlineMissedLoop now d c l).2.map .statusChange) = [] := by
  induction l generalizing c with
  | nil => rfl
  | cons e l ih => unfold deadlineMissedLoop; split <;> simp [ih, Effect.subscriptionMatched?]

theorem subscriptionMatchedIn_handleRequestedDeadlineEvent (now : Int) :
    subscriptionMatchedIn (r.handleRequestedDeadlineEvent now).2 = [] := by
  unfold handleRequestedDeadlineEvent calculateIfRequestedDeadlineIsMissed
  cases r.qosPolicy.deadline with
  | none => rfl
  | some d =>
    have h := deadlineMissedLoop_subscriptionMatched now d r.requestedDeadlineMissedCount
      r.matchedWriters.toList
    rcases deadlineMissedLoop now d r.requestedDeadlineMissedCount r.matchedWriters.toList with
      ⟨c, changes⟩
    exact h

theorem subscriptionMatchedIn_handleTimedEvent (now : Int) (evs : List TimedEvent) :
    subscriptionMatchedIn (r.handleTimedEvent now evs).2 = [] := by
  induction evs generalizing r with
  | nil => rfl
  | cons ev evs ih =>
    cases ev
    simp only [handleTimedEvent, subscriptionMatchedIn_append, ih, List.append_nil,
      subscriptionMatchedIn_handleRequestedDeadlineEvent, List.nil_append]
    unfold setRequestedDeadlineCheckTimer
    split <;> rfl

/-- **`participant_lost`'s statuses**: dropping matched writers one after another reports each,
with the number of writers left after it. -/
theorem removeWriterProxies_subscriptionMatchedIn (ws : List GUID) (hws : ws.Nodup)
    (hmem : ∀ g ∈ ws, g ∈ r.matchedWriters) (hsize : r.matchedWriters.size < 2147483648) :
    subscriptionMatchedIn (r.removeWriterProxies ws).2 =
      ws.mapIdx fun j g => ((r.matchedWriters.size : Int) - (j + 1), -1, g) := by
  induction ws generalizing r with
  | nil => rfl
  | cons g ws ih =>
    have hg := hmem g (List.mem_cons_self _ _)
    have herase := OrdMap.size_erase_of_mem hg
    show subscriptionMatchedIn ((r.removeWriterProxy g).2 ++
      (removeWriterProxies (r.removeWriterProxy g).1 ws).2) = _
    rw [removeWriterProxy_of_mem r hg, subscriptionMatchedIn_append,
      ih _ (List.nodup_cons.mp hws).2 (fun k hk => ?_) (by simp only; omega), List.mapIdx_cons]
    · simp only [subscriptionMatchedIn_cons, Effect.subscriptionMatched?, CountWithChange.new,
        Option.map_some', Option.getD_some, subscriptionMatchedIn_nil, List.append_nil,
        List.singleton_append, List.cons.injEq, Prod.mk.injEq, and_true]
      refine ⟨by rw [wrapI32_of_lt (by omega) (by omega)]; omega, ?_⟩
      congr 1; funext j k; congr 1; omega
    · have hne : g ≠ k := fun h => (List.nodup_cons.mp hws).1 (h ▸ hk)
      exact OrdMap.mem_erase.mpr ⟨hne, hmem k (List.mem_cons_of_mem _ hk)⟩

end Handlers

/-! ### One step -/

variable {cfw : QosPolicies → QosPolicies → Option QosPolicyId} {r r' : Reader} {i : Input}
  {es : List Effect}

/-- **Only matching a new writer moves `writer_match_count_total`**, by one. -/
theorem step_writerMatchCountTotal (h : r.step cfw i = .ok (r', es)) :
    r'.writerMatchCountTotal =
      if r.matchesNewWriter r' i then wrapI32 (r.writerMatchCountTotal + 1)
      else r.writerMatchCountTotal := by
  cases i <;> simp only [matchesNewWriter, Bool.false_eq_true, if_false]
  case handleDataMsg d f mr now =>
    rcases step_sample_cases h with ⟨rfl, -⟩ | ⟨dd, h⟩
    · rfl
    · obtain ⟨rfl, -⟩ := Prod.ext_iff.mp h
      rw [processReceivedData_spec]; split <;> rfl
  case handleDatafragMsg d f mr now =>
    rcases step_fragment_cases h with ⟨l, fa, rfl, -⟩ | ⟨fa, dd, h⟩
    · rfl
    · obtain ⟨rfl, -⟩ := Prod.ext_iff.mp h
      rw [processReceivedData_spec]; split <;> rfl
  case handleHeartbeatMsg hb fin mr =>
    rcases step_handleHeartbeatMsg_cases h with ⟨-, rfl, -⟩ | ⟨wp, -, -, rfl, -⟩ <;> rfl
  all_goals simp only [step, Except.ok.injEq, Prod.ext_iff] at h; obtain ⟨rfl, rfl⟩ := h
  case updateWriterProxy g uc mc e q =>
    rcases Bool.eq_false_or_eq_true r.likeStateless with hs | hs
    · rw [updateWriterProxy_of_likeStateless cfw r _ q hs]; simp
    cases hq : cfw q r.qosPolicy with
    | some b => rw [updateWriterProxy_of_incompatible cfw r hs hq]; simp
    | none =>
      cases hop : r.matchedWriters.find? g with
      | some op =>
        rw [updateWriterProxy_of_find? cfw r hs hq hop]
        simp [OrdMap.mem_iff.mpr ⟨op, hop⟩]
      | none =>
        rw [updateWriterProxy_of_not_mem cfw r hs hq (OrdMap.not_mem_iff.mpr hop)]
        simp [OrdMap.not_mem_iff.mpr hop, RtpsWriterProxy.new]
  case removeWriterProxy g => rw [removeWriterProxy_fst]
  case participantLost p => rw [participantLost_fst]
  case handleGapMsg gap mr =>
    rcases handleGapMsg_cases r gap mr with ⟨wp, hs, hwp, h₁, h₂⟩ | ⟨-, h⟩
    · rw [handleGapMsg_of_valid r rfl hs hwp h₁ h₂]
    · rw [h]
  case handleTimedEvent evs now => obtain ⟨c, hc⟩ := handleTimedEvent_fst r now evs; rw [hc]
  case sendPreemptiveAcknacks => rw [sendPreemptiveAcknacks_fst]
  all_goals rfl

/-- A writer matched after a step was matched before it, unless the step matched it anew. -/
theorem step_mem_of_mem (h : r.step cfw i = .ok (r', es)) {k : GUID}
    (hk : k ∈ r'.matchedWriters) :
    k ∈ r.matchedWriters ∨ (r.matchesNewWriter r' i = true ∧ i.writer? = some k) := by
  have hm := (step_mem_matchedWriters h k).mp hk
  cases i <;> simp only [matchedAfter] at hm
  case updateWriterProxy g uc mc e q =>
    rcases hm with hm | ⟨rfl, -⟩
    · exact .inl hm
    · by_cases hg : g ∈ r.matchedWriters
      · exact .inl hg
      · exact .inr ⟨by simp [matchesNewWriter, hg, hk], rfl⟩
  case removeWriterProxy => exact .inl hm.1
  case participantLost => exact .inl hm.1
  all_goals exact .inl hm

/-- **A step matches at most one new writer.** -/
theorem step_size_le (h : r.step cfw i = .ok (r', es)) :
    r'.matchedWriters.size ≤
      r.matchedWriters.size + if r.matchesNewWriter r' i then 1 else 0 := by
  split_ifs with hn
  · obtain ⟨w, hw⟩ : ∃ w, i.writer? = some w := by
      cases i <;> simp_all [matchesNewWriter, Input.writer?]
    have := OrdMap.size_le_of_forall_mem (m := r'.matchedWriters) (l := w :: r.matchedWriters.keys)
      fun k hk => by
        rcases step_mem_of_mem h hk with hk | ⟨-, hk⟩
        · exact List.mem_cons_of_mem _ (OrdMap.mem_keys.mpr hk)
        · rw [hw, Option.some.injEq] at hk; exact hk ▸ List.mem_cons_self _ _
    simpa [OrdMap.keys] using this
  · have := OrdMap.size_le_of_forall_mem (m := r'.matchedWriters) (l := r.matchedWriters.keys)
      fun k hk => (step_mem_of_mem h hk).elim OrdMap.mem_keys.mpr fun h' => absurd h'.1 hn
    simpa [OrdMap.keys] using this

/-- **The `SubscriptionMatched` statuses of a step are those `matchStatuses` lists**, while the
numbers of matched writers fit the `i32` of the status. -/
theorem step_subscriptionMatchedIn (h : r.step cfw i = .ok (r', es))
    (hsize : r.matchedWriters.size < 2147483648) (hsize' : r'.matchedWriters.size < 2147483648) :
    subscriptionMatchedIn es = r.matchStatuses r' i := by
  cases i <;> simp only [matchStatuses]
  case handleDataMsg d f mr now =>
    rcases step_sample_cases h with ⟨-, rfl⟩ | ⟨dd, h⟩
    · rfl
    · obtain ⟨-, rfl⟩ := Prod.ext_iff.mp h; exact subscriptionMatchedIn_processReceivedData ..
  case handleDatafragMsg d f mr now =>
    rcases step_fragment_cases h with ⟨l, fa, -, rfl⟩ | ⟨fa, dd, h⟩
    · rfl
    · obtain ⟨-, rfl⟩ := Prod.ext_iff.mp h; exact subscriptionMatchedIn_processReceivedData ..
  case handleHeartbeatMsg hb fin mr =>
    rcases step_handleHeartbeatMsg_cases h with ⟨-, -, rfl⟩ | ⟨wp, -, -, -, rfl⟩
    · rfl
    · exact subscriptionMatchedIn_heartbeatWorker ..
  all_goals simp only [step, Except.ok.injEq, Prod.ext_iff] at h; obtain ⟨rfl, rfl⟩ := h
  case updateWriterProxy g uc mc e q =>
    rcases Bool.eq_false_or_eq_true r.likeStateless with hs | hs
    · rw [updateWriterProxy_of_likeStateless cfw r _ q hs]; simp
    cases hq : cfw q r.qosPolicy with
    | some b =>
      rw [updateWriterProxy_of_incompatible cfw r hs hq]; simp [Effect.subscriptionMatched?]
    | none =>
      cases hop : r.matchedWriters.find? g with
      | some op =>
        rw [updateWriterProxy_of_find? cfw r hs hq hop]
        simp [OrdMap.mem_iff.mpr ⟨op, hop⟩]
      | none =>
        have hg := OrdMap.not_mem_iff.mpr hop
        rw [updateWriterProxy_of_not_mem cfw r hs hq hg] at hsize' ⊢
        simp only [RtpsWriterProxy.remoteWriterGuid_new, OrdMap.size_insert_of_not_mem _ hg]
          at hsize' ⊢
        simp [hg, Effect.subscriptionMatched?, CountWithChange.new]
        exact wrapI32_of_lt (by omega) (by omega)
  case removeWriterProxy g =>
    by_cases hg : g ∈ r.matchedWriters
    · have := OrdMap.size_erase_of_mem hg
      rw [removeWriterProxy_of_mem r hg]
      simp [hg, Effect.subscriptionMatched?, CountWithChange.new,
        wrapI32_of_lt (by omega) (by omega : ((r.matchedWriters.erase g).size : Int) < _)]
    · rw [removeWriterProxy_of_not_mem r hg]; simp [hg]
  case participantLost p =>
    exact removeWriterProxies_subscriptionMatchedIn r _ (r.matchedWriters.keys_nodup.filter _)
      (fun g hg => OrdMap.mem_keys.mp (List.mem_of_mem_filter hg)) hsize
  case handleGapMsg gap mr =>
    rcases handleGapMsg_cases r gap mr with ⟨wp, hs, hwp, h₁, h₂⟩ | ⟨-, h⟩
    · rw [handleGapMsg_of_valid r rfl hs hwp h₁ h₂]; exact subscriptionMatchedIn_markAndNotify ..
    · rw [h]; rfl
  case handleTimedEvent evs now => exact subscriptionMatchedIn_handleTimedEvent ..
  case sendPreemptiveAcknacks => exact subscriptionMatchedIn_sendPreemptiveAcknacks _
  all_goals rfl

end Reader

/-! ### Runs -/

/-- The step matched a writer it did not match before. -/
def StepRecord.addsWriter (t : StepRecord) : Bool := t.pre.matchesNewWriter t.post t.input

/-- The number of steps of a run that matched a new writer. -/
def additionsIn (L : List StepRecord) : Nat := L.countP StepRecord.addsWriter

@[simp] theorem additionsIn_nil : additionsIn [] = 0 := rfl

@[simp] theorem additionsIn_append (L L' : List StepRecord) :
    additionsIn (L ++ L') = additionsIn L + additionsIn L' :=
  List.countP_append ..

@[simp] theorem additionsIn_singleton (t : StepRecord) :
    additionsIn [t] = if t.addsWriter then 1 else 0 := by
  simp [additionsIn, List.countP_cons]

namespace Run

variable {cfw : QosPolicies → QosPolicies → Option QosPolicyId} {r₀ r : Reader}
  {L : List StepRecord}

/-- **`writer_match_count_total` counts the additions of a run**, wrapping as an `i32`. -/
theorem writerMatchCountTotal (h : Run cfw r₀ L r) (h₀ : -2147483648 ≤ r₀.writerMatchCountTotal)
    (h₁ : r₀.writerMatchCountTotal < 2147483648) :
    r.writerMatchCountTotal = wrapI32 (r₀.writerMatchCountTotal + additionsIn L) := by
  induction h with
  | nil => simp [wrapI32_of_lt h₀ h₁]
  | snoc _ hs ih =>
    rw [Reader.step_writerMatchCountTotal hs, ih]
    simp only [additionsIn_append, additionsIn_singleton, StepRecord.addsWriter]
    split <;> simp [wrapI32_wrapI32_add, add_assoc]

/-- **A run matches at most as many writers as it adds.** -/
theorem size_le (h : Run cfw r₀ L r) :
    r.matchedWriters.size ≤ r₀.matchedWriters.size + additionsIn L := by
  induction h with
  | nil => simp
  | snoc _ hs ih =>
    have := Reader.step_size_le hs
    simp only [additionsIn_append, additionsIn_singleton, StepRecord.addsWriter]
    omega

end Run

/-- **Matched writers over a run from `Reader::new`.** Each step changes which writers are
matched as `matchedAfter` says: discovery adds a writer with compatible offered QoS to a
stateful Reader, a removal drops its writer, a lost participant drops its writers, and every
other step, the HEARTBEAT's take-out and put-back and the pre-emptive ACKNACKs included, keeps
them. A step addressed to one writer leaves every other writer's proxy as it was.
`writer_match_count_total` is the number of additions, wrapped as an `i32`; while there are
fewer than `2^31`, it is that number, it bounds the number of matched writers, no step lowers
it, and every step reports the `SubscriptionMatched` statuses `matchStatuses` lists. -/
theorem matched_writers_of_run {cfw : QosPolicies → QosPolicies → Option QosPolicyId}
    {ingredients : ReaderIngredients} {now : Int} {r₀ r : Reader} {L : List StepRecord}
    (hnew : Reader.new ingredients now = .ok r₀) (hrun : Run cfw r₀ L r) :
    (∀ t ∈ L, ∀ k, k ∈ t.post.matchedWriters ↔ Reader.matchedAfter cfw t.pre k t.input) ∧
    (∀ t ∈ L, ∀ w k, t.input.writer? = some w → w ≠ k →
      t.post.matchedWriters.find? k = t.pre.matchedWriters.find? k) ∧
    r.writerMatchCountTotal = wrapI32 (additionsIn L) ∧
    (additionsIn L < 2147483648 →
      r.writerMatchCountTotal = additionsIn L ∧ r.matchedWriters.size ≤ additionsIn L ∧
      ∀ t ∈ L, t.pre.writerMatchCountTotal ≤ t.post.writerMatchCountTotal ∧
        subscriptionMatchedIn t.effects = t.pre.matchStatuses t.post t.input) := by
  obtain ⟨-, -, -, -, -, -, -, -, hmw, htotal⟩ := Reader.new_eq_ok hnew
  have hcount : ∀ {L r}, Run cfw r₀ L r →
      r.writerMatchCountTotal = wrapI32 (additionsIn L) ∧ r.matchedWriters.size ≤ additionsIn L :=
    fun h => ⟨by rw [h.writerMatchCountTotal (by omega) (by omega), htotal, zero_add],
      by simpa [hmw] using h.size_le⟩
  refine ⟨fun t ht k => Reader.step_mem_matchedWriters (hrun.step_of_mem ht) k,
    fun t ht w k hw hk => Reader.step_find?_of_ne (hrun.step_of_mem ht) hw hk,
    (hcount hrun).1, fun hlt => ⟨?_, (hcount hrun).2, fun t ht => ?_⟩⟩
  · rw [(hcount hrun).1, wrapI32_of_lt (by omega) (by omega)]
  · obtain ⟨L₁, L₂, rfl, h₁, hs, -⟩ := hrun.of_mem ht
    obtain ⟨hpre, hpre'⟩ := hcount h₁
    have h₁' : Run cfw r₀ (L₁ ++ [t]) t.post := h₁.snoc hs
    obtain ⟨hpost, hpost'⟩ := hcount h₁'
    have hsplit : additionsIn (L₁ ++ t :: L₂) = additionsIn (L₁ ++ [t]) + additionsIn L₂ := by
      rw [← additionsIn_append, List.append_assoc, List.singleton_append]
    have hstep : additionsIn L₁ ≤ additionsIn (L₁ ++ [t]) ∧
        additionsIn (L₁ ++ [t]) ≤ additionsIn L₁ + 1 := by
      rw [additionsIn_append, additionsIn_singleton]; split <;> omega
    refine ⟨?_, Reader.step_subscriptionMatchedIn hs (by omega) (by omega)⟩
    rw [hpre, hpost, wrapI32_of_lt (by omega) (by omega), wrapI32_of_lt (by omega) (by omega)]
    omega

theorem example_matched_writers_of_run :
    (∀ t ∈ [exampleMatch, exampleSample], ∀ k, k ∈ t.post.matchedWriters ↔
      Reader.matchedAfter exampleCompliance t.pre k t.input) ∧
    (∀ t ∈ [exampleMatch, exampleSample], ∀ w k, t.input.writer? = some w → w ≠ k →
      t.post.matchedWriters.find? k = t.pre.matchedWriters.find? k) ∧
    exampleSample.post.writerMatchCountTotal = wrapI32 (additionsIn [exampleMatch, exampleSample]) ∧
    (additionsIn [exampleMatch, exampleSample] < 2147483648 →
      exampleSample.post.writerMatchCountTotal = additionsIn [exampleMatch, exampleSample] ∧
      exampleSample.post.matchedWriters.size ≤ additionsIn [exampleMatch, exampleSample] ∧
      ∀ t ∈ [exampleMatch, exampleSample],
        t.pre.writerMatchCountTotal ≤ t.post.writerMatchCountTotal ∧
        subscriptionMatchedIn t.effects = t.pre.matchStatuses t.post t.input) :=
  matched_writers_of_run new_exampleIngredients exampleRun

/-! ### The counter wraps

The example Reader matches `exampleWriter` and drops it, over and over. After `2^31` rounds it
has added `2^31` writers, and `writer_match_count_total`, an `i32`, holds `-2^31`. -/

/-- The example Reader with its counter at `c`: where every round starts and ends. -/
def exampleReaderAt (c : Int) : Reader := { exampleReader with writerMatchCountTotal := c }

/-- One round: discovery matches `exampleWriter`, then drops it. -/
def matchDropRound (c : Int) : List StepRecord :=
  let m := (exampleReaderAt c).updateWriterProxy exampleCompliance
    (RtpsWriterProxy.new exampleWriter [] [] ⟨0, ⟨0⟩⟩) QosPolicies.default
  let d := m.1.removeWriterProxy exampleWriter
  [⟨exampleReaderAt c, .updateWriterProxy exampleWriter [] [] ⟨0, ⟨0⟩⟩ QosPolicies.default, m.2, m.1⟩,
    ⟨m.1, .removeWriterProxy exampleWriter, d.2, d.1⟩]

/-- `n` rounds. -/
def matchDropRounds : Nat → List StepRecord
  | 0 => []
  | n + 1 => matchDropRounds n ++ matchDropRound (wrapI32 n)

theorem run_matchDropRound (c : Int) :
    Run exampleCompliance (exampleReaderAt c) (matchDropRound c)
      (exampleReaderAt (wrapI32 (c + 1))) ∧ additionsIn (matchDropRound c) = 1 := by
  have hpost : (((exampleReaderAt c).updateWriterProxy exampleCompliance
      (RtpsWriterProxy.new exampleWriter [] [] ⟨0, ⟨0⟩⟩) QosPolicies.default).1.removeWriterProxy
        exampleWriter).1 = exampleReaderAt (wrapI32 (c + 1)) := by
    rw [Reader.updateWriterProxy_of_not_mem _ _ rfl rfl (OrdMap.not_mem_empty _),
      Reader.removeWriterProxy_fst]
    simp only [exampleReaderAt, exampleReader, Reader.mk.injEq, and_true, true_and]
    exact OrdMap.ext fun k => by simp
  exact ⟨hpost ▸ (Run.snoc (Run.snoc Run.nil rfl) rfl :
    Run exampleCompliance (exampleReaderAt c)
      ([] ++ [⟨_, .updateWriterProxy exampleWriter [] [] ⟨0, ⟨0⟩⟩ QosPolicies.default, _, _⟩] ++
        [⟨_, .removeWriterProxy exampleWriter, _, _⟩]) _), rfl⟩

theorem run_matchDropRounds (n : Nat) :
    Run exampleCompliance exampleReader (matchDropRounds n) (exampleReaderAt (wrapI32 n)) ∧
      additionsIn (matchDropRounds n) = n := by
  induction n with
  | zero => exact ⟨.nil, rfl⟩
  | succ n ih =>
    obtain ⟨hrun, hadd⟩ := run_matchDropRound (wrapI32 n)
    rw [wrapI32_wrapI32_add] at hrun
    exact ⟨ih.1.append hrun, by simp [matchDropRounds, ih.2, hadd]⟩

/-- The Reader `Reader::new` builds from the example ingredients, its counter at 0, matches and
drops the same writer `2^31` times: it has then added `2^31` writers, matches none, and its
`writer_match_count_total` is `-2^31`. -/
theorem writer_match_count_total_wraps :
    Reader.new exampleIngredients 0 = .ok exampleReader ∧ exampleReader.writerMatchCountTotal = 0 ∧
      ∃ L r, Run exampleCompliance exampleReader L r ∧ additionsIn L = 2147483648 ∧
        r.matchedWriters = ∅ ∧ r.writerMatchCountTotal = -2147483648 :=
  ⟨new_exampleIngredients, rfl, _, _, (run_matchDropRounds 2147483648).1,
    (run_matchDropRounds 2147483648).2, rfl, by decide⟩

end RustDds
