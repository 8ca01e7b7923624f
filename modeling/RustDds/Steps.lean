import RustDds.Handlers
import RustDds.Run

/-!
# What one step does

The step lemmas that the invariants of runs are built from, one per property, each a case
analysis over the inputs that cites the spec lemmas of `Handlers` for the branches of each
handler:

* `step_config`: no step changes the Reader's configuration (stateless or not, reliability,
  GUID, QoS).
* `step_topicCache`, `step_watermark`: the new topic cache is the old one with the step's
  effects replayed (the DataReader's trimming apart, which keeps every watermark).
* `step_mark`: a step marks a writer's watermark only to the `all_ackable_before` of the
  writer's proxy after the step.
* `step_receivedSetOf`: in a stateful Reader, the set the proxy of a writer matched before and
  after the step accounts for grows by exactly what the step *accounts* for the writer
  (`StepRecord.accounted`): the sequence numbers of its changes the step stores, the numbers a
  valid GAP of it declares irrelevant, and the numbers from 1 below the `first_sn` of a
  HEARTBEAT of it that the Reader acts on. A writer the step matches starts with a fresh proxy,
  which accounts for the numbers below 1 and no others (`step_receivedSetOf_of_not_mem`).
* `step_mark_of_receivedSetOf_ne`: a step that changes what a proxy accounts for marks the
  writer's watermark to the proxy's new `all_ackable_before`.

`StepRecord.accounted` reads the stored changes off the step's effects, and the GAPs and
HEARTBEATs off its input and the state it started in, so that the statements about runs say
what the Reader did, not how its proxy is represented.
-/

namespace RustDds

namespace Reader

/-- The sequence numbers the Reader's proxy of `writer` accounts for; none for a writer that
is not matched. -/
def receivedSetOf (r : Reader) (writer : GUID) : Set Int :=
  {s | ∃ wp, r.matchedWriters.find? writer = some wp ∧ s ∈ wp.receivedSet}

@[simp] theorem mem_receivedSetOf {r : Reader} {writer : GUID} {s : Int} :
    s ∈ r.receivedSetOf writer ↔ ∃ wp, r.matchedWriters.find? writer = some wp ∧ s ∈ wp.receivedSet :=
  Iff.rfl

theorem receivedSetOf_of_find? {r : Reader} {writer : GUID} {wp : RtpsWriterProxy}
    (h : r.matchedWriters.find? writer = some wp) :
    r.receivedSetOf writer = {s | s ∈ wp.receivedSet} := by
  ext s; simp [h]

theorem receivedSetOf_of_not_mem {r : Reader} {writer : GUID}
    (h : writer ∉ r.matchedWriters) : r.receivedSetOf writer = ∅ := by
  ext s; simp [OrdMap.not_mem_iff.mp h]

/-- Two Readers with the same proxy of `writer` account for the same numbers. -/
theorem receivedSetOf_congr {r r' : Reader} {writer : GUID}
    (h : r'.matchedWriters.find? writer = r.matchedWriters.find? writer) :
    r'.receivedSetOf writer = r.receivedSetOf writer := by
  simp only [receivedSetOf, h]

end Reader

/-- The numbers an input declares irrelevant for `writer`, read in the state it arrives in: a
GAP of the writer with `gap_start ≥ 1` and `gap_list.base ≥ 1` declares
`[gap_start, gap_list.base)` and the members of `gap_list`; a HEARTBEAT of the writer that the
Reader acts on declares `[1, first_sn)`. -/
def declaredIrrelevant (r : Reader) (writer : GUID) : Input → Finset Int
  | .handleGapMsg gap mrState =>
    if GUID.newWithPrefixAndId mrState.sourceGuidPrefix gap.writerId = writer ∧
        0 < gap.gapStart ∧ 0 < gap.gapList.base then
      Finset.Ico gap.gapStart gap.gapList.base ∪ gap.gapList.set.toFinset
    else ∅
  | .handleHeartbeatMsg heartbeat _ mrState =>
    if GUID.newWithPrefixAndId mrState.sourceGuidPrefix heartbeat.writerId = writer ∧
        r.heartbeatAccepted writer heartbeat then Finset.Ico 1 heartbeat.firstSn
    else ∅
  | _ => ∅

/-- **What a step accounts for, for a writer**: the sequence numbers of the writer's changes
that it stores in the topic cache, and the numbers its input declares irrelevant. -/
def StepRecord.accounted (t : StepRecord) (writer : GUID) : Finset Int :=
  (insertedSns writer t.effects).toFinset ∪ declaredIrrelevant t.pre writer t.input

/-- The writer of a DATA or DATAFRAG input, the only inputs that store changes. -/
def Input.sampleWriter? : Input → Option GUID
  | .handleDataMsg d _ mr _ => some (GUID.newWithPrefixAndId mr.sourceGuidPrefix d.writerId)
  | .handleDatafragMsg d _ mr _ => some (GUID.newWithPrefixAndId mr.sourceGuidPrefix d.writerId)
  | _ => none

/-- The inputs whose handlers call the topic cache: DATA, DATAFRAG, HEARTBEAT and GAP. -/
def Input.callsCache : Input → Bool
  | .handleDataMsg .. | .handleDatafragMsg .. | .handleHeartbeatMsg .. | .handleGapMsg .. => true
  | _ => false

theorem not_mem_of_noCacheCalls {es : List Effect} (h : NoCacheCalls es) {g : GUID}
    {sn : Int} : .markReliablyReceivedBefore g sn ∉ es :=
  fun hm => absurd (h _ hm) (by simp)

theorem mem_markAndNotify {tc : TopicCache} {g k : GUID} {sn sn' : Int}
    (h : .markReliablyReceivedBefore k sn' ∈ (Reader.markAndNotify tc g sn).2) :
    k = g ∧ sn' = sn := by
  rw [Reader.markAndNotify_snd] at h
  split at h <;> simp_all

theorem insertedSns_markAndNotify (tc : TopicCache) (g k : GUID) (sn : Int) :
    insertedSns k (Reader.markAndNotify tc g sn).2 = [] := by
  rw [Reader.markAndNotify_snd]; split <;> rfl

namespace Reader

variable {cfw : QosPolicies → QosPolicies → Option QosPolicyId} {r r' : Reader} {i : Input}
  {es : List Effect}

/-! ### The HEARTBEAT step -/

/-- A HEARTBEAT step that did not panic is the handler's result, whether or not it replied. -/
theorem step_handleHeartbeatMsg {hb : Heartbeat} {fin : Bool} {mr : MessageReceiverState}
    (h : r.step cfw (.handleHeartbeatMsg hb fin mr) = .ok (r', es)) :
    ∃ sent, r.handleHeartbeatMsg hb fin mr = .ok (r', es, sent) := by
  simp only [step] at h
  cases hh : r.handleHeartbeatMsg hb fin mr with
  | error e => rw [hh] at h; cases h
  | ok res =>
    rw [hh] at h
    obtain ⟨rfl, rfl⟩ := Prod.ext_iff.mp (Except.ok.inj h)
    exact ⟨res.2.2, rfl⟩

/-- **An accepted HEARTBEAT, in one piece**: the proxy is the worker's, the topic cache the old
one with the step's effects replayed. -/
theorem handleHeartbeatMsg_accepted_spec {hb : Heartbeat} {fin : Bool}
    {mr : MessageReceiverState} {g : GUID} {wp : RtpsWriterProxy} {sent : Bool}
    (hg : GUID.newWithPrefixAndId mr.sourceGuidPrefix hb.writerId = g)
    (hwp : r.matchedWriters.find? g = some wp) (hacc : r.heartbeatAccepted g hb = true)
    (h : r.handleHeartbeatMsg hb fin mr = .ok (r', es, sent)) :
    let res := heartbeatWorker hb fin mr g { r with matchedWriters := r.matchedWriters.erase g } wp
    r' = { r with matchedWriters := r.matchedWriters.insert g res.2.1,
                  topicCache := applyEffects r.topicCache es } ∧ es = res.2.2.1 := by
  rw [handleHeartbeatMsg_of_accepted r fin hg hwp hacc] at h
  obtain ⟨rfl, rfl, -⟩ := Prod.ext_iff.mp (Except.ok.inj h) |>.imp_right Prod.ext_iff.mp
  rw [heartbeatWorker_fst]
  exact ⟨rfl, rfl⟩

/-- **A HEARTBEAT step** changes nothing, or is the worker's run on the proxy of a matched
writer whose HEARTBEAT the Reader acts on. -/
theorem step_handleHeartbeatMsg_cases {hb : Heartbeat} {fin : Bool} {mr : MessageReceiverState}
    (h : r.step cfw (.handleHeartbeatMsg hb fin mr) = .ok (r', es)) :
    let g := GUID.newWithPrefixAndId mr.sourceGuidPrefix hb.writerId
    (r.heartbeatAccepted g hb = false ∧ r' = r ∧ es = []) ∨
      ∃ wp, r.heartbeatAccepted g hb = true ∧ r.matchedWriters.find? g = some wp ∧
        let res := heartbeatWorker hb fin mr g
          { r with matchedWriters := r.matchedWriters.erase g } wp
        r' = { r with matchedWriters := r.matchedWriters.insert g res.2.1,
                      topicCache := applyEffects r.topicCache es } ∧ es = res.2.2.1 := by
  obtain ⟨sent, h⟩ := step_handleHeartbeatMsg h
  cases hacc : r.heartbeatAccepted (GUID.newWithPrefixAndId mr.sourceGuidPrefix hb.writerId) hb
  · rw [handleHeartbeatMsg_of_not_accepted r fin hacc] at h
    obtain ⟨rfl, rfl, -⟩ := Prod.ext_iff.mp (Except.ok.inj h) |>.imp_right Prod.ext_iff.mp
    exact .inl ⟨hacc, rfl, rfl⟩
  · obtain ⟨-, -, wp, hwp, -⟩ := (heartbeatAccepted_iff r).mp hacc
    exact .inr ⟨wp, hacc, hwp, handleHeartbeatMsg_accepted_spec rfl hwp hacc h⟩

/-- **A sample step** (a DATA, or a DATAFRAG) changes the fragment state only, or runs
`process_received_data` on a sample of the message's writer and sequence number, with the
fragment state updated. -/
theorem step_sample_cases {d : Data} {f : DataFlags} {mr : MessageReceiverState} {now : Int}
    (h : r.step cfw (.handleDataMsg d f mr now) = .ok (r', es)) :
    (r' = r ∧ es = []) ∨
      ∃ dd, (r', es) = r.processReceivedData dd now (writeOptionsOf mr d.inlineQos)
        (GUID.newWithPrefixAndId mr.sourceGuidPrefix d.writerId) d.writerSn := by
  simp only [step, Except.ok.injEq] at h
  rcases handleDataMsg_cases r d f mr now with h' | ⟨dd, -, h'⟩ <;> rw [h'] at h
  · obtain ⟨rfl, rfl⟩ := Prod.ext_iff.mp h
    exact .inl ⟨rfl, rfl⟩
  · exact .inr ⟨dd, h.symm⟩

/-- **A DATAFRAG step** changes the fragment state only, or runs `process_received_data` on a
completed sample of the message's writer and sequence number, with the fragment state
updated. -/
theorem step_fragment_cases {d : DataFrag} {f : DataFragFlags} {mr : MessageReceiverState}
    {now : Int} (h : r.step cfw (.handleDatafragMsg d f mr now) = .ok (r', es)) :
    (∃ l fa, r' = { r with lastFragmentGarbageCollect := l, fragmentAssemblers := fa } ∧
        es = []) ∨
      ∃ fa dd, (r', es) = { r with fragmentAssemblers := fa }.processReceivedData dd now
        (writeOptionsOf mr d.inlineQos) (GUID.newWithPrefixAndId mr.sourceGuidPrefix d.writerId)
        d.writerSn := by
  simp only [step, Except.ok.injEq] at h
  rcases handleDatafragMsg_cases r d f mr now with ⟨l, fa, h'⟩ | ⟨fa, dd, h'⟩ <;> rw [h'] at h
  · obtain ⟨rfl, rfl⟩ := Prod.ext_iff.mp h
    exact .inl ⟨l, fa, rfl, rfl⟩
  · exact .inr ⟨fa, dd, h.symm⟩

/-! ### `process_received_data` -/

section ProcessReceivedData

variable (dd : DDSData) (t : Int) (wo : WriteOptions) (g : GUID) (s : Int)

theorem processReceivedData_config :
    let r' := (r.processReceivedData dd t wo g s).1
    r'.likeStateless = r.likeStateless ∧ r'.reliability = r.reliability ∧
      r'.myGuid = r.myGuid ∧ r'.qosPolicy = r.qosPolicy := by
  rw [processReceivedData_spec]; split <;> simp [recordReceived]

theorem processReceivedData_topicCache :
    (r.processReceivedData dd t wo g s).1.topicCache =
      applyEffects r.topicCache (r.processReceivedData dd t wo g s).2 := by
  rw [processReceivedData_spec]; split <;> simp

theorem processReceivedData_find? (k : GUID) :
    (r.processReceivedData dd t wo g s).1.matchedWriters.find? k =
      if r.acceptsData g s then (r.recordReceived g s t).matchedWriters.find? k
      else r.matchedWriters.find? k := by
  rw [processReceivedData_spec]; split <;> rfl

/-- The change a sample step stores is its own, once. -/
theorem insertedSns_processReceivedData (k : GUID) :
    insertedSns k (r.processReceivedData dd t wo g s).2 =
      if r.acceptsData g s ∧ g = k then [s] else [] := by
  rw [processReceivedData_spec]
  by_cases ha : r.acceptsData g s
  · by_cases hk : g = k
    · subst hk; simp [ha, insertedSns_markAfterAdd]
    · simp [ha, hk, insertedSns_markAfterAdd]
  · simp [ha]

/-- `process_received_data` marks a writer's watermark only to its proxy's new
`all_ackable_before`. -/
theorem processReceivedData_mark {k : GUID} {sn : Int}
    (h : .markReliablyReceivedBefore k sn ∈ (r.processReceivedData dd t wo g s).2) :
    ∃ wp, (r.processReceivedData dd t wo g s).1.matchedWriters.find? k = some wp ∧
      sn = wp.allAckableBefore := by
  rw [processReceivedData_spec] at h ⊢
  split_ifs at h ⊢
  · rcases List.mem_cons.mp h with h | h
    · cases h
    rcases List.mem_append.mp h with h | h
    · obtain ⟨wp, hwp, he⟩ := mem_markAfterAdd _ h
      simp only [Effect.markReliablyReceivedBefore.injEq] at he
      obtain ⟨rfl, rfl⟩ := he
      exact ⟨wp, hwp, rfl⟩
    · simp at h
  · cases h

/-- In a stateful Reader, `process_received_data` adds to a matched writer's proxy exactly the
sequence numbers of the writer's changes it stores. -/
theorem processReceivedData_receivedSetOf (hs : r.likeStateless = false) {k : GUID}
    (hk : k ∈ (r.processReceivedData dd t wo g s).1.matchedWriters) :
    (r.processReceivedData dd t wo g s).1.receivedSetOf k =
      r.receivedSetOf k ∪ ↑(insertedSns k (r.processReceivedData dd t wo g s).2).toFinset := by
  have hf := processReceivedData_find? dd t wo g s k (r := r)
  rw [OrdMap.mem_iff, hf] at hk
  rw [insertedSns_processReceivedData]
  ext x
  simp only [mem_receivedSetOf, hf, Set.mem_union, Finset.mem_coe, List.mem_toFinset]
  by_cases ha : r.acceptsData g s
  · rw [if_pos ha, recordReceived_find?] at hk ⊢
    by_cases hgk : g = k
    · subst hgk
      cases hwp : r.matchedWriters.find? g
      · simp [hs, hwp] at hk
      · simp [hs, hwp, ha]
    · simp [hgk]
  · simp [ha]

/-- A stateful Reader that records a sample in a proxy marks the writer's watermark to the
proxy's new `all_ackable_before`. -/
theorem processReceivedData_mark_of_ne (hs : r.likeStateless = false) {k : GUID}
    (hne : (r.processReceivedData dd t wo g s).1.receivedSetOf k ≠ r.receivedSetOf k) :
    ∃ wp, (r.processReceivedData dd t wo g s).1.matchedWriters.find? k = some wp ∧
      .markReliablyReceivedBefore k wp.allAckableBefore ∈ (r.processReceivedData dd t wo g s).2 := by
  have hf := processReceivedData_find? dd t wo g s k (r := r)
  rw [processReceivedData_spec] at hne ⊢
  split_ifs at hne ⊢ with ha
  · by_cases hgk : g = k
    · subst hgk
      cases hwp : r.matchedWriters.find? g with
      | none => exact absurd (receivedSetOf_congr (by rw [recordReceived_find?]; simp [hwp])) hne
      | some wp =>
        have h₁ : (r.recordReceived g s t).matchedWriters.find? g =
            some (wp.receivedChangesAdd s t) := by
          rw [recordReceived_find?]; simp [hs, hwp]
        refine ⟨_, h₁, ?_⟩
        rw [markAfterAdd_of_find? _ (by simp [hs]) h₁]
        simp
    · exact absurd (receivedSetOf_congr (by rw [recordReceived_find?]; simp [hgk])) hne
  · exact absurd rfl hne

end ProcessReceivedData

/-! ### The configuration and the topic cache -/

/-- **No step changes the Reader's configuration.** -/
theorem step_config (h : r.step cfw i = .ok (r', es)) :
    r'.likeStateless = r.likeStateless ∧ r'.reliability = r.reliability ∧
      r'.myGuid = r.myGuid ∧ r'.qosPolicy = r.qosPolicy := by
  cases i with
  | handleHeartbeatMsg hb fin mr =>
    rcases step_handleHeartbeatMsg_cases h with ⟨-, rfl, -⟩ | ⟨wp, -, -, rfl, -⟩ <;> simp
  | handleDataMsg d f mr now =>
    rcases step_sample_cases h with ⟨rfl, -⟩ | ⟨dd, h⟩
    · simp
    · obtain ⟨rfl, -⟩ := Prod.ext_iff.mp h; exact processReceivedData_config ..
  | handleDatafragMsg d f mr now =>
    rcases step_fragment_cases h with ⟨l, fa, rfl, -⟩ | ⟨fa, dd, h⟩
    · simp
    · obtain ⟨rfl, -⟩ := Prod.ext_iff.mp h
      exact processReceivedData_config (r := { r with fragmentAssemblers := fa }) ..
  | updateWriterProxy g uc mc e q =>
    simp only [step, Except.ok.injEq, Prod.ext_iff] at h; obtain ⟨rfl, rfl⟩ := h
    rw [(updateWriterProxy_frame cfw r _ q).1]; simp
  | removeWriterProxy g =>
    simp only [step, Except.ok.injEq, Prod.ext_iff] at h; obtain ⟨rfl, rfl⟩ := h
    simp [removeWriterProxy_fst]
  | participantLost p =>
    simp only [step, Except.ok.injEq, Prod.ext_iff] at h; obtain ⟨rfl, rfl⟩ := h
    rw [participantLost_fst]; simp
  | handleGapMsg gap mr =>
    simp only [step, Except.ok.injEq, Prod.ext_iff] at h; obtain ⟨rfl, rfl⟩ := h
    rcases handleGapMsg_cases r gap mr with ⟨wp, hs, hwp, h₁, h₂⟩ | ⟨-, h⟩
    · simp [handleGapMsg_of_valid r rfl hs hwp h₁ h₂]
    · simp [h]
  | handleHeartbeatfragMsg hbf mr =>
    simp only [step, Except.ok.injEq, Prod.ext_iff] at h; obtain ⟨rfl, rfl⟩ := h
    simp [handleHeartbeatfragMsg]
  | handleTimedEvent evs now =>
    simp only [step, Except.ok.injEq, Prod.ext_iff] at h; obtain ⟨rfl, rfl⟩ := h
    obtain ⟨c, hc⟩ := handleTimedEvent_fst r now evs; simp [hc]
  | sendPreemptiveAcknacks =>
    simp only [step, Except.ok.injEq, Prod.ext_iff] at h; obtain ⟨rfl, rfl⟩ := h
    rw [sendPreemptiveAcknacks_fst]; simp
  | removeChangesBefore instant =>
    simp only [step, Except.ok.injEq, Prod.ext_iff] at h; obtain ⟨rfl, rfl⟩ := h
    simp

/-- **The topic cache after an operation of the Reader is the old one with the operation's
effects replayed.** -/
theorem step_topicCache (h : r.step cfw i = .ok (r', es))
    (hi : ∀ instant, i ≠ .removeChangesBefore instant) :
    r'.topicCache = applyEffects r.topicCache es := by
  cases i with
  | handleHeartbeatMsg hb fin mr =>
    rcases step_handleHeartbeatMsg_cases h with ⟨-, rfl, rfl⟩ | ⟨wp, -, -, rfl, -⟩ <;> rfl
  | handleDataMsg d f mr now =>
    rcases step_sample_cases h with ⟨rfl, rfl⟩ | ⟨dd, h⟩
    · rfl
    · obtain ⟨rfl, rfl⟩ := Prod.ext_iff.mp h; exact processReceivedData_topicCache ..
  | handleDatafragMsg d f mr now =>
    rcases step_fragment_cases h with ⟨l, fa, rfl, rfl⟩ | ⟨fa, dd, h⟩
    · rfl
    · obtain ⟨rfl, rfl⟩ := Prod.ext_iff.mp h
      exact processReceivedData_topicCache (r := { r with fragmentAssemblers := fa }) ..
  | updateWriterProxy g uc mc e q =>
    simp only [step, Except.ok.injEq, Prod.ext_iff] at h; obtain ⟨rfl, rfl⟩ := h
    obtain ⟨h₁, h₂⟩ := updateWriterProxy_frame cfw r (RtpsWriterProxy.new g uc mc e) q
    rw [h₁, applyEffects_of_noCacheCalls h₂.noCacheCalls]
  | removeWriterProxy g =>
    simp only [step, Except.ok.injEq, Prod.ext_iff] at h; obtain ⟨rfl, rfl⟩ := h
    rw [removeWriterProxy_fst, applyEffects_of_noCacheCalls (r.removeWriterProxy_onlyReports g).noCacheCalls]
  | participantLost p =>
    simp only [step, Except.ok.injEq, Prod.ext_iff] at h; obtain ⟨rfl, rfl⟩ := h
    rw [participantLost_fst, participantLost,
      applyEffects_of_noCacheCalls (r.removeWriterProxies_onlyReports _).noCacheCalls]
  | handleGapMsg gap mr =>
    simp only [step, Except.ok.injEq, Prod.ext_iff] at h; obtain ⟨rfl, rfl⟩ := h
    rcases handleGapMsg_cases r gap mr with ⟨wp, hs, hwp, h₁, h₂⟩ | ⟨-, h⟩
    · rw [handleGapMsg_of_valid r rfl hs hwp h₁ h₂]; exact markAndNotify_fst ..
    · rw [h]; rfl
  | handleHeartbeatfragMsg hbf mr =>
    simp only [step, Except.ok.injEq, Prod.ext_iff] at h; obtain ⟨rfl, rfl⟩ := h; rfl
  | handleTimedEvent evs now =>
    simp only [step, Except.ok.injEq, Prod.ext_iff] at h; obtain ⟨rfl, rfl⟩ := h
    obtain ⟨c, hc⟩ := handleTimedEvent_fst r now evs
    rw [hc, applyEffects_of_noCacheCalls (r.handleTimedEvent_onlyReports now evs).noCacheCalls]
  | sendPreemptiveAcknacks =>
    simp only [step, Except.ok.injEq, Prod.ext_iff] at h; obtain ⟨rfl, rfl⟩ := h
    rw [sendPreemptiveAcknacks_fst, applyEffects_of_noCacheCalls r.sendPreemptiveAcknacks_noCacheCalls]
  | removeChangesBefore instant => exact absurd rfl (hi instant)

/-- **A step's watermarks are the old ones with the step's effects replayed**, the
DataReader's trimming included. -/
theorem step_watermark (h : r.step cfw i = .ok (r', es)) (g : GUID) :
    r'.topicCache.watermark g = (applyEffects r.topicCache es).watermark g := by
  cases i with
  | removeChangesBefore instant =>
    simp only [step, Except.ok.injEq, Prod.ext_iff] at h; obtain ⟨rfl, rfl⟩ := h; rfl
  | _ => rw [step_topicCache h (by simp)]

/-! ### Marks and accounting -/

/-- Only DATA, DATAFRAG, HEARTBEAT and GAP steps call the topic cache. -/
theorem step_noCacheCalls (h : r.step cfw i = .ok (r', es)) (hi : i.callsCache = false) :
    NoCacheCalls es := by
  cases i <;> simp only [Input.callsCache, reduceCtorEq] at hi <;>
    simp only [step, Except.ok.injEq, Prod.ext_iff] at h <;> obtain ⟨rfl, rfl⟩ := h
  · exact (updateWriterProxy_frame cfw r _ _).2.noCacheCalls
  · exact (r.removeWriterProxy_onlyReports _).noCacheCalls
  · exact (r.removeWriterProxies_onlyReports _).noCacheCalls
  · exact noCacheCalls_nil
  · exact (r.handleTimedEvent_onlyReports _ _).noCacheCalls
  · exact r.sendPreemptiveAcknacks_noCacheCalls
  · exact noCacheCalls_nil

/-- A discovery, timer, HEARTBEATFRAG, pre-emptive or trimming step leaves what every proxy
still matched accounts for. -/
theorem step_receivedSetOf_of_callsCache (h : r.step cfw i = .ok (r', es))
    (hi : i.callsCache = false) {k : GUID} (hk₀ : k ∈ r.matchedWriters)
    (hk : k ∈ r'.matchedWriters) : r'.receivedSetOf k = r.receivedSetOf k := by
  cases i <;> simp only [Input.callsCache, reduceCtorEq] at hi <;>
    simp only [step, Except.ok.injEq, Prod.ext_iff] at h <;> obtain ⟨rfl, rfl⟩ := h
  case updateWriterProxy g uc mc e q =>
    rcases Bool.eq_false_or_eq_true r.likeStateless with hs | hs
    · rw [updateWriterProxy_of_likeStateless cfw r _ q hs]
    cases hq : cfw q r.qosPolicy with
    | some b => rw [updateWriterProxy_of_incompatible cfw r hs hq]; rfl
    | none =>
      cases hop : r.matchedWriters.find? g with
      | some op =>
        rw [updateWriterProxy_of_find? cfw r hs hq hop]
        by_cases hgk : g = k
        · subst hgk; simp [receivedSetOf, hop, RtpsWriterProxy.new]
        · simp [receivedSetOf, hgk, RtpsWriterProxy.new]
      | none =>
        rw [updateWriterProxy_of_not_mem cfw r hs hq (OrdMap.not_mem_iff.mpr hop)]
        by_cases hgk : g = k
        · subst hgk; exact absurd hk₀ (OrdMap.not_mem_iff.mpr hop)
        · simp [receivedSetOf, hgk, RtpsWriterProxy.new]
  case removeWriterProxy g =>
    rw [removeWriterProxy_fst] at hk ⊢
    exact receivedSetOf_congr (by simp [(OrdMap.mem_erase.mp hk).1])
  case participantLost p =>
    rw [OrdMap.mem_iff, participantLost_find?] at hk
    exact receivedSetOf_congr (by rw [participantLost_find?]; split_ifs at hk ⊢ <;> simp_all)
  case handleTimedEvent evs now =>
    obtain ⟨c, hc⟩ := handleTimedEvent_fst r now evs; rw [hc]; rfl
  case sendPreemptiveAcknacks =>
    simp only [receivedSetOf, sendPreemptiveAcknacks_find?, Option.map_map]
    cases r.matchedWriters.find? k <;> simp [apply_ite RtpsWriterProxy.receivedSet]
  all_goals rfl

/-- **What a proxy accounts for grows by what the step accounts for**: in a stateful Reader,
after a step that leaves writer `k` matched, the proxy of `k` accounts for what it did before
and for what the step accounts for `k`. -/
theorem step_receivedSetOf (h : r.step cfw i = .ok (r', es)) (hs : r.likeStateless = false)
    {k : GUID} (hk₀ : k ∈ r.matchedWriters) (hk : k ∈ r'.matchedWriters) :
    r'.receivedSetOf k = r.receivedSetOf k ∪ ↑(StepRecord.accounted ⟨r, i, es, r'⟩ k) := by
  simp only [StepRecord.accounted]
  cases hi : i.callsCache
  · rw [step_receivedSetOf_of_callsCache h hi hk₀ hk,
      insertedSns_of_noCacheCalls (step_noCacheCalls h hi)]
    cases i <;> simp_all [Input.callsCache, declaredIrrelevant]
  cases i <;> simp only [Input.callsCache, reduceCtorEq] at hi
  case handleDataMsg d f mr now =>
    rcases step_sample_cases h with ⟨rfl, rfl⟩ | ⟨dd, h⟩
    · simp [declaredIrrelevant]
    · obtain ⟨rfl, rfl⟩ := Prod.ext_iff.mp h
      rw [processReceivedData_receivedSetOf _ _ _ _ _ hs hk]; simp [declaredIrrelevant]
  case handleDatafragMsg d f mr now =>
    rcases step_fragment_cases h with ⟨l, fa, rfl, rfl⟩ | ⟨fa, dd, h⟩
    · simp [declaredIrrelevant]; rfl
    · obtain ⟨rfl, rfl⟩ := Prod.ext_iff.mp h
      rw [processReceivedData_receivedSetOf (r := { r with fragmentAssemblers := fa }) _ _ _ _ _
        hs hk]
      simp [declaredIrrelevant]; rfl
  case handleHeartbeatMsg hb fin mr =>
    rcases step_handleHeartbeatMsg_cases h with ⟨hacc, rfl, rfl⟩ | ⟨wp, hacc, hwp, rfl, rfl⟩
    · by_cases hgk : GUID.newWithPrefixAndId mr.sourceGuidPrefix hb.writerId = k
      · subst hgk; simp [declaredIrrelevant, hacc]
      · simp [declaredIrrelevant, hgk]
    · have hlt := lt_of_heartbeatAccepted r hacc hwp
      obtain ⟨sends, hsends, -, hes⟩ := heartbeatWorker_effects _ fin mr _ hlt
      obtain ⟨c, hc⟩ := heartbeatWorker_proxy _ fin mr _ hlt
      rw [hes, insertedSns_append, insertedSns_markAndNotify, insertedSns_of_noCacheCalls hsends]
      by_cases hgk : GUID.newWithPrefixAndId mr.sourceGuidPrefix hb.writerId = k
      · subst hgk; ext x; simp [hwp, declaredIrrelevant, hacc]; rw [hc]
        exact ReceivedSet.mem_raiseFloor.trans ReceivedSet.mem_or_lt_iff
      · simp [receivedSetOf, hgk, declaredIrrelevant]
  case handleGapMsg gap mr =>
    simp only [step, Except.ok.injEq, Prod.ext_iff] at h; obtain ⟨rfl, rfl⟩ := h
    rcases handleGapMsg_cases r gap mr with ⟨wp, -, hwp, h₁, h₂⟩ | ⟨hv, h⟩
    · rw [handleGapMsg_of_valid r rfl hs hwp h₁ h₂] at hk ⊢
      simp only [insertedSns_markAndNotify]
      by_cases hgk : GUID.newWithPrefixAndId mr.sourceGuidPrefix gap.writerId = k
      · subst hgk; ext x; simp [hwp, declaredIrrelevant, h₁, h₂]
      · simp [receivedSetOf, hgk, declaredIrrelevant]
    · rw [h] at hk ⊢
      by_cases hgk : GUID.newWithPrefixAndId mr.sourceGuidPrefix gap.writerId = k
      · subst hgk
        have : ¬(0 < gap.gapStart ∧ 0 < gap.gapList.base) := by
          rintro ⟨h₁, h₂⟩
          rcases hv with hv | hv | hv | hv
          · rw [hs] at hv; cases hv
          · exact hv hk
          · omega
          · omega
        simp [declaredIrrelevant, this]
      · simp [declaredIrrelevant, hgk]

/-- **A step marks a writer's watermark only to its proxy's `all_ackable_before`**, read after
the step. -/
theorem step_mark (h : r.step cfw i = .ok (r', es)) {k : GUID} {sn : Int}
    (hm : .markReliablyReceivedBefore k sn ∈ es) :
    ∃ wp, r'.matchedWriters.find? k = some wp ∧ sn = wp.allAckableBefore := by
  cases hi : i.callsCache
  · exact absurd hm (not_mem_of_noCacheCalls (step_noCacheCalls h hi))
  cases i <;> simp only [Input.callsCache, reduceCtorEq] at hi
  case handleDataMsg d f mr now =>
    rcases step_sample_cases h with ⟨rfl, rfl⟩ | ⟨dd, h⟩
    · cases hm
    · obtain ⟨rfl, rfl⟩ := Prod.ext_iff.mp h; exact processReceivedData_mark _ _ _ _ _ hm
  case handleDatafragMsg d f mr now =>
    rcases step_fragment_cases h with ⟨l, fa, rfl, rfl⟩ | ⟨fa, dd, h⟩
    · cases hm
    · obtain ⟨rfl, rfl⟩ := Prod.ext_iff.mp h
      exact processReceivedData_mark (r := { r with fragmentAssemblers := fa }) _ _ _ _ _ hm
  case handleHeartbeatMsg hb fin mr =>
    rcases step_handleHeartbeatMsg_cases h with ⟨-, rfl, rfl⟩ | ⟨wp, hacc, hwp, rfl, rfl⟩
    · cases hm
    · obtain ⟨sends, hsends, -, hes⟩ :=
        heartbeatWorker_effects _ fin mr _ (lt_of_heartbeatAccepted r hacc hwp)
      rw [hes] at hm
      rcases List.mem_append.mp hm with hm | hm
      · obtain ⟨rfl, rfl⟩ := mem_markAndNotify hm
        exact ⟨_, by simp, rfl⟩
      · exact absurd hm (not_mem_of_noCacheCalls hsends)
  case handleGapMsg gap mr =>
    simp only [step, Except.ok.injEq, Prod.ext_iff] at h; obtain ⟨rfl, rfl⟩ := h
    rcases handleGapMsg_cases r gap mr with ⟨wp, hs, hwp, h₁, h₂⟩ | ⟨-, h⟩
    · rw [handleGapMsg_of_valid r rfl hs hwp h₁ h₂] at hm ⊢
      obtain ⟨rfl, rfl⟩ := mem_markAndNotify hm
      exact ⟨_, by simp, rfl⟩
    · rw [h] at hm; cases hm

/-- **A step that changes what a proxy accounts for marks the writer's watermark** to the
proxy's new `all_ackable_before`. -/
theorem step_mark_of_receivedSetOf_ne (h : r.step cfw i = .ok (r', es))
    (hs : r.likeStateless = false) {k : GUID} (hk₀ : k ∈ r.matchedWriters)
    (hk : k ∈ r'.matchedWriters) (hne : r'.receivedSetOf k ≠ r.receivedSetOf k) :
    ∃ wp, r'.matchedWriters.find? k = some wp ∧
      .markReliablyReceivedBefore k wp.allAckableBefore ∈ es := by
  cases hi : i.callsCache
  · exact absurd (step_receivedSetOf_of_callsCache h hi hk₀ hk) hne
  cases i <;> simp only [Input.callsCache, reduceCtorEq] at hi
  case handleDataMsg d f mr now =>
    rcases step_sample_cases h with ⟨rfl, rfl⟩ | ⟨dd, h⟩
    · exact absurd rfl hne
    · obtain ⟨rfl, rfl⟩ := Prod.ext_iff.mp h; exact processReceivedData_mark_of_ne _ _ _ _ _ hs hne
  case handleDatafragMsg d f mr now =>
    rcases step_fragment_cases h with ⟨l, fa, rfl, rfl⟩ | ⟨fa, dd, h⟩
    · exact absurd rfl hne
    · obtain ⟨rfl, rfl⟩ := Prod.ext_iff.mp h
      exact processReceivedData_mark_of_ne (r := { r with fragmentAssemblers := fa }) _ _ _ _ _
        hs hne
  case handleHeartbeatMsg hb fin mr =>
    rcases step_handleHeartbeatMsg_cases h with ⟨-, rfl, rfl⟩ | ⟨wp, hacc, hwp, rfl, rfl⟩
    · exact absurd rfl hne
    · by_cases hgk : GUID.newWithPrefixAndId mr.sourceGuidPrefix hb.writerId = k
      · subst hgk
        obtain ⟨sends, -, -, hes⟩ :=
          heartbeatWorker_effects _ fin mr _ (lt_of_heartbeatAccepted r hacc hwp)
        refine ⟨_, OrdMap.find?_insert_self _ _ _, ?_⟩
        rw [hes, markAndNotify_snd]
        exact List.mem_append_left _ (List.mem_cons_self _ _)
      · exact absurd (receivedSetOf_congr (by simp [hgk])) hne
  case handleGapMsg gap mr =>
    simp only [step, Except.ok.injEq, Prod.ext_iff] at h; obtain ⟨rfl, rfl⟩ := h
    rcases handleGapMsg_cases r gap mr with ⟨wp, -, hwp, h₁, h₂⟩ | ⟨-, h⟩
    · rw [handleGapMsg_of_valid r rfl hs hwp h₁ h₂] at hne ⊢
      by_cases hgk : GUID.newWithPrefixAndId mr.sourceGuidPrefix gap.writerId = k
      · subst hgk
        refine ⟨_, OrdMap.find?_insert_self _ _ _, ?_⟩
        rw [markAndNotify_snd]
        exact List.mem_cons_self _ _
      · exact absurd (receivedSetOf_congr (by simp [hgk])) hne
    · rw [h] at hne; exact absurd rfl hne

/-- **A step stores at most one change of a writer**: one of a DATA or DATAFRAG of that writer,
of a sequence number `process_received_data` takes. -/
theorem step_insertedSns (h : r.step cfw i = .ok (r', es)) (k : GUID) :
    insertedSns k es = [] ∨
      ∃ s, insertedSns k es = [s] ∧ r.acceptsData k s = true ∧ i.sampleWriter? = some k := by
  cases hi : i.callsCache
  · exact .inl (insertedSns_of_noCacheCalls (step_noCacheCalls h hi) k)
  cases i <;> simp only [Input.callsCache, reduceCtorEq] at hi
  case handleDataMsg d f mr now =>
    rcases step_sample_cases h with ⟨rfl, rfl⟩ | ⟨dd, h⟩
    · exact .inl rfl
    · obtain ⟨rfl, rfl⟩ := Prod.ext_iff.mp h
      rw [insertedSns_processReceivedData]
      split_ifs with ha
      · obtain ⟨ha, rfl⟩ := ha; exact .inr ⟨_, rfl, ha, rfl⟩
      · exact .inl rfl
  case handleDatafragMsg d f mr now =>
    rcases step_fragment_cases h with ⟨l, fa, rfl, rfl⟩ | ⟨fa, dd, h⟩
    · exact .inl rfl
    · obtain ⟨rfl, rfl⟩ := Prod.ext_iff.mp h
      rw [insertedSns_processReceivedData]
      split_ifs with ha
      · obtain ⟨ha, rfl⟩ := ha; exact .inr ⟨_, rfl, ha, rfl⟩
      · exact .inl rfl
  case handleHeartbeatMsg hb fin mr =>
    rcases step_handleHeartbeatMsg_cases h with ⟨-, rfl, rfl⟩ | ⟨wp, hacc, hwp, rfl, rfl⟩
    · exact .inl rfl
    · obtain ⟨sends, hsends, -, hes⟩ :=
        heartbeatWorker_effects _ fin mr _ (lt_of_heartbeatAccepted r hacc hwp)
      rw [hes, insertedSns_append, insertedSns_markAndNotify, insertedSns_of_noCacheCalls hsends]
      exact .inl rfl
  case handleGapMsg gap mr =>
    simp only [step, Except.ok.injEq, Prod.ext_iff] at h; obtain ⟨rfl, rfl⟩ := h
    rcases handleGapMsg_cases r gap mr with ⟨wp, hs, hwp, h₁, h₂⟩ | ⟨-, h⟩
    · rw [handleGapMsg_of_valid r rfl hs hwp h₁ h₂]; exact .inl (insertedSns_markAndNotify ..)
    · rw [h]; exact .inl rfl

/-- A stateful Reader other than the SPDP participant reader takes no sample its matched
writer's proxy already accounts for. -/
theorem not_mem_of_acceptsData (hs : r.likeStateless = false)
    (hspdp : r.myGuid.entityId ≠ EntityId.spdpBuiltinParticipantReader) {k : GUID} {s : Int}
    (hk : k ∈ r.matchedWriters) (ha : r.acceptsData k s = true) : s ∉ r.receivedSetOf k := by
  obtain ⟨wp, hwp⟩ := OrdMap.mem_iff.mp hk
  simpa [acceptsData, hs, hwp, hspdp, receivedSetOf, RtpsWriterProxy.shouldIgnoreChange] using ha

/-- A stateful Reader takes a sample of an unmatched writer only if the writer is built-in. -/
theorem not_isUserDefined_of_acceptsData (hs : r.likeStateless = false) {k : GUID} {s : Int}
    (hk : k ∉ r.matchedWriters) (ha : r.acceptsData k s = true) :
    k.entityId.entityKind.isUserDefined = false := by
  simpa [acceptsData, hs, OrdMap.not_mem_iff.mp hk] using ha

/-! ### The matched writers -/

theorem processReceivedData_find?_of_ne (dd : DDSData) (t : Int) (wo : WriteOptions) {g k : GUID}
    (s : Int) (hgk : g ≠ k) :
    (r.processReceivedData dd t wo g s).1.matchedWriters.find? k = r.matchedWriters.find? k := by
  rw [processReceivedData_find?, recordReceived_find?]; simp [hgk]

theorem processReceivedData_mem (dd : DDSData) (t : Int) (wo : WriteOptions) (g : GUID) (s : Int)
    (k : GUID) :
    k ∈ (r.processReceivedData dd t wo g s).1.matchedWriters ↔ k ∈ r.matchedWriters := by
  simp only [OrdMap.mem_iff, processReceivedData_find?, recordReceived_find?]
  split_ifs <;> cases r.matchedWriters.find? k <;> simp

variable (cfw) in
/-- **Which writers are matched after an input**, from which were before: discovery matches a
writer (in a stateful Reader, when the offered QoS is compatible), a removal drops one, a lost
participant drops those of its prefix, and no other input changes which writers are
matched. -/
def matchedAfter (r : Reader) (k : GUID) : Input → Prop
  | .updateWriterProxy g _ _ _ q =>
    k ∈ r.matchedWriters ∨ (g = k ∧ r.likeStateless = false ∧ cfw q r.qosPolicy = none)
  | .removeWriterProxy g => k ∈ r.matchedWriters ∧ g ≠ k
  | .participantLost p => k ∈ r.matchedWriters ∧ k.guidPrefix ≠ p
  | _ => k ∈ r.matchedWriters

/-- **Every step changes the matched writers as `matchedAfter` says.** -/
theorem step_mem_matchedWriters (h : r.step cfw i = .ok (r', es)) (k : GUID) :
    k ∈ r'.matchedWriters ↔ matchedAfter cfw r k i := by
  cases i <;> simp only [matchedAfter]
  case handleDataMsg d f mr now =>
    rcases step_sample_cases h with ⟨rfl, rfl⟩ | ⟨dd, h⟩
    · rfl
    · obtain ⟨rfl, rfl⟩ := Prod.ext_iff.mp h; exact processReceivedData_mem ..
  case handleDatafragMsg d f mr now =>
    rcases step_fragment_cases h with ⟨l, fa, rfl, rfl⟩ | ⟨fa, dd, h⟩
    · rfl
    · obtain ⟨rfl, rfl⟩ := Prod.ext_iff.mp h
      exact processReceivedData_mem (r := { r with fragmentAssemblers := fa }) ..
  case handleHeartbeatMsg hb fin mr =>
    rcases step_handleHeartbeatMsg_cases h with ⟨-, rfl, rfl⟩ | ⟨wp, -, hwp, rfl, rfl⟩
    · rfl
    · simp only [OrdMap.mem_insert]
      exact ⟨fun h => h.elim (· ▸ OrdMap.mem_iff.mpr ⟨wp, hwp⟩) id, .inr⟩
  all_goals simp only [step, Except.ok.injEq, Prod.ext_iff] at h; obtain ⟨rfl, rfl⟩ := h
  case updateWriterProxy g uc mc e q =>
    rcases Bool.eq_false_or_eq_true r.likeStateless with hs | hs
    · rw [updateWriterProxy_of_likeStateless cfw r _ q hs]; simp [hs]
    cases hq : cfw q r.qosPolicy with
    | some b => rw [updateWriterProxy_of_incompatible cfw r hs hq]; simp
    | none =>
      cases hop : r.matchedWriters.find? g with
      | some op =>
        rw [updateWriterProxy_of_find? cfw r hs hq hop]
        have : g ∈ r.matchedWriters := OrdMap.mem_iff.mpr ⟨op, hop⟩
        by_cases hgk : g = k
        · subst hgk; simp [this]
        · simp [hgk]
      | none =>
        rw [updateWriterProxy_of_not_mem cfw r hs hq (OrdMap.not_mem_iff.mpr hop)]
        simp [hs, or_comm]
  case removeWriterProxy g => simp [removeWriterProxy_fst, and_comm]
  case participantLost p =>
    simp only [OrdMap.mem_iff, participantLost_find?]
    split_ifs <;> simp_all
  case handleGapMsg gap mr =>
    rcases handleGapMsg_cases r gap mr with ⟨wp, hs, hwp, h₁, h₂⟩ | ⟨-, h⟩
    · rw [handleGapMsg_of_valid r rfl hs hwp h₁ h₂]
      simp only [OrdMap.mem_insert]
      exact ⟨fun h => h.elim (· ▸ OrdMap.mem_iff.mpr ⟨wp, hwp⟩) id, .inr⟩
    · rw [h]
  case sendPreemptiveAcknacks =>
    simp only [OrdMap.mem_iff, sendPreemptiveAcknacks_find?]
    cases r.matchedWriters.find? k <;> simp
  case handleTimedEvent evs now => obtain ⟨c, hc⟩ := handleTimedEvent_fst r now evs; rw [hc]
  all_goals rfl

/-- **A step addressed to a writer leaves every other writer's proxy as it was.** -/
theorem step_find?_of_ne (h : r.step cfw i = .ok (r', es)) {w k : GUID} (hw : i.writer? = some w)
    (hk : w ≠ k) : r'.matchedWriters.find? k = r.matchedWriters.find? k := by
  cases i <;> simp only [Input.writer?, reduceCtorEq, Option.some.injEq] at hw <;> subst hw
  case handleDataMsg d f mr now =>
    rcases step_sample_cases h with ⟨rfl, rfl⟩ | ⟨dd, h⟩
    · rfl
    · obtain ⟨rfl, rfl⟩ := Prod.ext_iff.mp h; exact processReceivedData_find?_of_ne _ _ _ _ hk
  case handleDatafragMsg d f mr now =>
    rcases step_fragment_cases h with ⟨l, fa, rfl, rfl⟩ | ⟨fa, dd, h⟩
    · rfl
    · obtain ⟨rfl, rfl⟩ := Prod.ext_iff.mp h
      exact processReceivedData_find?_of_ne (r := { r with fragmentAssemblers := fa }) _ _ _ _ hk
  case handleHeartbeatMsg hb fin mr =>
    rcases step_handleHeartbeatMsg_cases h with ⟨-, rfl, rfl⟩ | ⟨wp, -, -, rfl, rfl⟩
    · rfl
    · simp [hk]
  all_goals simp only [step, Except.ok.injEq, Prod.ext_iff] at h; obtain ⟨rfl, rfl⟩ := h
  case updateWriterProxy g uc mc e q =>
    rcases Bool.eq_false_or_eq_true r.likeStateless with hs | hs
    · rw [updateWriterProxy_of_likeStateless cfw r _ q hs]
    cases hq : cfw q r.qosPolicy with
    | some b => rw [updateWriterProxy_of_incompatible cfw r hs hq]
    | none =>
      cases hop : r.matchedWriters.find? g with
      | some op => rw [updateWriterProxy_of_find? cfw r hs hq hop]; simp [hk]
      | none =>
        rw [updateWriterProxy_of_not_mem cfw r hs hq (OrdMap.not_mem_iff.mpr hop)]; simp [hk]
  case removeWriterProxy g => simp [removeWriterProxy_fst, hk]
  case handleGapMsg gap mr =>
    rcases handleGapMsg_cases r gap mr with ⟨wp, hs, hwp, h₁, h₂⟩ | ⟨-, h⟩
    · rw [handleGapMsg_of_valid r rfl hs hwp h₁ h₂]; simp [hk]
    · rw [h]
  all_goals rfl

/-- A writer a step newly matches starts with a fresh proxy, which accounts for the numbers
below 1 only. -/
theorem step_receivedSetOf_of_not_mem (h : r.step cfw i = .ok (r', es)) {k : GUID}
    (hk : k ∉ r.matchedWriters) (hk' : k ∈ r'.matchedWriters) :
    r'.receivedSetOf k = {s | s < 1} := by
  have hm := (step_mem_matchedWriters h k).mp hk'
  cases i <;> simp only [matchedAfter] at hm
  case updateWriterProxy g uc mc e q =>
    obtain hm | ⟨rfl, hs, hq⟩ := hm
    · exact absurd hm hk
    simp only [step, Except.ok.injEq, Prod.ext_iff] at h; obtain ⟨rfl, rfl⟩ := h
    rw [updateWriterProxy_of_not_mem cfw r hs hq hk]
    ext s; simp [RtpsWriterProxy.new]
  all_goals first | exact absurd hm hk | exact absurd hm.1 hk

end Reader

namespace Run

variable {cfw : QosPolicies → QosPolicies → Option QosPolicyId} {r₀ r : Reader}
  {L : List StepRecord}

/-- **No run changes the Reader's configuration.** -/
theorem config (h : Run cfw r₀ L r) :
    r.likeStateless = r₀.likeStateless ∧ r.reliability = r₀.reliability ∧
      r.myGuid = r₀.myGuid ∧ r.qosPolicy = r₀.qosPolicy := by
  induction h with
  | nil => exact ⟨rfl, rfl, rfl, rfl⟩
  | snoc _ hs ih =>
    obtain ⟨h₁, h₂, h₃, h₄⟩ := Reader.step_config hs
    exact ⟨h₁.trans ih.1, h₂.trans ih.2.1, h₃.trans ih.2.2.1, h₄.trans ih.2.2.2⟩

/-- Every step of a run starts in the run's configuration. -/
theorem config_pre (h : Run cfw r₀ L r) {t : StepRecord} (ht : t ∈ L) :
    t.pre.likeStateless = r₀.likeStateless ∧ t.pre.reliability = r₀.reliability ∧
      t.pre.myGuid = r₀.myGuid ∧ t.pre.qosPolicy = r₀.qosPolicy := by
  obtain ⟨L₁, -, -, h₁, -, -⟩ := h.of_mem ht
  exact h₁.config

end Run

end RustDds
