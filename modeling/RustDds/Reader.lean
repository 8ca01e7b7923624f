import RustDds.TopicCache
import RustDds.WriterProxy
import RustDds.FragmentAssembler

/-!
# The Reader

`rtps/reader.rs`: the RTPS Reader, one handler per submessage kind and per event, each a
function from the Reader's state to its new state and the *effects* it had, in the order it
had them.

The effects are what the Reader does outside its own fields: the topic cache calls it makes
(`add_change`, `mark_reliably_received_before`; the cache itself is also kept in the state,
so that its contents can be read), the wake-ups of its DataReader (`notify_cache_change`),
the status events it sends, the ACKNACK and NACKFRAG messages it sends, and the timer it
re-arms. Channels, the UDP sender, the waker slot and the timer are not state of the model:
what the Reader hands them is an effect, and a send that fails is only logged by the
source.

Where the source panics, the model returns an error carrying the panic's message:
`Reader::new` on a topic name mismatch or a stateless reliable Reader, and
`with_mutable_writer_proxy` when its worker has put a proxy back behind its back. Every other
handler is total.

`update_writer_proxy` asks the QoS module whether the offered QoS is compatible
(`compliance_failure_wrt`, in `dds/qos.rs`, not in the source). The rule is not modelled: it
is a parameter `complianceFailureWrt`, and what is proved holds whatever it answers.
-/

namespace RustDds

/-- What a Reader operation does outside its own state, in the order it does it. -/
inductive Effect where
  | addChange (receiveTimestamp : Int) (cacheChange : CacheChange)
  | markReliablyReceivedBefore (writerGuid : GUID) (sn : Int)
  | notifyCacheChange
  | statusChange (status : DataReaderStatus)
  | participantStatus (event : DomainParticipantStatusEvent)
  | sendAckNack (finalFlag : Bool) (ackNack : AckNack) (infoDst : InfoDestination)
      (dstLocatorList : List Locator) (destinationGuid : GUID)
  | sendNackFrags (nackFrags : List NackFrag) (infoDst : InfoDestination)
      (dstLocatorList : List Locator) (destinationGuid : GUID)
  | setTimeout (delay : Int) (event : TimedEvent)
  deriving DecidableEq

/-- `ReaderIngredients`, the parts of it that are state: the channels and the waker become
effects. -/
structure ReaderIngredients where
  guid : GUID
  topicName : String
  topicCacheHandle : TopicCache
  likeStateless : Bool
  qosPolicy : QosPolicies

/-- `Reader`. Left out: the channels, the UDP sender, the timer and the waker (their use is
an effect), `heartbeat_response_delay` and `heartbeat_suppression_duration` (never read), the
Reader-level `received_heartbeat_count` (only printed), `seqnum_instant_map` (tests only) and
the security plugins. -/
structure Reader where
  likeStateless : Bool
  reliability : Reliability
  topicCache : TopicCache
  topicName : String
  qosPolicy : QosPolicies
  myGuid : GUID
  fragmentAssemblers : OrdMap GUID FragmentAssembler
  lastFragmentGarbageCollect : Int
  matchedWriters : OrdMap GUID RtpsWriterProxy
  writerMatchCountTotal : Int
  requestedDeadlineMissedCount : Int
  offeredIncompatibleQosCount : Int

/-- `FRAGMENT_ASSEMBLY_TIMEOUT`: an assembly buffer with no update for this long is dropped. -/
def fragmentAssemblyTimeout : Int := Duration.fromSecs 10

/-- `MIN_FRAGMENT_GC_INTERVAL`: the fragment GC runs at most this often. -/
def minFragmentGcInterval : Int := Duration.fromSecs 2

namespace Reader

/-- `Reader::new`. -/
def new (i : ReaderIngredients) (now : Int) : Except String Reader :=
  if i.topicName ≠ i.topicCacheHandle.topicName then
    .error ("Topic name = " ++ i.topicName ++ " and topic cache name = " ++
      i.topicCacheHandle.topicName ++ " not equal when creating a Reader")
  else if i.likeStateless && i.qosPolicy.isReliable then
    .error "Attempted to create a stateless Reader with other than BestEffort reliability"
  else .ok
    { likeStateless := i.likeStateless
      reliability := i.qosPolicy.reliability.getD .bestEffort
      topicCache := i.topicCacheHandle
      topicName := i.topicName
      qosPolicy := i.qosPolicy
      myGuid := i.guid
      fragmentAssemblers := ∅
      lastFragmentGarbageCollect := now
      matchedWriters := ∅
      writerMatchCountTotal := 0
      requestedDeadlineMissedCount := 0
      offeredIncompatibleQosCount := 0 }

/-! ### Deadlines -/

/-- `set_requested_deadline_check_timer`. -/
def setRequestedDeadlineCheckTimer (r : Reader) : List Effect :=
  match r.qosPolicy.deadline with
  | some deadline => [.setTimeout deadline .deadlineMissedCheck]
  | none => []

/-- Whether a writer missed the deadline: nothing received ever, or the last change longer
than the deadline ago. -/
def deadlineMissed (now deadlineDuration : Int) (wp : RtpsWriterProxy) : Bool :=
  match wp.lastChangeTimestamp with
  | some lastChange => now - lastChange > deadlineDuration
  | none => true

/-- The loop of `calculate_if_requested_deadline_is_missed` over the matched writers, in key
order, from the running `requested_deadline_missed_count`. -/
def deadlineMissedLoop (now deadlineDuration : Int) :
    Int → List (GUID × RtpsWriterProxy) → Int × List DataReaderStatus
  | count, [] => (count, [])
  | count, (_, wp) :: rest =>
    if deadlineMissed now deadlineDuration wp then
      let count := wrapI32 (count + 1)
      let (c, changes) := deadlineMissedLoop now deadlineDuration count rest
      (c, .requestedDeadlineMissed (CountWithChange.startFrom count 1) :: changes)
    else deadlineMissedLoop now deadlineDuration count rest

/-- `calculate_if_requested_deadline_is_missed`. -/
def calculateIfRequestedDeadlineIsMissed (r : Reader) (now : Int) :
    Reader × List DataReaderStatus :=
  match r.qosPolicy.deadline with
  | none => (r, [])
  | some deadlineDuration =>
    let (count, changes) :=
      deadlineMissedLoop now deadlineDuration r.requestedDeadlineMissedCount r.matchedWriters.toList
    ({ r with requestedDeadlineMissedCount := count }, changes)

/-- `handle_requested_deadline_event`. -/
def handleRequestedDeadlineEvent (r : Reader) (now : Int) : Reader × List Effect :=
  let (r, changes) := r.calculateIfRequestedDeadlineIsMissed now
  (r, changes.map .statusChange)

/-- `handle_timed_event`, over the events the timer yields. The source reads the clock again
for each `DeadlineMissedCheck`; the model uses the step's one reading `now` for all of them. -/
def handleTimedEvent : Reader → Int → List TimedEvent → Reader × List Effect
  | r, _, [] => (r, [])
  | r, now, .deadlineMissedCheck :: rest =>
    let (r₁, es₁) := r.handleRequestedDeadlineEvent now
    let (r₂, es₂) := handleTimedEvent r₁ now rest
    (r₂, es₁ ++ r₁.setRequestedDeadlineCheckTimer ++ es₂)

/-! ### Matched writers -/

/-- `matched_writer_update`: update a known writer's proxy, or insert a new one; the number
of proxies added. -/
def matchedWriterUpdate (r : Reader) (proxy : RtpsWriterProxy) : Reader × Int :=
  match r.matchedWriters.find? proxy.remoteWriterGuid with
  | some op =>
    let wp := op.updateContents proxy
    ({ r with matchedWriters := r.matchedWriters.insert proxy.remoteWriterGuid wp }, 0)
  | none =>
    ({ r with matchedWriters := r.matchedWriters.insert proxy.remoteWriterGuid proxy }, 1)

/-- `update_writer_proxy`. -/
def updateWriterProxy (complianceFailureWrt : QosPolicies → QosPolicies → Option QosPolicyId)
    (r : Reader) (proxy : RtpsWriterProxy) (offeredQos : QosPolicies) : Reader × List Effect :=
  if r.likeStateless then (r, [])
  else
    let writer := proxy.remoteWriterGuid
    match complianceFailureWrt offeredQos r.qosPolicy with
    | none =>
      let (r, countChange) := r.matchedWriterUpdate proxy
      if countChange > 0 then
        let r := { r with writerMatchCountTotal := wrapI32 (r.writerMatchCountTotal + countChange) }
        (r, [.statusChange (.subscriptionMatched
                (CountWithChange.new r.writerMatchCountTotal countChange)
                (CountWithChange.new (wrapI32 r.matchedWriters.size) countChange) writer),
              .participantStatus (.remoteWriterMatched r.myGuid writer)])
      else (r, [])
    | some badPolicyId =>
      let r := { r with offeredIncompatibleQosCount := wrapI32 (r.offeredIncompatibleQosCount + 1) }
      (r, [.statusChange (.requestedIncompatibleQos
              (CountWithChange.new r.offeredIncompatibleQosCount 1) badPolicyId writer
              r.qosPolicy offeredQos),
            .participantStatus (.remoteWriterQosIncompatible r.myGuid writer r.qosPolicy
              offeredQos)])

/-- `remove_writer_proxy`. -/
def removeWriterProxy (r : Reader) (writerGuid : GUID) : Reader × List Effect :=
  if writerGuid ∈ r.matchedWriters then
    let r := { r with matchedWriters := r.matchedWriters.erase writerGuid }
    (r, [.statusChange (.subscriptionMatched (CountWithChange.new r.writerMatchCountTotal 0)
          (CountWithChange.new (wrapI32 r.matchedWriters.size) (-1)) writerGuid)])
  else (r, [])

/-- `remove_writer_proxy` of each writer in turn. -/
def removeWriterProxies : Reader → List GUID → Reader × List Effect
  | r, [] => (r, [])
  | r, w :: ws =>
    let (r₁, es₁) := r.removeWriterProxy w
    let (r₂, es₂) := removeWriterProxies r₁ ws
    (r₂, es₁ ++ es₂)

/-- `participant_lost`: remove every matched writer of the participant. Modelled from the
spec: `GuidPrefix::range` (guid.rs is not in the source) spans exactly the GUIDs of the
prefix. -/
def participantLost (r : Reader) (guidPrefix : GuidPrefix) : Reader × List Effect :=
  r.removeWriterProxies (r.matchedWriters.keys.filter fun g => g.guidPrefix = guidPrefix)

/-- `contains_writer`. -/
def containsWriter (r : Reader) (entityId : EntityId) : Bool :=
  if !r.likeStateless then r.matchedWriters.keys.any fun g => g.entityId = entityId
  else false

/-! ### DATA and DATAFRAG -/

/-- The write options of a received sample: its source timestamp and related sample
identity. -/
def writeOptionsOf (mrState : MessageReceiverState) (inlineQos : Option ParameterList) :
    WriteOptions :=
  ⟨inlineQos.bind ParameterList.relatedSampleIdentity, mrState.sourceTimestamp⟩

/-- `data_to_dds_data`. -/
def dataToDdsData (data : Data) (dataFlags : DataFlags) : Except String DDSData :=
  match data.serializedPayload, dataFlags.data, dataFlags.key with
  | some payload, true, false => (SerializedPayload.fromBytes payload).map .data
  | some payload, false, true =>
    (SerializedPayload.fromBytes payload).map (.disposeByKey (deduceChangeKind data.inlineQos false))
  | none, false, false =>
    match data.inlineQos.bind ParameterList.keyHash with
    | some keyHash => .ok (.disposeByKeyHash (deduceChangeKind data.inlineQos false) keyHash)
    | none => .error "DATA with no contents"
  | some _, true, true => .error "Ambiguous data/key received."
  | some _, false, false => .error "DATA message has mystery contents"
  | none, _, _ => .error "DATA message contents missing"

/-- `make_cache_change`: store the change, and in a stateful Reader raise the writer's
watermark to its proxy's `all_ackable_before`. -/
def makeCacheChange (r : Reader) (data : DDSData) (receiveTimestamp : Int)
    (writeOptions : WriteOptions) (writerGuid : GUID) (writerSn : Int) :
    Reader × List Effect :=
  let cacheChange : CacheChange := ⟨writerGuid, writerSn, writeOptions, data⟩
  let r := { r with topicCache := r.topicCache.addChange receiveTimestamp cacheChange }
  let add : Effect := .addChange receiveTimestamp cacheChange
  if !r.likeStateless then
    match r.matchedWriters.find? writerGuid with
    | some wp =>
      ({ r with topicCache :=
          (r.topicCache.markReliablyReceivedBefore writerGuid wp.allAckableBefore).1 },
        [add, .markReliablyReceivedBefore writerGuid wp.allAckableBefore])
    | none => (r, [add])
  else (r, [add])

/-- `make_cache_change` followed by `notify_cache_change`. -/
def makeCacheChangeAndNotify (r : Reader) (data : DDSData) (receiveTimestamp : Int)
    (writeOptions : WriteOptions) (writerGuid : GUID) (writerSn : Int) :
    Reader × List Effect :=
  let (r, es) := r.makeCacheChange data receiveTimestamp writeOptions writerGuid writerSn
  (r, es ++ [.notifyCacheChange])

/-- `process_received_data`, common to a DATA and a completed DATAFRAG. A stateful Reader
drops a sample its writer's proxy already accounts for (the SPDP participant reader keeps
it), records it in the proxy otherwise, and drops a sample of an unmatched user-defined
writer. -/
def processReceivedData (r : Reader) (ddsData : DDSData) (receiveTimestamp : Int)
    (writeOptions : WriteOptions) (writerGuid : GUID) (writerSn : Int) :
    Reader × List Effect :=
  if !r.likeStateless then
    match r.matchedWriters.find? writerGuid with
    | some writerProxy =>
      if writerProxy.shouldIgnoreChange writerSn &&
          r.myGuid.entityId ≠ EntityId.spdpBuiltinParticipantReader then (r, [])
      else
        let wp := writerProxy.receivedChangesAdd writerSn receiveTimestamp
        let r := { r with matchedWriters := r.matchedWriters.insert writerGuid wp }
        r.makeCacheChangeAndNotify ddsData receiveTimestamp writeOptions writerGuid writerSn
    | none =>
      if writerGuid.entityId.entityKind.isUserDefined then (r, [])
      else r.makeCacheChangeAndNotify ddsData receiveTimestamp writeOptions writerGuid writerSn
  else r.makeCacheChangeAndNotify ddsData receiveTimestamp writeOptions writerGuid writerSn

/-- `handle_data_msg`, received at `now`. -/
def handleDataMsg (r : Reader) (data : Data) (dataFlags : DataFlags)
    (mrState : MessageReceiverState) (now : Int) : Reader × List Effect :=
  let writerGuid := GUID.newWithPrefixAndId mrState.sourceGuidPrefix data.writerId
  match dataToDdsData data dataFlags with
  | .ok ddsData =>
    r.processReceivedData ddsData now (writeOptionsOf mrState data.inlineQos) writerGuid
      data.writerSn
  | .error _ => (r, [])

/-- `fragment_assembler_mutable` then `new_datafrag`: the writer's assembler (created with
this fragment's size if the writer has none) is fed the fragment. -/
def feedDatafrag (r : Reader) (writerGuid : GUID) (datafrag : DataFrag)
    (datafragFlags : DataFragFlags) (now : Int) : Reader × Option DDSData :=
  let fa := (r.fragmentAssemblers.find? writerGuid).getD
    (FragmentAssembler.new datafrag.fragmentSize)
  let (fa, completed) := fa.newDatafrag datafrag datafragFlags now
  ({ r with fragmentAssemblers := r.fragmentAssemblers.insert writerGuid fa }, completed)

/-- `garbage_collect_fragments`. The source reads the clock itself; the model passes it the
reading `handle_datafrag_msg` took. -/
def garbageCollectFragments (r : Reader) (now : Int) : Reader :=
  if now - r.lastFragmentGarbageCollect > minFragmentGcInterval then
    { r with
      lastFragmentGarbageCollect := now
      fragmentAssemblers := r.fragmentAssemblers.mapVal fun _ fa =>
        fa.garbageCollectBefore (now - fragmentAssemblyTimeout) }
  else r

/-- The lifespan check of `handle_datafrag_msg`. -/
def lifespanExceeded (r : Reader) (mrState : MessageReceiverState) (now : Int) : Bool :=
  match mrState.sourceTimestamp, r.qosPolicy.lifespan with
  | some sourceTimestamp, some lifespan => lifespan < now - sourceTimestamp
  | _, _ => false

/-- `handle_datafrag_msg`, received at `now`. -/
def handleDatafragMsg (r : Reader) (datafrag : DataFrag) (datafragFlags : DataFragFlags)
    (mrState : MessageReceiverState) (now : Int) : Reader × List Effect :=
  let writerGuid := GUID.newWithPrefixAndId mrState.sourceGuidPrefix datafrag.writerId
  if r.lifespanExceeded mrState now then (r, [])
  else
    let (r, completed) := r.feedDatafrag writerGuid datafrag datafragFlags now
    match completed with
    | some ddsData =>
      r.processReceivedData ddsData now (writeOptionsOf mrState datafrag.inlineQos) writerGuid
        datafrag.writerSn
    | none => (r.garbageCollectFragments now, [])

/-- `missing_frags_for`. -/
def missingFragsFor (r : Reader) (writerGuid : GUID) (seq : Int) : List Nat :=
  match r.fragmentAssemblers.find? writerGuid with
  | some fa => fa.missingFragsFor seq
  | none => []

/-- `is_frag_partially_received`. -/
def isFragPartiallyReceived (r : Reader) (writerGuid : GUID) (seq : Int) : Bool :=
  match r.fragmentAssemblers.find? writerGuid with
  | some fa => fa.isPartiallyReceived seq
  | none => false

/-! ### HEARTBEAT -/

/-- `with_mutable_writer_proxy`: take the writer's proxy out of `matched_writers`, run the
worker on the Reader without it, and put the worker's proxy back. No proxy: nothing happens
(`None`). The source panics if the worker has put a proxy of the writer back itself. -/
def withMutableWriterProxy {U : Type} (r : Reader) (writerGuid : GUID)
    (worker : Reader → RtpsWriterProxy → Reader × RtpsWriterProxy × List Effect × U) :
    Except String (Option (Reader × List Effect × U)) :=
  match r.matchedWriters.find? writerGuid with
  | none => .ok none
  | some wp =>
    let (r₁, wp₁, es, res) := worker { r with matchedWriters := r.matchedWriters.erase writerGuid } wp
    if writerGuid ∈ r₁.matchedWriters then
      .error "with_mutable_writer_proxy: Worker inserted writer proxy behind my back!"
    else .ok (some ({ r₁ with matchedWriters := r₁.matchedWriters.insert writerGuid wp₁ }, es, res))

/-- The NACKFRAGs of a HEARTBEAT reply: for each partially received sequence number, in
order, a count drawn from the proxy and, when fragments are missing, a NACKFRAG listing
them. -/
def nackFrags (r : Reader) (writerGuid : GUID) (readerId : EntityId) :
    RtpsWriterProxy → List Int → RtpsWriterProxy × List NackFrag
  | wp, [] => (wp, [])
  | wp, sn :: rest =>
    let (count, wp₁) := wp.nextAckNackSequenceNumber
    let (wp₂, nfs) := nackFrags r writerGuid readerId wp₁ rest
    match r.missingFragsFor writerGuid sn with
    | first :: more =>
      (wp₂, ⟨readerId, wp.remoteWriterGuid.entityId, sn,
        FragmentNumberSet.fromBaseAndSet first (first :: more), count⟩ :: nfs)
    | [] => (wp₂, nfs)

/-- Where a HEARTBEAT reply goes: the message's unicast reply locators, unless there are
none or only an invalid one, then the proxy's. -/
def replyLocators (mrState : MessageReceiverState) (wp : RtpsWriterProxy) : List Locator :=
  match mrState.unicastReplyLocatorList with
  | [] | [.invalid] => wp.unicastLocatorList
  | others => others

/-- `mark_reliably_received_before` on the topic cache, then `notify_cache_change` if the
watermark moved: what the HEARTBEAT and GAP handlers do once the proxy is updated. -/
def markAndNotify (topicCache : TopicCache) (writerGuid : GUID) (sn : Int) :
    TopicCache × List Effect :=
  let (topicCache, markerMoved) := topicCache.markReliablyReceivedBefore writerGuid sn
  (topicCache, .markReliablyReceivedBefore writerGuid sn ::
    if markerMoved then [.notifyCacheChange] else [])

/-- The `reader_sn_state` of a HEARTBEAT reply, and the sequence numbers left out of it
because some of their fragments have arrived: the missing numbers from the first one, up to
256 past it. -/
def readerSnState (this : Reader) (writerGuid : GUID) (wp : RtpsWriterProxy)
    (missingSeqnums : List Int) : SequenceNumberSet × List Int :=
  match missingSeqnums.head? with
  | some firstMissing =>
    let window := missingSeqnums.takeWhile fun sn => sn < wrapI64 (firstMissing + 256)
    (SequenceNumberSet.fromBaseAndSet firstMissing
        (window.filter fun sn => !this.isFragPartiallyReceived writerGuid sn),
      window.filter fun sn => this.isFragPartiallyReceived writerGuid sn)
  | none => (SequenceNumberSet.newEmpty wp.allAckableBefore, [])

/-- The reply of the `handle_heartbeat_msg` worker: the ACKNACK takes the proxy's next count,
the NACKFRAGs of the partially received numbers the counts after it; the NACKFRAGs are sent
first. -/
def heartbeatReply (this : Reader) (heartbeat : Heartbeat) (mrState : MessageReceiverState)
    (writerGuid : GUID) (wp : RtpsWriterProxy) (missingSeqnums : List Int) :
    RtpsWriterProxy × List Effect :=
  let readerId := this.myGuid.entityId
  let (snState, partiallyReceived) := this.readerSnState writerGuid wp missingSeqnums
  let (count, wp) := wp.nextAckNackSequenceNumber
  let responseAckNack : AckNack := ⟨readerId, heartbeat.writerId, snState, count⟩
  let (wp, nfs) := this.nackFrags writerGuid readerId wp partiallyReceived
  let dst := replyLocators mrState wp
  let infoDst : InfoDestination := ⟨mrState.sourceGuidPrefix⟩
  (wp, (if nfs.isEmpty then [] else [.sendNackFrags nfs infoDst dst writerGuid]) ++
    [.sendAckNack true responseAckNack infoDst dst writerGuid])

/-- The worker closure of `handle_heartbeat_msg`, run on the proxy taken out. -/
def heartbeatWorker (heartbeat : Heartbeat) (finalFlagSet : Bool)
    (mrState : MessageReceiverState) (writerGuid : GUID) (this : Reader)
    (writerProxy : RtpsWriterProxy) : Reader × RtpsWriterProxy × List Effect × Bool :=
  if heartbeat.count ≤ writerProxy.receivedHeartbeatCount then (this, writerProxy, [], false)
  else
    let wp := { writerProxy with receivedHeartbeatCount := heartbeat.count }
    let wp := wp.irrelevantChangesUpTo heartbeat.firstSn
    let (tc, marked) := markAndNotify this.topicCache writerGuid wp.allAckableBefore
    let this := { this with topicCache := tc }
    let missingSeqnums := wp.missingSeqnums heartbeat.firstSn heartbeat.lastSn
    if !missingSeqnums.isEmpty || !finalFlagSet then
      let (wp, sends) := this.heartbeatReply heartbeat mrState writerGuid wp missingSeqnums
      (this, wp, marked ++ sends, true)
    else (this, wp, marked, false)

/-- `handle_heartbeat_msg`: whether an ACKNACK was sent. -/
def handleHeartbeatMsg (r : Reader) (heartbeat : Heartbeat) (finalFlagSet : Bool)
    (mrState : MessageReceiverState) : Except String (Reader × List Effect × Bool) :=
  let writerGuid := GUID.newWithPrefixAndId mrState.sourceGuidPrefix heartbeat.writerId
  if r.reliability = .bestEffort || r.likeStateless then .ok (r, [], false)
  else if writerGuid ∉ r.matchedWriters then .ok (r, [], false)
  else
    match r.withMutableWriterProxy writerGuid
        (heartbeatWorker heartbeat finalFlagSet mrState writerGuid) with
    | .error e => .error e
    | .ok none => .ok (r, [], false)
    | .ok (some res) => .ok res

/-! ### GAP, HEARTBEATFRAG and pre-emptive ACKNACKs -/

/-- `handle_gap_msg`. -/
def handleGapMsg (r : Reader) (gap : Gap) (mrState : MessageReceiverState) :
    Reader × List Effect :=
  let writerGuid := GUID.newWithPrefixAndId mrState.sourceGuidPrefix gap.writerId
  if r.likeStateless then (r, [])
  else
    match r.matchedWriters.find? writerGuid with
    | none => (r, [])
    | some writerProxy =>
      if gap.gapStart ≤ 0 then (r, [])
      else if gap.gapList.base ≤ 0 then (r, [])
      else
        let wp := writerProxy.irrelevantChangesRange gap.gapStart gap.gapList.base
        let wp := gap.gapList.set.foldl RtpsWriterProxy.setIrrelevantChange wp
        let r := { r with matchedWriters := r.matchedWriters.insert writerGuid wp }
        let (tc, marked) := markAndNotify r.topicCache writerGuid wp.allAckableBefore
        ({ r with topicCache := tc }, marked)

/-- `handle_heartbeatfrag_msg`: not implemented, only logged. -/
def handleHeartbeatfragMsg (r : Reader) (_heartbeatfrag : HeartbeatFrag)
    (_mrState : MessageReceiverState) : Reader × List Effect :=
  (r, [])

/-- The ACKNACK `send_preemptive_acknacks` sends to a writer that has sent nothing: an empty
set based at 1, final flag clear. -/
def preemptiveAckNack (readerId : EntityId) (wp : RtpsWriterProxy) : Effect :=
  .sendAckNack false ⟨readerId, wp.remoteWriterGuid.entityId, SequenceNumberSet.newEmpty 1,
      wp.sentAckNackCount⟩ ⟨wp.remoteWriterGuid.guidPrefix⟩ wp.unicastLocatorList
    wp.remoteWriterGuid

/-- `send_preemptive_acknacks`: every proxy with no changes received draws a count and is
sent an ACKNACK, in key order. -/
def sendPreemptiveAcknacks (r : Reader) : Reader × List Effect :=
  if r.likeStateless then (r, [])
  else
    let readerId := r.myGuid.entityId
    ({ r with matchedWriters := r.matchedWriters.mapVal fun _ wp =>
          if wp.noChangesReceived then wp.nextAckNackSequenceNumber.2 else wp },
      r.matchedWriters.toList.filterMap fun (_, wp) =>
        if wp.noChangesReceived then some (preemptiveAckNack readerId wp) else none)

end Reader

end RustDds
