import RustDds.Proxies

/-!
# HEARTBEAT counts and ACKNACK counts

Two counters of a writer's proxy order the Reader's exchanges with the writer.

`received_heartbeat_count` holds the count of the last HEARTBEAT of the writer that the Reader
acted on. `handle_heartbeat_msg` acts on a HEARTBEAT only in a reliable, stateful Reader, from
a matched writer, and with a count above it (`heartbeatAccepted`); any other HEARTBEAT leaves
the whole Reader as it was, sends nothing and returns `false`. So the counts of the
HEARTBEATs the Reader acts on strictly increase, and the proxy's counter is the last of them
(`heartbeat_counts_increase`, from `Run.receivedHeartbeatCount`).

`sent_ack_nack_count` is drawn (`next_ack_nack_sequence_number`) for every ACKNACK and every
NACKFRAG the Reader sends the writer: in a reply to a HEARTBEAT the ACKNACK takes the
counter's value and the NACKFRAGs, sent before it, the values after it; a pre-emptive ACKNACK
takes the value. What a step sends the writer is nothing, or one ACKNACK with the counter's
value and NACKFRAGs with the values after it, and the counter moves past them (`CountsDrawn`,
`step_countsDrawn`). A reply draws one count per message it sends because every partially
received sequence number misses a fragment (`FragmentAssembler.missingFragsFor_ne_nil`); a
pre-emptive ACKNACK reaches the proxy's own writer because every proxy is stored under its
writer's GUID (`Reader.ProxiesWellFormed`).

The counter is an `i32` with wrapping arithmetic. While the counts drawn since the proxy was
created stay below `2^31`, it does not wrap, and the counts of the ACKNACKs sent to the writer
strictly increase, so do those of the NACKFRAGs, and no ACKNACK shares a count with a NACKFRAG
(`acknack_counts_increase`, from `Run.countsIncrease`).
-/

namespace RustDds

/-! ### The counts an effect sends -/

namespace Effect

/-- The count of the ACKNACK the effect sends to `writer`, if it sends one. -/
def ackNackCountsTo (writer : GUID) : Effect → List Int
  | .sendAckNack _ ackNack _ _ destinationGuid =>
    if destinationGuid = writer then [ackNack.count] else []
  | _ => []

/-- The counts of the NACKFRAGs the effect sends to `writer`, in order. -/
def nackFragCountsTo (writer : GUID) : Effect → List Int
  | .sendNackFrags nackFrags _ _ destinationGuid =>
    if destinationGuid = writer then nackFrags.map NackFrag.count else []
  | _ => []

theorem ackNackCountsTo_of_isSend {e : Effect} (h : e.isSend = false) (w : GUID) :
    e.ackNackCountsTo w = [] := by
  cases e <;> first | rfl | cases h

theorem nackFragCountsTo_of_isSend {e : Effect} (h : e.isSend = false) (w : GUID) :
    e.nackFragCountsTo w = [] := by
  cases e <;> first | rfl | cases h

end Effect

/-- The counts of the ACKNACKs the effects send to `writer`, in order. -/
def ackNackCounts (writer : GUID) (es : List Effect) : List Int :=
  es.flatMap (Effect.ackNackCountsTo writer)

/-- The counts of the NACKFRAGs the effects send to `writer`, in order. -/
def nackFragCounts (writer : GUID) (es : List Effect) : List Int :=
  es.flatMap (Effect.nackFragCountsTo writer)

@[simp] theorem ackNackCounts_append (w : GUID) (es₁ es₂ : List Effect) :
    ackNackCounts w (es₁ ++ es₂) = ackNackCounts w es₁ ++ ackNackCounts w es₂ :=
  List.flatMap_append _ _ _

@[simp] theorem nackFragCounts_append (w : GUID) (es₁ es₂ : List Effect) :
    nackFragCounts w (es₁ ++ es₂) = nackFragCounts w es₁ ++ nackFragCounts w es₂ :=
  List.flatMap_append _ _ _

theorem ackNackCounts_of_noSends {es : List Effect} (h : NoSends es) (w : GUID) :
    ackNackCounts w es = [] :=
  List.flatMap_eq_nil_iff.mpr fun e he => Effect.ackNackCountsTo_of_isSend (h e he) w

theorem nackFragCounts_of_noSends {es : List Effect} (h : NoSends es) (w : GUID) :
    nackFragCounts w es = [] :=
  List.flatMap_eq_nil_iff.mpr fun e he => Effect.nackFragCountsTo_of_isSend (h e he) w

/-- The ACKNACK counts sent to `writer` over the steps `L`, in the order they were sent. -/
def ackNackCountsIn (L : List StepRecord) (writer : GUID) : List Int :=
  L.flatMap fun t => ackNackCounts writer t.effects

/-- The NACKFRAG counts sent to `writer` over the steps `L`, in the order they were sent. -/
def nackFragCountsIn (L : List StepRecord) (writer : GUID) : List Int :=
  L.flatMap fun t => nackFragCounts writer t.effects

/-- The counts of the HEARTBEATs of `writer` that the steps `L` acted on, in order. -/
def heartbeatCountsIn (L : List StepRecord) (writer : GUID) : List Int :=
  L.filterMap fun t => t.pre.acceptedHeartbeat? writer t.input

theorem ackNackCountsIn_snoc (L : List StepRecord) (t : StepRecord) (w : GUID) :
    ackNackCountsIn (L ++ [t]) w = ackNackCountsIn L w ++ ackNackCounts w t.effects := by
  simp [ackNackCountsIn]

theorem nackFragCountsIn_snoc (L : List StepRecord) (t : StepRecord) (w : GUID) :
    nackFragCountsIn (L ++ [t]) w = nackFragCountsIn L w ++ nackFragCounts w t.effects := by
  simp [nackFragCountsIn]

theorem heartbeatCountsIn_snoc (L : List StepRecord) (t : StepRecord) (w : GUID) :
    heartbeatCountsIn (L ++ [t]) w =
      heartbeatCountsIn L w ++ (t.pre.acceptedHeartbeat? w t.input).toList := by
  simp only [heartbeatCountsIn, List.filterMap_append, List.filterMap_cons, List.filterMap_nil]
  cases t.pre.acceptedHeartbeat? w t.input <;> rfl

/-- The inputs that may send ACKNACKs or NACKFRAGs. -/
def Input.sendsAckNacks : Input → Bool
  | .handleHeartbeatMsg .. => true
  | .sendPreemptiveAcknacks => true
  | _ => false

/-- A step that sends nothing draws nothing. -/
theorem ProxyChange.sentAckNackCount_of_sendsAckNacks {r : Reader} {k : GUID} {i : Input}
    {wp wp' : RtpsWriterProxy} (hc : ProxyChange r k i wp wp') (hi : i.sendsAckNacks = false) :
    wp'.sentAckNackCount = wp.sentAckNackCount := by
  cases hc <;> first | rfl | cases hi

/-- **What a step draws from a writer's ACKNACK counter** at `c`, leaving it at `c'`, and
the counts of the ACKNACKs and NACKFRAGs it sends the writer: nothing, or one ACKNACK with
the counter's value and `m` NACKFRAGs with the values after it. -/
def CountsDrawn (c c' : Int) (acks nacks : List Int) : Prop :=
  (acks = [] ∧ nacks = [] ∧ c' = c) ∨
    ∃ m : Nat, acks = [c] ∧ nacks = (List.range m).map (fun j => Reader.drawCount c (j + 1)) ∧
      c' = Reader.drawCount c (m + 1)

/-! ### What the handlers send -/

namespace Reader

variable (r : Reader)

theorem markAndNotify_noSends (tc : TopicCache) (g : GUID) (sn : Int) :
    NoSends (markAndNotify tc g sn).2 := by
  rw [markAndNotify_snd]; split <;> simp

theorem processReceivedData_noSends (dd : DDSData) (t : Int) (wo : WriteOptions) (g : GUID)
    (s : Int) : NoSends (r.processReceivedData dd t wo g s).2 := by
  rw [processReceivedData_spec]
  split
  · simp only [noSends_append, noSends_cons, Effect.isSend, true_and, noSends_nil, and_true]
    unfold markAfterAdd; split <;> simp
  · exact noSends_nil

/-- A sequence number left out of an ACKNACK is partially received. -/
theorem isFragPartiallyReceived_of_mem_readerSnState {g : GUID} {wp : RtpsWriterProxy}
    {ms : List Int} {sn : Int} (h : sn ∈ (r.readerSnState g wp ms).2) :
    r.isFragPartiallyReceived g sn = true := by
  unfold readerSnState at h
  split at h
  · exact (List.mem_filter.mp h).2
  · cases h

theorem missingFragsFor_ne_nil {g : GUID} {sn : Int} (h : r.isFragPartiallyReceived g sn = true) :
    r.missingFragsFor g sn ≠ [] := by
  cases hfa : r.fragmentAssemblers.find? g <;>
    simp only [isFragPartiallyReceived, missingFragsFor, hfa, reduceCtorEq] at h ⊢
  exact FragmentAssembler.missingFragsFor_ne_nil h

/-- **The NACKFRAGs take the counter's values in turn**, one per sequence number, when each
misses a fragment. -/
theorem nackFrags_counts (g : GUID) (readerId : EntityId) (wp : RtpsWriterProxy) (sns : List Int)
    (h : ∀ sn ∈ sns, r.missingFragsFor g sn ≠ []) :
    (r.nackFrags g readerId wp sns).2.map NackFrag.count =
      (List.range sns.length).map (drawCount wp.sentAckNackCount) := by
  induction sns generalizing wp with
  | nil => rfl
  | cons sn sns ih =>
    obtain ⟨first, more, hfm⟩ := List.exists_cons_of_ne_nil (h sn (List.mem_cons_self _ _))
    simp only [nackFrags, hfm, List.map_cons, List.length_cons, List.range_succ_eq_map,
      List.map_map]
    rw [ih _ fun s hs => h s (List.mem_cons_of_mem _ hs)]
    simp [Function.comp_def, drawCount_succ, RtpsWriterProxy.nextAckNackSequenceNumber]

/-- **What a HEARTBEAT reply sends**, all to the HEARTBEAT's writer: an ACKNACK with the
counter's value, and a NACKFRAG, with the values after it, for each sequence number left out
of the ACKNACK. -/
theorem heartbeatReply_counts (hb : Heartbeat) (mr : MessageReceiverState) (g : GUID)
    (wp : RtpsWriterProxy) (ms : List Int) (w : GUID) :
    let rep := r.heartbeatReply hb mr g wp ms
    ackNackCounts w rep.2 = (if g = w then [wp.sentAckNackCount] else []) ∧
      nackFragCounts w rep.2 = if g = w then
        (List.range (r.readerSnState g wp ms).2.length).map
          (fun j => drawCount wp.sentAckNackCount (j + 1))
      else [] := by
  have hnf := r.nackFrags_counts g r.myGuid.entityId wp.nextAckNackSequenceNumber.2
    (r.readerSnState g wp ms).2 fun sn hsn => r.missingFragsFor_ne_nil (r.isFragPartiallyReceived_of_mem_readerSnState hsn)
  simp only [heartbeatReply]
  refine ⟨by split <;> simp [ackNackCounts, Effect.ackNackCountsTo], ?_⟩
  split_ifs <;> simp_all [nackFragCounts, Effect.nackFragCountsTo, drawCount_succ]

/-- **What the worker sends the writer after a new HEARTBEAT**: nothing, or an ACKNACK and
NACKFRAGs with counts drawn from its proxy. -/
theorem heartbeatWorker_countsDrawn (hb : Heartbeat) (fin : Bool) (mr : MessageReceiverState)
    (g : GUID) {wp : RtpsWriterProxy} (h : wp.receivedHeartbeatCount < hb.count) :
    let res := heartbeatWorker hb fin mr g r wp
    CountsDrawn wp.sentAckNackCount res.2.1.sentAckNackCount (ackNackCounts g res.2.2.1)
      (nackFragCounts g res.2.2.1) := by
  rw [heartbeatWorker_of_lt r fin mr g h]
  have hm := markAndNotify_noSends r.topicCache g
    ({ wp with receivedHeartbeatCount := hb.count }.irrelevantChangesUpTo hb.firstSn).allAckableBefore
  dsimp only
  split
  · obtain ⟨ha, hn⟩ := heartbeatReply_counts _ hb mr g
      ({ wp with receivedHeartbeatCount := hb.count }.irrelevantChangesUpTo hb.firstSn) _ g
    simp only [if_pos rfl] at ha hn
    refine .inr ⟨_, ?_, ?_, by rw [heartbeatReply_fst]; rfl⟩
    · rw [ackNackCounts_append, ackNackCounts_of_noSends hm, ha]; rfl
    · rw [nackFragCounts_append, nackFragCounts_of_noSends hm, hn]; rfl
  · exact .inl ⟨by simp [ackNackCounts_of_noSends hm], by simp [nackFragCounts_of_noSends hm], rfl⟩

/-- The worker sends nothing to any other writer. -/
theorem heartbeatWorker_counts_of_ne (hb : Heartbeat) (fin : Bool) (mr : MessageReceiverState)
    {g w : GUID} (hne : g ≠ w) (wp : RtpsWriterProxy) :
    ackNackCounts w (heartbeatWorker hb fin mr g r wp).2.2.1 = [] ∧
      nackFragCounts w (heartbeatWorker hb fin mr g r wp).2.2.1 = [] := by
  rcases le_or_lt hb.count wp.receivedHeartbeatCount with h | h
  · rw [heartbeatWorker_of_le r h]; exact ⟨rfl, rfl⟩
  rw [heartbeatWorker_of_lt r fin mr g h]
  have hm := markAndNotify_noSends r.topicCache g
    ({ wp with receivedHeartbeatCount := hb.count }.irrelevantChangesUpTo hb.firstSn).allAckableBefore
  dsimp only
  split
  · rw [ackNackCounts_append, nackFragCounts_append, (heartbeatReply_counts _ hb mr g _ _ w).1,
      (heartbeatReply_counts _ hb mr g _ _ w).2]
    simp [ackNackCounts_of_noSends hm, nackFragCounts_of_noSends hm, hne]
  · simp [ackNackCounts_of_noSends hm, nackFragCounts_of_noSends hm]

/-- **What the pre-emptive ACKNACKs send a writer**: one ACKNACK with its proxy's counter, when
nothing has been received from it, and no NACKFRAG. -/
theorem sendPreemptiveAcknacks_counts (hw : r.ProxiesWellFormed) {w : GUID}
    {wp : RtpsWriterProxy} (hwp : r.matchedWriters.find? w = some wp) :
    ackNackCounts w r.sendPreemptiveAcknacks.2 =
        (if r.likeStateless = false ∧ wp.noChangesReceived = true then [wp.sentAckNackCount]
          else []) ∧
      nackFragCounts w r.sendPreemptiveAcknacks.2 = [] := by
  unfold sendPreemptiveAcknacks
  split
  · rename_i hs; simp [hs, ackNackCounts, nackFragCounts]
  rename_i hs
  simp only [Bool.not_eq_true] at hs
  dsimp only
  refine ⟨?_, List.flatMap_eq_nil_iff.mpr fun e he => ?_⟩
  · rw [ackNackCounts, List.filterMap_eq_flatMap_toList, List.flatMap_assoc,
      OrdMap.flatMap_toList _ w fun k v hv hk => ?_, hwp]
    · by_cases hc : wp.noChangesReceived = true
      · simp [hc, hs, preemptiveAckNack, Effect.ackNackCountsTo, hw.key_eq w wp hwp]
      · simp [hc]
    · split <;> simp [preemptiveAckNack, Effect.ackNackCountsTo, hw.key_eq k v hv, hk]
  · obtain ⟨⟨k, v⟩, -, he⟩ := List.mem_filterMap.mp he
    by_cases hc : v.noChangesReceived = true
    · simp only [hc, if_true, Option.some.injEq] at he; subst he; rfl
    · simp [hc] at he

end Reader

/-! ### What a step sends a writer -/

namespace Reader

variable {cfw : QosPolicies → QosPolicies → Option QosPolicyId} {r r' : Reader} {i : Input}
  {es : List Effect}

/-- **Only HEARTBEAT and pre-emptive steps send ACKNACKs or NACKFRAGs.** -/
theorem step_noSends (h : r.step cfw i = .ok (r', es)) (hi : i.sendsAckNacks = false) :
    NoSends es := by
  cases i <;> simp only [Input.sendsAckNacks, reduceCtorEq] at hi
  case handleDataMsg d f mr now =>
    rcases step_sample_cases h with ⟨-, rfl⟩ | ⟨dd, h⟩
    · exact noSends_nil
    · obtain ⟨-, rfl⟩ := Prod.ext_iff.mp h; exact processReceivedData_noSends _ _ _ _ _ _
  case handleDatafragMsg d f mr now =>
    rcases step_fragment_cases h with ⟨l, fa, -, rfl⟩ | ⟨fa, dd, h⟩
    · exact noSends_nil
    · obtain ⟨-, rfl⟩ := Prod.ext_iff.mp h; exact processReceivedData_noSends _ _ _ _ _ _
  all_goals simp only [step, Except.ok.injEq, Prod.ext_iff] at h; obtain ⟨rfl, rfl⟩ := h
  case updateWriterProxy => exact (updateWriterProxy_frame cfw r _ _).2.noSends
  case removeWriterProxy => exact (r.removeWriterProxy_onlyReports _).noSends
  case participantLost => exact (r.removeWriterProxies_onlyReports _).noSends
  case handleGapMsg gap mr =>
    rcases handleGapMsg_cases r gap mr with ⟨wp, hs, hwp, h₁, h₂⟩ | ⟨-, h⟩
    · rw [handleGapMsg_of_valid r rfl hs hwp h₁ h₂]; exact markAndNotify_noSends _ _ _
    · rw [h]; exact noSends_nil
  case handleTimedEvent => exact (r.handleTimedEvent_onlyReports _ _).noSends
  all_goals exact noSends_nil

/-- **Every step draws from the ACKNACK counter of a writer that stays matched exactly the
counts it sends the writer.** -/
theorem step_countsDrawn (h : r.step cfw i = .ok (r', es)) (hw : r.ProxiesWellFormed)
    {w : GUID} {wp wp' : RtpsWriterProxy} (hwp : r.matchedWriters.find? w = some wp)
    (hwp' : r'.matchedWriters.find? w = some wp') :
    CountsDrawn wp.sentAckNackCount wp'.sentAckNackCount (ackNackCounts w es)
      (nackFragCounts w es) := by
  cases hi : i.sendsAckNacks
  · have hn := step_noSends h hi
    exact .inl ⟨ackNackCounts_of_noSends hn w, nackFragCounts_of_noSends hn w,
      (step_proxyChange h hwp hwp').sentAckNackCount_of_sendsAckNacks hi⟩
  cases i <;> simp only [Input.sendsAckNacks, reduceCtorEq] at hi
  case handleHeartbeatMsg hb fin mr =>
    rcases step_handleHeartbeatMsg_cases h with ⟨-, rfl, rfl⟩ | ⟨wp₀, hacc, hwp₀, rfl, rfl⟩
    · rw [hwp] at hwp'; cases hwp'; exact .inl ⟨rfl, rfl, rfl⟩
    by_cases hg : GUID.newWithPrefixAndId mr.sourceGuidPrefix hb.writerId = w
    · subst hg
      rw [hwp] at hwp₀; cases hwp₀
      rw [OrdMap.find?_insert_self] at hwp'; cases hwp'
      exact heartbeatWorker_countsDrawn _ hb fin mr _ (lt_of_heartbeatAccepted r hacc hwp)
    · rw [OrdMap.find?_insert, if_neg hg, hwp] at hwp'
      cases hwp'
      obtain ⟨h₁, h₂⟩ := heartbeatWorker_counts_of_ne _ hb fin mr hg wp₀
      exact .inl ⟨h₁, h₂, rfl⟩
  case sendPreemptiveAcknacks =>
    simp only [step, Except.ok.injEq, Prod.ext_iff] at h; obtain ⟨rfl, rfl⟩ := h
    obtain ⟨h₁, h₂⟩ := r.sendPreemptiveAcknacks_counts hw hwp
    rw [sendPreemptiveAcknacks_find?, hwp, Option.map_some', Option.some.injEq] at hwp'
    subst hwp'
    split_ifs at h₁ ⊢
    · exact .inr ⟨0, h₁, h₂, rfl⟩
    · exact .inl ⟨h₁, h₂, rfl⟩

end Reader

/-! ### Along a run -/

/-- What the counts sent to a writer satisfy while its ACKNACK counter `c` has not wrapped:
each kind strictly increases, every count is below the counter, and no ACKNACK count is a
NACKFRAG count. -/
structure CountsIncrease (acks nacks : List Int) (c : Int) : Prop where
  acks_increase : acks.Pairwise (· < ·)
  nacks_increase : nacks.Pairwise (· < ·)
  acks_lt : ∀ x ∈ acks, x < c
  nacks_lt : ∀ x ∈ nacks, x < c
  disjoint : ∀ x ∈ acks, x ∉ nacks

/-- An ACKNACK with the counter's value and `m` NACKFRAGs with the values after it keep the
counts increasing. -/
theorem CountsIncrease.append {acks nacks : List Int} {c : Int} (h : CountsIncrease acks nacks c)
    (m : Nat) :
    CountsIncrease (acks ++ [c]) (nacks ++ (List.range m).map (fun j : Nat => c + ↑(j + 1)))
      (c + ↑(m + 1)) := by
  have hnew : ∀ y ∈ (List.range m).map (fun j : Nat => c + ↑(j + 1)), c < y ∧ y < c + ↑(m + 1) :=
    fun y hy => by
      obtain ⟨j, hj, rfl⟩ := List.mem_map.mp hy
      have := List.mem_range.mp hj
      omega
  refine ⟨List.pairwise_append.mpr ⟨h.acks_increase, List.pairwise_singleton _ _, ?_⟩,
    List.pairwise_append.mpr ⟨h.nacks_increase, ?_, ?_⟩, ?_, ?_, ?_⟩
  · intro x hx y hy
    rw [List.mem_singleton.mp hy]; exact h.acks_lt x hx
  · exact List.pairwise_map.mpr ((List.pairwise_lt_range m).imp fun hab => by omega)
  · intro x hx y hy
    have := h.nacks_lt x hx; have := hnew y hy; omega
  · intro x hx
    rcases List.mem_append.mp hx with hx | hx
    · have := h.acks_lt x hx; omega
    · rw [List.mem_singleton.mp hx]; omega
  · intro x hx
    rcases List.mem_append.mp hx with hx | hx
    · have := h.nacks_lt x hx; omega
    · exact (hnew x hx).2
  · intro x hx hx'
    rcases List.mem_append.mp hx with hx | hx <;> rcases List.mem_append.mp hx' with hx' | hx'
    · exact h.disjoint x hx hx'
    · have := h.acks_lt x hx; have := hnew x hx'; omega
    · rw [List.mem_singleton.mp hx] at hx'; have := h.nacks_lt c hx'; omega
    · rw [List.mem_singleton.mp hx] at hx'; have := hnew c hx'; omega

namespace Run

variable {cfw : QosPolicies → QosPolicies → Option QosPolicyId} {r₀ r : Reader}
  {L : List StepRecord}

/-- **The HEARTBEAT counter along a run**: while a writer stays matched, the counts of its
HEARTBEATs the Reader acted on strictly increase from the counter's first value, and the
counter holds the last of them. -/
theorem receivedHeartbeatCount (h : Run cfw r₀ L r) {w : GUID} {wp₀ : RtpsWriterProxy}
    (hwp₀ : r₀.matchedWriters.find? w = some wp₀)
    (hstay : ∀ t ∈ L, w ∈ t.post.matchedWriters) :
    ∃ wp, r.matchedWriters.find? w = some wp ∧
      (wp₀.receivedHeartbeatCount :: heartbeatCountsIn L w).Pairwise (· < ·) ∧
      (∀ c ∈ wp₀.receivedHeartbeatCount :: heartbeatCountsIn L w, c ≤ wp.receivedHeartbeatCount) ∧
      wp.receivedHeartbeatCount =
        (heartbeatCountsIn L w).getLast?.getD wp₀.receivedHeartbeatCount := by
  induction h with
  | nil => exact ⟨wp₀, hwp₀, List.pairwise_singleton _ _, by simp [heartbeatCountsIn], rfl⟩
  | @snoc L r r' i es h' hstep ih =>
    obtain ⟨wp, hwp, hinc, hle, hlast⟩ := ih fun t ht => hstay t (List.mem_append_left _ ht)
    obtain ⟨wp', hwp'⟩ := OrdMap.mem_iff.mp
      (hstay _ (List.mem_append_right _ (List.mem_singleton_self _)))
    have hc := (Reader.step_proxyChange hstep hwp hwp').receivedHeartbeatCount_eq
    refine ⟨wp', hwp', ?_⟩
    rw [heartbeatCountsIn_snoc]
    cases ha : r.acceptedHeartbeat? w i with
    | none =>
      rw [ha, Option.getD_none] at hc
      rw [Option.toList_none, List.append_nil, hc]
      exact ⟨hinc, hle, hlast⟩
    | some c =>
      rw [ha, Option.getD_some] at hc
      have hlt := Reader.lt_of_acceptedHeartbeat? hwp ha
      rw [Option.toList_some, ← List.cons_append, List.getLast?_concat, Option.getD_some, hc]
      refine ⟨List.pairwise_append.mpr ⟨hinc, List.pairwise_singleton _ _, ?_⟩, ?_, rfl⟩
      · intro a ha b hb
        rw [List.mem_singleton.mp hb]; exact lt_of_le_of_lt (hle a ha) hlt
      · intro a ha
        rcases List.mem_append.mp ha with ha | ha
        · exact (hle a ha).trans hlt.le
        · exact (List.mem_singleton.mp ha).le

/-- **The ACKNACK counter along a run**: while a writer stays matched and its counter does
not wrap, the counter has drawn exactly the counts sent to the writer, and they increase. -/
theorem countsIncrease (h : Run cfw r₀ L r) (hw₀ : r₀.ProxiesWellFormed) {w : GUID}
    {wp₀ : RtpsWriterProxy} (hwp₀ : r₀.matchedWriters.find? w = some wp₀)
    (hstay : ∀ t ∈ L, w ∈ t.post.matchedWriters) :
    ∃ wp, r.matchedWriters.find? w = some wp ∧
      (wp₀.sentAckNackCount + (ackNackCountsIn L w).length + (nackFragCountsIn L w).length <
          2147483648 →
        wp.sentAckNackCount =
            wp₀.sentAckNackCount + (ackNackCountsIn L w).length + (nackFragCountsIn L w).length ∧
          CountsIncrease (ackNackCountsIn L w) (nackFragCountsIn L w) wp.sentAckNackCount) := by
  induction h with
  | nil =>
    refine ⟨wp₀, hwp₀, fun _ => ⟨by simp [ackNackCountsIn, nackFragCountsIn], ?_⟩⟩
    exact ⟨List.Pairwise.nil, List.Pairwise.nil, by simp [ackNackCountsIn],
      by simp [nackFragCountsIn], by simp [ackNackCountsIn]⟩
  | @snoc L r r' i es h' hstep ih =>
    obtain ⟨wp, hwp, ih⟩ := ih fun t ht => hstay t (List.mem_append_left _ ht)
    obtain ⟨wp', hwp'⟩ := OrdMap.mem_iff.mp
      (hstay _ (List.mem_append_right _ (List.mem_singleton_self _)))
    have hw := h'.proxiesWellFormed hw₀
    have hrange := (hw.count_mem_range w wp hwp).1
    refine ⟨wp', hwp', fun hb => ?_⟩
    rw [ackNackCountsIn_snoc, nackFragCountsIn_snoc] at hb ⊢
    simp only [List.length_append] at hb
    obtain ⟨hc, hinc⟩ := ih (by omega)
    rcases Reader.step_countsDrawn hstep hw hwp hwp' with ⟨ha, hn, hc'⟩ | ⟨m, ha, hn, hc'⟩
    · rw [ha, hn] at hb ⊢
      simp only [List.append_nil, List.length_nil, hc'] at hb ⊢
      exact ⟨by omega, hinc⟩
    · rw [ha, hn] at hb ⊢
      simp only [List.length_singleton, List.length_map, List.length_range] at hb
      have hm : ∀ j ∈ List.range m, Reader.drawCount wp.sentAckNackCount (j + 1) =
          wp.sentAckNackCount + (j + 1) := fun j hj => by
        have := List.mem_range.mp hj
        exact_mod_cast Reader.drawCount_eq_add hrange (by push_cast; omega)
      rw [List.map_congr_left hm, hc', Reader.drawCount_eq_add hrange (by push_cast; omega)]
      simp only [List.length_append, List.length_singleton, List.length_map, List.length_range]
      exact ⟨by push_cast; omega, hinc.append m⟩

end Run

/-- **HEARTBEAT counts**: while a writer stays matched, a HEARTBEAT of it changes the Reader
or is answered exactly when the Reader accepts it; the counts of the HEARTBEATs accepted
strictly increase from the proxy's count, which ends at the last of them; and in every state a
HEARTBEAT to a BestEffort or stateless Reader, of an unmatched writer, or with a count not
above the proxy's changes nothing, sends nothing and returns `false`. -/
theorem heartbeat_counts_increase {cfw : QosPolicies → QosPolicies → Option QosPolicyId}
    {r₀ r : Reader} {L : List StepRecord} (hrun : Run cfw r₀ L r) {w : GUID}
    {wp₀ : RtpsWriterProxy} (hwp₀ : r₀.matchedWriters.find? w = some wp₀)
    (hstay : ∀ t ∈ L, w ∈ t.post.matchedWriters) :
    (∀ t ∈ L, ∀ hb fin mr, t.input = .handleHeartbeatMsg hb fin mr →
        GUID.newWithPrefixAndId mr.sourceGuidPrefix hb.writerId = w →
        (t.pre.heartbeatAccepted w hb = true ↔ ¬(t.post = t.pre ∧ t.effects = []))) ∧
    (∃ wp, r.matchedWriters.find? w = some wp ∧
      (wp₀.receivedHeartbeatCount :: heartbeatCountsIn L w).Pairwise (· < ·) ∧
      wp.receivedHeartbeatCount =
        (heartbeatCountsIn L w).getLast?.getD wp₀.receivedHeartbeatCount) ∧
    ∀ (s : Reader) (hb : Heartbeat) (fin : Bool) (mr : MessageReceiverState),
      let g := GUID.newWithPrefixAndId mr.sourceGuidPrefix hb.writerId
      (s.reliability = .bestEffort ∨ s.likeStateless = true ∨ g ∉ s.matchedWriters ∨
          ∃ wp, s.matchedWriters.find? g = some wp ∧ hb.count ≤ wp.receivedHeartbeatCount) →
        s.handleHeartbeatMsg hb fin mr = .ok (s, [], false) := by
  refine ⟨fun t ht hb fin mr hi hg => ?_, ?_, fun s hb fin mr hno => ?_⟩
  · have hstep := hrun.step_of_mem ht
    rw [hi] at hstep
    subst hg
    rcases Reader.step_handleHeartbeatMsg_cases hstep with ⟨hacc, hpost, hes⟩ |
      ⟨wp, hacc, hwp, hpost, -⟩
    · simp [hacc, hpost, hes]
    · refine ⟨fun _ ⟨heq, _⟩ => ?_, fun _ => hacc⟩
      have hlt := Reader.lt_of_heartbeatAccepted _ hacc hwp
      obtain ⟨n, hn⟩ := ProxyChange.heartbeat_proxy t.pre
        (GUID.newWithPrefixAndId mr.sourceGuidPrefix hb.writerId) fin mr hlt
      -- the proxy the worker put back holds the HEARTBEAT's count, above the old one
      have hcount := congrArg (fun r : Reader => (r.matchedWriters.find?
        (GUID.newWithPrefixAndId mr.sourceGuidPrefix hb.writerId)).map
          RtpsWriterProxy.receivedHeartbeatCount) (hpost.symm.trans heq)
      simp only [OrdMap.find?_insert_self, hn, hwp, Option.map_some', Option.some.injEq] at hcount
      omega
  · obtain ⟨wp, hwp, hinc, -, hlast⟩ := hrun.receivedHeartbeatCount hwp₀ hstay
    exact ⟨wp, hwp, hinc, hlast⟩
  · refine Reader.handleHeartbeatMsg_of_not_accepted s fin (Bool.eq_false_iff.mpr fun hacc => ?_)
    obtain ⟨h₁, h₂, wp, hwp, hlt⟩ := (Reader.heartbeatAccepted_iff s).mp hacc
    rcases hno with h | h | h | ⟨wp', hwp', hle⟩
    · exact h₁ h
    · rw [h₂] at h; cases h
    · exact h (OrdMap.mem_iff.mpr ⟨wp, hwp⟩)
    · rw [hwp] at hwp'; cases hwp'; omega

/-- The Reader of the example run, with `exampleWriter` matched, asks it for a HEARTBEAT. -/
def examplePreemptive : StepRecord :=
  let res := exampleMatch.post.sendPreemptiveAcknacks
  ⟨exampleMatch.post, .sendPreemptiveAcknacks, res.2, res.1⟩

/-- `exampleWriter` announces its samples 1 and 2, with count 1. -/
def exampleHeartbeatMsg : Heartbeat := ⟨⟨0, ⟨0⟩⟩, exampleWriter.entityId, 1, 2, 1⟩

/-- The HEARTBEAT step from `pre`. -/
def exampleHeartbeat (pre : Reader) : StepRecord :=
  let mr : MessageReceiverState := ⟨exampleWriter.guidPrefix, [], [], none⟩
  let res := (pre.handleHeartbeatMsg exampleHeartbeatMsg false mr).toOption.getD (pre, [], false)
  ⟨pre, .handleHeartbeatMsg exampleHeartbeatMsg false mr, res.2.1, res.1⟩

/-- The pre-emptive ACKNACK, the HEARTBEAT, and the same HEARTBEAT again. -/
def exampleHeartbeatSteps : List StepRecord :=
  [examplePreemptive, exampleHeartbeat examplePreemptive.post,
    exampleHeartbeat (exampleHeartbeat examplePreemptive.post).post]

theorem exampleHeartbeatRun :
    Run exampleCompliance exampleMatch.post exampleHeartbeatSteps
      (exampleHeartbeat (exampleHeartbeat examplePreemptive.post).post).post :=
  (Run.snoc (Run.snoc (Run.snoc Run.nil rfl) rfl) rfl :
    Run exampleCompliance exampleMatch.post ([] ++ [examplePreemptive] ++
      [exampleHeartbeat examplePreemptive.post] ++
      [exampleHeartbeat (exampleHeartbeat examplePreemptive.post).post]) _)

/-- In the example run the Reader acts on the first copy of the HEARTBEAT only. -/
theorem example_heartbeat_counts_increase :
    (∀ t ∈ exampleHeartbeatSteps, ∀ hb fin mr, t.input = .handleHeartbeatMsg hb fin mr →
        GUID.newWithPrefixAndId mr.sourceGuidPrefix hb.writerId = exampleWriter →
        (t.pre.heartbeatAccepted exampleWriter hb = true ↔ ¬(t.post = t.pre ∧ t.effects = []))) ∧
    (∃ wp, (exampleHeartbeat (exampleHeartbeat examplePreemptive.post).post).post.matchedWriters.find?
        exampleWriter = some wp ∧
      ((RtpsWriterProxy.new exampleWriter [] [] ⟨0, ⟨0⟩⟩).receivedHeartbeatCount ::
        heartbeatCountsIn exampleHeartbeatSteps exampleWriter).Pairwise (· < ·) ∧
      wp.receivedHeartbeatCount = (heartbeatCountsIn exampleHeartbeatSteps exampleWriter).getLast?.getD
        (RtpsWriterProxy.new exampleWriter [] [] ⟨0, ⟨0⟩⟩).receivedHeartbeatCount) ∧
    ∀ (s : Reader) (hb : Heartbeat) (fin : Bool) (mr : MessageReceiverState),
      let g := GUID.newWithPrefixAndId mr.sourceGuidPrefix hb.writerId
      (s.reliability = .bestEffort ∨ s.likeStateless = true ∨ g ∉ s.matchedWriters ∨
          ∃ wp, s.matchedWriters.find? g = some wp ∧ hb.count ≤ wp.receivedHeartbeatCount) →
        s.handleHeartbeatMsg hb fin mr = .ok (s, [], false) :=
  heartbeat_counts_increase exampleHeartbeatRun rfl (by decide)

/-- **ACKNACK and NACKFRAG counts**: in a run from a reachable state, while a writer stays
matched and fewer than `2^31` counts have been drawn from its proxy, the counts of the
ACKNACKs sent to it strictly increase in the order they are sent, so do those of the
NACKFRAGs, and no ACKNACK carries the count of a NACKFRAG. -/
theorem acknack_counts_increase {cfw : QosPolicies → QosPolicies → Option QosPolicyId}
    {r₀ r : Reader} {L : List StepRecord} (hreach : Reachable cfw r₀) (hrun : Run cfw r₀ L r)
    {w : GUID} {wp₀ : RtpsWriterProxy} (hwp₀ : r₀.matchedWriters.find? w = some wp₀)
    (hstay : ∀ t ∈ L, w ∈ t.post.matchedWriters)
    (hbound : wp₀.sentAckNackCount + (ackNackCountsIn L w).length +
      (nackFragCountsIn L w).length < 2147483648) :
    (ackNackCountsIn L w).Pairwise (· < ·) ∧ (nackFragCountsIn L w).Pairwise (· < ·) ∧
      ∀ c ∈ ackNackCountsIn L w, c ∉ nackFragCountsIn L w := by
  obtain ⟨wp, -, h⟩ := hrun.countsIncrease hreach.proxiesWellFormed hwp₀ hstay
  obtain ⟨-, h⟩ := h hbound
  exact ⟨h.acks_increase, h.nacks_increase, h.disjoint⟩

/-- In the example run the pre-emptive ACKNACK has count 0 and the reply to the HEARTBEAT
count 1. -/
theorem example_acknack_counts_increase :
    (ackNackCountsIn exampleHeartbeatSteps exampleWriter).Pairwise (· < ·) ∧
      (nackFragCountsIn exampleHeartbeatSteps exampleWriter).Pairwise (· < ·) ∧
      ∀ c ∈ ackNackCountsIn exampleHeartbeatSteps exampleWriter,
        c ∉ nackFragCountsIn exampleHeartbeatSteps exampleWriter :=
  acknack_counts_increase
    ⟨exampleIngredients, 0, exampleReader, [exampleMatch], new_exampleIngredients,
      (Run.snoc Run.nil rfl : Run exampleCompliance exampleReader ([] ++ [exampleMatch]) _)⟩
    exampleHeartbeatRun rfl (by decide) (by decide)

end RustDds
