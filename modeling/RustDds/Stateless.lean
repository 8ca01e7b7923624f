import RustDds.Heartbeat

/-!
# The stateless Reader

A Reader built with `like_stateless` keeps no writer proxies. `Reader::new` refuses a
stateless Reader that is not BestEffort, `update_writer_proxy`, `handle_heartbeat_msg`,
`handle_gap_msg` and `send_preemptive_acknacks` return at once, and `process_received_data`
stores every sample without asking a proxy whether it is new.

The configuration never changes along a run (`Run.config`), so every state a stateless Reader
reaches is stateless. That no step matches a writer in a stateless Reader is read off
`step_mem_matchedWriters`: discovery matches a writer only in a stateful Reader, and no other
input adds one. The rest holds in every stateless state, whatever it holds
(`handleHeartbeatMsg_of_likeStateless`, `processReceivedData_of_likeStateless`), and
`stateless_reader_keeps_no_proxies` puts them together for the states a run reaches.
-/

namespace RustDds

namespace Reader

variable (r : Reader)

/-- A stateless Reader acts on no HEARTBEAT. -/
theorem handleHeartbeatMsg_of_likeStateless (hs : r.likeStateless = true) (hb : Heartbeat)
    (fin : Bool) (mr : MessageReceiverState) : r.handleHeartbeatMsg hb fin mr = .ok (r, [], false) :=
  r.handleHeartbeatMsg_of_not_accepted fin (by simp [heartbeatAccepted, hs])

/-- A stateless Reader stores every sample it is handed, then wakes the DataReader. -/
theorem processReceivedData_of_likeStateless (hs : r.likeStateless = true) (dd : DDSData)
    (t : Int) (wo : WriteOptions) (g : GUID) (s : Int) :
    r.processReceivedData dd t wo g s =
      ({ r with topicCache := r.topicCache.addChange t ⟨g, s, wo, dd⟩ },
        [.addChange t ⟨g, s, wo, dd⟩, .notifyCacheChange]) := by
  rw [processReceivedData_spec, if_pos (by simp [acceptsData, hs]),
    recordReceived_of_not_find? r s t (.inl hs)]
  simp [markAfterAdd, hs]

/-- **A stateless Reader stores every DATA whose contents decode**, whatever its writer. -/
theorem handleDataMsg_of_likeStateless (hs : r.likeStateless = true) {d : Data} {f : DataFlags}
    {dd : DDSData} (hdd : dataToDdsData d f = .ok dd) (mr : MessageReceiverState) (t : Int) :
    (r.handleDataMsg d f mr t).1.topicCache = r.topicCache.addChange t
      ⟨GUID.newWithPrefixAndId mr.sourceGuidPrefix d.writerId, d.writerSn,
        writeOptionsOf mr d.inlineQos, dd⟩ := by
  simp only [handleDataMsg, hdd, r.processReceivedData_of_likeStateless hs]

/-- **A stateless Reader stores every sample a DATAFRAG completes**, whatever its writer. -/
theorem handleDatafragMsg_of_likeStateless (hs : r.likeStateless = true) {d : DataFrag}
    {f : DataFragFlags} {mr : MessageReceiverState} {t : Int} {dd : DDSData}
    (hl : r.lifespanExceeded mr t = false)
    (hc : (r.feedDatafrag (GUID.newWithPrefixAndId mr.sourceGuidPrefix d.writerId) d f t).2 =
      some dd) :
    (r.handleDatafragMsg d f mr t).1.topicCache = r.topicCache.addChange t
      ⟨GUID.newWithPrefixAndId mr.sourceGuidPrefix d.writerId, d.writerSn,
        writeOptionsOf mr d.inlineQos, dd⟩ := by
  obtain ⟨fa, hfeed⟩ : ∃ fa, r.feedDatafrag (GUID.newWithPrefixAndId mr.sourceGuidPrefix d.writerId)
      d f t = ({ r with fragmentAssemblers := fa }, some dd) := ⟨_, Prod.ext rfl hc⟩
  simp only [handleDatafragMsg, hl, Bool.false_eq_true, if_false, hfeed]
  rw [processReceivedData_of_likeStateless { r with fragmentAssemblers := fa } hs]

variable {cfw : QosPolicies → QosPolicies → Option QosPolicyId} {r r' : Reader} {i : Input}
  {es : List Effect}

/-- No step matches a writer in a stateless Reader. -/
theorem step_matchedWriters_of_likeStateless (h : r.step cfw i = .ok (r', es))
    (hs : r.likeStateless = true) (hm : r.matchedWriters = ∅) : r'.matchedWriters = ∅ :=
  OrdMap.eq_empty_of_forall_not_mem fun k hk => by
    have := (step_mem_matchedWriters h k).mp hk
    cases i <;> simp_all [matchedAfter]

/-- A stateless Reader sends no ACKNACK and no NACKFRAG. -/
theorem step_noSends_of_likeStateless (h : r.step cfw i = .ok (r', es))
    (hs : r.likeStateless = true) : NoSends es := by
  cases hi : i.sendsAckNacks
  · exact step_noSends h hi
  cases i <;> simp only [Input.sendsAckNacks, reduceCtorEq] at hi
  case handleHeartbeatMsg hb fin mr =>
    obtain ⟨sent, h'⟩ := step_handleHeartbeatMsg h
    rw [r.handleHeartbeatMsg_of_likeStateless hs] at h'
    cases h'; exact noSends_nil
  case sendPreemptiveAcknacks =>
    simp only [step, r.sendPreemptiveAcknacks_of_likeStateless hs, Except.ok.injEq,
      Prod.mk.injEq] at h
    rw [← h.2]; exact noSends_nil

end Reader

/-- **The stateless Reader**: in every state a Reader built with `like_stateless` reaches, no
writer is matched and `contains_writer` is false; discovery, HEARTBEATs, GAPs and pre-emptive
ACKNACKs change nothing and send nothing, and no step of the run sent an ACKNACK or a
NACKFRAG; every DATA whose contents decode and every sample a DATAFRAG completes is stored in
the topic cache, whatever its writer and whatever was stored before. -/
theorem stateless_reader_keeps_no_proxies {cfw : QosPolicies → QosPolicies → Option QosPolicyId}
    {ingredients : ReaderIngredients} {now : Int} {r₀ r : Reader} {L : List StepRecord}
    (hnew : Reader.new ingredients now = .ok r₀) (hs : ingredients.likeStateless = true)
    (hrun : Run cfw r₀ L r) :
    r.matchedWriters = ∅ ∧ (∀ e, r.containsWriter e = false) ∧
    (∀ p q, r.updateWriterProxy cfw p q = (r, [])) ∧
    (∀ hb fin mr, r.handleHeartbeatMsg hb fin mr = .ok (r, [], false)) ∧
    (∀ gap mr, r.handleGapMsg gap mr = (r, [])) ∧
    r.sendPreemptiveAcknacks = (r, []) ∧
    (∀ t ∈ L, NoSends t.effects) ∧
    (∀ d f mr t dd, Reader.dataToDdsData d f = .ok dd →
      (r.handleDataMsg d f mr t).1.topicCache = r.topicCache.addChange t
        ⟨GUID.newWithPrefixAndId mr.sourceGuidPrefix d.writerId, d.writerSn,
          Reader.writeOptionsOf mr d.inlineQos, dd⟩) ∧
    (∀ d f mr t dd, r.lifespanExceeded mr t = false →
      (r.feedDatafrag (GUID.newWithPrefixAndId mr.sourceGuidPrefix d.writerId) d f t).2 =
        some dd →
      (r.handleDatafragMsg d f mr t).1.topicCache = r.topicCache.addChange t
        ⟨GUID.newWithPrefixAndId mr.sourceGuidPrefix d.writerId, d.writerSn,
          Reader.writeOptionsOf mr d.inlineQos, dd⟩) := by
  obtain ⟨-, -, hs₀, -, -, -, -, -, hm₀, -⟩ := Reader.new_eq_ok hnew
  have hs₀ : r₀.likeStateless = true := hs₀.trans hs
  have hsr : r.likeStateless = true := hrun.config.1.trans hs₀
  have hm : r.matchedWriters = ∅ :=
    (hrun.invariant (P := fun r => r.likeStateless = true ∧ r.matchedWriters = ∅)
      (fun _ _ _ _ ⟨h₁, h₂⟩ hstep => ⟨(Reader.step_config hstep).1.trans h₁,
        Reader.step_matchedWriters_of_likeStateless hstep h₁ h₂⟩) ⟨hs₀, hm₀⟩).2
  refine ⟨hm, fun e => by simp [Reader.containsWriter, hsr],
    fun p q => Reader.updateWriterProxy_of_likeStateless cfw r p q hsr,
    r.handleHeartbeatMsg_of_likeStateless hsr, fun gap mr => r.handleGapMsg_of_not_valid (.inl hsr),
    r.sendPreemptiveAcknacks_of_likeStateless hsr, fun t ht => ?_,
    fun d f mr t dd hdd => r.handleDataMsg_of_likeStateless hsr hdd mr t,
    fun d f mr t dd hl hc => r.handleDatafragMsg_of_likeStateless hsr hl hc⟩
  exact Reader.step_noSends_of_likeStateless (hrun.step_of_mem ht)
    ((hrun.config_pre ht).1.trans hs₀)

/-- The ingredients of a stateless BestEffort Reader on a new topic. -/
def exampleStatelessIngredients : ReaderIngredients :=
  ⟨⟨⟨2⟩, ⟨2, ⟨7⟩⟩⟩, "topic", TopicCache.new "topic", true, QosPolicies.default⟩

/-- The Reader `Reader::new` builds from `exampleStatelessIngredients` at time 0. -/
def exampleStatelessReader : Reader :=
  { likeStateless := true, reliability := .bestEffort, topicCache := TopicCache.new "topic",
    topicName := "topic", qosPolicy := QosPolicies.default, myGuid := ⟨⟨2⟩, ⟨2, ⟨7⟩⟩⟩,
    fragmentAssemblers := ∅, lastFragmentGarbageCollect := 0, matchedWriters := ∅,
    writerMatchCountTotal := 0, requestedDeadlineMissedCount := 0,
    offeredIncompatibleQosCount := 0 }

/-- The stateless Reader is offered `exampleWriter`, which it ignores. -/
def exampleStatelessMatch : StepRecord :=
  let res := exampleStatelessReader.updateWriterProxy exampleCompliance
    (RtpsWriterProxy.new exampleWriter [] [] ⟨0, ⟨0⟩⟩) QosPolicies.default
  ⟨exampleStatelessReader, .updateWriterProxy exampleWriter [] [] ⟨0, ⟨0⟩⟩ QosPolicies.default,
    res.2, res.1⟩

/-- After the offer the stateless Reader still matches no writer and sends nothing. -/
theorem example_stateless_reader_keeps_no_proxies :
    let r := exampleStatelessMatch.post
    r.matchedWriters = ∅ ∧ (∀ e, r.containsWriter e = false) ∧
    (∀ p q, r.updateWriterProxy exampleCompliance p q = (r, [])) ∧
    (∀ hb fin mr, r.handleHeartbeatMsg hb fin mr = .ok (r, [], false)) ∧
    (∀ gap mr, r.handleGapMsg gap mr = (r, [])) ∧
    r.sendPreemptiveAcknacks = (r, []) ∧
    (∀ t ∈ [exampleStatelessMatch], NoSends t.effects) ∧
    (∀ d f mr t dd, Reader.dataToDdsData d f = .ok dd →
      (r.handleDataMsg d f mr t).1.topicCache = r.topicCache.addChange t
        ⟨GUID.newWithPrefixAndId mr.sourceGuidPrefix d.writerId, d.writerSn,
          Reader.writeOptionsOf mr d.inlineQos, dd⟩) ∧
    (∀ d f mr t dd, r.lifespanExceeded mr t = false →
      (r.feedDatafrag (GUID.newWithPrefixAndId mr.sourceGuidPrefix d.writerId) d f t).2 =
        some dd →
      (r.handleDatafragMsg d f mr t).1.topicCache = r.topicCache.addChange t
        ⟨GUID.newWithPrefixAndId mr.sourceGuidPrefix d.writerId, d.writerSn,
          Reader.writeOptionsOf mr d.inlineQos, dd⟩) :=
  stateless_reader_keeps_no_proxies (rfl : Reader.new exampleStatelessIngredients 0 = .ok _) rfl
    (Run.snoc Run.nil rfl : Run exampleCompliance exampleStatelessReader
      ([] ++ [exampleStatelessMatch]) _)

end RustDds
