import RustDds.Acknowledgement

/-!
# A shared topic cache

The Reader reaches its topic cache through an `Arc<Mutex<TopicCache>>`, "a handle to the
topic cache in DDS cache", which its DataReader and the other endpoints of the topic reach
too: between two operations of the Reader, others may have stored, trimmed or marked
changes. What the Reader
does besides writing the cache does not depend on what the cache holds. The cache is read
only by `mark_reliably_received_before`, whose answer decides whether the DataReader is
notified, and by nothing else.

* `step_withCache` — from a Reader whose topic cache was replaced, a step ends in the same
  state but for the cache, with the same effects but for the notifications;
* `shared_cache_keeps_protocol` — a run in which others write the cache between the Reader's
  steps goes through the states of the run of the same inputs on a cache the Reader alone
  writes, but for the cache, and has the same effects but for the notifications: the same
  proxies, fragment assemblers and counters, the same ACKNACKs and NACKFRAGs, the same
  statuses and the same calls on the cache;
* `replies_agree_on_shared_cache` — along such a run, every ACKNACK and NACKFRAG agrees with
  the proxy of its writer.
-/

namespace RustDds

/-- The effects without the notifications of the DataReader. -/
def eraseNotify (es : List Effect) : List Effect := es.filter fun e => e ≠ .notifyCacheChange

@[simp] theorem eraseNotify_nil : eraseNotify [] = [] := rfl

@[simp] theorem eraseNotify_append (es₁ es₂ : List Effect) :
    eraseNotify (es₁ ++ es₂) = eraseNotify es₁ ++ eraseNotify es₂ :=
  List.filter_append ..

/-- Two results of an operation that differ at most in the topic cache and in the
notifications. -/
def AgreeButCache (p q : Reader × List Effect) : Prop :=
  q.1 = { p.1 with topicCache := q.1.topicCache } ∧ eraseNotify q.2 = eraseNotify p.2

namespace Reader

/-- Whatever the cache holds, a mark leaves the mark once its notification is erased. -/
theorem eraseNotify_markAndNotify (tc : TopicCache) (g : GUID) (sn : Int) :
    eraseNotify (markAndNotify tc g sn).2 = [.markReliablyReceivedBefore g sn] := by
  rw [markAndNotify_snd]
  cases (tc.markReliablyReceivedBefore g sn).2 <;> rfl

variable (r : Reader) (tc : TopicCache)

/-! ### Operations that do not call the cache -/

theorem updateWriterProxy_withCache (cfw : QosPolicies → QosPolicies → Option QosPolicyId)
    (p : RtpsWriterProxy) (q : QosPolicies) :
    { r with topicCache := tc }.updateWriterProxy cfw p q =
      ({ (r.updateWriterProxy cfw p q).1 with topicCache := tc },
        (r.updateWriterProxy cfw p q).2) := by
  rcases Bool.eq_false_or_eq_true r.likeStateless with hs | hs
  · rw [updateWriterProxy_of_likeStateless cfw r p q hs,
      updateWriterProxy_of_likeStateless cfw { r with topicCache := tc } p q hs]
  · cases hq : cfw q r.qosPolicy with
    | some b =>
      rw [updateWriterProxy_of_incompatible cfw r hs hq,
        updateWriterProxy_of_incompatible cfw { r with topicCache := tc } hs hq]
    | none =>
      cases hop : r.matchedWriters.find? p.remoteWriterGuid with
      | some op =>
        rw [updateWriterProxy_of_find? cfw r hs hq hop,
          updateWriterProxy_of_find? cfw { r with topicCache := tc } hs hq hop]
      | none =>
        rw [updateWriterProxy_of_not_mem cfw r hs hq (OrdMap.not_mem_iff.mpr hop),
          updateWriterProxy_of_not_mem cfw { r with topicCache := tc } hs hq
            (OrdMap.not_mem_iff.mpr hop)]

theorem removeWriterProxy_withCache (g : GUID) :
    { r with topicCache := tc }.removeWriterProxy g =
      ({ (r.removeWriterProxy g).1 with topicCache := tc }, (r.removeWriterProxy g).2) := by
  by_cases h : g ∈ r.matchedWriters
  · rw [removeWriterProxy_of_mem r h, removeWriterProxy_of_mem { r with topicCache := tc } h]
  · rw [removeWriterProxy_of_not_mem r h,
      removeWriterProxy_of_not_mem { r with topicCache := tc } h]

theorem removeWriterProxies_withCache (gs : List GUID) :
    { r with topicCache := tc }.removeWriterProxies gs =
      ({ (r.removeWriterProxies gs).1 with topicCache := tc }, (r.removeWriterProxies gs).2) := by
  induction gs generalizing r with
  | nil => rfl
  | cons g gs ih => simp only [removeWriterProxies, removeWriterProxy_withCache, ih]

theorem participantLost_withCache (p : GuidPrefix) :
    { r with topicCache := tc }.participantLost p =
      ({ (r.participantLost p).1 with topicCache := tc }, (r.participantLost p).2) :=
  removeWriterProxies_withCache r tc _

theorem handleRequestedDeadlineEvent_withCache (now : Int) :
    { r with topicCache := tc }.handleRequestedDeadlineEvent now =
      ({ (r.handleRequestedDeadlineEvent now).1 with topicCache := tc },
        (r.handleRequestedDeadlineEvent now).2) := by
  unfold handleRequestedDeadlineEvent calculateIfRequestedDeadlineIsMissed
  dsimp only
  cases r.qosPolicy.deadline <;> rfl

theorem handleTimedEvent_withCache (now : Int) (evs : List TimedEvent) :
    { r with topicCache := tc }.handleTimedEvent now evs =
      ({ (r.handleTimedEvent now evs).1 with topicCache := tc },
        (r.handleTimedEvent now evs).2) := by
  induction evs generalizing r with
  | nil => rfl
  | cons ev evs ih =>
    cases ev
    simp only [handleTimedEvent, handleRequestedDeadlineEvent_withCache, ih]
    rfl

theorem sendPreemptiveAcknacks_withCache :
    { r with topicCache := tc }.sendPreemptiveAcknacks =
      ({ r.sendPreemptiveAcknacks.1 with topicCache := tc }, r.sendPreemptiveAcknacks.2) := by
  unfold sendPreemptiveAcknacks
  split <;> rfl

/-! ### Samples: the cache is written, never read -/

theorem processReceivedData_withCache (dd : DDSData) (t : Int) (wo : WriteOptions) (g : GUID)
    (s : Int) :
    let res := r.processReceivedData dd t wo g s
    { r with topicCache := tc }.processReceivedData dd t wo g s =
      ({ res.1 with topicCache := applyEffects tc res.2 }, res.2) := by
  have ha : { r with topicCache := tc }.acceptsData g s = r.acceptsData g s := rfl
  rw [processReceivedData_spec, processReceivedData_spec, ha]
  split
  · simp only [applyEffects_append]
    rfl
  · rfl

theorem handleDataMsg_withCache (d : Data) (f : DataFlags) (mr : MessageReceiverState)
    (now : Int) :
    let res := r.handleDataMsg d f mr now
    { r with topicCache := tc }.handleDataMsg d f mr now =
      ({ res.1 with topicCache := applyEffects tc res.2 }, res.2) := by
  unfold handleDataMsg
  split
  · exact processReceivedData_withCache r tc ..
  · rfl

theorem garbageCollectFragments_withCache (now : Int) :
    { r with topicCache := tc }.garbageCollectFragments now =
      { r.garbageCollectFragments now with topicCache := tc } := by
  unfold garbageCollectFragments
  by_cases h : now - r.lastFragmentGarbageCollect > minFragmentGcInterval
  · rw [if_pos h, if_pos h]
  · rw [if_neg h, if_neg h]

theorem feedDatafrag_withCache (g : GUID) (d : DataFrag) (f : DataFragFlags) (now : Int) :
    { r with topicCache := tc }.feedDatafrag g d f now =
      ({ (r.feedDatafrag g d f now).1 with topicCache := tc }, (r.feedDatafrag g d f now).2) :=
  rfl

theorem handleDatafragMsg_withCache (d : DataFrag) (f : DataFragFlags)
    (mr : MessageReceiverState) (now : Int) :
    let res := r.handleDatafragMsg d f mr now
    { r with topicCache := tc }.handleDatafragMsg d f mr now =
      ({ res.1 with topicCache := applyEffects tc res.2 }, res.2) := by
  have hl : { r with topicCache := tc }.lifespanExceeded mr now = r.lifespanExceeded mr now := rfl
  unfold handleDatafragMsg
  rw [hl]
  split
  · rfl
  · dsimp only
    rw [feedDatafrag_withCache]
    cases r.feedDatafrag (GUID.newWithPrefixAndId mr.sourceGuidPrefix d.writerId) d f now with
    | mk r₁ completed =>
      cases completed with
      | some dd => exact processReceivedData_withCache r₁ tc ..
      | none => exact congrArg (·, []) (garbageCollectFragments_withCache r₁ tc now)

/-! ### HEARTBEAT and GAP: the cache decides the notification -/

theorem nackFrags_withCache (g : GUID) (readerId : EntityId) (wp : RtpsWriterProxy)
    (sns : List Int) :
    { r with topicCache := tc }.nackFrags g readerId wp sns = r.nackFrags g readerId wp sns := by
  induction sns generalizing wp with
  | nil => rfl
  | cons sn sns ih => simp only [nackFrags, ih]; rfl

theorem heartbeatReply_withCache (hb : Heartbeat) (mr : MessageReceiverState) (g : GUID)
    (wp : RtpsWriterProxy) (ms : List Int) :
    { r with topicCache := tc }.heartbeatReply hb mr g wp ms = r.heartbeatReply hb mr g wp ms := by
  simp only [heartbeatReply, nackFrags_withCache]
  rfl

/-- The worker puts back the same proxy whatever the cache holds, and its effects differ at
most in the notification. -/
theorem heartbeatWorker_withCache (hb : Heartbeat) (fin : Bool) (mr : MessageReceiverState)
    (g : GUID) (wp : RtpsWriterProxy) :
    let w := heartbeatWorker hb fin mr g r wp
    let w' := heartbeatWorker hb fin mr g { r with topicCache := tc } wp
    w'.2.1 = w.2.1 ∧ eraseNotify w'.2.2.1 = eraseNotify w.2.2.1 := by
  rcases le_or_lt hb.count wp.receivedHeartbeatCount with h | h
  · rw [heartbeatWorker_of_le r h, heartbeatWorker_of_le { r with topicCache := tc } h]
    exact ⟨rfl, rfl⟩
  · rw [heartbeatWorker_of_lt r fin mr g h,
      heartbeatWorker_of_lt { r with topicCache := tc } fin mr g h]
    simp only [eraseNotify_append, eraseNotify_markAndNotify, heartbeatReply_withCache, true_and]

theorem handleHeartbeatMsg_withCache {hb : Heartbeat} {fin : Bool} {mr : MessageReceiverState}
    {res : Reader × List Effect × Bool} (h : r.handleHeartbeatMsg hb fin mr = .ok res) :
    ∃ res', { r with topicCache := tc }.handleHeartbeatMsg hb fin mr = .ok res' ∧
      AgreeButCache (res.1, res.2.1) (res'.1, res'.2.1) := by
  cases hacc : r.heartbeatAccepted (GUID.newWithPrefixAndId mr.sourceGuidPrefix hb.writerId) hb with
  | false =>
    rw [handleHeartbeatMsg_of_not_accepted r fin hacc] at h
    cases h
    exact ⟨_, handleHeartbeatMsg_of_not_accepted { r with topicCache := tc } fin hacc, rfl, rfl⟩
  | true =>
    obtain ⟨-, -, wp, hwp, -⟩ := (heartbeatAccepted_iff r).mp hacc
    generalize hg : GUID.newWithPrefixAndId mr.sourceGuidPrefix hb.writerId = g at hacc hwp
    rw [handleHeartbeatMsg_of_accepted r fin hg hwp hacc] at h
    cases h
    refine ⟨_, handleHeartbeatMsg_of_accepted { r with topicCache := tc } fin hg hwp hacc, ?_⟩
    obtain ⟨h₁, h₂⟩ :=
      heartbeatWorker_withCache { r with matchedWriters := r.matchedWriters.erase g } tc hb fin mr g wp
    refine ⟨?_, h₂⟩
    simp only [heartbeatWorker_fst] at h₁ ⊢
    rw [h₁]

theorem handleGapMsg_withCache (gap : Gap) (mr : MessageReceiverState) :
    AgreeButCache (r.handleGapMsg gap mr) ({ r with topicCache := tc }.handleGapMsg gap mr) := by
  rcases handleGapMsg_cases r gap mr with ⟨wp, hs, hwp, h₁, h₂⟩ | ⟨hn, h⟩
  · rw [handleGapMsg_of_valid r rfl hs hwp h₁ h₂,
      handleGapMsg_of_valid { r with topicCache := tc } rfl hs hwp h₁ h₂]
    exact ⟨rfl, by simp only [eraseNotify_markAndNotify]⟩
  · rw [h, handleGapMsg_of_not_valid { r with topicCache := tc } hn]
    exact ⟨rfl, rfl⟩

/-- A result that is another's with the cache replaced agrees with it. -/
theorem agreeButCache_of_eq {p q : Reader × List Effect} {c : TopicCache}
    (h : q = ({ p.1 with topicCache := c }, p.2)) : AgreeButCache p q := by
  subst h; exact ⟨rfl, rfl⟩

/-! ### One step -/

/-- **A step does not read the topic cache.** From the Reader with its topic cache replaced,
a step ends in the same state but for the cache, with the same effects but for the
notifications. -/
theorem step_withCache {cfw : QosPolicies → QosPolicies → Option QosPolicyId} {i : Input}
    {res : Reader × List Effect} (h : r.step cfw i = .ok res) :
    ∃ res', { r with topicCache := tc }.step cfw i = .ok res' ∧ AgreeButCache res res' := by
  cases i with
  | handleHeartbeatMsg hb fin mr =>
    simp only [step] at h ⊢
    cases hh : r.handleHeartbeatMsg hb fin mr <;> rw [hh] at h <;> cases h
    obtain ⟨_, h', hagree⟩ := handleHeartbeatMsg_withCache r tc hh
    exact ⟨_, by rw [h']; rfl, hagree⟩
  | handleGapMsg gap mr => cases h; exact ⟨_, rfl, handleGapMsg_withCache r tc gap mr⟩
  | updateWriterProxy g uc mc e q =>
    cases h; exact ⟨_, rfl, agreeButCache_of_eq (updateWriterProxy_withCache r tc ..)⟩
  | removeWriterProxy g =>
    cases h; exact ⟨_, rfl, agreeButCache_of_eq (removeWriterProxy_withCache r tc g)⟩
  | participantLost p =>
    cases h; exact ⟨_, rfl, agreeButCache_of_eq (participantLost_withCache r tc p)⟩
  | handleDataMsg d f mr now =>
    cases h; exact ⟨_, rfl, agreeButCache_of_eq (handleDataMsg_withCache r tc d f mr now)⟩
  | handleDatafragMsg d f mr now =>
    cases h; exact ⟨_, rfl, agreeButCache_of_eq (handleDatafragMsg_withCache r tc d f mr now)⟩
  | handleTimedEvent evs now =>
    cases h; exact ⟨_, rfl, agreeButCache_of_eq (handleTimedEvent_withCache r tc now evs)⟩
  | sendPreemptiveAcknacks =>
    cases h; exact ⟨_, rfl, agreeButCache_of_eq (sendPreemptiveAcknacks_withCache r tc)⟩
  | handleHeartbeatfragMsg hbf mr => cases h; exact ⟨_, rfl, agreeButCache_of_eq rfl⟩
  | removeChangesBefore instant => cases h; exact ⟨_, rfl, agreeButCache_of_eq rfl⟩

end Reader

/-! ### Runs on a shared cache -/

/-- `SharedRun cfw r₀ L r`: the steps `L` take the Reader from `r₀` to `r` while others write
its topic cache between two steps: each step starts in the state the last one ended in, with
the topic cache others left. The Reader calls the cache under one lock per operation, so
what others write during an operation falls before or after its calls. -/
inductive SharedRun (cfw : QosPolicies → QosPolicies → Option QosPolicyId) (r₀ : Reader) :
    List StepRecord → Reader → Prop
  | nil : SharedRun cfw r₀ [] r₀
  | snoc {L : List StepRecord} {r r' : Reader} {i : Input} {es : List Effect} (tc : TopicCache) :
      SharedRun cfw r₀ L r → { r with topicCache := tc }.step cfw i = .ok (r', es) →
      SharedRun cfw r₀ (L ++ [⟨{ r with topicCache := tc }, i, es, r'⟩]) r'

variable {cfw : QosPolicies → QosPolicies → Option QosPolicyId} {r₀ r : Reader}
  {L : List StepRecord}

/-- **Sharing the cache does not change the protocol.** A run on a shared topic cache has the
inputs of a run on a cache the Reader alone writes, through states equal but for the cache
and with effects equal but for the notifications: the same proxies, assemblers and counters,
the same ACKNACKs, NACKFRAGs and statuses, the same calls on the cache. -/
theorem shared_cache_keeps_protocol (h : SharedRun cfw r₀ L r) :
    ∃ L' r', Run cfw r₀ L' r' ∧ r' = { r with topicCache := r'.topicCache } ∧
      List.Forall₂ (fun t t' => t'.input = t.input ∧
        AgreeButCache (t.post, t.effects) (t'.post, t'.effects)) L L' := by
  induction h with
  | nil => exact ⟨[], r₀, .nil, rfl, .nil⟩
  | @snoc L r r₁ i es tc _ hs ih =>
    obtain ⟨L', r', hrun, hr', hL⟩ := ih
    have hpre : { { r with topicCache := tc } with topicCache := r'.topicCache } = r' := hr'.symm
    obtain ⟨res', hs', hagree⟩ := Reader.step_withCache _ r'.topicCache hs
    rw [hpre] at hs'
    exact ⟨L' ++ [⟨r', i, res'.2, res'.1⟩], res'.1, hrun.snoc hs', hagree.1,
      List.rel_append hL (.cons ⟨rfl, hagree⟩ .nil)⟩

/-- Others writing the cache leave the proxies alone: a shared run keeps the invariant of the
proxies. -/
theorem SharedRun.proxiesWellFormed (h : SharedRun cfw r₀ L r) (h₀ : r₀.ProxiesWellFormed) :
    r.ProxiesWellFormed := by
  induction h with
  | nil => exact h₀
  | snoc tc _ hs ih => exact Reader.step_proxiesWellFormed hs ⟨ih.key_eq, ih.count_mem_range⟩

/-- **The replies agree with the proxies on a shared cache.** Along a run in which others write
the topic cache between the Reader's steps, every ACKNACK and NACKFRAG a step sends agrees with
the proxy of its writer after the step. -/
theorem replies_agree_on_shared_cache (h₀ : r₀.ProxiesWellFormed) (h : SharedRun cfw r₀ L r) :
    ∀ t ∈ L, ∀ g, RepliesAgree t.post g t.effects := by
  induction h with
  | nil => intro t ht; cases ht
  | @snoc L r r' i es tc hL hs ih =>
    intro t ht g
    rcases List.mem_append.mp ht with ht | ht
    · exact ih t ht g
    · obtain rfl := List.mem_singleton.mp ht
      have hw := hL.proxiesWellFormed h₀
      have hw' : { r with topicCache := tc }.ProxiesWellFormed :=
        ⟨hw.key_eq, hw.count_mem_range⟩
      exact Reader.step_repliesAgree hw' hs g

/-! ### An example: another Reader of the topic has marked the watermark -/

/-- The topic cache of the example run after another Reader of the topic raised the watermark of
`exampleWriter` to 5. -/
def exampleSharedCache : TopicCache :=
  (exampleMatch.post.topicCache.markReliablyReceivedBefore exampleWriter 5).1

/-- The HEARTBEAT of the example run, handled on the shared cache. -/
def exampleSharedHeartbeat : StepRecord :=
  exampleHeartbeat { exampleMatch.post with topicCache := exampleSharedCache }

theorem exampleSharedRun :
    SharedRun exampleCompliance exampleMatch.post [exampleSharedHeartbeat]
      exampleSharedHeartbeat.post :=
  (SharedRun.snoc exampleSharedCache .nil rfl :
    SharedRun exampleCompliance exampleMatch.post ([] ++ [exampleSharedHeartbeat]) _)

/-- The HEARTBEAT on the shared cache is a step of the run on the Reader's own cache. -/
theorem example_shared_cache_keeps_protocol :
    SharedRun exampleCompliance exampleMatch.post [exampleSharedHeartbeat]
        exampleSharedHeartbeat.post ∧
      ∃ L' r', Run exampleCompliance exampleMatch.post L' r' ∧
        r' = { exampleSharedHeartbeat.post with topicCache := r'.topicCache } ∧
        List.Forall₂ (fun t t' => t'.input = t.input ∧
          AgreeButCache (t.post, t.effects) (t'.post, t'.effects)) [exampleSharedHeartbeat] L' :=
  ⟨exampleSharedRun, shared_cache_keeps_protocol exampleSharedRun⟩

/-- The HEARTBEAT on the shared cache replies in agreement with the proxy. -/
theorem example_replies_agree_on_shared_cache :
    exampleMatch.post.ProxiesWellFormed ∧
      ∀ t ∈ [exampleSharedHeartbeat], ∀ g, RepliesAgree t.post g t.effects :=
  have hr : Reachable exampleCompliance exampleMatch.post :=
    ⟨exampleIngredients, 0, exampleReader, [exampleMatch], new_exampleIngredients,
      (Run.snoc Run.nil rfl : Run exampleCompliance exampleReader ([] ++ [exampleMatch]) _)⟩
  have h₀ : exampleMatch.post.ProxiesWellFormed := hr.proxiesWellFormed
  ⟨h₀, replies_agree_on_shared_cache h₀ exampleSharedRun⟩

end RustDds
