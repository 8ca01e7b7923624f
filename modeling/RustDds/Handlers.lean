import RustDds.Reader

/-!
# What each handler does

One spec lemma per handler of `reader.rs`, in the form the proofs about runs use: the new
state is the old one with the fields the handler writes, and the effects are listed. Proofs
about steps cite these lemmas and never unfold a handler. A handler with several branches has
one lemma per branch, its guard among the hypotheses, or one lemma that names the branch
taken by a test stated on its own (`acceptsData`, `heartbeatAccepted`).

The effects are read through three observations:

* `Effect.applyTo`, what an effect does to the topic cache. `applyEffects` replays a list of
  effects on a cache, and every handler's new topic cache is its old one with its own effects
  replayed: the effect log is a faithful account of the Reader's cache calls.
* `Effect.insertedSn`, the sequence number of a change of a given writer that an effect
  stores; `insertedSns` collects them, with their multiplicity.
* `NoCacheCalls`, a list of effects none of which calls the topic cache; `NoSends`, none of
  which sends a message; `OnlyReports`, all of which are status events or the timer, as the
  discovery and timer handlers' are (so they neither call the cache nor send).

The watermark lemmas at the top say what replaying effects does to a writer's watermark: it
never falls, a mark raises it at least to its value, and a number below the new watermark was
below the old one or below a mark.

`process_received_data` is split into its test (`acceptsData`), the proxy bookkeeping of an
accepted sample (`recordReceived`), and `make_cache_change`, whose watermark call is
`markAfterAdd` (`processReceivedData_eq`, `makeCacheChange_eq`). `handle_heartbeat_msg` is
split into the guard the source tests before its worker runs (`heartbeatAccepted`) and the
worker on the proxy taken out (`handleHeartbeatMsg_of_accepted`).
-/

namespace RustDds

/-! ### Effects on the topic cache -/

namespace Effect

/-- The effect is a call on the topic cache. -/
@[simp] def touchesCache : Effect → Bool
  | .addChange .. => true
  | .markReliablyReceivedBefore .. => true
  | _ => false

/-- What the effect does to the topic cache. -/
@[simp] def applyTo (tc : TopicCache) : Effect → TopicCache
  | .addChange receiveTimestamp cacheChange => tc.addChange receiveTimestamp cacheChange
  | .markReliablyReceivedBefore writerGuid sn => (tc.markReliablyReceivedBefore writerGuid sn).1
  | _ => tc

/-- The sequence number of the change of `writer` that the effect stores. -/
@[simp] def insertedSn (writer : GUID) : Effect → Option Int
  | .addChange _ cacheChange =>
    if cacheChange.writerGuid = writer then some cacheChange.sequenceNumber else none
  | _ => none

/-- The effect is a status event or the timer: something the Reader only reports. -/
@[simp] def isReport : Effect → Bool
  | .statusChange _ => true
  | .participantStatus _ => true
  | .setTimeout .. => true
  | _ => false

/-- The effect sends a message: an ACKNACK, or NACKFRAGs. -/
@[simp] def isSend : Effect → Bool
  | .sendAckNack .. => true
  | .sendNackFrags .. => true
  | _ => false

theorem applyTo_of_touchesCache {e : Effect} (h : e.touchesCache = false) (tc : TopicCache) :
    e.applyTo tc = tc := by
  cases e <;> first | rfl | cases h

theorem insertedSn_of_touchesCache {e : Effect} (h : e.touchesCache = false) (writer : GUID) :
    e.insertedSn writer = none := by
  cases e <;> first | rfl | cases h

end Effect

/-- None of the effects calls the topic cache. -/
def NoCacheCalls (es : List Effect) : Prop := ∀ e ∈ es, e.touchesCache = false

/-- None of the effects sends a message. -/
def NoSends (es : List Effect) : Prop := ∀ e ∈ es, e.isSend = false

/-- Every effect only reports: status events and the timer. -/
def OnlyReports (es : List Effect) : Prop := ∀ e ∈ es, e.isReport = true

theorem OnlyReports.noCacheCalls {es : List Effect} (h : OnlyReports es) : NoCacheCalls es :=
  fun e he => by have := h e he; cases e <;> first | rfl | cases this

theorem OnlyReports.noSends {es : List Effect} (h : OnlyReports es) : NoSends es :=
  fun e he => by have := h e he; cases e <;> first | rfl | cases this

@[simp] theorem onlyReports_nil : OnlyReports [] := List.forall_mem_nil _

@[simp] theorem onlyReports_cons {e : Effect} {es : List Effect} :
    OnlyReports (e :: es) ↔ e.isReport = true ∧ OnlyReports es :=
  List.forall_mem_cons

@[simp] theorem onlyReports_append {es₁ es₂ : List Effect} :
    OnlyReports (es₁ ++ es₂) ↔ OnlyReports es₁ ∧ OnlyReports es₂ :=
  List.forall_mem_append

@[simp] theorem noSends_nil : NoSends [] := List.forall_mem_nil _

@[simp] theorem noSends_cons {e : Effect} {es : List Effect} :
    NoSends (e :: es) ↔ e.isSend = false ∧ NoSends es :=
  List.forall_mem_cons

@[simp] theorem noSends_append {es₁ es₂ : List Effect} :
    NoSends (es₁ ++ es₂) ↔ NoSends es₁ ∧ NoSends es₂ :=
  List.forall_mem_append

/-- The topic cache after the effects' calls on it, in order. -/
def applyEffects (tc : TopicCache) (es : List Effect) : TopicCache := es.foldl Effect.applyTo tc

/-- The sequence numbers of the changes of `writer` that the effects store, in order. -/
def insertedSns (writer : GUID) (es : List Effect) : List Int :=
  es.filterMap (Effect.insertedSn writer)

@[simp] theorem noCacheCalls_nil : NoCacheCalls [] := List.forall_mem_nil _

@[simp] theorem noCacheCalls_cons {e : Effect} {es : List Effect} :
    NoCacheCalls (e :: es) ↔ e.touchesCache = false ∧ NoCacheCalls es :=
  List.forall_mem_cons

@[simp] theorem noCacheCalls_append {es₁ es₂ : List Effect} :
    NoCacheCalls (es₁ ++ es₂) ↔ NoCacheCalls es₁ ∧ NoCacheCalls es₂ :=
  List.forall_mem_append

@[simp] theorem applyEffects_nil (tc : TopicCache) : applyEffects tc [] = tc := rfl

@[simp] theorem applyEffects_cons (tc : TopicCache) (e : Effect) (es : List Effect) :
    applyEffects tc (e :: es) = applyEffects (e.applyTo tc) es := rfl

@[simp] theorem applyEffects_append (tc : TopicCache) (es₁ es₂ : List Effect) :
    applyEffects tc (es₁ ++ es₂) = applyEffects (applyEffects tc es₁) es₂ :=
  List.foldl_append _ _ _ _

theorem applyEffects_of_noCacheCalls {es : List Effect} (h : NoCacheCalls es)
    (tc : TopicCache) : applyEffects tc es = tc := by
  induction es generalizing tc with
  | nil => rfl
  | cons e es ih =>
    rw [noCacheCalls_cons] at h
    rw [applyEffects_cons, Effect.applyTo_of_touchesCache h.1, ih h.2]

@[simp] theorem insertedSns_nil (w : GUID) : insertedSns w [] = [] := rfl

@[simp] theorem insertedSns_cons (w : GUID) (e : Effect) (es : List Effect) :
    insertedSns w (e :: es) = (e.insertedSn w).toList ++ insertedSns w es := by
  unfold insertedSns; rw [List.filterMap_cons]; cases e.insertedSn w <;> rfl

@[simp] theorem insertedSns_append (w : GUID) (es₁ es₂ : List Effect) :
    insertedSns w (es₁ ++ es₂) = insertedSns w es₁ ++ insertedSns w es₂ :=
  List.filterMap_append _ _ _

theorem insertedSns_of_noCacheCalls {es : List Effect} (h : NoCacheCalls es) (w : GUID) :
    insertedSns w es = [] :=
  List.filterMap_eq_nil_iff.mpr fun e he => Effect.insertedSn_of_touchesCache (h e he) w

/-! ### Watermarks under the effects -/

namespace TopicCache

theorem le_raiseTo (old : Option Int) (sn : Int) : sn ≤ raiseTo old sn := by
  cases old <;> simp [raiseTo]

theorem raiseTo_ge {old : Int} (sn : Int) : old ≤ raiseTo (some old) sn := le_max_left _ _

theorem lt_raiseTo {old : Option Int} {sn s : Int} (h : s < raiseTo old sn) :
    (∃ w, old = some w ∧ s < w) ∨ s < sn := by
  cases old with
  | none => exact .inr h
  | some w => exact (lt_max_iff.mp h).imp_left fun h => ⟨w, rfl, h⟩

end TopicCache

/-- An effect leaves a watermark where it was or raises it. -/
theorem Effect.watermark_applyTo_ge {tc : TopicCache} {g : GUID} {w : Int}
    (h : tc.watermark g = some w) (e : Effect) :
    ∃ w', (e.applyTo tc).watermark g = some w' ∧ w ≤ w' := by
  cases e with
  | markReliablyReceivedBefore k sn =>
    by_cases hk : k = g
    · subst hk; simp [h, TopicCache.raiseTo_ge]
    · simp [hk, h]
  | _ => exact ⟨w, h, le_rfl⟩

/-- Replayed effects never lower a watermark. -/
theorem watermark_applyEffects_ge {tc : TopicCache} {g : GUID} {w : Int}
    (h : tc.watermark g = some w) (es : List Effect) :
    ∃ w', (applyEffects tc es).watermark g = some w' ∧ w ≤ w' := by
  induction es generalizing tc w with
  | nil => exact ⟨w, h, le_rfl⟩
  | cons e es ih =>
    obtain ⟨w₁, h₁, hw₁⟩ := e.watermark_applyTo_ge h
    obtain ⟨w₂, h₂, hw₂⟩ := ih h₁
    exact ⟨w₂, h₂, hw₁.trans hw₂⟩

/-- After a mark of `g` to `sn`, the watermark of `g` is at least `sn`. -/
theorem watermark_applyEffects_of_mem {es : List Effect} {g : GUID} {sn : Int}
    (h : .markReliablyReceivedBefore g sn ∈ es) (tc : TopicCache) :
    ∃ w, (applyEffects tc es).watermark g = some w ∧ sn ≤ w := by
  induction es generalizing tc with
  | nil => cases h
  | cons e es ih =>
    rcases List.mem_cons.mp h with rfl | h
    · have h₀ : (tc.markReliablyReceivedBefore g sn).1.watermark g =
          some (TopicCache.raiseTo (tc.watermark g) sn) := by simp
      obtain ⟨w, hw, hle⟩ := watermark_applyEffects_ge h₀ es
      exact ⟨w, hw, (TopicCache.le_raiseTo _ _).trans hle⟩
    · exact ih h _

/-- A number below a watermark after the effects was below it before, or below a mark of the
effects. -/
theorem lt_watermark_applyEffects {tc : TopicCache} {g : GUID} {es : List Effect} {w s : Int}
    (h : (applyEffects tc es).watermark g = some w) (hs : s < w) :
    (∃ w₀, tc.watermark g = some w₀ ∧ s < w₀) ∨
      ∃ sn, .markReliablyReceivedBefore g sn ∈ es ∧ s < sn := by
  induction es generalizing tc with
  | nil => exact .inl ⟨w, h, hs⟩
  | cons e es ih =>
    rcases ih h with ⟨w₀, h₀, hs₀⟩ | ⟨sn, hmem, hsn⟩
    · cases e with
      | markReliablyReceivedBefore k sn =>
        by_cases hk : k = g
        · subst hk
          simp only [Effect.applyTo, TopicCache.watermark_markReliablyReceivedBefore, if_true,
            Option.some.injEq] at h₀
          subst h₀
          exact (TopicCache.lt_raiseTo hs₀).imp_right fun h => ⟨sn, List.mem_cons_self _ _, h⟩
        · exact .inl ⟨w₀, by simpa [hk] using h₀, hs₀⟩
      | _ => exact .inl ⟨w₀, h₀, hs₀⟩
    · exact .inr ⟨sn, List.mem_cons_of_mem _ hmem, hsn⟩

/-- A mark that does not advance the watermark leaves the cache as it was. -/
theorem TopicCache.markReliablyReceivedBefore_of_not_moved {tc : TopicCache} {g : GUID}
    {sn : Int} (h : (tc.markReliablyReceivedBefore g sn).2 = false) :
    (tc.markReliablyReceivedBefore g sn).1 = tc := by
  unfold markReliablyReceivedBefore at h ⊢
  split
  · rename_i w hw
    simp only [hw] at h
    split_ifs at h ⊢
    rfl
  · rename_i hw
    simp [hw] at h

/-! ### Matching and dropping writers -/

namespace Reader

variable (cfw : QosPolicies → QosPolicies → Option QosPolicyId) (r : Reader)

/-- **`Reader::new`** checks the topic name and refuses a stateless reliable Reader, then
builds a Reader with the ingredients' configuration and topic cache, no matched writer and no
fragment state. -/
theorem new_eq_ok {i : ReaderIngredients} {now : Int} {r₀ : Reader}
    (h : Reader.new i now = .ok r₀) :
    i.topicName = i.topicCacheHandle.topicName ∧
      ¬(i.likeStateless = true ∧ i.qosPolicy.isReliable = true) ∧
      r₀.likeStateless = i.likeStateless ∧ r₀.reliability = i.qosPolicy.reliability.getD .bestEffort ∧
      r₀.topicCache = i.topicCacheHandle ∧ r₀.qosPolicy = i.qosPolicy ∧ r₀.myGuid = i.guid ∧
      r₀.fragmentAssemblers = ∅ ∧ r₀.matchedWriters = ∅ ∧ r₀.writerMatchCountTotal = 0 := by
  unfold Reader.new at h
  split_ifs at h with h₁ h₂
  cases h
  exact ⟨not_not.mp h₁, by simpa using h₂, rfl, rfl, rfl, rfl, rfl, rfl, rfl, rfl⟩

/-- A stateless Reader ignores discovery. -/
theorem updateWriterProxy_of_likeStateless (p : RtpsWriterProxy) (q : QosPolicies)
    (hs : r.likeStateless = true) : r.updateWriterProxy cfw p q = (r, []) := by
  simp [updateWriterProxy, hs]

/-- An incompatible offered QoS is counted and reported; no proxy changes. -/
theorem updateWriterProxy_of_incompatible {p : RtpsWriterProxy} {q : QosPolicies}
    {badPolicyId : QosPolicyId} (hs : r.likeStateless = false)
    (hq : cfw q r.qosPolicy = some badPolicyId) :
    r.updateWriterProxy cfw p q =
      let count := wrapI32 (r.offeredIncompatibleQosCount + 1)
      ({ r with offeredIncompatibleQosCount := count },
        [.statusChange (.requestedIncompatibleQos (CountWithChange.new count 1) badPolicyId
            p.remoteWriterGuid r.qosPolicy q),
          .participantStatus (.remoteWriterQosIncompatible r.myGuid p.remoteWriterGuid
            r.qosPolicy q)]) := by
  simp [updateWriterProxy, hs, hq]

/-- A known writer's proxy takes the new contents; nothing is reported. -/
theorem updateWriterProxy_of_find? {p op : RtpsWriterProxy} {q : QosPolicies}
    (hs : r.likeStateless = false) (hq : cfw q r.qosPolicy = none)
    (hop : r.matchedWriters.find? p.remoteWriterGuid = some op) :
    r.updateWriterProxy cfw p q =
      let wp := op.updateContents p
      ({ r with matchedWriters := r.matchedWriters.insert p.remoteWriterGuid wp }, []) := by
  simp [updateWriterProxy, matchedWriterUpdate, hs, hq, hop]

/-- A new writer is matched, counted and reported. -/
theorem updateWriterProxy_of_not_mem {p : RtpsWriterProxy} {q : QosPolicies}
    (hs : r.likeStateless = false) (hq : cfw q r.qosPolicy = none)
    (hnew : p.remoteWriterGuid ∉ r.matchedWriters) :
    r.updateWriterProxy cfw p q =
      let matchedWriters := r.matchedWriters.insert p.remoteWriterGuid p
      let total := wrapI32 (r.writerMatchCountTotal + 1)
      ({ r with matchedWriters := matchedWriters, writerMatchCountTotal := total },
        [.statusChange (.subscriptionMatched (CountWithChange.new total 1)
            (CountWithChange.new (wrapI32 matchedWriters.size) 1) p.remoteWriterGuid),
          .participantStatus (.remoteWriterMatched r.myGuid p.remoteWriterGuid)]) := by
  simp [updateWriterProxy, matchedWriterUpdate, hs, hq, OrdMap.not_mem_iff.mp hnew]

/-- `update_writer_proxy` writes the proxies and the two match counters only, and only
reports. -/
theorem updateWriterProxy_frame (p : RtpsWriterProxy) (q : QosPolicies) :
    let res := r.updateWriterProxy cfw p q
    res.1 = { r with matchedWriters := res.1.matchedWriters,
                     writerMatchCountTotal := res.1.writerMatchCountTotal,
                     offeredIncompatibleQosCount := res.1.offeredIncompatibleQosCount } ∧
      OnlyReports res.2 := by
  rcases Bool.eq_false_or_eq_true r.likeStateless with hs | hs
  · rw [updateWriterProxy_of_likeStateless cfw r p q hs]; simp
  · cases hq : cfw q r.qosPolicy with
    | some b => rw [updateWriterProxy_of_incompatible cfw r hs hq]; simp
    | none =>
      cases hop : r.matchedWriters.find? p.remoteWriterGuid with
      | some op => rw [updateWriterProxy_of_find? cfw r hs hq hop]; simp
      | none => rw [updateWriterProxy_of_not_mem cfw r hs hq (OrdMap.not_mem_iff.mpr hop)]; simp

/-- A matched writer is dropped and reported. -/
theorem removeWriterProxy_of_mem {g : GUID} (h : g ∈ r.matchedWriters) :
    r.removeWriterProxy g =
      ({ r with matchedWriters := r.matchedWriters.erase g },
        [.statusChange (.subscriptionMatched (CountWithChange.new r.writerMatchCountTotal 0)
          (CountWithChange.new (wrapI32 (r.matchedWriters.erase g).size) (-1)) g)]) := by
  simp [removeWriterProxy, h]

theorem removeWriterProxy_of_not_mem {g : GUID} (h : g ∉ r.matchedWriters) :
    r.removeWriterProxy g = (r, []) := by
  simp [removeWriterProxy, h]

/-- Dropping a writer touches `matched_writers` only. -/
theorem removeWriterProxy_fst (g : GUID) :
    (r.removeWriterProxy g).1 = { r with matchedWriters := r.matchedWriters.erase g } := by
  by_cases h : g ∈ r.matchedWriters
  · rw [removeWriterProxy_of_mem r h]
  · rw [removeWriterProxy_of_not_mem r h, OrdMap.erase_of_not_mem h]

/-- Dropping writers one after another. -/
theorem removeWriterProxies_fst (gs : List GUID) :
    (r.removeWriterProxies gs).1 =
      { r with matchedWriters := gs.foldl OrdMap.erase r.matchedWriters } := by
  induction gs generalizing r with
  | nil => rfl
  | cons g gs ih =>
    show (removeWriterProxies (r.removeWriterProxy g).1 gs).1 = _
    rw [ih, removeWriterProxy_fst]
    rfl

/-- Dropping a writer only reports. -/
theorem removeWriterProxy_onlyReports (g : GUID) : OnlyReports (r.removeWriterProxy g).2 := by
  by_cases h : g ∈ r.matchedWriters
  · simp [removeWriterProxy_of_mem r h]
  · simp [removeWriterProxy_of_not_mem r h]

theorem removeWriterProxies_onlyReports (gs : List GUID) :
    OnlyReports (r.removeWriterProxies gs).2 := by
  induction gs generalizing r with
  | nil => exact onlyReports_nil
  | cons g gs ih =>
    exact onlyReports_append.mpr ⟨r.removeWriterProxy_onlyReports g, ih _⟩

/-- `participant_lost` drops exactly the matched writers of the participant. -/
theorem participantLost_find? (p : GuidPrefix) (k : GUID) :
    (r.participantLost p).1.matchedWriters.find? k =
      if k.guidPrefix = p then none else r.matchedWriters.find? k := by
  rw [participantLost, removeWriterProxies_fst, OrdMap.find?_foldl_erase]
  by_cases hp : k.guidPrefix = p
  · by_cases hk : k ∈ r.matchedWriters
    · simp [hp, OrdMap.mem_keys.mpr hk]
    · simp [hp, OrdMap.not_mem_iff.mp hk]
  · simp [hp]

theorem participantLost_fst (p : GuidPrefix) :
    (r.participantLost p).1 =
      { r with matchedWriters := (r.participantLost p).1.matchedWriters } := by
  rw [participantLost, removeWriterProxies_fst]

/-! ### DATA and DATAFRAG -/

/-- The test of `process_received_data`: a stateful Reader takes a sample of a matched writer
unless the proxy already accounts for it (the SPDP participant reader takes it anyway), and
a sample of an unmatched writer only if the writer's kind is built-in; a stateless Reader
takes every sample. -/
def acceptsData (writerGuid : GUID) (writerSn : Int) : Bool :=
  if !r.likeStateless then
    match r.matchedWriters.find? writerGuid with
    | some writerProxy => !(writerProxy.shouldIgnoreChange writerSn &&
        r.myGuid.entityId ≠ EntityId.spdpBuiltinParticipantReader)
    | none => !writerGuid.entityId.entityKind.isUserDefined
  else true

/-- The proxy bookkeeping of `process_received_data` for a sample it takes: a stateful Reader
records the sample in its writer's proxy, if the writer is matched. -/
def recordReceived (writerGuid : GUID) (writerSn receiveTimestamp : Int) : Reader :=
  { r with matchedWriters :=
      match r.likeStateless, r.matchedWriters.find? writerGuid with
      | false, some writerProxy => r.matchedWriters.insert writerGuid
          (writerProxy.receivedChangesAdd writerSn receiveTimestamp)
      | _, _ => r.matchedWriters }

/-- The watermark call of `make_cache_change`: a stateful Reader raises a matched writer's
watermark to its proxy's `all_ackable_before`. -/
def markAfterAdd (writerGuid : GUID) : List Effect :=
  match r.likeStateless, r.matchedWriters.find? writerGuid with
  | false, some wp => [.markReliablyReceivedBefore writerGuid wp.allAckableBefore]
  | _, _ => []

@[simp] theorem recordReceived_topicCache (g : GUID) (s t : Int) :
    (r.recordReceived g s t).topicCache = r.topicCache := rfl

@[simp] theorem recordReceived_likeStateless (g : GUID) (s t : Int) :
    (r.recordReceived g s t).likeStateless = r.likeStateless := rfl

@[simp] theorem recordReceived_myGuid (g : GUID) (s t : Int) :
    (r.recordReceived g s t).myGuid = r.myGuid := rfl

theorem recordReceived_find? (g : GUID) (s t : Int) (k : GUID) :
    (r.recordReceived g s t).matchedWriters.find? k =
      if g = k ∧ r.likeStateless = false then
        (r.matchedWriters.find? k).map (·.receivedChangesAdd s t)
      else r.matchedWriters.find? k := by
  unfold recordReceived
  cases hs : r.likeStateless
  · by_cases hk : g = k
    · subst hk; cases hf : r.matchedWriters.find? g <;> simp [hf]
    · cases r.matchedWriters.find? g <;> simp [hk]
  · simp

/-- A sample of an unmatched writer, or in a stateless Reader, leaves the proxies alone. -/
theorem recordReceived_of_not_find? {g : GUID} (s t : Int)
    (h : r.likeStateless = true ∨ r.matchedWriters.find? g = none) :
    r.recordReceived g s t = r := by
  unfold recordReceived
  split
  · rcases h with h | h <;> simp_all
  · rfl

theorem recordReceived_of_find? {g : GUID} {wp : RtpsWriterProxy} (s t : Int)
    (hs : r.likeStateless = false) (hf : r.matchedWriters.find? g = some wp) :
    r.recordReceived g s t =
      { r with matchedWriters := r.matchedWriters.insert g (wp.receivedChangesAdd s t) } := by
  simp only [recordReceived, hs, hf]

/-- `make_cache_change` stores the change and makes the watermark call, and the new topic
cache is the old one with the two replayed. -/
theorem makeCacheChange_eq (dd : DDSData) (t : Int) (wo : WriteOptions) (g : GUID) (s : Int) :
    r.makeCacheChange dd t wo g s =
      let es := .addChange t ⟨g, s, wo, dd⟩ :: r.markAfterAdd g
      ({ r with topicCache := applyEffects r.topicCache es }, es) := by
  unfold makeCacheChange markAfterAdd
  cases hs : r.likeStateless
  · cases hf : r.matchedWriters.find? g <;> simp [hs, hf]
  · simp [hs]

theorem makeCacheChangeAndNotify_eq (dd : DDSData) (t : Int) (wo : WriteOptions) (g : GUID)
    (s : Int) :
    r.makeCacheChangeAndNotify dd t wo g s =
      let es := .addChange t ⟨g, s, wo, dd⟩ :: r.markAfterAdd g
      ({ r with topicCache := applyEffects r.topicCache es }, es ++ [.notifyCacheChange]) := by
  simp only [makeCacheChangeAndNotify, makeCacheChange_eq]

/-- **`process_received_data`** stores a sample it takes, after recording it in the writer's
proxy, and wakes the DataReader; a sample it does not take changes nothing. -/
theorem processReceivedData_eq (dd : DDSData) (t : Int) (wo : WriteOptions) (g : GUID)
    (s : Int) :
    r.processReceivedData dd t wo g s =
      if r.acceptsData g s then
        (r.recordReceived g s t).makeCacheChangeAndNotify dd t wo g s
      else (r, []) := by
  unfold processReceivedData
  split <;> rename_i hs
  · have hs : r.likeStateless = false := by simpa using hs
    split <;> rename_i hf
    · rename_i wp
      have hr := recordReceived_of_find? r s t hs hf
      split <;> rename_i hig
      · rw [if_neg (by simpa [acceptsData, hs, hf] using hig)]
      · rw [if_pos (by simp [acceptsData, hs, hf, RtpsWriterProxy.shouldIgnoreChange] at hig ⊢; tauto), hr]
    · have hr := recordReceived_of_not_find? r s t (.inr hf)
      split <;> rename_i hu
      · rw [if_neg (by simp [acceptsData, hs, hf, hu])]
      · rw [if_pos (by simp [acceptsData, hs, hf, hu]), hr]
  · have hs : r.likeStateless = true := by simpa using hs
    rw [if_pos (by simp [acceptsData, hs]), recordReceived_of_not_find? r s t (.inl hs)]

/-- **`process_received_data`, in one piece**: a sample the Reader takes is recorded in its
writer's proxy, stored, and marked, and the DataReader is woken; the new topic cache is the
old one with the stored change and the mark replayed. -/
theorem processReceivedData_spec (dd : DDSData) (t : Int) (wo : WriteOptions) (g : GUID)
    (s : Int) :
    let r₁ := r.recordReceived g s t
    let es₀ := .addChange t ⟨g, s, wo, dd⟩ :: r₁.markAfterAdd g
    r.processReceivedData dd t wo g s =
      if r.acceptsData g s then
        ({ r₁ with topicCache := applyEffects r.topicCache es₀ }, es₀ ++ [.notifyCacheChange])
      else (r, []) := by
  rw [processReceivedData_eq, makeCacheChangeAndNotify_eq]
  rfl

/-- A DATA either changes nothing (its contents do not decode) or is
`process_received_data` of the decoded sample. -/
theorem handleDataMsg_cases (d : Data) (f : DataFlags) (mr : MessageReceiverState) (now : Int) :
    r.handleDataMsg d f mr now = (r, []) ∨
      ∃ dd, dataToDdsData d f = .ok dd ∧ r.handleDataMsg d f mr now =
        r.processReceivedData dd now (writeOptionsOf mr d.inlineQos)
          (GUID.newWithPrefixAndId mr.sourceGuidPrefix d.writerId) d.writerSn := by
  unfold handleDataMsg
  split
  · exact .inr ⟨_, ‹_›, rfl⟩
  · exact .inl rfl

/-- The watermark call of `make_cache_change` marks the writer's proxy's
`all_ackable_before`. -/
theorem mem_markAfterAdd {g : GUID} {e : Effect} (h : e ∈ r.markAfterAdd g) :
    ∃ wp, r.matchedWriters.find? g = some wp ∧
      e = .markReliablyReceivedBefore g wp.allAckableBefore := by
  unfold markAfterAdd at h
  split at h
  · exact ⟨_, ‹_›, List.mem_singleton.mp h⟩
  · cases h

theorem insertedSns_markAfterAdd (g k : GUID) : insertedSns k (r.markAfterAdd g) = [] := by
  unfold markAfterAdd; split <;> rfl

/-- A stateful Reader makes the watermark call for a matched writer. -/
theorem markAfterAdd_of_find? {g : GUID} {wp : RtpsWriterProxy} (hs : r.likeStateless = false)
    (hwp : r.matchedWriters.find? g = some wp) :
    r.markAfterAdd g = [.markReliablyReceivedBefore g wp.allAckableBefore] := by
  simp [markAfterAdd, hs, hwp]

/-! ### Marking the watermark -/

/-- The effects of `markAndNotify`: the mark, then a notification exactly when the
watermark moved. -/
theorem markAndNotify_snd (tc : TopicCache) (g : GUID) (sn : Int) :
    (markAndNotify tc g sn).2 = .markReliablyReceivedBefore g sn ::
      if (tc.markReliablyReceivedBefore g sn).2 then [.notifyCacheChange] else [] := rfl

/-- The topic cache `markAndNotify` leaves is its effects replayed. -/
theorem markAndNotify_fst (tc : TopicCache) (g : GUID) (sn : Int) :
    (markAndNotify tc g sn).1 = applyEffects tc (markAndNotify tc g sn).2 := by
  rw [markAndNotify_snd]
  cases (tc.markReliablyReceivedBefore g sn).2 <;> rfl

/-! ### HEARTBEAT -/

/-- **The HEARTBEATs a Reader acts on.** A reliable, stateful Reader acts on a HEARTBEAT of a
matched writer whose count is above the last one it acted on: `handle_heartbeat_msg` returns
at once on every other, or its worker does. -/
def heartbeatAccepted (writerGuid : GUID) (heartbeat : Heartbeat) : Bool :=
  r.reliability ≠ .bestEffort && !r.likeStateless &&
    match r.matchedWriters.find? writerGuid with
    | some wp => wp.receivedHeartbeatCount < heartbeat.count
    | none => false

/-- The count after `n` draws from the `i32` ACKNACK counter at `c`. -/
def drawCount (c : Int) (n : Nat) : Int := (fun c => wrapI32 (c + 1))^[n] c

@[simp] theorem drawCount_zero (c : Int) : drawCount c 0 = c := rfl

theorem drawCount_succ (c : Int) (n : Nat) :
    drawCount c (n + 1) = drawCount (wrapI32 (c + 1)) n :=
  Function.iterate_succ_apply _ _ _

/-- Draws from an `i32` counter leave an `i32`. -/
theorem drawCount_mem_range {c : Int} (h : -2147483648 ≤ c ∧ c < 2147483648) (n : Nat) :
    -2147483648 ≤ drawCount c n ∧ drawCount c n < 2147483648 := by
  induction n generalizing c with
  | zero => exact h
  | succ n ih => rw [drawCount_succ]; exact ih (wrapI32_mem_range _)

/-- Below the `i32` bound, the draws do not wrap. -/
theorem drawCount_eq_add {c : Int} {n : Nat} (h₀ : -2147483648 ≤ c) (h₁ : c + n < 2147483648) :
    drawCount c n = c + n := by
  induction n generalizing c with
  | zero => simp
  | succ n ih =>
    rw [drawCount_succ, wrapI32_of_lt (by omega) (by omega), ih (by omega) (by omega)]
    omega

/-- The NACKFRAGs draw one count per sequence number and change nothing else in the
proxy. -/
theorem nackFrags_fst (g : GUID) (readerId : EntityId) (wp : RtpsWriterProxy) (sns : List Int) :
    (r.nackFrags g readerId wp sns).1 =
      { wp with sentAckNackCount := drawCount wp.sentAckNackCount sns.length } := by
  induction sns generalizing wp with
  | nil => rfl
  | cons sn sns ih =>
    simp only [nackFrags]
    split <;> simp [ih, drawCount_succ, RtpsWriterProxy.nextAckNackSequenceNumber]

/-- A HEARTBEAT reply draws a count for the ACKNACK and one per NACKFRAG candidate, and
changes nothing else in the proxy. -/
theorem heartbeatReply_fst (hb : Heartbeat) (mr : MessageReceiverState) (g : GUID)
    (wp : RtpsWriterProxy) (ms : List Int) :
    (r.heartbeatReply hb mr g wp ms).1 =
      { wp with sentAckNackCount :=
          drawCount wp.sentAckNackCount ((r.readerSnState g wp ms).2.length + 1) } := by
  simp [heartbeatReply, nackFrags_fst, drawCount_succ, RtpsWriterProxy.nextAckNackSequenceNumber]

/-- A HEARTBEAT reply only sends. -/
theorem heartbeatReply_noCacheCalls (hb : Heartbeat) (mr : MessageReceiverState) (g : GUID)
    (wp : RtpsWriterProxy) (ms : List Int) :
    NoCacheCalls (r.heartbeatReply hb mr g wp ms).2 ∧
      .notifyCacheChange ∉ (r.heartbeatReply hb mr g wp ms).2 := by
  simp only [heartbeatReply]
  split <;> simp

/-- A HEARTBEAT the Reader acts on comes from a matched writer, with a count above the
proxy's. -/
theorem heartbeatAccepted_iff {g : GUID} {hb : Heartbeat} :
    r.heartbeatAccepted g hb = true ↔ r.reliability ≠ .bestEffort ∧ r.likeStateless = false ∧
      ∃ wp, r.matchedWriters.find? g = some wp ∧ wp.receivedHeartbeatCount < hb.count := by
  unfold heartbeatAccepted
  cases r.matchedWriters.find? g <;> simp [and_assoc]

theorem lt_of_heartbeatAccepted {g : GUID} {hb : Heartbeat} {wp : RtpsWriterProxy}
    (h : r.heartbeatAccepted g hb = true) (hwp : r.matchedWriters.find? g = some wp) :
    wp.receivedHeartbeatCount < hb.count := by
  obtain ⟨-, -, wp', hwp', hlt⟩ := (heartbeatAccepted_iff r).mp h
  rw [hwp] at hwp'; cases hwp'; exact hlt

theorem heartbeatWorker_of_le {hb : Heartbeat} {fin : Bool} {mr : MessageReceiverState}
    {g : GUID} {wp : RtpsWriterProxy} (h : hb.count ≤ wp.receivedHeartbeatCount) :
    heartbeatWorker hb fin mr g r wp = (r, wp, [], false) :=
  if_pos h

/-- **The worker on a new HEARTBEAT** records its count, accounts for the numbers below
`first_sn`, marks the watermark, and replies unless the HEARTBEAT is final and nothing is
missing. -/
theorem heartbeatWorker_of_lt {hb : Heartbeat} (fin : Bool) (mr : MessageReceiverState)
    (g : GUID) {wp : RtpsWriterProxy} (h : wp.receivedHeartbeatCount < hb.count) :
    let wp₁ := { wp with receivedHeartbeatCount := hb.count }.irrelevantChangesUpTo hb.firstSn
    let m := markAndNotify r.topicCache g wp₁.allAckableBefore
    let ms := wp₁.missingSeqnums hb.firstSn hb.lastSn
    let reply := !ms.isEmpty || !fin
    let rep := { r with topicCache := m.1 }.heartbeatReply hb mr g wp₁ ms
    heartbeatWorker hb fin mr g r wp =
      ({ r with topicCache := m.1 }, if reply then rep.1 else wp₁,
        m.2 ++ (if reply then rep.2 else []), reply) := by
  simp only [heartbeatWorker, if_neg (not_le.mpr h)]
  split <;> simp_all

/-- **The proxy the worker puts back after a new HEARTBEAT**: the count recorded, the numbers
below `first_sn` accounted for, and the ACKNACK counter advanced by the reply's draws. -/
theorem heartbeatWorker_proxy {hb : Heartbeat} (fin : Bool) (mr : MessageReceiverState)
    (g : GUID) {wp : RtpsWriterProxy} (h : wp.receivedHeartbeatCount < hb.count) :
    ∃ c, (heartbeatWorker hb fin mr g r wp).2.1 =
      { wp with receivedSet := wp.receivedSet.raiseFloor hb.firstSn,
                receivedHeartbeatCount := hb.count, sentAckNackCount := c } := by
  rw [heartbeatWorker_of_lt r fin mr g h]
  dsimp only
  split
  · rw [heartbeatReply_fst]; exact ⟨_, rfl⟩
  · exact ⟨_, rfl⟩

/-- **The effects of the worker on a new HEARTBEAT**: the mark of the new proxy's
`all_ackable_before`, the notification if the watermark moved, then sends only. -/
theorem heartbeatWorker_effects {hb : Heartbeat} (fin : Bool) (mr : MessageReceiverState)
    (g : GUID) {wp : RtpsWriterProxy} (h : wp.receivedHeartbeatCount < hb.count) :
    ∃ sends, NoCacheCalls sends ∧ .notifyCacheChange ∉ sends ∧
      (heartbeatWorker hb fin mr g r wp).2.2.1 =
        (markAndNotify r.topicCache g (heartbeatWorker hb fin mr g r wp).2.1.allAckableBefore).2 ++
          sends := by
  have hab := RtpsWriterProxy.allAckableBefore_congr (p := (heartbeatWorker hb fin mr g r wp).2.1)
    (q := { wp with receivedHeartbeatCount := hb.count }.irrelevantChangesUpTo hb.firstSn)
    (by obtain ⟨c, hc⟩ := heartbeatWorker_proxy r fin mr g h; rw [hc]; rfl)
  rw [hab, heartbeatWorker_of_lt r fin mr g h]
  dsimp only
  split
  · exact ⟨_, heartbeatReply_noCacheCalls _ _ _ _ _ _ |>.1,
      heartbeatReply_noCacheCalls _ _ _ _ _ _ |>.2, rfl⟩
  · exact ⟨[], noCacheCalls_nil, List.not_mem_nil _, rfl⟩

/-- The worker changes the topic cache only, by its own effects. -/
theorem heartbeatWorker_fst (hb : Heartbeat) (fin : Bool) (mr : MessageReceiverState)
    (g : GUID) (wp : RtpsWriterProxy) :
    (heartbeatWorker hb fin mr g r wp).1 =
      { r with topicCache := applyEffects r.topicCache (heartbeatWorker hb fin mr g r wp).2.2.1 } := by
  rcases le_or_lt hb.count wp.receivedHeartbeatCount with h | h
  · rw [heartbeatWorker_of_le r h]; rfl
  · rw [heartbeatWorker_of_lt r fin mr g h]
    dsimp only
    rw [applyEffects_append, ← markAndNotify_fst]
    split
    · rw [applyEffects_of_noCacheCalls (heartbeatReply_noCacheCalls _ _ _ _ _ _).1]
    · rfl

/-- **A HEARTBEAT the Reader does not act on** changes nothing, sends nothing and returns
`false`. -/
theorem handleHeartbeatMsg_of_not_accepted {hb : Heartbeat} (fin : Bool)
    {mr : MessageReceiverState}
    (h : r.heartbeatAccepted (GUID.newWithPrefixAndId mr.sourceGuidPrefix hb.writerId) hb = false) :
    r.handleHeartbeatMsg hb fin mr = .ok (r, [], false) := by
  unfold handleHeartbeatMsg
  dsimp only
  split; · rfl
  split; · rfl
  rename_i h₁ h₂
  obtain ⟨wp, hwp⟩ := OrdMap.mem_iff.mp (not_not.mp h₂)
  have hle : hb.count ≤ wp.receivedHeartbeatCount := by
    simp only [Bool.or_eq_true, decide_eq_true_eq, not_or] at h₁
    simpa [heartbeatAccepted, h₁.1, h₁.2, hwp] using h
  simp [withMutableWriterProxy, hwp, heartbeatWorker_of_le _ hle, OrdMap.insert_erase_of_find? hwp]

/-- **A HEARTBEAT the Reader acts on** runs the worker on the proxy taken out and puts the
worker's proxy back. -/
theorem handleHeartbeatMsg_of_accepted {hb : Heartbeat} (fin : Bool) {mr : MessageReceiverState}
    {g : GUID} {wp : RtpsWriterProxy} (hg : GUID.newWithPrefixAndId mr.sourceGuidPrefix hb.writerId = g)
    (hwp : r.matchedWriters.find? g = some wp) (h : r.heartbeatAccepted g hb = true) :
    r.handleHeartbeatMsg hb fin mr =
      let res := heartbeatWorker hb fin mr g { r with matchedWriters := r.matchedWriters.erase g } wp
      .ok ({ res.1 with matchedWriters := r.matchedWriters.insert g res.2.1 }, res.2.2) := by
  subst hg
  have h₁ : ¬(r.reliability = .bestEffort ∨ r.likeStateless = true) := by
    rintro (h' | h') <;> simp [heartbeatAccepted, h'] at h
  have hmem : GUID.newWithPrefixAndId mr.sourceGuidPrefix hb.writerId ∈ r.matchedWriters :=
    OrdMap.mem_iff.mpr ⟨wp, hwp⟩
  simp only [handleHeartbeatMsg, Bool.or_eq_true, decide_eq_true_eq, h₁, if_false, hmem,
    not_true_eq_false, withMutableWriterProxy, hwp]
  rw [heartbeatWorker_fst]
  simp

/-! ### GAP -/

/-- **A valid GAP of a matched writer** accounts for `[gap_start, gap_list.base)` and the
members of `gap_list`, and marks the watermark. -/
theorem handleGapMsg_of_valid {gap : Gap} {mr : MessageReceiverState} {g : GUID}
    {wp : RtpsWriterProxy} (hg : GUID.newWithPrefixAndId mr.sourceGuidPrefix gap.writerId = g)
    (hs : r.likeStateless = false) (hwp : r.matchedWriters.find? g = some wp)
    (h₁ : 0 < gap.gapStart) (h₂ : 0 < gap.gapList.base) :
    let irrelevant := Finset.Ico gap.gapStart gap.gapList.base ∪ gap.gapList.set.toFinset
    let wp' := { wp with receivedSet := wp.receivedSet.addSet irrelevant }
    let m := markAndNotify r.topicCache g wp'.allAckableBefore
    r.handleGapMsg gap mr =
      ({ r with matchedWriters := r.matchedWriters.insert g wp', topicCache := m.1 }, m.2) := by
  subst hg
  simp [handleGapMsg, hs, hwp, not_le.mpr h₁, not_le.mpr h₂, ReceivedSet.addSet_addSet,
    RtpsWriterProxy.foldl_setIrrelevantChange, RtpsWriterProxy.irrelevantChangesRange]

/-- Any other GAP changes nothing. -/
theorem handleGapMsg_of_not_valid {gap : Gap} {mr : MessageReceiverState}
    (h : r.likeStateless = true ∨
      GUID.newWithPrefixAndId mr.sourceGuidPrefix gap.writerId ∉ r.matchedWriters ∨
      gap.gapStart ≤ 0 ∨ gap.gapList.base ≤ 0) :
    r.handleGapMsg gap mr = (r, []) := by
  unfold handleGapMsg
  dsimp only
  split; · rfl
  split; · rfl
  rename_i hs _ wp hwp
  have hmem := OrdMap.mem_iff.mpr ⟨wp, hwp⟩
  rcases h with h | h | h | h
  · exact absurd h hs
  · exact absurd hmem h
  · simp [h]
  · simp [h]

/-- A GAP is a valid GAP of a matched writer, or it changes nothing. -/
theorem handleGapMsg_cases (gap : Gap) (mr : MessageReceiverState) :
    let g := GUID.newWithPrefixAndId mr.sourceGuidPrefix gap.writerId
    (∃ wp, r.likeStateless = false ∧ r.matchedWriters.find? g = some wp ∧ 0 < gap.gapStart ∧
        0 < gap.gapList.base) ∨
      ((r.likeStateless = true ∨ g ∉ r.matchedWriters ∨ gap.gapStart ≤ 0 ∨
        gap.gapList.base ≤ 0) ∧ r.handleGapMsg gap mr = (r, [])) := by
  by_cases hv : r.likeStateless = false ∧
      GUID.newWithPrefixAndId mr.sourceGuidPrefix gap.writerId ∈ r.matchedWriters ∧
      0 < gap.gapStart ∧ 0 < gap.gapList.base
  · obtain ⟨hs, hm, h₁, h₂⟩ := hv
    obtain ⟨wp, hwp⟩ := OrdMap.mem_iff.mp hm
    exact .inl ⟨wp, hs, hwp, h₁, h₂⟩
  · have h : r.likeStateless = true ∨
        GUID.newWithPrefixAndId mr.sourceGuidPrefix gap.writerId ∉ r.matchedWriters ∨
        gap.gapStart ≤ 0 ∨ gap.gapList.base ≤ 0 := by
      simp only [not_and_or, not_lt, Bool.not_eq_false] at hv; exact hv
    exact .inr ⟨h, handleGapMsg_of_not_valid r h⟩

/-! ### Timed events, HEARTBEATFRAG and pre-emptive ACKNACKs -/

/-- The deadline check writes `requested_deadline_missed_count` only. -/
theorem calculateIfRequestedDeadlineIsMissed_fst (now : Int) :
    ∃ c, (r.calculateIfRequestedDeadlineIsMissed now).1 =
      { r with requestedDeadlineMissedCount := c } := by
  unfold calculateIfRequestedDeadlineIsMissed
  split
  · exact ⟨_, rfl⟩
  · exact ⟨_, rfl⟩

/-- Timed events write `requested_deadline_missed_count` only. -/
theorem handleTimedEvent_fst (now : Int) (evs : List TimedEvent) :
    ∃ c, (r.handleTimedEvent now evs).1 = { r with requestedDeadlineMissedCount := c } := by
  induction evs generalizing r with
  | nil => exact ⟨_, rfl⟩
  | cons ev evs ih =>
    cases ev
    obtain ⟨c₁, h₁⟩ := r.calculateIfRequestedDeadlineIsMissed_fst now
    obtain ⟨c₂, h₂⟩ := ih { r with requestedDeadlineMissedCount := c₁ }
    refine ⟨c₂, ?_⟩
    simp only [handleTimedEvent, handleRequestedDeadlineEvent, h₁, h₂]

/-- Timed events only report and re-arm the timer. -/
theorem handleTimedEvent_onlyReports (now : Int) (evs : List TimedEvent) :
    OnlyReports (r.handleTimedEvent now evs).2 := by
  induction evs generalizing r with
  | nil => exact onlyReports_nil
  | cons ev evs ih =>
    cases ev
    simp only [handleTimedEvent, handleRequestedDeadlineEvent, onlyReports_append, ih, and_true]
    refine ⟨fun e he => ?_, fun e he => ?_⟩
    · obtain ⟨_, -, rfl⟩ := List.mem_map.mp he; rfl
    · unfold setRequestedDeadlineCheckTimer at he
      split at he <;> simp_all

theorem sendPreemptiveAcknacks_of_likeStateless (h : r.likeStateless = true) :
    r.sendPreemptiveAcknacks = (r, []) := by
  simp [sendPreemptiveAcknacks, h]

/-- Pre-emptive ACKNACKs write `matched_writers` only: a proxy with nothing received draws a
count. -/
theorem sendPreemptiveAcknacks_fst :
    r.sendPreemptiveAcknacks.1 =
      { r with matchedWriters := r.sendPreemptiveAcknacks.1.matchedWriters } := by
  unfold sendPreemptiveAcknacks; split <;> rfl

theorem sendPreemptiveAcknacks_find? (k : GUID) :
    r.sendPreemptiveAcknacks.1.matchedWriters.find? k =
      (r.matchedWriters.find? k).map fun wp =>
        if r.likeStateless = false ∧ wp.noChangesReceived then wp.nextAckNackSequenceNumber.2
        else wp := by
  unfold sendPreemptiveAcknacks
  cases h : r.likeStateless
  · simp
  · simp

theorem sendPreemptiveAcknacks_noCacheCalls : NoCacheCalls r.sendPreemptiveAcknacks.2 := by
  unfold sendPreemptiveAcknacks
  split
  · exact noCacheCalls_nil
  · intro e he
    obtain ⟨⟨_, wp⟩, -, he⟩ := List.mem_filterMap.mp he
    by_cases h : wp.noChangesReceived
    · simp only [h, if_true, Option.some.injEq] at he; subst he; rfl
    · simp [h] at he

/-! ### DATAFRAG -/

/-- The fragment GC writes its clock and the assemblers only. -/
theorem garbageCollectFragments_eq (now : Int) :
    r.garbageCollectFragments now =
      let r' := r.garbageCollectFragments now
      { r with lastFragmentGarbageCollect := r'.lastFragmentGarbageCollect,
               fragmentAssemblers := r'.fragmentAssemblers } := by
  unfold garbageCollectFragments
  split <;> rfl

/-- **`handle_datafrag_msg`** either only updates the fragment state (the sample is
incomplete, or too old), or hands a completed sample, with the fragment state updated, to
`process_received_data`. -/
theorem handleDatafragMsg_cases (d : DataFrag) (f : DataFragFlags) (mr : MessageReceiverState)
    (now : Int) :
    (∃ l fa, r.handleDatafragMsg d f mr now =
      ({ r with lastFragmentGarbageCollect := l, fragmentAssemblers := fa }, [])) ∨
    ∃ fa dd, r.handleDatafragMsg d f mr now =
      { r with fragmentAssemblers := fa }.processReceivedData dd now
        (writeOptionsOf mr d.inlineQos) (GUID.newWithPrefixAndId mr.sourceGuidPrefix d.writerId)
        d.writerSn := by
  unfold handleDatafragMsg
  dsimp only
  split
  · exact .inl ⟨_, _, rfl⟩
  · simp only [feedDatafrag]
    split
    · exact .inr ⟨_, _, rfl⟩
    · exact .inl ⟨_, _, by rw [garbageCollectFragments_eq]⟩

end Reader

end RustDds
