import RustDds.Steps

/-!
# The writer proxies along a run

What one step can do to the proxy of a writer, said once. A writer's proxy is created by
discovery (`update_writer_proxy` of a writer not yet matched, `step_find?_of_not_mem`), and
while the writer stays matched a step changes it in one of six ways (`ProxyChange`,
`step_proxyChange`):

* it is left as it was, which every step not addressed to the writer does, and every step
  addressed to it but a HEARTBEAT the Reader acts on may do;
* discovery re-announces the writer: new locators and group (`update_contents`);
* a sample of the writer is recorded as received (`received_changes_add`);
* a valid GAP of the writer declares numbers irrelevant;
* a HEARTBEAT of the writer that the Reader acts on runs the worker of
  `handle_heartbeat_msg` on it;
* `send_preemptive_acknacks` draws a count from it, when nothing has been received from the
  writer.

The facts about single fields follow from the classification: no step changes the GUID a
proxy is for (`ProxyChange.remoteWriterGuid_eq`); only a HEARTBEAT the Reader acts on
changes `received_heartbeat_count`, to the HEARTBEAT's count
(`ProxyChange.receivedHeartbeatCount_eq`); the ACKNACK counter only draws
(`ProxyChange.sentAckNackCount_eq`).

From them, `ProxiesWellFormed` holds in every reachable state (`Reachable.proxiesWellFormed`):
every proxy is stored under the GUID of its writer, which is what
`send_preemptive_acknacks` relies on when it addresses an ACKNACK to the proxy's
`remote_writer_guid` rather than to its key, and every ACKNACK counter is an `i32`.
-/

namespace RustDds

namespace Reader

/-- The count of the input if it is a HEARTBEAT of `writer` that the Reader acts on. -/
def acceptedHeartbeat? (r : Reader) (writer : GUID) : Input → Option Int
  | .handleHeartbeatMsg hb _ mr =>
    if GUID.newWithPrefixAndId mr.sourceGuidPrefix hb.writerId = writer ∧
        r.heartbeatAccepted writer hb = true then some hb.count
    else none
  | _ => none

variable {cfw : QosPolicies → QosPolicies → Option QosPolicyId} {r r' : Reader} {i : Input}
  {es : List Effect}

theorem acceptedHeartbeat?_of_writer_ne {w k : GUID} (hw : i.writer? = some w) (hk : w ≠ k) :
    r.acceptedHeartbeat? k i = none := by
  cases i <;> simp only [Input.writer?, reduceCtorEq, Option.some.injEq] at hw
  case handleHeartbeatMsg hb fin mr => subst hw; simp [acceptedHeartbeat?, hk]
  all_goals rfl

/-- The HEARTBEATs the Reader acts on raise the count of the proxy. -/
theorem lt_of_acceptedHeartbeat? {k : GUID} {wp : RtpsWriterProxy} {c : Int}
    (hwp : r.matchedWriters.find? k = some wp) (h : r.acceptedHeartbeat? k i = some c) :
    wp.receivedHeartbeatCount < c := by
  cases i <;> simp only [acceptedHeartbeat?, reduceCtorEq] at h
  split_ifs at h with hc
  cases h
  exact lt_of_heartbeatAccepted r hc.2 hwp

end Reader

/-- **How one step changes the proxy of a writer `k` that is matched before and after it**,
from `wp` to `wp'`, the step starting in `r` on input `i`. -/
inductive ProxyChange (r : Reader) (k : GUID) : Input → RtpsWriterProxy → RtpsWriterProxy → Prop
  /-- Any input but a HEARTBEAT of `k` the Reader acts on may leave the proxy as it is. -/
  | unchanged {i wp} : r.acceptedHeartbeat? k i = none → ProxyChange r k i wp wp
  /-- Discovery re-announces `k`: the locators and the group are the new ones. -/
  | reannounced {wp} (uc mc : List Locator) (e : EntityId) (q : QosPolicies) :
      ProxyChange r k (.updateWriterProxy k uc mc e q) wp
        (wp.updateContents (RtpsWriterProxy.new k uc mc e))
  /-- A sample of `k` is recorded as received. -/
  | received {i wp} (s t : Int) : i.sampleWriter? = some k →
      ProxyChange r k i wp (wp.receivedChangesAdd s t)
  /-- A valid GAP of `k` declares `[gap_start, gap_list.base)` and the list irrelevant. -/
  | gap {wp} (gap : Gap) (mr : MessageReceiverState) :
      GUID.newWithPrefixAndId mr.sourceGuidPrefix gap.writerId = k →
      ProxyChange r k (.handleGapMsg gap mr) wp
        { wp with
            receivedSet := wp.receivedSet.addSet
              (Finset.Ico gap.gapStart gap.gapList.base ∪ gap.gapList.set.toFinset) }
  /-- A HEARTBEAT of `k` the Reader acts on: the proxy the worker puts back. -/
  | heartbeat {wp} (hb : Heartbeat) (fin : Bool) (mr : MessageReceiverState) :
      GUID.newWithPrefixAndId mr.sourceGuidPrefix hb.writerId = k →
      r.heartbeatAccepted k hb = true → wp.receivedHeartbeatCount < hb.count →
      ProxyChange r k (.handleHeartbeatMsg hb fin mr) wp
        (Reader.heartbeatWorker hb fin mr k
          { r with matchedWriters := r.matchedWriters.erase k } wp).2.1
  /-- A pre-emptive ACKNACK to `k`, which has sent nothing, draws a count. -/
  | preemptive {wp} : r.likeStateless = false → wp.noChangesReceived = true →
      ProxyChange r k .sendPreemptiveAcknacks wp wp.nextAckNackSequenceNumber.2

namespace Reader

variable {cfw : QosPolicies → QosPolicies → Option QosPolicyId} {r r' : Reader} {i : Input}
  {es : List Effect}

/-- `process_received_data` leaves a proxy as it was, or records the sample in its own
writer's. -/
theorem processReceivedData_proxy {dd : DDSData} {t : Int} {wo : WriteOptions} {g : GUID}
    {s : Int} {k : GUID} {wp wp' : RtpsWriterProxy} (hwp : r.matchedWriters.find? k = some wp)
    (hwp' : (r.processReceivedData dd t wo g s).1.matchedWriters.find? k = some wp') :
    wp' = wp ∨ g = k ∧ wp' = wp.receivedChangesAdd s t := by
  rw [processReceivedData_find?, recordReceived_find?] at hwp'
  split_ifs at hwp' with h₁ h₂
  · rw [hwp] at hwp'; exact .inr ⟨h₂.1, (Option.some.inj hwp').symm⟩
  all_goals rw [hwp] at hwp'; exact .inl (Option.some.inj hwp').symm

/-- **Every step changes a proxy that stays as `ProxyChange` says.** -/
theorem step_proxyChange (h : r.step cfw i = .ok (r', es)) {k : GUID}
    {wp wp' : RtpsWriterProxy} (hwp : r.matchedWriters.find? k = some wp)
    (hwp' : r'.matchedWriters.find? k = some wp') : ProxyChange r k i wp wp' := by
  have same (hf : r'.matchedWriters.find? k = r.matchedWriters.find? k)
      (ha : r.acceptedHeartbeat? k i = none) : ProxyChange r k i wp wp' := by
    rw [hf, hwp] at hwp'; cases hwp'; exact .unchanged ha
  have other {w : GUID} (hw : i.writer? = some w) (hk : w ≠ k) : ProxyChange r k i wp wp' :=
    same (step_find?_of_ne h hw hk) (acceptedHeartbeat?_of_writer_ne hw hk)
  cases i
  case handleDataMsg d f mr now =>
    rcases step_sample_cases h with ⟨rfl, rfl⟩ | ⟨dd, h⟩
    · exact same rfl rfl
    obtain ⟨rfl, rfl⟩ := Prod.ext_iff.mp h
    rcases processReceivedData_proxy hwp hwp' with rfl | ⟨rfl, rfl⟩
    · exact .unchanged rfl
    · exact .received _ _ rfl
  case handleDatafragMsg d f mr now =>
    rcases step_fragment_cases h with ⟨l, fa, rfl, rfl⟩ | ⟨fa, dd, h⟩
    · exact same rfl rfl
    obtain ⟨rfl, rfl⟩ := Prod.ext_iff.mp h
    rcases processReceivedData_proxy (r := { r with fragmentAssemblers := fa }) hwp hwp'
      with rfl | ⟨rfl, rfl⟩
    · exact .unchanged rfl
    · exact .received _ _ rfl
  case handleHeartbeatMsg hb fin mr =>
    rcases step_handleHeartbeatMsg_cases h with ⟨hacc, rfl, rfl⟩ | ⟨wp₀, hacc, hwp₀, rfl, rfl⟩
    · refine same rfl (if_neg fun ⟨hg, hc⟩ => ?_)
      rw [← hg, hacc] at hc; cases hc
    by_cases hg : GUID.newWithPrefixAndId mr.sourceGuidPrefix hb.writerId = k
    · subst hg
      rw [hwp] at hwp₀; cases hwp₀
      rw [OrdMap.find?_insert_self] at hwp'; cases hwp'
      exact .heartbeat hb fin mr rfl hacc (lt_of_heartbeatAccepted r hacc hwp)
    · exact other rfl hg
  all_goals simp only [step, Except.ok.injEq, Prod.ext_iff] at h; obtain ⟨rfl, rfl⟩ := h
  case updateWriterProxy g uc mc e q =>
    by_cases hg : g = k
    · subst hg
      rcases Bool.eq_false_or_eq_true r.likeStateless with hs | hs
      · exact same (by rw [updateWriterProxy_of_likeStateless cfw r _ q hs]) rfl
      cases hq : cfw q r.qosPolicy with
      | some b => exact same (by rw [updateWriterProxy_of_incompatible cfw r hs hq]) rfl
      | none =>
        rw [updateWriterProxy_of_find? cfw r hs hq hwp] at hwp'
        rw [RtpsWriterProxy.remoteWriterGuid_new, OrdMap.find?_insert_self] at hwp'
        cases hwp'; exact .reannounced uc mc e q
    · exact other rfl hg
  case removeWriterProxy g =>
    by_cases hg : g = k
    · subst hg; simp [removeWriterProxy_fst] at hwp'
    · exact other rfl hg
  case participantLost p =>
    rw [participantLost_find?] at hwp'
    split_ifs at hwp' with hp
    rw [hwp] at hwp'; cases hwp'; exact .unchanged rfl
  case handleGapMsg gap mr =>
    rcases handleGapMsg_cases r gap mr with ⟨wp₀, hs, hwp₀, h₁, h₂⟩ | ⟨-, hg⟩
    · by_cases hg : GUID.newWithPrefixAndId mr.sourceGuidPrefix gap.writerId = k
      · subst hg
        rw [hwp] at hwp₀; cases hwp₀
        rw [handleGapMsg_of_valid r rfl hs hwp h₁ h₂, OrdMap.find?_insert_self] at hwp'
        cases hwp'; exact .gap gap mr rfl
      · exact other rfl hg
    · exact same (by rw [hg]) rfl
  case handleTimedEvent evs now =>
    obtain ⟨c, hc⟩ := handleTimedEvent_fst r now evs
    exact same (by rw [hc]) rfl
  case sendPreemptiveAcknacks =>
    rw [sendPreemptiveAcknacks_find?, hwp, Option.map_some', Option.some.injEq] at hwp'
    split_ifs at hwp' with hc
    · subst hwp'; exact .preemptive hc.1 hc.2
    · subst hwp'; exact .unchanged rfl
  all_goals exact same rfl rfl

/-- **A writer a step newly matches** is one discovery announced, with a new proxy. -/
theorem step_find?_of_not_mem (h : r.step cfw i = .ok (r', es)) {k : GUID}
    {wp' : RtpsWriterProxy} (hk : k ∉ r.matchedWriters)
    (hwp' : r'.matchedWriters.find? k = some wp') :
    ∃ uc mc e q, i = .updateWriterProxy k uc mc e q ∧ wp' = RtpsWriterProxy.new k uc mc e := by
  have hm := (step_mem_matchedWriters h k).mp (OrdMap.mem_iff.mpr ⟨wp', hwp'⟩)
  cases i <;> simp only [matchedAfter, hk, false_or, false_and] at hm
  case updateWriterProxy g uc mc e q =>
    obtain ⟨rfl, hs, hq⟩ := hm
    simp only [step, Except.ok.injEq, Prod.ext_iff] at h; obtain ⟨rfl, rfl⟩ := h
    rw [updateWriterProxy_of_not_mem cfw r hs hq hk, RtpsWriterProxy.remoteWriterGuid_new,
      OrdMap.find?_insert_self] at hwp'
    exact ⟨uc, mc, e, q, rfl, (Option.some.inj hwp').symm⟩

end Reader

namespace ProxyChange

variable {r : Reader} {k : GUID} {i : Input} {wp wp' : RtpsWriterProxy}

/-- The worker's proxy after a new HEARTBEAT: the count recorded, the numbers below
`first_sn` accounted for, and counts drawn for the reply. -/
theorem heartbeat_proxy (r : Reader) (k : GUID) (fin : Bool) (mr : MessageReceiverState)
    {hb : Heartbeat} (h : wp.receivedHeartbeatCount < hb.count) :
    ∃ n, (Reader.heartbeatWorker hb fin mr k
        { r with matchedWriters := r.matchedWriters.erase k } wp).2.1 =
      { wp with receivedSet := wp.receivedSet.raiseFloor hb.firstSn,
                receivedHeartbeatCount := hb.count,
                sentAckNackCount := Reader.drawCount wp.sentAckNackCount n } := by
  rw [Reader.heartbeatWorker_of_lt _ fin mr k h]
  dsimp only
  split
  · rw [Reader.heartbeatReply_fst]; exact ⟨_, rfl⟩
  · exact ⟨0, rfl⟩

/-- **No step changes the writer a proxy is for.** -/
theorem remoteWriterGuid_eq (h : ProxyChange r k i wp wp') :
    wp'.remoteWriterGuid = wp.remoteWriterGuid := by
  cases h with
  | heartbeat hb fin mr _ _ hlt => obtain ⟨n, hn⟩ := heartbeat_proxy r k fin mr hlt; rw [hn]
  | _ => rfl

/-- **Only a HEARTBEAT the Reader acts on changes `received_heartbeat_count`**, to the
HEARTBEAT's count. -/
theorem receivedHeartbeatCount_eq (h : ProxyChange r k i wp wp') :
    wp'.receivedHeartbeatCount = (r.acceptedHeartbeat? k i).getD wp.receivedHeartbeatCount := by
  cases h with
  | unchanged ha => rw [ha]; rfl
  | received s t hi => cases i <;> simp only [Input.sampleWriter?, reduceCtorEq] at hi <;> rfl
  | heartbeat hb fin mr hg hacc hlt =>
    obtain ⟨n, hn⟩ := heartbeat_proxy r k fin mr hlt
    simp [hn, Reader.acceptedHeartbeat?, hg, hacc]
  | _ => rfl

/-- **The ACKNACK counter only draws.** -/
theorem sentAckNackCount_eq (h : ProxyChange r k i wp wp') :
    ∃ n, wp'.sentAckNackCount = Reader.drawCount wp.sentAckNackCount n := by
  cases h with
  | heartbeat hb fin mr _ _ hlt =>
    obtain ⟨n, hn⟩ := heartbeat_proxy r k fin mr hlt
    exact ⟨n, by rw [hn]⟩
  | preemptive => exact ⟨1, rfl⟩
  | _ => exact ⟨0, rfl⟩

end ProxyChange

/-! ### The invariant of the proxies -/

/-- **The invariant of the proxies**: each proxy is stored under its writer's GUID, and its
ACKNACK counter is an `i32`. -/
structure Reader.ProxiesWellFormed (r : Reader) : Prop where
  key_eq : ∀ k wp, r.matchedWriters.find? k = some wp → wp.remoteWriterGuid = k
  count_mem_range : ∀ k wp, r.matchedWriters.find? k = some wp →
    -2147483648 ≤ wp.sentAckNackCount ∧ wp.sentAckNackCount < 2147483648

/-- The states a Reader reaches: the runs from a Reader that `Reader::new` built. -/
def Reachable (cfw : QosPolicies → QosPolicies → Option QosPolicyId) (r : Reader) : Prop :=
  ∃ i now r₀ L, Reader.new i now = .ok r₀ ∧ Run cfw r₀ L r

namespace Reader

variable {cfw : QosPolicies → QosPolicies → Option QosPolicyId} {r r' : Reader} {i : Input}
  {es : List Effect}

theorem proxiesWellFormed_of_new {ingredients : ReaderIngredients} {now : Int}
    (h : Reader.new ingredients now = .ok r) : r.ProxiesWellFormed := by
  have hm := (new_eq_ok h).2.2.2.2.2.2.2.2.1
  exact ⟨fun k wp hwp => by simp [hm] at hwp, fun k wp hwp => by simp [hm] at hwp⟩

/-- **Every step keeps the invariant of the proxies.** -/
theorem step_proxiesWellFormed (h : r.step cfw i = .ok (r', es)) (hw : r.ProxiesWellFormed) :
    r'.ProxiesWellFormed := by
  suffices ∀ k wp', r'.matchedWriters.find? k = some wp' → wp'.remoteWriterGuid = k ∧
      -2147483648 ≤ wp'.sentAckNackCount ∧ wp'.sentAckNackCount < 2147483648 from
    ⟨fun k wp hwp => (this k wp hwp).1, fun k wp hwp => (this k wp hwp).2⟩
  intro k wp' hwp'
  cases hwp : r.matchedWriters.find? k with
  | none =>
    obtain ⟨uc, mc, e, q, -, rfl⟩ := step_find?_of_not_mem h (OrdMap.not_mem_iff.mpr hwp) hwp'
    exact ⟨rfl, by simp [RtpsWriterProxy.new]⟩
  | some wp =>
    have hc := step_proxyChange h hwp hwp'
    obtain ⟨n, hn⟩ := hc.sentAckNackCount_eq
    rw [hc.remoteWriterGuid_eq, hn]
    exact ⟨hw.key_eq k wp hwp, drawCount_mem_range (hw.count_mem_range k wp hwp) n⟩

end Reader

theorem Run.proxiesWellFormed {cfw : QosPolicies → QosPolicies → Option QosPolicyId}
    {r₀ r : Reader} {L : List StepRecord} (h : Run cfw r₀ L r) (h₀ : r₀.ProxiesWellFormed) :
    r.ProxiesWellFormed :=
  h.invariant (fun _ _ _ _ hw hs => Reader.step_proxiesWellFormed hs hw) h₀

/-- **Every reachable state keeps the invariant of the proxies.** -/
theorem Reachable.proxiesWellFormed {cfw : QosPolicies → QosPolicies → Option QosPolicyId}
    {r : Reader} (h : Reachable cfw r) : r.ProxiesWellFormed := by
  obtain ⟨i, now, r₀, L, hnew, hrun⟩ := h
  exact hrun.proxiesWellFormed (Reader.proxiesWellFormed_of_new hnew)

end RustDds
