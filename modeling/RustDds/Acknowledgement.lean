import RustDds.Reply
import RustDds.Proxies

/-!
# What the Reader acknowledges

An ACKNACK tells the writer two things: every sequence number below its base is acknowledged,
so a writer may drop it from its history; every number in its set is missing and should be
sent again. A NACKFRAG asks again for fragments of one number. The Reader builds all of them
from the writer's proxy, and they agree with it:

* `readerSnState_base`, `mem_readerSnState_set` — the base of a HEARTBEAT reply is the first
  missing number (`all_ackable_before` if none is), which is `all_ackable_before`
  (`head?_getD_missingSeqnums`), and its set lists only missing numbers;
* `heartbeatWorker_repliesAgree` — after a new HEARTBEAT, every number from 1 below the base
  is accounted for by the proxy the worker puts back, the listed ones are not, and every
  NACKFRAG names an unaccounted number and only fragments the Reader misses;
* `step_repliesAgree` — the same for every step of a Reader whose proxies are stored under
  their writers' GUIDs: pre-emptive ACKNACKs acknowledge nothing, and no other step sends;
* `replies_agree_with_proxy` — along every run, at each step, the writer an ACKNACK or
  NACKFRAG goes to is matched afterwards and its proxy agrees with what was sent.

This holds also where the window bound `first_missing + 256` wraps, since the ACKNACK then
lists nothing.
-/

namespace RustDds

/-- What the ACKNACKs and NACKFRAGs among `es` tell writer `g` agrees with `g`'s proxy in `r`:
`g` is matched; every number from 1 below an ACKNACK's base is accounted for and none the
ACKNACK lists is; a NACKFRAG names a number not accounted for and lists only fragments the
Reader misses. -/
def RepliesAgree (r : Reader) (g : GUID) (es : List Effect) : Prop :=
  (∀ ack ∈ ackNacksSent g es, ∃ wp, r.matchedWriters.find? g = some wp ∧
    (∀ s, 1 ≤ s → s < ack.readerSnState.base → s ∈ wp.receivedSet) ∧
    ∀ s ∈ ack.readerSnState.set, s ∉ wp.receivedSet) ∧
  ∀ nf ∈ nackFragsSent g es, ∃ wp, r.matchedWriters.find? g = some wp ∧
    nf.writerSn ∉ wp.receivedSet ∧
    ∀ x ∈ nf.fragmentNumberState.set, x ∈ r.missingFragsFor g nf.writerSn

theorem repliesAgree_of_noSends {es : List Effect} (h : NoSends es) (r : Reader) (g : GUID) :
    RepliesAgree r g es := by
  simp [RepliesAgree, ackNacksSent_of_noSends h, nackFragsSent_of_noSends h]

namespace Reader

variable (r : Reader)

/-- The base of the reply's ACKNACK is the first missing number, or `all_ackable_before`. -/
theorem readerSnState_base (g : GUID) (wp : RtpsWriterProxy) (ms : List Int) :
    (r.readerSnState g wp ms).1.base = ms.head?.getD wp.allAckableBefore := by
  unfold readerSnState
  split <;> simp_all [SequenceNumberSet.fromBaseAndSet, SequenceNumberSet.newEmpty]

/-- The reply's ACKNACK lists only missing numbers. -/
theorem mem_readerSnState_set {g : GUID} {wp : RtpsWriterProxy} {ms : List Int} {s : Int}
    (h : s ∈ (r.readerSnState g wp ms).1.set) : s ∈ ms := by
  unfold readerSnState at h
  split at h
  · exact (List.takeWhile_sublist _).subset
      (List.mem_of_mem_filter (List.mem_of_mem_filter h))
  · cases h

/-- The reply's NACKFRAG candidates are missing numbers. -/
theorem mem_readerSnState_snd {g : GUID} {wp : RtpsWriterProxy} {ms : List Int} {s : Int}
    (h : s ∈ (r.readerSnState g wp ms).2) : s ∈ ms := by
  unfold readerSnState at h
  split at h
  · exact (List.takeWhile_sublist _).subset (List.mem_of_mem_filter h)
  · cases h

/-- A HEARTBEAT reply sends nothing to any other writer. -/
theorem heartbeatReply_sent_of_ne (hb : Heartbeat) (mr : MessageReceiverState) (g : GUID)
    (wp : RtpsWriterProxy) (ms : List Int) {w : GUID} (hw : g ≠ w) :
    ackNacksSent w (r.heartbeatReply hb mr g wp ms).2 = [] ∧
      nackFragsSent w (r.heartbeatReply hb mr g wp ms).2 = [] := by
  simp only [heartbeatReply]
  split <;> simp [ackNacksSent, nackFragsSent, Effect.ackNacksTo, Effect.nackFragsTo, hw]

/-- **What the worker sends after a new HEARTBEAT agrees with the proxy it puts back.** -/
theorem heartbeatWorker_repliesAgree (hb : Heartbeat) (fin : Bool) (mr : MessageReceiverState)
    (g : GUID) {wp : RtpsWriterProxy} (h : wp.receivedHeartbeatCount < hb.count) :
    let res := heartbeatWorker hb fin mr g r wp
    (∀ ack ∈ ackNacksSent g res.2.2.1,
      (∀ s, 1 ≤ s → s < ack.readerSnState.base → s ∈ res.2.1.receivedSet) ∧
      ∀ s ∈ ack.readerSnState.set, s ∉ res.2.1.receivedSet) ∧
    ∀ nf ∈ nackFragsSent g res.2.2.1, nf.writerSn ∉ res.2.1.receivedSet ∧
      ∀ x ∈ nf.fragmentNumberState.set, x ∈ r.missingFragsFor g nf.writerSn := by
  obtain ⟨-, hacks, hnfs⟩ := heartbeatWorker_sent r hb fin mr g h g
  obtain ⟨c, hwp⟩ := heartbeatWorker_proxy r fin mr g h
  dsimp only at hacks hnfs ⊢
  -- the proxy put back accounts for what `irrelevant_changes_up_to(first_sn)` left
  have hset : (heartbeatWorker hb fin mr g r wp).2.1.receivedSet =
      (wp.irrelevantChangesUpTo hb.firstSn).receivedSet := by rw [hwp]; rfl
  rw [hacks, hnfs, hset]
  split
  · obtain ⟨hack, hnf⟩ := heartbeatReply_sent _ hb mr g
      ({ wp with receivedHeartbeatCount := hb.count }.irrelevantChangesUpTo hb.firstSn)
      ((wp.irrelevantChangesUpTo hb.firstSn).missingSeqnums hb.firstSn hb.lastSn)
    rw [hack, hnf]
    refine ⟨?_, fun nf hnf' => ?_⟩
    · simp only [List.mem_singleton, forall_eq, readerSnState_base]
      refine ⟨fun s _ hlt => RtpsWriterProxy.mem_of_lt_head?_missingSeqnums hlt,
        fun s hs => ((RtpsWriterProxy.mem_missingSeqnums _ _ _ _).mp
          (mem_readerSnState_set _ hs)).2.2⟩
    · obtain ⟨hmap, hfrag⟩ := nackFrags_spec { r with topicCache := (markAndNotify r.topicCache g
          (wp.irrelevantChangesUpTo hb.firstSn).allAckableBefore).1 } g r.myGuid.entityId _ _
        fun sn hsn => missingFragsFor_ne_nil _ (isFragPartiallyReceived_of_mem_readerSnState _ hsn)
      have hsn : nf.writerSn ∈ _ := hmap ▸ List.mem_map_of_mem NackFrag.writerSn hnf'
      obtain ⟨f, more, hfm, hstate⟩ := hfrag nf hnf'
      refine ⟨((RtpsWriterProxy.mem_missingSeqnums _ _ _ _).mp
        (mem_readerSnState_snd _ hsn)).2.2, fun x hx => ?_⟩
      simp only [hstate, FragmentNumberSet.fromBaseAndSet, List.mem_filter] at hx
      exact hfm ▸ hx.1
  · simp

/-- Pre-emptive ACKNACKs go to matched writers and acknowledge nothing. -/
theorem sendPreemptiveAcknacks_repliesAgree (hw : r.ProxiesWellFormed) (g : GUID) :
    RepliesAgree r.sendPreemptiveAcknacks.1 g r.sendPreemptiveAcknacks.2 := by
  unfold sendPreemptiveAcknacks
  split
  · exact repliesAgree_of_noSends noSends_nil _ g
  unfold RepliesAgree
  refine ⟨fun ack hack => ?_, fun nf hnf => ?_⟩
  · simp only [ackNacksSent, List.mem_flatMap, List.mem_filterMap] at hack
    obtain ⟨e, ⟨⟨k, wp⟩, hmem, he⟩, hack⟩ := hack
    split at he <;> cases he
    simp only [preemptiveAckNack, Effect.ackNacksTo] at hack
    split at hack
    · rename_i hg
      obtain rfl := List.mem_singleton.mp hack
      have hfind := OrdMap.find?_of_mem_toList hmem
      obtain rfl : k = g := (hw.key_eq k wp hfind).symm.trans hg
      refine ⟨_, by rw [OrdMap.find?_mapVal, hfind]; rfl, fun s hs hlt => ?_, fun s hs => ?_⟩
      · simp [SequenceNumberSet.newEmpty] at hlt; omega
      · cases hs
    · cases hack
  · simp only [nackFragsSent, List.mem_flatMap, List.mem_filterMap] at hnf
    obtain ⟨e, ⟨⟨k, wp⟩, -, he⟩, hnf⟩ := hnf
    split at he <;> cases he
    cases hnf

variable {cfw : QosPolicies → QosPolicies → Option QosPolicyId} {r r' : Reader} {i : Input}
  {es : List Effect}

/-- **Every step's ACKNACKs and NACKFRAGs agree with the proxy after it.** -/
theorem step_repliesAgree (hw : r.ProxiesWellFormed) (h : r.step cfw i = .ok (r', es))
    (g : GUID) : RepliesAgree r' g es := by
  cases hi : i.sendsAckNacks
  · exact repliesAgree_of_noSends (step_noSends h hi) r' g
  cases i <;> simp only [Input.sendsAckNacks, reduceCtorEq] at hi
  case sendPreemptiveAcknacks =>
    simp only [step, Except.ok.injEq, Prod.ext_iff] at h
    obtain ⟨rfl, rfl⟩ := h
    exact r.sendPreemptiveAcknacks_repliesAgree hw g
  case handleHeartbeatMsg hb fin mr =>
    rcases step_handleHeartbeatMsg_cases h with ⟨-, rfl, rfl⟩ | ⟨wp, hacc, hwp, rfl, rfl⟩
    · exact repliesAgree_of_noSends noSends_nil _ g
    set g₀ := GUID.newWithPrefixAndId mr.sourceGuidPrefix hb.writerId
    have hc := lt_of_heartbeatAccepted r hacc hwp
    by_cases hg : g₀ = g
    · subst hg
      obtain ⟨hack, hnf⟩ := heartbeatWorker_repliesAgree _ hb fin mr g₀ hc
      unfold RepliesAgree
      exact ⟨fun ack h => ⟨_, OrdMap.find?_insert_self _ _ _, hack ack h⟩,
        fun nf h => ⟨_, OrdMap.find?_insert_self _ _ _, hnf nf h⟩⟩
    · let r₀ : Reader := { r with matchedWriters := r.matchedWriters.erase g₀ }
      obtain ⟨-, hacks, hnfs⟩ := heartbeatWorker_sent r₀ hb fin mr g₀ hc g
      have hne : ∀ (r₁ : Reader) wp ms,
          ackNacksSent g (r₁.heartbeatReply hb mr g₀ wp ms).2 = [] ∧
            nackFragsSent g (r₁.heartbeatReply hb mr g₀ wp ms).2 = [] :=
        fun r₁ wp ms => heartbeatReply_sent_of_ne r₁ hb mr g₀ wp ms hg
      simp only [hne, ite_self] at hacks hnfs
      simp [RepliesAgree, hacks, hnfs]

end Reader

/-- **The Reader never acknowledges what it does not account for.** Along every run from a
state whose proxies are stored under their writers' GUIDs (every reachable state), each step
sends a writer ACKNACKs and NACKFRAGs that agree with its proxy after the step: the writer is
matched, every number from 1 below an ACKNACK's base is accounted for, no number the ACKNACK
lists is, and a NACKFRAG names a number not accounted for and lists only fragments the Reader
misses. -/
theorem replies_agree_with_proxy {cfw : QosPolicies → QosPolicies → Option QosPolicyId}
    {r₀ r : Reader} {L : List StepRecord} (h₀ : r₀.ProxiesWellFormed) (hrun : Run cfw r₀ L r) :
    ∀ t ∈ L, ∀ g, RepliesAgree t.post g t.effects := fun t ht g =>
  Reader.step_repliesAgree ((hrun.invariant_mem (fun _ _ _ _ hw hs =>
    Reader.step_proxiesWellFormed hs hw) h₀ t ht).1) (hrun.step_of_mem ht) g

/-- The pre-emptive ACKNACK and the two HEARTBEATs after `exampleWriter` is matched. -/
theorem example_replies_agree_with_proxy :
    exampleMatch.post.ProxiesWellFormed ∧
      ∀ t ∈ exampleHeartbeatSteps, ∀ g, RepliesAgree t.post g t.effects :=
  have hr : Reachable exampleCompliance exampleMatch.post :=
    ⟨exampleIngredients, 0, exampleReader, [exampleMatch], new_exampleIngredients,
      (Run.snoc Run.nil rfl : Run exampleCompliance exampleReader ([] ++ [exampleMatch]) _)⟩
  have h₀ : exampleMatch.post.ProxiesWellFormed := hr.proxiesWellFormed
  ⟨h₀, replies_agree_with_proxy h₀ exampleHeartbeatRun⟩

end RustDds
