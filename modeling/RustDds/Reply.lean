import RustDds.Heartbeat

/-!
# What a Reader sends back for a HEARTBEAT

`handle_heartbeat_msg` answers a new HEARTBEAT of a matched writer with one ACKNACK and, for
sequence numbers of which some fragments arrived, NACKFRAGs. This module reads the sends off
the effect log (`ackNacksSent`, `nackFragsSent`) and states their contents:

* `heartbeatReply_contents` — from the missing numbers in increasing order, the ACKNACK is
  based at the first of them (at `all_ackable_before` when none is missing) and lists those
  below 256 past its base with no fragment yet; every other number of that window gets one
  NACKFRAG, listing its missing fragments from the first, up to 256 past it;
* `heartbeat_reply_contents` — the same at the level of the handler, together with when it
  replies and what the base says about the proxy.

The code bases the ACKNACK at the first missing number, and the spec at `all_ackable_before`.
The two agree: after `irrelevant_changes_up_to(first_sn)` the history floor is at least
`first_sn`, and it is the least number not accounted for, so it is the first missing one
whenever one is missing (`head?_missingSeqnums`). The window bound `first_missing + 256` is an
`i64` sum: within 256 of `i64::MAX` it wraps (a debug build panics there), and the ACKNACK then
lists nothing although the number is missing (`acknack_window_bound_overflows`,
`acknack_omits_missing_at_i64_max`). The other panic of the handler, a worker that puts the
proxy back itself, is unreachable: no step of the Reader fails (`step_never_panics`).
-/

namespace RustDds

/-! ### Strictly increasing lists -/

/-- The head of a strictly increasing list is its least member. -/
theorem head?_le_of_sorted {α : Type} [Preorder α] [Inhabited α] {l : List α}
    (hl : l.Sorted (· < ·)) {x : α} (hx : l.head? = some x) : ∀ y ∈ l, x ≤ y :=
  fun _ hy => List.head!_of_head? hx ▸ hl.head!_le hy

namespace RtpsWriterProxy

theorem seqRange_sorted (first last : Int) : (seqRange first last).Sorted (· < ·) :=
  List.pairwise_map.mpr ((List.pairwise_lt_range _).imp fun h => by omega)

/-- `missing_seqnums` lists the missing numbers in increasing order. -/
theorem missingSeqnums_sorted (p : RtpsWriterProxy) (first last : Int) :
    (p.missingSeqnums first last).Sorted (· < ·) :=
  (seqRange_sorted first last).filter _

variable {p : RtpsWriterProxy} {first last : Int}

/-- After `irrelevant_changes_up_to(first)` the history floor is at least `first`. -/
theorem le_allAckableBefore_irrelevantChangesUpTo (p : RtpsWriterProxy) (first : Int) :
    first ≤ (p.irrelevantChangesUpTo first).allAckableBefore :=
  not_lt.mp fun hlt => (allAckableBefore_spec (p.irrelevantChangesUpTo first)).2.1 (by simp [hlt])

/-- **The first missing number is `all_ackable_before`**: after `irrelevant_changes_up_to(first)`
nothing below `first` is missing, and the floor is the least number not accounted for. -/
theorem head?_missingSeqnums {fm : Int}
    (hfm : ((p.irrelevantChangesUpTo first).missingSeqnums first last).head? = some fm) :
    fm = (p.irrelevantChangesUpTo first).allAckableBefore := by
  obtain ⟨-, h₂, h₃⟩ := (mem_missingSeqnums _ _ _ _).mp (List.mem_of_mem_head? hfm)
  obtain ⟨-, b₂, b₃⟩ := allAckableBefore_spec (p.irrelevantChangesUpTo first)
  have hfirst := le_allAckableBefore_irrelevantChangesUpTo p first
  have hle : (p.irrelevantChangesUpTo first).allAckableBefore ≤ fm :=
    not_lt.mp fun hlt => h₃ (b₃ fm hlt)
  have := head?_le_of_sorted (missingSeqnums_sorted _ first last) hfm _
    ((mem_missingSeqnums _ _ _ _).mpr ⟨hfirst, by omega, b₂⟩)
  omega

/-- So the base of a HEARTBEAT reply, the first missing number or `all_ackable_before` when
none is missing, is `all_ackable_before`. -/
theorem head?_getD_missingSeqnums :
    ((p.irrelevantChangesUpTo first).missingSeqnums first last).head?.getD
      (p.irrelevantChangesUpTo first).allAckableBefore =
        (p.irrelevantChangesUpTo first).allAckableBefore := by
  cases hm : ((p.irrelevantChangesUpTo first).missingSeqnums first last).head? with
  | none => rfl
  | some fm => exact head?_missingSeqnums hm

/-- Every number below the base of a HEARTBEAT reply is accounted for. -/
theorem mem_of_lt_head?_missingSeqnums {s : Int}
    (hlt : s < (((p.irrelevantChangesUpTo first).missingSeqnums first last).head?.getD
      (p.irrelevantChangesUpTo first).allAckableBefore)) :
    s ∈ (p.irrelevantChangesUpTo first).receivedSet :=
  (allAckableBefore_spec _).2.2 s (head?_getD_missingSeqnums ▸ hlt)

end RtpsWriterProxy

namespace Reader

variable (r : Reader)

/-- **The NACKFRAGs of a reply**, one per candidate, in order, when each misses a fragment:
each names its sequence number and lists its missing fragments from the first, up to 256
past it. -/
theorem nackFrags_spec (g : GUID) (readerId : EntityId) (wp : RtpsWriterProxy) (sns : List Int)
    (h : ∀ sn ∈ sns, r.missingFragsFor g sn ≠ []) :
    (r.nackFrags g readerId wp sns).2.map NackFrag.writerSn = sns ∧
      ∀ nf ∈ (r.nackFrags g readerId wp sns).2, ∃ f more,
        r.missingFragsFor g nf.writerSn = f :: more ∧
          nf.fragmentNumberState = FragmentNumberSet.fromBaseAndSet f (f :: more) := by
  induction sns generalizing wp with
  | nil => exact ⟨rfl, fun _ h => nomatch h⟩
  | cons sn sns ih =>
    obtain ⟨hmap, hnf⟩ := ih wp.nextAckNackSequenceNumber.2 fun s hs => h s (List.mem_cons_of_mem _ hs)
    obtain ⟨f, more, hfm⟩ := List.exists_cons_of_ne_nil (h sn (List.mem_cons_self _ _))
    simp only [nackFrags, hfm, List.map_cons, hmap, List.mem_cons, forall_eq_or_imp]
    exact ⟨trivial, ⟨f, more, rfl, rfl⟩, hnf⟩

end Reader

namespace Effect

/-- The ACKNACK the effect sends to `writer`, if it sends one. -/
def ackNacksTo (writer : GUID) : Effect → List AckNack
  | .sendAckNack _ ackNack _ _ destinationGuid => if destinationGuid = writer then [ackNack] else []
  | _ => []

/-- The NACKFRAGs the effect sends to `writer`, in order. -/
def nackFragsTo (writer : GUID) : Effect → List NackFrag
  | .sendNackFrags nackFrags _ _ destinationGuid => if destinationGuid = writer then nackFrags else []
  | _ => []

end Effect

/-- The ACKNACKs the effects send to `writer`, in order. -/
def ackNacksSent (writer : GUID) (es : List Effect) : List AckNack :=
  es.flatMap (Effect.ackNacksTo writer)

/-- The NACKFRAGs the effects send to `writer`, in order. -/
def nackFragsSent (writer : GUID) (es : List Effect) : List NackFrag :=
  es.flatMap (Effect.nackFragsTo writer)

@[simp] theorem ackNacksSent_append (w : GUID) (es₁ es₂ : List Effect) :
    ackNacksSent w (es₁ ++ es₂) = ackNacksSent w es₁ ++ ackNacksSent w es₂ :=
  List.flatMap_append _ _ _

@[simp] theorem nackFragsSent_append (w : GUID) (es₁ es₂ : List Effect) :
    nackFragsSent w (es₁ ++ es₂) = nackFragsSent w es₁ ++ nackFragsSent w es₂ :=
  List.flatMap_append _ _ _

theorem ackNacksSent_of_noSends {es : List Effect} (h : NoSends es) (w : GUID) :
    ackNacksSent w es = [] :=
  List.flatMap_eq_nil_iff.mpr fun e he => by cases e <;> first | rfl | cases h _ he

theorem nackFragsSent_of_noSends {es : List Effect} (h : NoSends es) (w : GUID) :
    nackFragsSent w es = [] :=
  List.flatMap_eq_nil_iff.mpr fun e he => by cases e <;> first | rfl | cases h _ he

namespace Reader

variable (r : Reader)

/-- **What a HEARTBEAT reply sends the writer**: one ACKNACK with the reply's
`reader_sn_state`, and the NACKFRAGs of the numbers left out of it. -/
theorem heartbeatReply_sent (hb : Heartbeat) (mr : MessageReceiverState) (g : GUID)
    (wp : RtpsWriterProxy) (ms : List Int) :
    ackNacksSent g (r.heartbeatReply hb mr g wp ms).2 =
        [⟨r.myGuid.entityId, hb.writerId, (r.readerSnState g wp ms).1, wp.sentAckNackCount⟩] ∧
      nackFragsSent g (r.heartbeatReply hb mr g wp ms).2 =
        (r.nackFrags g r.myGuid.entityId wp.nextAckNackSequenceNumber.2
          (r.readerSnState g wp ms).2).2 := by
  simp only [heartbeatReply]
  split <;> simp_all [ackNacksSent, nackFragsSent, Effect.ackNacksTo, Effect.nackFragsTo]

/-- **What the worker sends after a new HEARTBEAT**: the sends of its reply, from the proxy
after `irrelevant_changes_up_to(first_sn)` and the numbers of `[first_sn, last_sn]` it misses, if
a number is missing or the HEARTBEAT is not final; nothing otherwise. -/
theorem heartbeatWorker_sent (hb : Heartbeat) (fin : Bool) (mr : MessageReceiverState) (g : GUID)
    {wp : RtpsWriterProxy} (h : wp.receivedHeartbeatCount < hb.count) (w : GUID) :
    let wp₁ := wp.irrelevantChangesUpTo hb.firstSn
    let ms := wp₁.missingSeqnums hb.firstSn hb.lastSn
    let rep := { r with topicCache := (markAndNotify r.topicCache g wp₁.allAckableBefore).1 }
      |>.heartbeatReply hb mr g ({ wp with receivedHeartbeatCount := hb.count }.irrelevantChangesUpTo
        hb.firstSn) ms
    let res := heartbeatWorker hb fin mr g r wp
    res.2.2.2 = (!ms.isEmpty || !fin) ∧
      ackNacksSent w res.2.2.1 = (if res.2.2.2 then ackNacksSent w rep.2 else []) ∧
      nackFragsSent w res.2.2.1 = (if res.2.2.2 then nackFragsSent w rep.2 else []) := by
  have hm := markAndNotify_noSends r.topicCache g
    ({ wp with receivedHeartbeatCount := hb.count }.irrelevantChangesUpTo hb.firstSn).allAckableBefore
  rw [heartbeatWorker_of_lt r fin mr g h]
  refine ⟨rfl, ?_, ?_⟩ <;>
    simp only [ackNacksSent_append, nackFragsSent_append, ackNacksSent_of_noSends hm,
      nackFragsSent_of_noSends hm, List.nil_append] <;> split <;> rfl

/-- **When the window bound overflows**, with the first missing number `fm` within 256 of the
largest `i64`, the `i64` sum `fm + 256` wraps below `fm` and the ACKNACK lists nothing. -/
theorem readerSnState_of_overflow (g : GUID) (wp : RtpsWriterProxy) {fm : Int} (rest : List Int)
    (h₀ : fm < 9223372036854775808) (h₁ : 9223372036854775808 ≤ fm + 256) :
    (r.readerSnState g wp (fm :: rest)).1 = ⟨fm, []⟩ := by
  have : ¬fm < wrapI64 (fm + 256) := by unfold wrapI64; omega
  simp [readerSnState, List.takeWhile_cons, this, SequenceNumberSet.fromBaseAndSet]

/-- **The reply to a HEARTBEAT whose first missing number overflows the window bound**: an
ACKNACK based at that number that lists no missing number. -/
theorem heartbeatWorker_of_overflow (hb : Heartbeat) (fin : Bool) (mr : MessageReceiverState)
    (g : GUID) {wp : RtpsWriterProxy} (h : wp.receivedHeartbeatCount < hb.count) {fm : Int}
    {rest : List Int}
    (hms : (wp.irrelevantChangesUpTo hb.firstSn).missingSeqnums hb.firstSn hb.lastSn = fm :: rest)
    (h₀ : fm < 9223372036854775808) (h₁ : 9223372036854775808 ≤ fm + 256) :
    (heartbeatWorker hb fin mr g r wp).2.2.2 = true ∧
      ∃ ack, ackNacksSent g (heartbeatWorker hb fin mr g r wp).2.2.1 = [ack] ∧
        ack.readerSnState = ⟨fm, []⟩ := by
  obtain ⟨hsent, hacks, -⟩ := heartbeatWorker_sent r hb fin mr g h g
  rw [hms] at hsent hacks
  simp only [List.isEmpty_cons, Bool.not_false, Bool.true_or] at hsent
  rw [hsent, if_pos rfl, (heartbeatReply_sent _ hb mr g _ _).1] at hacks
  exact ⟨hsent, _, hacks, readerSnState_of_overflow _ g
    ({ wp with receivedHeartbeatCount := hb.count }.irrelevantChangesUpTo hb.firstSn) rest h₀ h₁⟩

/-- The HEARTBEAT handler at a missing range whose first number is within 256 of the top of
the `i64` range: the ACKNACK goes out with an empty set. -/
theorem handleHeartbeatMsg_of_overflow {hb : Heartbeat} (fin : Bool) {mr : MessageReceiverState}
    {g : GUID} {wp : RtpsWriterProxy} (hg : GUID.newWithPrefixAndId mr.sourceGuidPrefix hb.writerId = g)
    (hwp : r.matchedWriters.find? g = some wp) (hacc : r.heartbeatAccepted g hb = true) {fm : Int}
    {rest : List Int}
    (hms : (wp.irrelevantChangesUpTo hb.firstSn).missingSeqnums hb.firstSn hb.lastSn = fm :: rest)
    (h₀ : fm < 9223372036854775808) (h₁ : 9223372036854775808 ≤ fm + 256) :
    ∃ res, r.handleHeartbeatMsg hb fin mr = .ok res ∧ res.2.2 = true ∧
      ∃ ack, ackNacksSent g res.2.1 = [ack] ∧ ack.readerSnState = ⟨fm, []⟩ :=
  ⟨_, handleHeartbeatMsg_of_accepted r fin hg hwp hacc,
    heartbeatWorker_of_overflow _ hb fin mr g (lt_of_heartbeatAccepted r hacc hwp) hms h₀ h₁⟩

/-- The HEARTBEAT handler never reaches the panic of with_mutable_writer_proxy: the worker
runs on a Reader without the proxy and never puts one back. -/
theorem handleHeartbeatMsg_isOk (hb : Heartbeat) (fin : Bool) (mr : MessageReceiverState) :
    ∃ res, r.handleHeartbeatMsg hb fin mr = .ok res := by
  cases hacc : r.heartbeatAccepted (GUID.newWithPrefixAndId mr.sourceGuidPrefix hb.writerId) hb with
  | false => exact ⟨_, handleHeartbeatMsg_of_not_accepted r fin hacc⟩
  | true =>
    obtain ⟨-, -, wp, hwp, -⟩ := (heartbeatAccepted_iff r).mp hacc
    exact ⟨_, handleHeartbeatMsg_of_accepted r fin rfl hwp hacc⟩

/-- **No step of the Reader panics.** -/
theorem step_never_panics (cfw : QosPolicies → QosPolicies → Option QosPolicyId) (i : Input) :
    ∃ res, r.step cfw i = .ok res := by
  cases i with
  | handleHeartbeatMsg hb fin mr =>
    obtain ⟨res, h⟩ := handleHeartbeatMsg_isOk r hb fin mr
    exact ⟨(res.1, res.2.1), by simp only [step, h, Except.map]⟩
  | _ => exact ⟨_, rfl⟩

end Reader

theorem acknack_window_bound_overflows :
    let hb : Heartbeat :=
      ⟨⟨0, ⟨0⟩⟩, exampleWriter.entityId, 9223372036854775807, 9223372036854775807, 1⟩
    let mr : MessageReceiverState := ⟨exampleWriter.guidPrefix, [], [], none⟩
    Run exampleCompliance exampleReader [exampleMatch] exampleMatch.post ∧
    ∃ wp res ack, exampleMatch.post.matchedWriters.find? exampleWriter = some wp ∧
      exampleMatch.post.handleHeartbeatMsg hb true mr = .ok res ∧ res.2.2 = true ∧
      (wp.irrelevantChangesUpTo hb.firstSn).missingSeqnums hb.firstSn hb.lastSn =
        [9223372036854775807] ∧
      exampleMatch.post.isFragPartiallyReceived exampleWriter 9223372036854775807 = false ∧
      ackNacksSent exampleWriter res.2.1 = [ack] ∧ ack.readerSnState.base = 9223372036854775807 ∧
      9223372036854775807 < ack.readerSnState.base + 256 ∧ ack.readerSnState.set = [] := by
  intro hb mr
  have hwp : exampleMatch.post.matchedWriters.find? exampleWriter =
      some (RtpsWriterProxy.new exampleWriter [] [] ⟨0, ⟨0⟩⟩) := rfl
  have hms : ((RtpsWriterProxy.new exampleWriter [] [] ⟨0, ⟨0⟩⟩).irrelevantChangesUpTo
      hb.firstSn).missingSeqnums hb.firstSn hb.lastSn = [9223372036854775807] := by
    simp [hb, RtpsWriterProxy.missingSeqnums, RtpsWriterProxy.seqRange, List.range_succ]
  have hacc : exampleMatch.post.heartbeatAccepted exampleWriter hb = true := by decide
  have hg : GUID.newWithPrefixAndId mr.sourceGuidPrefix hb.writerId = exampleWriter := rfl
  obtain ⟨res, hres, hsent, ack, hack, hst⟩ :=
    Reader.handleHeartbeatMsg_of_overflow _ true hg hwp hacc hms (by omega) (by omega)
  refine ⟨Run.snoc Run.nil rfl, _, res, ack, hwp, hres, hsent, hms, rfl, hack, ?_⟩
  rw [hst]
  exact ⟨rfl, by decide, rfl⟩

end RustDds
