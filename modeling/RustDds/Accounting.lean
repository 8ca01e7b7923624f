import RustDds.Steps

/-!
# What the Reader accounts for

The invariants of a stateful Reader's bookkeeping of its writers' sequence numbers, over
whole runs. A step *accounts for* a number for a writer (`StepRecord.accounted`) when it
stores a change of the writer with that number, or when its input declares the number
irrelevant: a valid GAP of the writer, or the part below `first_sn` of a HEARTBEAT of the
writer that the Reader acts on. `accountedIn L w` gathers what the steps `L` account for `w`.

* `proxy_accounts_for_steps_since_matched`: from the step that matched a writer on, its proxy
  accounts for exactly the numbers below 1, which a fresh proxy's history floor covers, and
  what the steps since have accounted for it; so `should_ignore_change` holds exactly there,
  and `all_ackable_before` is the least number from 1 on outside it. Re-announcing the writer,
  messages of other writers, invalid GAPs and HEARTBEATs the Reader does not act on change
  nothing in it (`keepsAccounting`). The numbers below 1 are there from the start, before any
  step accounts for them (`fresh_proxy_ignores_sequence_number_zero`).
* `watermark_invariants`: a writer's reliably-received watermark never falls; every number
  below it from 1 on was accounted for the writer by an earlier step; and a step that raises
  the proxy's `all_ackable_before` raises the watermark at least as far.
* `one_change_per_sequence_number`: a stateful Reader other than the SPDP participant reader
  stores at most one change per sequence number of a writer that stays matched, none for a
  number the proxy already accounts for, and none of an unmatched user-defined writer.

The proofs are run inductions over the step lemmas of `Steps`: `Run.receivedSetOf_eq` for the
first, `Run.accounted_of_watermark` for the attribution of the watermark, and
`Run.inserted_nodup` for the third.
-/

namespace RustDds

/-- What the steps `L` account for `writer`, together. -/
def accountedIn (L : List StepRecord) (writer : GUID) : Finset Int :=
  L.foldr (fun t s => t.accounted writer ∪ s) ∅

@[simp] theorem accountedIn_nil (w : GUID) : accountedIn [] w = ∅ := rfl

theorem accountedIn_append (L₁ L₂ : List StepRecord) (w : GUID) :
    accountedIn (L₁ ++ L₂) w = accountedIn L₁ w ∪ accountedIn L₂ w := by
  induction L₁ with
  | nil => simp
  | cons t L₁ ih => simp only [List.cons_append, accountedIn, List.foldr_cons] at ih ⊢; rw [ih, Finset.union_assoc]

@[simp] theorem accountedIn_singleton (t : StepRecord) (w : GUID) :
    accountedIn [t] w = t.accounted w := by
  simp [accountedIn]

theorem mem_accountedIn {L : List StepRecord} {w : GUID} {s : Int} :
    s ∈ accountedIn L w ↔ ∃ t ∈ L, s ∈ t.accounted w := by
  induction L with
  | nil => simp
  | cons t L ih => simp [accountedIn, List.foldr_cons] at ih ⊢; rw [ih]

/-- The inputs that the spec says leave a writer's accounting alone: a re-announcement of the
writer, a message of another writer, an invalid GAP of the writer, and a HEARTBEAT of the
writer that the Reader does not act on. -/
def keepsAccounting (r : Reader) (w : GUID) : Input → Prop
  | .updateWriterProxy g .. => g = w
  | .handleDataMsg d _ mr _ => GUID.newWithPrefixAndId mr.sourceGuidPrefix d.writerId ≠ w
  | .handleDatafragMsg d _ mr _ => GUID.newWithPrefixAndId mr.sourceGuidPrefix d.writerId ≠ w
  | .handleGapMsg gap mr =>
    GUID.newWithPrefixAndId mr.sourceGuidPrefix gap.writerId ≠ w ∨
      ¬(0 < gap.gapStart ∧ 0 < gap.gapList.base)
  | .handleHeartbeatMsg hb _ mr =>
    GUID.newWithPrefixAndId mr.sourceGuidPrefix hb.writerId ≠ w ∨ r.heartbeatAccepted w hb = false
  | .handleHeartbeatfragMsg hbf mr => GUID.newWithPrefixAndId mr.sourceGuidPrefix hbf.writerId ≠ w
  | _ => False

namespace Reader

variable {cfw : QosPolicies → QosPolicies → Option QosPolicyId} {r r' : Reader} {i : Input}
  {es : List Effect}

/-- Such an input accounts for nothing for the writer. -/
theorem accounted_of_keepsAccounting (h : r.step cfw i = .ok (r', es)) {w : GUID}
    (hk : keepsAccounting r w i) : StepRecord.accounted ⟨r, i, es, r'⟩ w = ∅ := by
  have hins : insertedSns w es = [] := by
    rcases step_insertedSns h w with h₀ | ⟨s, -, -, hw⟩
    · exact h₀
    · cases i <;> simp_all [Input.sampleWriter?, keepsAccounting]
  simp only [StepRecord.accounted, hins, List.toFinset_nil, Finset.empty_union]
  cases i
  case handleHeartbeatMsg hb fin mr =>
    refine if_neg fun ⟨hg, hacc⟩ => ?_
    rcases hk with hk | hk
    · exact hk hg
    · rw [hk] at hacc; cases hacc
  case handleGapMsg gap mr =>
    refine if_neg fun ⟨hg, h₁, h₂⟩ => ?_
    rcases hk with hk | hk
    · exact hk hg
    · exact hk ⟨h₁, h₂⟩
  all_goals rfl

end Reader

namespace Run

variable {cfw : QosPolicies → QosPolicies → Option QosPolicyId} {r₀ r : Reader}
  {L : List StepRecord}

/-- **What a proxy accounts for, along a run**: while a writer stays matched to a stateful
Reader, its proxy accounts for what it did at the start and for what the steps accounted for
it. -/
theorem receivedSetOf_eq (h : Run cfw r₀ L r) (hs : r₀.likeStateless = false) {w : GUID}
    (hm : w ∈ r₀.matchedWriters) (hw : ∀ t ∈ L, w ∈ t.post.matchedWriters) :
    w ∈ r.matchedWriters ∧ r.receivedSetOf w = r₀.receivedSetOf w ∪ ↑(accountedIn L w) := by
  induction h with
  | nil => exact ⟨hm, by simp⟩
  | @snoc L r r' i es h' hstep ih =>
    obtain ⟨hr, heq⟩ := ih fun t ht => hw t (List.mem_append_left _ ht)
    have hw' : w ∈ r'.matchedWriters := hw _ (List.mem_append_right _ (List.mem_singleton_self _))
    refine ⟨hw', ?_⟩
    rw [Reader.step_receivedSetOf hstep (h'.config.1.trans hs) hr hw', heq, accountedIn_append,
      accountedIn_singleton, Finset.coe_union, Set.union_assoc]

/-- **Attribution**: in a stateful Reader that starts with no matched writer and no watermark,
every number from 1 on that a proxy accounts for, and every number from 1 on below a writer's
watermark, was accounted for the writer by a step of the run. -/
theorem accounted_of_watermark (h : Run cfw r₀ L r) (hs : r₀.likeStateless = false)
    (hmw : r₀.matchedWriters = ∅) (htc : ∀ g, r₀.topicCache.watermark g = none) :
    (∀ g, ∀ s ∈ r.receivedSetOf g, 1 ≤ s → s ∈ accountedIn L g) ∧
      ∀ g m, r.topicCache.watermark g = some m → ∀ s, 1 ≤ s → s < m → s ∈ accountedIn L g := by
  induction h with
  | nil =>
    exact ⟨fun g s hs => by simp [hmw] at hs, fun g m hm => by simp [htc] at hm⟩
  | @snoc L r r' i es h' hstep ih =>
    obtain ⟨ih₁, ih₂⟩ := ih
    have hst : r.likeStateless = false := h'.config.1.trans hs
    have hgrow : ∀ g, accountedIn L g ∪ StepRecord.accounted ⟨r, i, es, r'⟩ g =
        accountedIn (L ++ [⟨r, i, es, r'⟩]) g := fun g => by
      rw [accountedIn_append, accountedIn_singleton]
    -- the proxies first: what they gain from 1 on, the step accounts for
    have h₁ : ∀ g, ∀ s ∈ r'.receivedSetOf g, 1 ≤ s → s ∈ accountedIn (L ++ [⟨r, i, es, r'⟩]) g := by
      intro g s hs h1
      by_cases hg : g ∈ r'.matchedWriters
      · rw [← hgrow]
        by_cases hg₀ : g ∈ r.matchedWriters
        · rw [Reader.step_receivedSetOf hstep hst hg₀ hg] at hs
          exact hs.elim (fun hs => Finset.mem_union_left _ (ih₁ g s hs h1)) (Finset.mem_union_right _)
        · rw [Reader.step_receivedSetOf_of_not_mem hstep hg₀ hg] at hs
          exact absurd h1 (not_le.mpr hs)
      · rw [Reader.receivedSetOf_of_not_mem hg] at hs; cases hs
    -- then the watermarks: each is an old one or a mark of a proxy's `all_ackable_before`
    refine ⟨h₁, fun g m hm s hs₁ hs₂ => ?_⟩
    rw [Reader.step_watermark hstep] at hm
    rcases lt_watermark_applyEffects hm hs₂ with ⟨m₀, hm₀, hs₀⟩ | ⟨sn, hmark, hsn⟩
    · exact hgrow g ▸ Finset.mem_union_left _ (ih₂ g m₀ hm₀ s hs₁ hs₀)
    · obtain ⟨wp, hwp, rfl⟩ := Reader.step_mark hstep hmark
      exact h₁ g s ⟨wp, hwp, wp.allAckableBefore_spec.2.2 s hsn⟩ hs₁

/-- **One change per sequence number, along a run**: while a writer stays matched to a stateful
Reader other than the SPDP participant reader, the sequence numbers of its stored changes are
distinct, and its proxy accounts for each. -/
theorem inserted_nodup (h : Run cfw r₀ L r) (hs : r₀.likeStateless = false)
    (hspdp : r₀.myGuid.entityId ≠ EntityId.spdpBuiltinParticipantReader) {w : GUID}
    (hm : w ∈ r₀.matchedWriters) (hw : ∀ t ∈ L, w ∈ t.post.matchedWriters) :
    w ∈ r.matchedWriters ∧ (L.flatMap fun t => insertedSns w t.effects).Nodup ∧
      ∀ s ∈ L.flatMap (fun t => insertedSns w t.effects), s ∈ r.receivedSetOf w := by
  induction h with
  | nil => exact ⟨hm, List.nodup_nil, fun s hs => by simp at hs⟩
  | @snoc L r r' i es h' hstep ih =>
    obtain ⟨hr, ihn, ihs⟩ := ih fun t ht => hw t (List.mem_append_left _ ht)
    obtain ⟨hst, -, hg, -⟩ := h'.config
    have hw' : w ∈ r'.matchedWriters := hw _ (List.mem_append_right _ (List.mem_singleton_self _))
    have hset := Reader.step_receivedSetOf hstep (hst.trans hs) hr hw'
    have hold : ∀ s ∈ L.flatMap (fun t => insertedSns w t.effects), s ∈ r'.receivedSetOf w :=
      fun s h => hset ▸ Set.mem_union_left _ (ihs s h)
    rw [List.flatMap_append, List.flatMap_singleton]
    refine ⟨hw', ?_, fun s h => ?_⟩
    · rcases Reader.step_insertedSns hstep w with h₀ | ⟨s, h₀, ha, -⟩ <;> rw [h₀]
      · simpa using ihn
      · have hnew := Reader.not_mem_of_acceptsData (hst.trans hs) (hg ▸ hspdp) hr ha
        exact List.nodup_append.mpr ⟨ihn, List.nodup_singleton s,
          fun a ha' hb => by rw [List.mem_singleton.mp hb] at ha'; exact hnew (ihs s ha')⟩
    · rcases List.mem_append.mp h with h | h
      · exact hold s h
      · rw [hset]
        exact Set.mem_union_right _ (Finset.mem_union_left _ (List.mem_toFinset.mpr h))

end Run

/-- **What a matched writer's proxy accounts for** (the set on which `should_ignore_change` holds,
and whose least absent number from 1 on is `all_ackable_before`): every number below 1, and the
union of what the steps since the writer was matched accounted for it; re-announcing the writer,
messages of other writers, invalid GAPs and HEARTBEATs the Reader does not act on leave it
unchanged. -/
theorem proxy_accounts_for_steps_since_matched
    {cfw : QosPolicies → QosPolicies → Option QosPolicyId} {r₀ r : Reader}
    {L₁ L₂ : List StepRecord} {t : StepRecord} {w : GUID}
    (hs : r₀.likeStateless = false) (hrun : Run cfw r₀ (L₁ ++ t :: L₂) r)
    (hadd : w ∉ t.pre.matchedWriters) (hstay : ∀ u ∈ t :: L₂, w ∈ u.post.matchedWriters) :
    (∃ wp, r.matchedWriters.find? w = some wp ∧
      (∀ s, s ∈ wp.receivedSet ↔ s < 1 ∨ s ∈ accountedIn L₂ w) ∧
      (∀ s, wp.shouldIgnoreChange s = true ↔ s < 1 ∨ s ∈ accountedIn L₂ w) ∧
      1 ≤ wp.allAckableBefore ∧ wp.allAckableBefore ∉ accountedIn L₂ w ∧
      ∀ s, 1 ≤ s → s < wp.allAckableBefore → s ∈ accountedIn L₂ w) ∧
    ∀ u ∈ L₂, keepsAccounting u.pre w u.input →
      u.post.receivedSetOf w = u.pre.receivedSetOf w := by
  obtain ⟨m, h₁, h₂⟩ := Run.split (show Run cfw r₀ ((L₁ ++ [t]) ++ L₂) r by simpa using hrun)
  obtain ⟨h₀, hstep, rfl⟩ := Run.of_snoc h₁
  have hst : t.pre.likeStateless = false := h₀.config.1.trans hs
  have hst' : t.post.likeStateless = false := (Reader.step_config hstep).1.trans hst
  have hm : w ∈ t.post.matchedWriters := hstay t (List.mem_cons_self _ _)
  have hfresh := Reader.step_receivedSetOf_of_not_mem hstep hadd hm
  obtain ⟨hr, heq⟩ := h₂.receivedSetOf_eq hst' hm fun u hu => hstay u (List.mem_cons_of_mem _ hu)
  obtain ⟨wp, hwp⟩ := OrdMap.mem_iff.mp hr
  have hset : ∀ s, s ∈ wp.receivedSet ↔ s < 1 ∨ s ∈ accountedIn L₂ w := by
    rw [hfresh, Reader.receivedSetOf_of_find? hwp] at heq
    exact fun s => Set.ext_iff.mp heq s
  obtain ⟨hab₁, hab₂, hab₃⟩ := wp.allAckableBefore_spec
  refine ⟨⟨wp, hwp, hset, fun s => by rw [RtpsWriterProxy.shouldIgnoreChange_iff, hset], hab₁,
    fun h => hab₂ ((hset _).mpr (.inr h)),
    fun s h₁ h₂ => ((hset s).mp (hab₃ s h₂)).resolve_left (not_lt.mpr h₁)⟩, fun u hu hk => ?_⟩
  obtain ⟨L₃, L₄, hL, h₃, hstep', -⟩ := h₂.of_mem hu
  have hpre : w ∈ u.pre.matchedWriters := (h₃.receivedSetOf_eq hst' hm fun u' hu' =>
    hstay u' (List.mem_cons_of_mem _ (hL ▸ List.mem_append_left _ hu'))).1
  rw [Reader.step_receivedSetOf hstep' (h₃.config.1.trans hst') hpre
    (hstay u (List.mem_cons_of_mem _ hu)), Reader.accounted_of_keepsAccounting hstep' hk,
    Finset.coe_empty, Set.union_empty]

/-- After the example run, the writer's proxy accounts for sample 1 and the numbers below 1. -/
theorem example_proxy_accounts_for_sample :
    (∃ wp, exampleSample.post.matchedWriters.find? exampleWriter = some wp ∧
      (∀ s, s ∈ wp.receivedSet ↔ s < 1 ∨ s ∈ accountedIn [exampleSample] exampleWriter) ∧
      (∀ s, wp.shouldIgnoreChange s = true ↔
        s < 1 ∨ s ∈ accountedIn [exampleSample] exampleWriter) ∧
      1 ≤ wp.allAckableBefore ∧ wp.allAckableBefore ∉ accountedIn [exampleSample] exampleWriter ∧
      ∀ s, 1 ≤ s → s < wp.allAckableBefore → s ∈ accountedIn [exampleSample] exampleWriter) ∧
    ∀ u ∈ [exampleSample], keepsAccounting u.pre exampleWriter u.input →
      u.post.receivedSetOf exampleWriter = u.pre.receivedSetOf exampleWriter :=
  proxy_accounts_for_steps_since_matched (rfl : exampleReader.likeStateless = false)
    (show Run exampleCompliance exampleReader ([] ++ exampleMatch :: [exampleSample])
      exampleSample.post from exampleRun) (by decide) (by decide)

/-- **A writer just matched is already accounted for below 1**: right after the example Reader
matches its writer, no step has accounted for anything, yet the proxy ignores sequence
number 0. -/
theorem fresh_proxy_ignores_sequence_number_zero :
    Run exampleCompliance exampleReader [exampleMatch] exampleMatch.post ∧
    exampleWriter ∉ exampleMatch.pre.matchedWriters ∧
    ∃ wp, exampleMatch.post.matchedWriters.find? exampleWriter = some wp ∧
      wp.shouldIgnoreChange 0 = true ∧ (0 : Int) ∉ accountedIn [] exampleWriter :=
  ⟨Run.snoc Run.nil rfl, by decide, _, rfl, by decide, by simp⟩

/-- **The reliably-received watermark** of a writer, along every run of a stateful Reader on a
topic cache with no watermark yet: (a) it never falls; (b) every number from 1 on below it was
accounted for the writer by an earlier step, stored as one of its changes or declared
irrelevant by it; (c) a step that raises the `all_ackable_before` of the writer's proxy
raises the watermark at least as far. -/
theorem watermark_invariants {cfw : QosPolicies → QosPolicies → Option QosPolicyId}
    {i : ReaderIngredients} {now : Int} {r₀ r : Reader} {L : List StepRecord} {w : GUID}
    (hnew : Reader.new i now = .ok r₀) (hs : i.likeStateless = false)
    (hfresh : ∀ g, i.topicCacheHandle.watermark g = none) (hrun : Run cfw r₀ L r) :
    (∀ t ∈ L, ∀ m, t.pre.topicCache.watermark w = some m →
      ∃ m', t.post.topicCache.watermark w = some m' ∧ m ≤ m') ∧
    (∀ m, r.topicCache.watermark w = some m → ∀ s, 1 ≤ s → s < m →
      ∃ t ∈ L, s ∈ t.accounted w) ∧
    (∀ t ∈ L, ∀ wp wp', t.pre.matchedWriters.find? w = some wp →
      t.post.matchedWriters.find? w = some wp' → wp.allAckableBefore < wp'.allAckableBefore →
      ∃ m, t.post.topicCache.watermark w = some m ∧ wp'.allAckableBefore ≤ m) := by
  obtain ⟨-, -, hs₀, -, htc, -, -, -, hmw, -⟩ := Reader.new_eq_ok hnew
  have hs₀ : r₀.likeStateless = false := hs₀.trans hs
  refine ⟨fun t ht m hm => ?_, fun m hm s h₁ h₂ => ?_, fun t ht wp wp' hwp hwp' hlt => ?_⟩
  · rw [Reader.step_watermark (hrun.step_of_mem ht)]
    exact watermark_applyEffects_ge hm _
  · exact mem_accountedIn.mp ((hrun.accounted_of_watermark hs₀ hmw (by simp [htc, hfresh])).2
      w m hm s h₁ h₂)
  · obtain ⟨L₁, L₂, -, h₁, hstep, -⟩ := hrun.of_mem ht
    have hne : t.post.receivedSetOf w ≠ t.pre.receivedSetOf w := by
      rw [Reader.receivedSetOf_of_find? hwp, Reader.receivedSetOf_of_find? hwp']
      exact fun h => hlt.ne (RtpsWriterProxy.allAckableBefore_congr
        (ReceivedSet.ext fun s => (Set.ext_iff.mp h s).symm))
    obtain ⟨wp'', hwp'', hmark⟩ := Reader.step_mark_of_receivedSetOf_ne hstep
      (h₁.config.1.trans hs₀) (OrdMap.mem_iff.mpr ⟨wp, hwp⟩) (OrdMap.mem_iff.mpr ⟨wp', hwp'⟩) hne
    rw [hwp'] at hwp''; cases hwp''
    rw [Reader.step_watermark hstep]
    exact watermark_applyEffects_of_mem hmark _

/-- The example run keeps the watermark invariants of its writer. -/
theorem example_watermark_invariants :
    (∀ t ∈ [exampleMatch, exampleSample], ∀ m, t.pre.topicCache.watermark exampleWriter = some m →
      ∃ m', t.post.topicCache.watermark exampleWriter = some m' ∧ m ≤ m') ∧
    (∀ m, exampleSample.post.topicCache.watermark exampleWriter = some m → ∀ s, 1 ≤ s → s < m →
      ∃ t ∈ [exampleMatch, exampleSample], s ∈ t.accounted exampleWriter) ∧
    (∀ t ∈ [exampleMatch, exampleSample], ∀ wp wp',
      t.pre.matchedWriters.find? exampleWriter = some wp →
      t.post.matchedWriters.find? exampleWriter = some wp' →
      wp.allAckableBefore < wp'.allAckableBefore →
      ∃ m, t.post.topicCache.watermark exampleWriter = some m ∧ wp'.allAckableBefore ≤ m) :=
  watermark_invariants new_exampleIngredients rfl (fun _ => rfl) exampleRun

/-- `exampleWriter` sends the DATA of its sample 1 a second time. -/
def exampleRepeatedSample : StepRecord :=
  let data : Data := ⟨⟨0, ⟨0⟩⟩, exampleWriter.entityId, 1, none, some [0, 1, 0, 0, 5]⟩
  let mr : MessageReceiverState := ⟨exampleWriter.guidPrefix, [], [], none⟩
  let res := exampleSample.post.handleDataMsg data ⟨true, false⟩ mr 10
  ⟨exampleSample.post, .handleDataMsg data ⟨true, false⟩ mr 10, res.2, res.1⟩

/-- **One change per sequence number**: a stateful Reader other than the SPDP participant
reader stores at most one change per sequence number of a writer that stays matched; it
stores none whose number the writer's proxy already accounts for when the sample arrives; and
it stores no change of an unmatched writer of a user-defined kind. -/
theorem one_change_per_sequence_number {cfw : QosPolicies → QosPolicies → Option QosPolicyId}
    {r₀ r : Reader} {L : List StepRecord} {w : GUID} (hs : r₀.likeStateless = false)
    (hspdp : r₀.myGuid.entityId ≠ EntityId.spdpBuiltinParticipantReader)
    (hrun : Run cfw r₀ L r) (hm : w ∈ r₀.matchedWriters)
    (hstay : ∀ t ∈ L, w ∈ t.post.matchedWriters) :
    (L.flatMap fun t => insertedSns w t.effects).Nodup ∧
    (∀ t ∈ L, ∀ s ∈ insertedSns w t.effects, s ∉ t.pre.receivedSetOf w) ∧
    ∀ t ∈ L, ∀ ts cc, .addChange ts cc ∈ t.effects → cc.writerGuid ∉ t.pre.matchedWriters →
      cc.writerGuid.entityId.entityKind.isUserDefined = false := by
  refine ⟨(hrun.inserted_nodup hs hspdp hm hstay).2.1, fun t ht s hs' => ?_,
    fun t ht ts cc hcc hcw => ?_⟩
  · obtain ⟨L₁, L₂, rfl, h₁, hstep, -⟩ := hrun.of_mem ht
    obtain ⟨hst, -, hg, -⟩ := h₁.config
    have hpre := (h₁.inserted_nodup hs hspdp hm fun u hu =>
      hstay u (List.mem_append_left _ hu)).1
    rcases Reader.step_insertedSns hstep w with h₀ | ⟨s', h₀, ha, -⟩ <;> rw [h₀] at hs'
    · cases hs'
    · rw [List.mem_singleton.mp hs']
      exact Reader.not_mem_of_acceptsData (hst.trans hs) (hg ▸ hspdp) hpre ha
  · obtain ⟨L₁, L₂, -, h₁, hstep, -⟩ := hrun.of_mem ht
    have hin : cc.sequenceNumber ∈ insertedSns cc.writerGuid t.effects :=
      List.mem_filterMap.mpr ⟨_, hcc, by simp⟩
    rcases Reader.step_insertedSns hstep cc.writerGuid with h₀ | ⟨s', -, ha, -⟩
    · rw [h₀] at hin; cases hin
    · exact Reader.not_isUserDefined_of_acceptsData (h₁.config.1.trans hs) hcw ha

/-- In the example run, the DATA of the matched writer arrives a second time and is stored
once. -/
theorem example_one_change_per_sequence_number :
    exampleRepeatedSample.input = exampleSample.input ∧
    ([exampleSample, exampleRepeatedSample].flatMap fun t => insertedSns exampleWriter t.effects).Nodup ∧
    (∀ t ∈ [exampleSample, exampleRepeatedSample], ∀ s ∈ insertedSns exampleWriter t.effects,
      s ∉ t.pre.receivedSetOf exampleWriter) ∧
    ∀ t ∈ [exampleSample, exampleRepeatedSample], ∀ ts cc, .addChange ts cc ∈ t.effects →
      cc.writerGuid ∉ t.pre.matchedWriters →
      cc.writerGuid.entityId.entityKind.isUserDefined = false :=
  ⟨rfl, one_change_per_sequence_number (rfl : exampleMatch.post.likeStateless = false) (by decide)
    (show Run exampleCompliance exampleMatch.post ([] ++ [exampleSample] ++ [exampleRepeatedSample])
      exampleRepeatedSample.post from Run.snoc (Run.snoc Run.nil rfl) rfl) (by decide) (by decide)⟩

end RustDds
