import RustDds.Steps

/-!
# Waking the DataReader

The DataReader reads the topic cache it shares with the Reader, and sleeps until
`notify_cache_change` wakes it (its waker, the poll event and the sync channel; in the model
one effect). A DataReader can see two things change in the cache: a stored change, and a
writer's reliably-received watermark, below which it may hand samples to the application. So
every operation that stores a change or moves a watermark must wake it after its last call on
the cache (`notify_after_cache_change`).

The operations call the cache in two patterns, and each wakes the DataReader as its last cache
effect:

* `process_received_data` stores a sample, marks the writer's watermark, then notifies
  (`processReceivedData_notifies`);
* the HEARTBEAT and GAP handlers mark the watermark and notify exactly when it moved
  (`markAndNotify_notifies`); a HEARTBEAT reply sends after it, which does not call the
  cache.

Every other operation makes no cache call, so it changes nothing a DataReader sees.
-/

namespace RustDds

/-- The effects wake the DataReader after their last call on the topic cache. -/
def NotifiesAfterCacheCalls (es : List Effect) : Prop :=
  ∃ es₁ es₂, es = es₁ ++ .notifyCacheChange :: es₂ ∧ NoCacheCalls es₂

/-- Replayed on the topic cache `tc`, the effects change what a DataReader sees: they store a
change or move a watermark. -/
def ChangesCache (tc : TopicCache) (es : List Effect) : Prop :=
  (∃ t cc, .addChange t cc ∈ es) ∨ ∃ g, (applyEffects tc es).watermark g ≠ tc.watermark g

theorem not_changesCache_of_noCacheCalls {tc : TopicCache} {es : List Effect}
    (h : NoCacheCalls es) : ¬ChangesCache tc es := by
  rintro (⟨t, cc, hmem⟩ | ⟨g, hg⟩)
  · exact Bool.noConfusion (h _ hmem)
  · exact hg (by rw [applyEffects_of_noCacheCalls h])

theorem NotifiesAfterCacheCalls.append {es es' : List Effect} (h : NotifiesAfterCacheCalls es)
    (h' : NoCacheCalls es') : NotifiesAfterCacheCalls (es ++ es') := by
  obtain ⟨es₁, es₂, rfl, h₂⟩ := h
  exact ⟨es₁, es₂ ++ es', by simp, noCacheCalls_append.mpr ⟨h₂, h'⟩⟩

/-- Effects that make no cache call add nothing a DataReader sees. -/
theorem changesCache_of_append {tc : TopicCache} {es es' : List Effect}
    (h : ChangesCache tc (es ++ es')) (h' : NoCacheCalls es') : ChangesCache tc es := by
  rcases h with ⟨t, cc, hmem⟩ | ⟨g, hg⟩
  · rcases List.mem_append.mp hmem with hmem | hmem
    · exact .inl ⟨t, cc, hmem⟩
    · exact Bool.noConfusion (h' _ hmem)
  · exact .inr ⟨g, by rwa [applyEffects_append, applyEffects_of_noCacheCalls h'] at hg⟩

/-- **Marking wakes the DataReader when the watermark moved.** -/
theorem markAndNotify_notifies {tc : TopicCache} {g : GUID} {sn : Int}
    (h : ChangesCache tc (Reader.markAndNotify tc g sn).2) :
    NotifiesAfterCacheCalls (Reader.markAndNotify tc g sn).2 := by
  rw [Reader.markAndNotify_snd] at h ⊢
  cases hm : (tc.markReliablyReceivedBefore g sn).2
  · rw [hm] at h
    rcases h with ⟨t, cc, hmem⟩ | ⟨k, hk⟩
    · simp at hmem
    · exact absurd (by simp [TopicCache.markReliablyReceivedBefore_of_not_moved hm]) hk
  · exact ⟨[.markReliablyReceivedBefore g sn], [], rfl, noCacheCalls_nil⟩

namespace Reader

variable (r : Reader)

/-- **`process_received_data` wakes the DataReader after storing.** -/
theorem processReceivedData_notifies (dd : DDSData) (t : Int) (wo : WriteOptions) (g : GUID)
    (s : Int) (h : ChangesCache r.topicCache (r.processReceivedData dd t wo g s).2) :
    NotifiesAfterCacheCalls (r.processReceivedData dd t wo g s).2 := by
  rw [processReceivedData_spec] at h ⊢
  split_ifs at h ⊢
  · exact ⟨_, [], rfl, noCacheCalls_nil⟩
  · exact absurd h (not_changesCache_of_noCacheCalls noCacheCalls_nil)

variable {cfw : QosPolicies → QosPolicies → Option QosPolicyId} {r r' : Reader} {i : Input}
  {es : List Effect}

/-- Every step that changes what a DataReader sees wakes it after its last cache call. -/
theorem step_notifies (h : r.step cfw i = .ok (r', es)) (hc : ChangesCache r.topicCache es) :
    NotifiesAfterCacheCalls es := by
  cases hi : i.callsCache
  · exact absurd hc (not_changesCache_of_noCacheCalls (step_noCacheCalls h hi))
  cases i <;> simp only [Input.callsCache, reduceCtorEq] at hi
  case handleDataMsg d f mr now =>
    rcases step_sample_cases h with ⟨rfl, rfl⟩ | ⟨dd, h⟩
    · exact absurd hc (not_changesCache_of_noCacheCalls noCacheCalls_nil)
    · obtain ⟨rfl, rfl⟩ := Prod.ext_iff.mp h
      exact processReceivedData_notifies r _ _ _ _ _ hc
  case handleDatafragMsg d f mr now =>
    rcases step_fragment_cases h with ⟨l, fa, rfl, rfl⟩ | ⟨fa, dd, h⟩
    · exact absurd hc (not_changesCache_of_noCacheCalls noCacheCalls_nil)
    · obtain ⟨rfl, rfl⟩ := Prod.ext_iff.mp h
      exact processReceivedData_notifies { r with fragmentAssemblers := fa } _ _ _ _ _ hc
  case handleHeartbeatMsg hb fin mr =>
    rcases step_handleHeartbeatMsg_cases h with ⟨-, rfl, rfl⟩ | ⟨wp, hacc, hwp, rfl, rfl⟩
    · exact absurd hc (not_changesCache_of_noCacheCalls noCacheCalls_nil)
    · obtain ⟨sends, hsends, -, hes⟩ :=
        heartbeatWorker_effects _ fin mr _ (lt_of_heartbeatAccepted r hacc hwp)
      rw [hes] at hc ⊢
      exact (markAndNotify_notifies (changesCache_of_append hc hsends)).append hsends
  case handleGapMsg gap mr =>
    simp only [step, Except.ok.injEq, Prod.ext_iff] at h; obtain ⟨rfl, rfl⟩ := h
    rcases handleGapMsg_cases r gap mr with ⟨wp, hs, hwp, h₁, h₂⟩ | ⟨-, h⟩
    · rw [handleGapMsg_of_valid r rfl hs hwp h₁ h₂] at hc ⊢
      exact markAndNotify_notifies hc
    · rw [h] at hc; exact absurd hc (not_changesCache_of_noCacheCalls noCacheCalls_nil)

end Reader

/-- **No visible change of the topic cache goes unnotified**: an operation of the Reader that
stores a change in the topic cache, or moves a writer's reliably-received watermark, calls
`notify_cache_change` after its last call on the cache. -/
theorem notify_after_cache_change {cfw : QosPolicies → QosPolicies → Option QosPolicyId}
    {r r' : Reader} {i : Input} {es : List Effect} (h : r.step cfw i = .ok (r', es))
    (hi : ∀ instant, i ≠ .removeChangesBefore instant)
    (hc : (∃ t cc, .addChange t cc ∈ es) ∨
      ∃ g, r'.topicCache.watermark g ≠ r.topicCache.watermark g) :
    ∃ es₁ es₂, es = es₁ ++ .notifyCacheChange :: es₂ ∧ NoCacheCalls es₂ := by
  rw [Reader.step_topicCache h hi] at hc
  exact Reader.step_notifies h hc

/-- The DATA of the example run stores its sample and wakes the DataReader. -/
theorem example_notify_after_cache_change :
    ∃ es₁ es₂, exampleSample.effects = es₁ ++ .notifyCacheChange :: es₂ ∧ NoCacheCalls es₂ :=
  notify_after_cache_change (rfl : exampleMatch.post.step exampleCompliance exampleSample.input = _)
    (fun _ h => by cases h) (.inl ⟨10, _, List.mem_cons_self _ _⟩)

end RustDds
