import Mathlib.Data.String.Basic
import RustDds.TopicCache

/-!
# The DDS cache

`DDSCache` of `structure/dds_cache.rs` keeps one `TopicCache` per topic name. The
participant's threads share it behind a lock, so its calls run one at a time, in whatever
order the threads reach the lock. This module models every call of `DDSCache`, with the
`TopicCache` and `DDSHistoryCache` methods they reach, and states what a caller can rely on
whatever that order is:

* `CacheCall.apply_eq_onTopic` — a call reads and writes only the entry of its own topic: it
  is `CacheCall.onTopic`, a function of that entry, with the result written back in place;
* `runOnTopic_of_runCalls`, `runCalls_isOk` — over a whole schedule of calls, a topic's entry
  and the replies to its calls are what its own calls compute, in their order, from its entry
  at the start; and a schedule runs without panicking when each topic's calls do;
* `schedules_agree` — two schedules that make each topic's calls in the same order (two
  interleavings of threads that each keep to their own topics, say) both run without
  panicking or neither does, and leave the same cache, each call of a topic getting the same
  reply;
* `adds_at_distinct_instants_commute` — `to_topic_add_change` calls at distinct (topic,
  instant) pairs leave the same cache in every order, and each change is found afterwards at
  its instant;
* `get_changes_in_range_spec` — `from_topic_get_changes_in_range(a, b)` panics exactly when
  `b < a` on a topic whose map has a root, as `BTreeMap::range` does (a map that never held an
  entry has none, and yields nothing), and otherwise returns the topic's changes after `a` up
  to `b` in instant order; `get_range_of_changes`, with both ends included, adds the change at
  `a`;
* `changes_in_consecutive_ranges` — the ranges `(a, b]` and `(b, c]` return together what
  `(a, c]` returns, so a reader that moves its range on reads each change once.

The source checks `contains_key` and then `unwrap`s the lookup; the model matches on the
lookup once, which is the same.
-/

namespace RustDds

/-- `DDSCache`: the topic caches by topic name. The source keeps them in a `HashMap`; its calls
look names up, insert and remove them and never iterate, so an ordered map models it. -/
@[ext] structure DDSCache where
  topicCaches : OrdMap String TopicCache

namespace DDSCache

/-- `DDSCache::new`. -/
def new : DDSCache := ⟨∅⟩

/-- `DDSCache::add_new_topic`: `false`, and no change, when the topic exists. -/
def addNewTopic (c : DDSCache) (topicName : String) : DDSCache × Bool :=
  if topicName ∈ c.topicCaches then (c, false)
  else (⟨c.topicCaches.insert topicName (TopicCache.new topicName)⟩, true)

/-- `DDSCache::remove_topic`. -/
def removeTopic (c : DDSCache) (topicName : String) : DDSCache :=
  if topicName ∈ c.topicCaches then ⟨c.topicCaches.erase topicName⟩ else c

/-- `DDSCache::get_topic_qos_mut`: the topic's QoS, and what writing through the returned
reference leaves. -/
def getTopicQosMut (c : DDSCache) (topicName : String) :
    Option (QosPolicies × (QosPolicies → DDSCache)) :=
  match c.topicCaches.find? topicName with
  | some tc =>
    some (tc.topicQos, fun qos => ⟨c.topicCaches.insert topicName { tc with topicQos := qos }⟩)
  | none => none

/-- `DDSCache::get_topic_qos`. -/
def getTopicQos (c : DDSCache) (topicName : String) : Option QosPolicies :=
  (c.topicCaches.find? topicName).map TopicCache.topicQos

/-- `DDSCache::from_topic_get_change`. -/
def fromTopicGetChange (c : DDSCache) (topicName : String) (instant : Int) :
    Option CacheChange :=
  (c.topicCaches.find? topicName).bind fun tc => tc.getChange instant

/-- `DDSCache::from_topic_set_change_to_not_alive_disposed`: on a topic the cache does not
hold, the source logs an error and changes nothing. -/
def fromTopicSetChangeToNotAliveDisposed (setKind : ChangeKind → CacheChange → CacheChange)
    (c : DDSCache) (topicName : String) (instant : Int) : Except CachePanic DDSCache :=
  match c.topicCaches.find? topicName with
  | some tc =>
    (tc.setChangeToNotAliveDisposed setKind instant).map fun tc => ⟨c.topicCaches.insert topicName tc⟩
  | none => .ok c

/-- `DDSCache::from_topic_remove_change`. -/
def fromTopicRemoveChange (c : DDSCache) (topicName : String) (instant : Int) :
    DDSCache × Option CacheChange :=
  match c.topicCaches.find? topicName with
  | some tc =>
    let (tc, removed) := tc.removeChange instant
    (⟨c.topicCaches.insert topicName tc⟩, removed)
  | none => (c, none)

/-- `DDSCache::from_topic_remove_before`. -/
def fromTopicRemoveBefore (c : DDSCache) (topicName : String) (instant : Int) : DDSCache :=
  match c.topicCaches.find? topicName with
  | some tc => ⟨c.topicCaches.insert topicName (tc.removeChangesBefore instant)⟩
  | none => c

/-- `DDSCache::from_topic_get_all_changes`. -/
def fromTopicGetAllChanges (c : DDSCache) (topicName : String) : List (Int × CacheChange) :=
  match c.topicCaches.find? topicName with
  | some tc => tc.getAllChanges
  | none => []

/-- `DDSCache::from_topic_get_changes_in_range`. -/
def fromTopicGetChangesInRange (c : DDSCache) (topicName : String)
    (startInstant endInstant : Int) : Except CachePanic (List (Int × CacheChange)) :=
  match c.topicCaches.find? topicName with
  | some tc => tc.getChangesInRange startInstant endInstant
  | none => .ok []

/-- `DDSCache::to_topic_add_change`: on a topic the cache does not hold, the source logs an
error and changes nothing. -/
def toTopicAddChange (c : DDSCache) (topicName : String) (instant : Int)
    (cacheChange : CacheChange) : DDSCache :=
  match c.topicCaches.find? topicName with
  | some tc => ⟨c.topicCaches.insert topicName (tc.addChange instant cacheChange)⟩
  | none => c

/-- The cache with `e` as the entry of `topicName`, `none` removing the topic. -/
def setTopic (c : DDSCache) (topicName : String) : Option TopicCache → DDSCache
  | some tc => ⟨c.topicCaches.insert topicName tc⟩
  | none => ⟨c.topicCaches.erase topicName⟩

@[simp] theorem find?_setTopic (c : DDSCache) (topicName t : String) (e : Option TopicCache) :
    (c.setTopic topicName e).topicCaches.find? t =
      if topicName = t then e else c.topicCaches.find? t := by
  cases e <;> simp [setTopic]

/-- Writing back the entry a topic has leaves the cache as it was. -/
theorem setTopic_find? (c : DDSCache) (topicName : String) :
    c.setTopic topicName (c.topicCaches.find? topicName) = c :=
  DDSCache.ext <| OrdMap.ext fun t => by
    by_cases h : topicName = t
    · subst h; simp
    · simp [h]

end DDSCache

/-! ### Calls and schedules -/

/-- One call a thread makes on the shared `DDSCache`. `writeTopicQos` is a write through the
reference `get_topic_qos_mut` returns. -/
inductive CacheCall where
  | addNewTopic (topicName : String)
  | removeTopic (topicName : String)
  | getTopicQos (topicName : String)
  | writeTopicQos (topicName : String) (qos : QosPolicies)
  | fromTopicGetChange (topicName : String) (instant : Int)
  | fromTopicSetChangeToNotAliveDisposed (topicName : String) (instant : Int)
  | fromTopicRemoveChange (topicName : String) (instant : Int)
  | fromTopicRemoveBefore (topicName : String) (instant : Int)
  | fromTopicGetAllChanges (topicName : String)
  | fromTopicGetChangesInRange (topicName : String) (startInstant endInstant : Int)
  | toTopicAddChange (topicName : String) (instant : Int) (cacheChange : CacheChange)
  deriving DecidableEq, Repr

/-- What a call returns to its caller. -/
inductive CacheReply where
  | done
  | added (b : Bool)
  | qos (q : Option QosPolicies)
  | change (c : Option CacheChange)
  | changes (l : List (Int × CacheChange))
  deriving DecidableEq, Repr

namespace CacheCall

variable (setKind : ChangeKind → CacheChange → CacheChange)

/-- The topic a call names. -/
def topicName : CacheCall → String
  | addNewTopic n | removeTopic n | getTopicQos n | writeTopicQos n _ | fromTopicGetChange n _
  | fromTopicSetChangeToNotAliveDisposed n _ | fromTopicRemoveChange n _
  | fromTopicRemoveBefore n _ | fromTopicGetAllChanges n | fromTopicGetChangesInRange n _ _
  | toTopicAddChange n _ _ => n

/-- A call on the cache: its reply and the cache it leaves, or its panic. -/
def apply : CacheCall → DDSCache → Except CachePanic (CacheReply × DDSCache)
  | addNewTopic n, c => let (c, b) := c.addNewTopic n; .ok (.added b, c)
  | removeTopic n, c => .ok (.done, c.removeTopic n)
  | getTopicQos n, c => .ok (.qos (c.getTopicQos n), c)
  | writeTopicQos n qos, c =>
    .ok (.done, match c.getTopicQosMut n with
      | some (_, write) => write qos
      | none => c)
  | fromTopicGetChange n t, c => .ok (.change (c.fromTopicGetChange n t), c)
  | fromTopicSetChangeToNotAliveDisposed n t, c =>
    (c.fromTopicSetChangeToNotAliveDisposed setKind n t).map fun c => (.done, c)
  | fromTopicRemoveChange n t, c =>
    let (c, removed) := c.fromTopicRemoveChange n t; .ok (.change removed, c)
  | fromTopicRemoveBefore n t, c => .ok (.done, c.fromTopicRemoveBefore n t)
  | fromTopicGetAllChanges n, c => .ok (.changes (c.fromTopicGetAllChanges n), c)
  | fromTopicGetChangesInRange n a b, c =>
    (c.fromTopicGetChangesInRange n a b).map fun l => (.changes l, c)
  | toTopicAddChange n t cc, c => .ok (.done, c.toTopicAddChange n t cc)

/-- What a call does to the entry of its own topic, `none` when the cache holds no such topic:
its reply and the entry it leaves, or its panic. -/
def onTopic : CacheCall → Option TopicCache → Except CachePanic (CacheReply × Option TopicCache)
  | addNewTopic _, some tc => .ok (.added false, some tc)
  | addNewTopic n, none => .ok (.added true, some (TopicCache.new n))
  | removeTopic _, _ => .ok (.done, none)
  | getTopicQos _, e => .ok (.qos (e.map TopicCache.topicQos), e)
  | writeTopicQos _ qos, e => .ok (.done, e.map fun tc => { tc with topicQos := qos })
  | fromTopicGetChange _ t, e => .ok (.change (e.bind fun tc => tc.getChange t), e)
  | fromTopicSetChangeToNotAliveDisposed _ t, some tc =>
    (tc.setChangeToNotAliveDisposed setKind t).map fun tc => (.done, some tc)
  | fromTopicSetChangeToNotAliveDisposed _ _, none => .ok (.done, none)
  | fromTopicRemoveChange _ t, some tc =>
    let (tc, removed) := tc.removeChange t; .ok (.change removed, some tc)
  | fromTopicRemoveChange _ _, none => .ok (.change none, none)
  | fromTopicRemoveBefore _ t, e => .ok (.done, e.map fun tc => tc.removeChangesBefore t)
  | fromTopicGetAllChanges _, e => .ok (.changes ((e.map TopicCache.getAllChanges).getD []), e)
  | fromTopicGetChangesInRange _ a b, some tc =>
    (tc.getChangesInRange a b).map fun l => (.changes l, some tc)
  | fromTopicGetChangesInRange _ _ _, none => .ok (.changes [], none)
  | toTopicAddChange _ t cc, e => .ok (.done, e.map fun tc => tc.addChange t cc)

/-- **A call touches only its own topic**: it is `onTopic` on the entry of its topic, written
back in place. -/
theorem apply_eq_onTopic (call : CacheCall) (c : DDSCache) :
    call.apply setKind c = (call.onTopic setKind (c.topicCaches.find? call.topicName)).map
      fun x => (x.1, c.setTopic call.topicName x.2) := by
  have hsame := c.setTopic_find? call.topicName
  cases h : c.topicCaches.find? call.topicName <;> rw [h] at hsame <;>
    cases call <;> simp only [topicName, DDSCache.setTopic] at h hsame <;>
    simp [apply, onTopic, topicName, DDSCache.addNewTopic, DDSCache.removeTopic,
      DDSCache.getTopicQosMut, DDSCache.getTopicQos, DDSCache.fromTopicGetChange,
      DDSCache.fromTopicSetChangeToNotAliveDisposed, DDSCache.fromTopicRemoveChange,
      DDSCache.fromTopicRemoveBefore, DDSCache.fromTopicGetAllChanges,
      DDSCache.fromTopicGetChangesInRange, DDSCache.toTopicAddChange, DDSCache.setTopic,
      OrdMap.mem_iff, h, hsame, Except.map]
  case some.fromTopicSetChangeToNotAliveDisposed tc _ t =>
    cases tc.setChangeToNotAliveDisposed setKind t <;> rfl
  case some.fromTopicGetChangesInRange tc _ a b =>
    cases tc.getChangesInRange a b <;> simp [hsame]

end CacheCall

section Schedules

variable (setKind : ChangeKind → CacheChange → CacheChange)

/-- A schedule of calls run one after another from `c`: the replies, in order, and the cache
left, or the first panic. -/
def runCalls : List CacheCall → DDSCache → Except CachePanic (List CacheReply × DDSCache)
  | [], c => .ok ([], c)
  | call :: calls, c =>
    match call.apply setKind c with
    | .error p => .error p
    | .ok (reply, c) =>
      match runCalls calls c with
      | .error p => .error p
      | .ok (replies, c) => .ok (reply :: replies, c)

/-- Calls run one after another on the entry of one topic. -/
def runOnTopic : List CacheCall → Option TopicCache →
    Except CachePanic (List CacheReply × Option TopicCache)
  | [], e => .ok ([], e)
  | call :: calls, e =>
    match call.onTopic setKind e with
    | .error p => .error p
    | .ok (reply, e) =>
      match runOnTopic calls e with
      | .error p => .error p
      | .ok (replies, e) => .ok (reply :: replies, e)

/-- The calls of a schedule on topic `t`, in order. -/
def callsOn (t : String) (calls : List CacheCall) : List CacheCall :=
  calls.filter fun call => call.topicName = t

/-- The replies of a schedule to its calls on topic `t`, in order. -/
def repliesOn (t : String) (calls : List CacheCall) (replies : List CacheReply) :
    List CacheReply :=
  ((calls.zip replies).filter fun x => x.1.topicName = t).map Prod.snd

theorem callsOn_cons (t : String) (call : CacheCall) (calls : List CacheCall) :
    callsOn t (call :: calls) = if call.topicName = t then call :: callsOn t calls else callsOn t calls := by
  by_cases h : call.topicName = t <;> simp [callsOn, List.filter_cons, h]

theorem repliesOn_cons (t : String) (call : CacheCall) (calls : List CacheCall)
    (reply : CacheReply) (replies : List CacheReply) :
    repliesOn t (call :: calls) (reply :: replies) =
      if call.topicName = t then reply :: repliesOn t calls replies else repliesOn t calls replies := by
  by_cases h : call.topicName = t <;> simp [repliesOn, List.filter_cons, h]

variable {setKind}

theorem runCalls_cons_ok {call : CacheCall} {calls : List CacheCall} {c c' : DDSCache}
    {replies : List CacheReply} :
    runCalls setKind (call :: calls) c = .ok (replies, c') ↔
      ∃ reply c₁ replies', call.apply setKind c = .ok (reply, c₁) ∧
        runCalls setKind calls c₁ = .ok (replies', c') ∧ replies = reply :: replies' := by
  simp only [runCalls]
  rcases h : call.apply setKind c with p | ⟨reply, c₁⟩
  · simp
  · dsimp only
    rcases h' : runCalls setKind calls c₁ with p | ⟨replies', c₂⟩
    · simp [h']
    · simp only [Except.ok.injEq, Prod.mk.injEq]
      constructor
      · rintro ⟨rfl, rfl⟩; exact ⟨_, _, _, ⟨rfl, rfl⟩, h', rfl⟩
      · rintro ⟨_, _, _, ⟨rfl, rfl⟩, hrest, rfl⟩
        rw [h'] at hrest
        simp only [Except.ok.injEq, Prod.mk.injEq] at hrest
        exact ⟨by rw [hrest.1], hrest.2⟩

theorem runOnTopic_cons_ok {call : CacheCall} {calls : List CacheCall}
    {e e' : Option TopicCache} {replies : List CacheReply} :
    runOnTopic setKind (call :: calls) e = .ok (replies, e') ↔
      ∃ reply e₁ replies', call.onTopic setKind e = .ok (reply, e₁) ∧
        runOnTopic setKind calls e₁ = .ok (replies', e') ∧ replies = reply :: replies' := by
  simp only [runOnTopic]
  rcases h : call.onTopic setKind e with p | ⟨reply, e₁⟩
  · simp
  · dsimp only
    rcases h' : runOnTopic setKind calls e₁ with p | ⟨replies', e₂⟩
    · simp [h']
    · simp only [Except.ok.injEq, Prod.mk.injEq]
      constructor
      · rintro ⟨rfl, rfl⟩; exact ⟨_, _, _, ⟨rfl, rfl⟩, h', rfl⟩
      · rintro ⟨_, _, _, ⟨rfl, rfl⟩, hrest, rfl⟩
        rw [h'] at hrest
        simp only [Except.ok.injEq, Prod.mk.injEq] at hrest
        exact ⟨by rw [hrest.1], hrest.2⟩

/-- A call that does not panic is `onTopic` on its topic's entry. -/
theorem onTopic_of_apply {call : CacheCall} {c c₁ : DDSCache} {reply : CacheReply}
    (h : call.apply setKind c = .ok (reply, c₁)) :
    ∃ e, call.onTopic setKind (c.topicCaches.find? call.topicName) = .ok (reply, e) ∧
      c₁ = c.setTopic call.topicName e := by
  rw [CacheCall.apply_eq_onTopic] at h
  cases hx : call.onTopic setKind (c.topicCaches.find? call.topicName) with
  | error p => simp [hx, Except.map] at h
  | ok x =>
    simp only [hx, Except.map, Except.ok.injEq, Prod.mk.injEq] at h
    exact ⟨x.2, by rw [← h.1], h.2.symm⟩

/-- **Isolation**: over a schedule that runs without panicking, the entry of topic `t` and the
replies to its calls are what `t`'s own calls compute, in their order, from its entry at the
start. -/
theorem runOnTopic_of_runCalls : ∀ {calls : List CacheCall} {c c' : DDSCache}
    {replies : List CacheReply}, runCalls setKind calls c = .ok (replies, c') → ∀ t,
      runOnTopic setKind (callsOn t calls) (c.topicCaches.find? t) =
        .ok (repliesOn t calls replies, c'.topicCaches.find? t)
  | [], c, c', replies, h, t => by cases h; rfl
  | call :: calls, c, c', replies, h, t => by
    obtain ⟨reply, c₁, replies', h₁, h₂, rfl⟩ := runCalls_cons_ok.mp h
    obtain ⟨e, he, rfl⟩ := onTopic_of_apply h₁
    have ih := runOnTopic_of_runCalls h₂ t
    rw [callsOn_cons, repliesOn_cons]
    by_cases ht : call.topicName = t
    · subst ht
      simp only [if_pos rfl, DDSCache.find?_setTopic] at ih ⊢
      exact runOnTopic_cons_ok.mpr ⟨_, _, _, he, ih, rfl⟩
    · simpa only [if_neg ht, DDSCache.find?_setTopic] using ih

/-- A schedule runs without panicking when the calls of each topic, run on its entry alone,
do. -/
theorem runCalls_isOk : ∀ {calls : List CacheCall} {c : DDSCache},
    (∀ t, ∃ r, runOnTopic setKind (callsOn t calls) (c.topicCaches.find? t) = .ok r) →
      ∃ r, runCalls setKind calls c = .ok r
  | [], _, _ => ⟨_, rfl⟩
  | call :: calls, c, h => by
    obtain ⟨⟨replies, e'⟩, hr⟩ := h call.topicName
    rw [callsOn_cons, if_pos rfl] at hr
    obtain ⟨reply, e, replies', he, hrest, -⟩ := runOnTopic_cons_ok.mp hr
    have happly : call.apply setKind c = .ok (reply, c.setTopic call.topicName e) := by
      rw [CacheCall.apply_eq_onTopic, he]; rfl
    obtain ⟨⟨replies₁, c'⟩, hcalls⟩ :
        ∃ r, runCalls setKind calls (c.setTopic call.topicName e) = .ok r :=
      runCalls_isOk fun t => by
        by_cases ht : call.topicName = t
        · subst ht; exact ⟨_, by simpa using hrest⟩
        · obtain ⟨r, hr⟩ := h t
          rw [callsOn_cons, if_neg ht] at hr
          exact ⟨r, by simpa [ht] using hr⟩
    exact ⟨_, runCalls_cons_ok.mpr ⟨_, _, _, happly, hcalls, rfl⟩⟩

/-- **Schedules that agree on each topic's order agree.** If one schedule of calls on the cache
runs without panicking, so does any other that makes each topic's calls in the same order: it
leaves the same cache, and each topic's calls get the same replies. -/
theorem schedules_agree {s₁ s₂ : List CacheCall} (hs : ∀ t, callsOn t s₁ = callsOn t s₂)
    {c c' : DDSCache} {replies₁ : List CacheReply}
    (h₁ : runCalls setKind s₁ c = .ok (replies₁, c')) :
    ∃ replies₂, runCalls setKind s₂ c = .ok (replies₂, c') ∧
      ∀ t, repliesOn t s₂ replies₂ = repliesOn t s₁ replies₁ := by
  have hon₁ := runOnTopic_of_runCalls h₁
  obtain ⟨⟨replies₂, c₂⟩, h₂⟩ : ∃ r, runCalls setKind s₂ c = .ok r :=
    runCalls_isOk fun t => ⟨_, hs t ▸ hon₁ t⟩
  have hon₂ := runOnTopic_of_runCalls h₂
  have hsame : ∀ t, repliesOn t s₂ replies₂ = repliesOn t s₁ replies₁ ∧
      c₂.topicCaches.find? t = c'.topicCaches.find? t := fun t => by
    have := (hon₂ t).symm.trans (hs t ▸ hon₁ t)
    simpa only [Except.ok.injEq, Prod.mk.injEq] using this
  refine ⟨replies₂, ?_, fun t => (hsame t).1⟩
  rw [h₂, DDSCache.ext (OrdMap.ext fun t => (hsame t).2)]

/-- A change of one writer with sequence number `sn` and an empty payload. -/
def exampleChange (sn : Int) : CacheChange :=
  ⟨⟨⟨1⟩, ⟨1, ⟨2⟩⟩⟩, sn, ⟨none, none⟩, .data ⟨[0, 1], [0, 0], []⟩⟩

/-- One thread sets up the topic `Square` and adds a change to it. -/
def exampleSquareCalls : List CacheCall :=
  [.addNewTopic "Square", .toTopicAddChange "Square" 3 (exampleChange 1)]

/-- Another sets up the topic `Circle` and reads its changes. -/
def exampleCircleCalls : List CacheCall :=
  [.addNewTopic "Circle", .fromTopicGetAllChanges "Circle"]

/-- The calls of the two threads, interleaved. -/
def exampleInterleaving : List CacheCall :=
  [exampleSquareCalls[0], exampleCircleCalls[0], exampleSquareCalls[1], exampleCircleCalls[1]]

/-- Each topic's calls, in its thread's order, whichever of the two schedules runs. -/
theorem callsOn_exampleInterleaving (t : String) :
    callsOn t (exampleSquareCalls ++ exampleCircleCalls) = callsOn t exampleInterleaving := by
  by_cases hq : "Square" = t <;> by_cases hc : "Circle" = t
  · exact absurd (hq.trans hc.symm) (by decide)
  all_goals simp [callsOn, exampleSquareCalls, exampleCircleCalls, exampleInterleaving,
    CacheCall.topicName, hq, hc]

/-- The thread of `Square` running before the thread of `Circle`, and the two interleaved. -/
theorem example_schedules_agree :
    ∃ replies₁ c', runCalls (fun _ cc => cc) (exampleSquareCalls ++ exampleCircleCalls)
        DDSCache.new = .ok (replies₁, c') ∧
      ∃ replies₂, runCalls (fun _ cc => cc) exampleInterleaving DDSCache.new = .ok (replies₂, c') ∧
        ∀ t, repliesOn t exampleInterleaving replies₂ =
          repliesOn t (exampleSquareCalls ++ exampleCircleCalls) replies₁ := by
  obtain ⟨⟨replies₁, c'⟩, h₁⟩ : ∃ r, runCalls (fun _ cc => cc)
      (exampleSquareCalls ++ exampleCircleCalls) DDSCache.new = .ok r := runCalls_isOk fun t => by
      by_cases hq : "Square" = t <;> by_cases hc : "Circle" = t
      · exact absurd (hq.trans hc.symm) (by decide)
      all_goals
        simp only [callsOn, exampleSquareCalls, exampleCircleCalls, List.cons_append,
          List.nil_append, List.filter_cons, List.filter_nil, CacheCall.topicName, hq, hc,
          decide_True, decide_False, if_true, if_false, Bool.false_eq_true]
        exact ⟨_, rfl⟩
  exact ⟨replies₁, c', h₁, schedules_agree callsOn_exampleInterleaving h₁⟩

end Schedules

/-! ### Range queries -/

/-- On a key-sorted list, the keys in `(a, d]` are those in `(a, b]` followed by those in
`(b, d]`. -/
theorem filter_range_append {ν : Type} {a b d : Int} (hab : a ≤ b) (hbd : b ≤ d) :
    ∀ {l : List (Int × ν)}, l.Pairwise (fun x y => x.1 < y.1) →
      l.filter (fun p => a < p.1 && p.1 ≤ d) =
        l.filter (fun p => a < p.1 && p.1 ≤ b) ++ l.filter (fun p => b < p.1 && p.1 ≤ d)
  | [], _ => rfl
  | (k, v) :: t, hs => by
    rw [List.pairwise_cons] at hs
    have ih := filter_range_append hab hbd hs.2
    by_cases hk : k ≤ b
    · have hk' : ¬b < k := not_lt.mpr hk
      by_cases ha : a < k
      · simp [List.filter_cons, ha, hk, hk', ih, hk.trans hbd]
      · simp [List.filter_cons, ha, hk', ih]
    · have hnil : t.filter (fun p => a < p.1 && p.1 ≤ b) = [] :=
        List.filter_eq_nil_iff.mpr fun p hp => by
          have := hs.1 p hp
          simp only [Bool.and_eq_true, decide_eq_true_eq, not_and, not_le]
          intro; omega
      have hmid : t.filter (fun p => a < p.1 && p.1 ≤ d) =
          t.filter (fun p => b < p.1 && p.1 ≤ d) :=
        List.filter_congr fun p hp => by
          have := hs.1 p hp
          rw [Bool.eq_iff_iff]
          simp only [Bool.and_eq_true, decide_eq_true_eq]
          omega
      have hak : a < k := by omega
      have hbk : b < k := by omega
      simp only [List.filter_cons, hnil, hmid, hak, hbk, hk, decide_True, decide_False,
        Bool.true_and, Bool.false_eq_true, Bool.and_false, if_false, List.nil_append]

namespace DDSHistoryCache

/-- `get_range_of_changes_vec(a, b)` panics when the map has a root and `b < a`, and otherwise
returns the changes after `a` up to `b`, in instant order (none from a map with no root). -/
theorem getRangeOfChangesVec_eq (h : DDSHistoryCache) (a b : Int) :
    h.getRangeOfChangesVec a b =
      if h.hasRoot ∧ b < a then .error (.range .startGreaterThanEnd)
      else .ok (h.getAllChanges.filter fun p => a < p.1 && p.1 ≤ b) := by
  unfold getRangeOfChangesVec OrdMap.range
  cases hr : h.hasRoot
  · simp [getAllChanges, h.changes_eq_empty hr, Except.mapError]
  · by_cases hab : b < a <;>
      simp [hab, Bound.isExcluded, Bound.key, OrdMap.rangeWalk_eq_filter, Bound.startsBy,
        Bound.endsBy, getAllChanges, Except.mapError]

/-- `get_range_of_changes(a, b)` panics when the map has a root and `b < a`, and otherwise
returns the changes from `a` up to `b`, in instant order. -/
theorem getRangeOfChanges_eq (h : DDSHistoryCache) (a b : Int) :
    h.getRangeOfChanges a b =
      if h.hasRoot ∧ b < a then .error (.range .startGreaterThanEnd)
      else .ok (h.getAllChanges.filter fun p => a ≤ p.1 && p.1 ≤ b) := by
  unfold getRangeOfChanges OrdMap.range
  cases hr : h.hasRoot
  · simp [getAllChanges, h.changes_eq_empty hr, Except.mapError]
  · by_cases hab : b < a <;>
      simp [hab, Bound.isExcluded, Bound.key, OrdMap.rangeWalk_eq_filter, Bound.startsBy,
        Bound.endsBy, getAllChanges, Except.mapError]

end DDSHistoryCache

/-- `from_topic_get_changes_in_range(a, b)` through `get_range_of_changes_vec`: a panic on a
topic the cache holds, whose map has a root, when `b < a`, and otherwise the topic's changes in
`(a, b]`. -/
theorem DDSCache.fromTopicGetChangesInRange_eq (c : DDSCache) (topicName : String) (a b : Int) :
    c.fromTopicGetChangesInRange topicName a b =
      if (∃ tc, c.topicCaches.find? topicName = some tc ∧ tc.historyCache.hasRoot = true) ∧ b < a
      then .error (.range .startGreaterThanEnd)
      else .ok ((c.fromTopicGetAllChanges topicName).filter fun p => a < p.1 && p.1 ≤ b) := by
  unfold DDSCache.fromTopicGetChangesInRange DDSCache.fromTopicGetAllChanges
  cases h : c.topicCaches.find? topicName with
  | none => simp
  | some tc =>
    simp only [Option.some.injEq, exists_eq_left']
    exact tc.historyCache.getRangeOfChangesVec_eq a b

/-- A cache with the topic `Square` and two of its changes, received at instants 3 and 7. -/
def exampleCache : DDSCache :=
  (((DDSCache.new.addNewTopic "Square").1.toTopicAddChange "Square" 3 (exampleChange 1)).toTopicAddChange
    "Square" 7 (exampleChange 2))

/-- **What a range query returns.** `from_topic_get_changes_in_range(a, b)` on a topic the
cache holds panics when `b < a` and the topic's map has a root, as `BTreeMap::range` does;
otherwise, on a map with no root (a topic that never held a change) and on any topic the cache
does not hold, it returns the topic's changes after `a` up to `b`, in instant order. -/
theorem get_changes_in_range_spec (c : DDSCache) (topicName : String) (a b : Int) :
    c.fromTopicGetChangesInRange topicName a b =
      if (∃ tc, c.topicCaches.find? topicName = some tc ∧ tc.historyCache.hasRoot = true) ∧ b < a
      then .error (.range .startGreaterThanEnd)
      else .ok ((c.fromTopicGetAllChanges topicName).filter fun p => a < p.1 && p.1 ≤ b) :=
  c.fromTopicGetChangesInRange_eq topicName a b

/-- A freshly added topic answers a reversed range with nothing; once it holds a change, the
same query panics. -/
example : (DDSCache.new.addNewTopic "Square").1.fromTopicGetChangesInRange "Square" 10 5 = .ok [] ∧
    exampleCache.fromTopicGetChangesInRange "Square" 10 5 = .error (.range .startGreaterThanEnd) := by
  simp [exampleCache, DDSCache.addNewTopic, DDSCache.new, DDSCache.fromTopicGetChangesInRange,
    DDSCache.toTopicAddChange, TopicCache.new, TopicCache.getChangesInRange, TopicCache.addChange,
    DDSHistoryCache.getRangeOfChangesVec, DDSHistoryCache.new, DDSHistoryCache.addChange,
    OrdMap.range, Except.mapError, Bound.isExcluded, Bound.key]

/-- **Consecutive ranges read each change once**: for `a ≤ b ≤ d`, the ranges `(a, b]` and
`(b, d]` of a topic return together, in order, what `(a, d]` returns. -/
theorem changes_in_consecutive_ranges (c : DDSCache) (topicName : String) {a b d : Int}
    (hab : a ≤ b) (hbd : b ≤ d) :
    ∃ l₁ l₂, c.fromTopicGetChangesInRange topicName a b = .ok l₁ ∧
      c.fromTopicGetChangesInRange topicName b d = .ok l₂ ∧
      c.fromTopicGetChangesInRange topicName a d = .ok (l₁ ++ l₂) := by
  have hsorted : (c.fromTopicGetAllChanges topicName).Pairwise (fun x y => x.1 < y.1) := by
    unfold DDSCache.fromTopicGetAllChanges
    split
    · exact OrdMap.sorted _
    · exact List.Pairwise.nil
  simp only [DDSCache.fromTopicGetChangesInRange_eq, not_lt.mpr hab, not_lt.mpr hbd,
    not_lt.mpr (hab.trans hbd), and_false, if_false, filter_range_append hab hbd hsorted]
  exact ⟨_, _, rfl, rfl, rfl⟩

/-- The window `(0, 10]` of `Square` splits at `5`. -/
theorem example_changes_in_consecutive_ranges :
    ∃ l₁ l₂, exampleCache.fromTopicGetChangesInRange "Square" 0 5 = .ok l₁ ∧
      exampleCache.fromTopicGetChangesInRange "Square" 5 10 = .ok l₂ ∧
      exampleCache.fromTopicGetChangesInRange "Square" 0 10 = .ok (l₁ ++ l₂) :=
  changes_in_consecutive_ranges exampleCache "Square" (by decide) (by decide)

/-! ### Concurrent additions -/

namespace DDSCache

@[simp] theorem mem_toTopicAddChange (c : DDSCache) (n m : String) (t : Int) (x : CacheChange) :
    m ∈ (c.toTopicAddChange n t x).topicCaches ↔ m ∈ c.topicCaches := by
  unfold toTopicAddChange
  cases h : c.topicCaches.find? n with
  | none => rfl
  | some tc =>
    simp only [OrdMap.mem_insert]
    exact ⟨fun h' => h'.elim (fun e => e ▸ OrdMap.mem_iff.mpr ⟨tc, h⟩) id, .inr⟩

theorem fromTopicGetChange_toTopicAddChange (c : DDSCache) (n m : String) (t u : Int)
    (x : CacheChange) :
    (c.toTopicAddChange n t x).fromTopicGetChange m u =
      if n = m ∧ t = u ∧ n ∈ c.topicCaches then some x else c.fromTopicGetChange m u := by
  unfold toTopicAddChange fromTopicGetChange
  cases h : c.topicCaches.find? n with
  | none => simp [OrdMap.mem_iff, h]
  | some tc =>
    by_cases hn : n = m
    · subst hn
      by_cases ht : t = u <;>
        simp [h, ht, OrdMap.mem_iff, TopicCache.getChange, TopicCache.addChange,
          DDSHistoryCache.getChange, DDSHistoryCache.addChange]
    · simp [hn]

@[simp] theorem find?_toTopicAddChange (c : DDSCache) (n m : String) (t : Int) (x : CacheChange) :
    (c.toTopicAddChange n t x).topicCaches.find? m =
      if n = m then (c.topicCaches.find? m).map fun tc => tc.addChange t x
      else c.topicCaches.find? m := by
  unfold toTopicAddChange
  by_cases hn : n = m
  · subst hn; cases h : c.topicCaches.find? n <;> simp [h]
  · cases c.topicCaches.find? n <;> simp [hn]

/-- Two additions at different (topic, instant) pairs commute. -/
theorem toTopicAddChange_comm (c : DDSCache) {n₁ n₂ : String} {t₁ t₂ : Int}
    (h : (n₁, t₁) ≠ (n₂, t₂)) (x₁ x₂ : CacheChange) :
    (c.toTopicAddChange n₁ t₁ x₁).toTopicAddChange n₂ t₂ x₂ =
      (c.toTopicAddChange n₂ t₂ x₂).toTopicAddChange n₁ t₁ x₁ := by
  refine DDSCache.ext (OrdMap.ext fun m => ?_)
  simp only [find?_toTopicAddChange]
  by_cases h₁ : n₁ = m <;> by_cases h₂ : n₂ = m
  · subst h₁ h₂
    have ht : t₁ ≠ t₂ := fun ht => h (ht ▸ rfl)
    simp [Option.map_map, Function.comp_def, TopicCache.addChange_comm _ ht]
  all_goals simp [h₁, h₂]

end DDSCache

section Additions

variable (setKind : ChangeKind → CacheChange → CacheChange)

/-- The `to_topic_add_change` call of a (topic, instant, change) triple. -/
def addCall (a : String × Int × CacheChange) : CacheCall := .toTopicAddChange a.1 a.2.1 a.2.2

/-- The cache that `to_topic_add_change` calls leave, one after another. -/
def addAll (c : DDSCache) (adds : List (String × Int × CacheChange)) : DDSCache :=
  adds.foldl (fun c a => c.toTopicAddChange a.1 a.2.1 a.2.2) c

theorem runCalls_addCall (adds : List (String × Int × CacheChange)) (c : DDSCache) :
    runCalls setKind (adds.map addCall) c = .ok (adds.map fun _ => .done, addAll c adds) := by
  induction adds generalizing c with
  | nil => rfl
  | cons a adds ih => simp [runCalls, CacheCall.apply, addCall, addAll, ih _]

variable {setKind}

/-- Additions at other (topic, instant) pairs leave a lookup as it was. -/
theorem fromTopicGetChange_addAll_of_not_mem {adds : List (String × Int × CacheChange)}
    {n : String} {t : Int} (h : (n, t) ∉ adds.map fun a => (a.1, a.2.1)) (c : DDSCache) :
    (addAll c adds).fromTopicGetChange n t = c.fromTopicGetChange n t := by
  induction adds generalizing c with
  | nil => rfl
  | cons a adds ih =>
    simp only [List.map_cons, List.mem_cons, not_or] at h
    rw [addAll, List.foldl_cons, ← addAll, ih h.2, DDSCache.fromTopicGetChange_toTopicAddChange,
      if_neg fun ⟨hn, ht, _⟩ => h.1 (by rw [hn, ht])]

/-- After additions at distinct (topic, instant) pairs, each change is found at its instant on
a topic the cache held. -/
theorem fromTopicGetChange_addAll {adds : List (String × Int × CacheChange)}
    (hd : (adds.map fun a => (a.1, a.2.1)).Nodup) {a : String × Int × CacheChange} (ha : a ∈ adds)
    {c : DDSCache} (hm : a.1 ∈ c.topicCaches) :
    (addAll c adds).fromTopicGetChange a.1 a.2.1 = some a.2.2 := by
  induction adds generalizing c with
  | nil => cases ha
  | cons b adds ih =>
    rw [List.map_cons, List.nodup_cons] at hd
    rw [addAll, List.foldl_cons, ← addAll]
    rcases List.mem_cons.mp ha with rfl | ha
    · rw [fromTopicGetChange_addAll_of_not_mem hd.1,
        DDSCache.fromTopicGetChange_toTopicAddChange, if_pos ⟨rfl, rfl, hm⟩]
    · exact ih hd.2 ha ((DDSCache.mem_toTopicAddChange _ _ _ _ _).mpr hm)

/-- Additions at distinct (topic, instant) pairs leave the same cache in every order. -/
theorem addAll_perm {adds₁ adds₂ : List (String × Int × CacheChange)} (hp : adds₁.Perm adds₂)
    (hd : (adds₁.map fun a => (a.1, a.2.1)).Nodup) (c : DDSCache) :
    addAll c adds₁ = addAll c adds₂ :=
  hp.foldl_eq' (fun x hx y hy z => by
    by_cases hxy : x = y
    · rw [hxy]
    · exact z.toTopicAddChange_comm (fun h => hxy (List.inj_on_of_nodup_map hd hx hy h)) _ _) c

/-- **Concurrent additions lose nothing.** `to_topic_add_change` calls at distinct (topic,
instant) pairs, made in any two orders, leave the same cache; each change is then found at its
instant on every topic the cache held, and every other lookup is as it was. -/
theorem adds_at_distinct_instants_commute {adds₁ adds₂ : List (String × Int × CacheChange)}
    (hp : adds₁.Perm adds₂) (hd : (adds₁.map fun a => (a.1, a.2.1)).Nodup) (c : DDSCache) :
    ∃ replies c', runCalls setKind (adds₁.map addCall) c = .ok (replies, c') ∧
      runCalls setKind (adds₂.map addCall) c = .ok (replies, c') ∧
      (∀ a ∈ adds₁, a.1 ∈ c.topicCaches → c'.fromTopicGetChange a.1 a.2.1 = some a.2.2) ∧
      ∀ n t, (n, t) ∉ adds₁.map (fun a => (a.1, a.2.1)) →
        c'.fromTopicGetChange n t = c.fromTopicGetChange n t := by
  refine ⟨_, _, runCalls_addCall setKind adds₁ c, ?_, fun a ha hm => fromTopicGetChange_addAll hd ha hm,
    fun n t h => fromTopicGetChange_addAll_of_not_mem h c⟩
  rw [runCalls_addCall, addAll_perm hp hd, List.map_const', List.map_const', hp.length_eq]

/-- Two changes of `Square`, added in either order. -/
theorem example_adds_at_distinct_instants_commute :
    ∃ replies c', runCalls (fun _ cc => cc)
        ([("Square", 3, exampleChange 1), ("Square", 7, exampleChange 2)].map addCall)
        (DDSCache.new.addNewTopic "Square").1 = .ok (replies, c') ∧
      runCalls (fun _ cc => cc)
        ([("Square", 7, exampleChange 2), ("Square", 3, exampleChange 1)].map addCall)
        (DDSCache.new.addNewTopic "Square").1 = .ok (replies, c') ∧
      (∀ a ∈ [("Square", 3, exampleChange 1), ("Square", 7, exampleChange 2)],
        a.1 ∈ (DDSCache.new.addNewTopic "Square").1.topicCaches →
          c'.fromTopicGetChange a.1 a.2.1 = some a.2.2) ∧
      ∀ n t, (n, t) ∉ [("Square", (3 : Int), exampleChange 1), ("Square", 7, exampleChange 2)].map
          (fun a => (a.1, a.2.1)) →
        c'.fromTopicGetChange n t = (DDSCache.new.addNewTopic "Square").1.fromTopicGetChange n t :=
  adds_at_distinct_instants_commute (List.Perm.swap _ _ _) (by decide) _

end Additions

end RustDds
