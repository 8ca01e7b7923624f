import RustDds.Structure

/-!
# The topic cache

`TopicCache` and `DDSHistoryCache` of `structure/dds_cache.rs`: the changes of one topic,
keyed by the instant they were received, and the topic's QoS, which bounds how many changes
`remove_changes_before` keeps.

The Reader also keeps in the topic cache, per writer, the *reliably-received watermark*:
every sequence number below it is known to be received or irrelevant, so a reliable
DataReader may hand the samples below it to the application. The version of `dds_cache.rs`
in the source predates the watermark, and the topic's name, which `Reader::new` compares
with its own; both are modelled from the spec (`receivedReliablyBefore`, `topicName`).

The Reader shares the topic cache with its DataReader. In this development a topic cache
has one Reader, which creates it together with the topic.
-/

namespace RustDds

/-- `DDSHistoryCache`: the changes of a topic, keyed by the instant they were received, in a
`BTreeMap`. `hasRoot` is whether the map has a root node: a new map has none, the first
insertion makes one, and `split_off` of an empty map returns a new one. A map with an entry has
a root. -/
structure DDSHistoryCache where
  changes : OrdMap Int CacheChange
  hasRoot : Bool
  hasRoot_of_mem : ∀ k ∈ changes, hasRoot = true

/-- `DDSHistoryCache::new`. -/
def DDSHistoryCache.new : DDSHistoryCache := ⟨∅, false, fun k h => absurd h (OrdMap.not_mem_empty k)⟩

/-- `DDSHistoryCache::add_change`: a `BTreeMap::insert`, so a change received at an instant
that already holds one replaces it (the source logs an error and goes on). -/
def DDSHistoryCache.addChange (h : DDSHistoryCache) (instant : Int)
    (cacheChange : CacheChange) : DDSHistoryCache :=
  ⟨h.changes.insert instant cacheChange, true, fun _ _ => rfl⟩

/-- `DDSHistoryCache::remove_changes_before`: keep the changes from `instant` on, by
`BTreeMap::split_off`, which returns a new map when the map is empty. -/
def DDSHistoryCache.removeChangesBefore (h : DDSHistoryCache) (instant : Int) :
    DDSHistoryCache :=
  if h.changes.size = 0 then DDSHistoryCache.new
  else ⟨h.changes.splitOff instant, true, fun _ _ => rfl⟩

/-- Why a call on the topic cache panics. Each constructor stands for the message the source
formats from its data. -/
inductive CachePanic where
  /-- A panic of `BTreeMap::range`. -/
  | range (p : RangePanic)
  /-- `DDSHistoryCache::change_change_kind`: "CacheChange with instance: {instant:?} was not
  found on DDSHistoryCache!". -/
  | changeNotFound (instant : Int)
  deriving DecidableEq, Repr

namespace DDSHistoryCache

/-- `DDSHistoryCache::get_all_changes`: every change with its instant, in instant order. -/
def getAllChanges (h : DDSHistoryCache) : List (Int × CacheChange) := h.changes.toList

/-- `DDSHistoryCache::get_change`. -/
def getChange (h : DDSHistoryCache) (instant : Int) : Option CacheChange :=
  h.changes.find? instant

/-- `DDSHistoryCache::get_range_of_changes`: the changes from `start_instant` to `end_instant`,
both included. -/
def getRangeOfChanges (h : DDSHistoryCache) (startInstant endInstant : Int) :
    Except CachePanic (List (Int × CacheChange)) :=
  (h.changes.range h.hasRoot (.included startInstant) (.included endInstant)).mapError .range

/-- `DDSHistoryCache::get_range_of_changes_vec`: the changes after `start_instant` up to
`end_instant` included, collected in instant order. -/
def getRangeOfChangesVec (h : DDSHistoryCache) (startInstant endInstant : Int) :
    Except CachePanic (List (Int × CacheChange)) :=
  (h.changes.range h.hasRoot (.excluded startInstant) (.included endInstant)).mapError .range

/-- `DDSHistoryCache::change_change_kind`: set the kind of the change at `instant`, and panic
when there is none. `setKind` is the write to `CacheChange.kind`; `cache_change.rs` is not in
the source, and the `CacheChange::new` that `reader.rs` calls takes no kind, so the write is
left as a parameter. The map holds the change, so it has a root. -/
def changeChangeKind (setKind : ChangeKind → CacheChange → CacheChange) (h : DDSHistoryCache)
    (instant : Int) (changeKind : ChangeKind) : Except CachePanic DDSHistoryCache :=
  match h.changes.find? instant with
  | some change => .ok ⟨h.changes.insert instant (setKind changeKind change), true, fun _ _ => rfl⟩
  | none => .error (.changeNotFound instant)

/-- `DDSHistoryCache::remove_change`: the cache without the change at `instant`, and that change. -/
def removeChange (h : DDSHistoryCache) (instant : Int) : DDSHistoryCache × Option CacheChange :=
  (⟨h.changes.erase instant, h.hasRoot, fun k hk => h.hasRoot_of_mem k (OrdMap.mem_erase.mp hk).2⟩,
    h.changes.find? instant)

/-- `split_off` keeps the entries from `instant` on, whether it splits the map or returns a new
one. -/
@[simp] theorem changes_removeChangesBefore (h : DDSHistoryCache) (instant : Int) :
    (h.removeChangesBefore instant).changes = h.changes.splitOff instant := by
  unfold removeChangesBefore
  split <;> rename_i h₀
  · refine OrdMap.ext fun k => ?_
    simp [new, OrdMap.find?, OrdMap.splitOff, List.length_eq_zero.mp h₀]
  · rfl

/-- A map with no root holds nothing. -/
theorem changes_eq_empty (h : DDSHistoryCache) (hr : h.hasRoot = false) : h.changes = ∅ :=
  OrdMap.eq_empty_of_forall_not_mem fun k hk => Bool.false_ne_true (hr ▸ h.hasRoot_of_mem k hk)

end DDSHistoryCache

/-- `TopicCache`, with the topic's name and the writers' watermarks. The topic's data type
and kind, which the Reader never reads, are left out. -/
structure TopicCache where
  topicName : String
  topicQos : QosPolicies
  historyCache : DDSHistoryCache
  receivedReliablyBefore : OrdMap GUID Int

/-- `TopicCache::new`: the topic's QoS starts with no policy set. -/
def TopicCache.new (topicName : String) : TopicCache :=
  ⟨topicName, QosPolicies.default, DDSHistoryCache.new, ∅⟩

namespace TopicCache

/-- `TopicCache::add_change`. -/
def addChange (tc : TopicCache) (instant : Int) (cacheChange : CacheChange) :
    TopicCache :=
  { tc with historyCache := tc.historyCache.addChange instant cacheChange }

/-- The watermark of `writer`: none before the Reader first marks it. -/
def watermark (tc : TopicCache) (writer : GUID) : Option Int :=
  tc.receivedReliablyBefore.find? writer

/-- Where `mark_reliably_received_before` leaves a watermark: the larger of the old one and
`sn`. -/
def raiseTo (old : Option Int) (sn : Int) : Int :=
  match old with
  | some w => max w sn
  | none => sn

/-- Modelled from the spec: `TopicCache::mark_reliably_received_before` (not in the source's
`dds_cache.rs`). Raise the watermark of `writer` to the larger of its value and `sn`; the
`Bool` tells whether it advanced. -/
def markReliablyReceivedBefore (tc : TopicCache) (writer : GUID) (sn : Int) :
    TopicCache × Bool :=
  match tc.watermark writer with
  | some w =>
    if w < sn then ({ tc with receivedReliablyBefore := tc.receivedReliablyBefore.insert writer sn },
      true)
    else (tc, false)
  | none => ({ tc with receivedReliablyBefore := tc.receivedReliablyBefore.insert writer sn }, true)

/-- `TopicCache::remove_changes_before`. The split key is the later of `instant` and the key
that leaves at most `max_samples` changes (1024 without a resource limit); the counts are
`i32` arithmetic. -/
def removeChangesBefore (tc : TopicCache) (instant : Int) : TopicCache :=
  let maxKeepSamples := (tc.topicQos.resourceLimits.getD ⟨1024, 1024, 64⟩).maxSamples
  let removeCount := wrapI32 (wrapI32 tc.historyCache.changes.size - maxKeepSamples)
  let splitKey :=
    ((tc.historyCache.changes.keys.take ((max 0 removeCount).toNat + 1)).getLast?.map
      (fun lim => max lim instant)).getD instant
  { tc with historyCache := tc.historyCache.removeChangesBefore splitKey }

/-- `TopicCache::get_change`. -/
def getChange (tc : TopicCache) (instant : Int) : Option CacheChange :=
  tc.historyCache.getChange instant

/-- `TopicCache::get_all_changes`. -/
def getAllChanges (tc : TopicCache) : List (Int × CacheChange) := tc.historyCache.getAllChanges

/-- `TopicCache::get_changes_in_range`. -/
def getChangesInRange (tc : TopicCache) (startInstant endInstant : Int) :
    Except CachePanic (List (Int × CacheChange)) :=
  tc.historyCache.getRangeOfChangesVec startInstant endInstant

/-- `TopicCache::remove_change`. -/
def removeChange (tc : TopicCache) (instant : Int) : TopicCache × Option CacheChange :=
  let (h, removed) := tc.historyCache.removeChange instant
  ({ tc with historyCache := h }, removed)

/-- `TopicCache::set_change_to_not_alive_disposed`. -/
def setChangeToNotAliveDisposed (setKind : ChangeKind → CacheChange → CacheChange)
    (tc : TopicCache) (instant : Int) : Except CachePanic TopicCache :=
  (tc.historyCache.changeChangeKind setKind instant .notAliveDisposed).map
    fun h => { tc with historyCache := h }

/-- Two changes added at different instants commute. -/
theorem addChange_comm (tc : TopicCache) {t₁ t₂ : Int} (h : t₁ ≠ t₂) (x₁ x₂ : CacheChange) :
    (tc.addChange t₁ x₁).addChange t₂ x₂ = (tc.addChange t₂ x₂).addChange t₁ x₁ := by
  simp only [addChange, DDSHistoryCache.addChange, mk.injEq, DDSHistoryCache.mk.injEq,
    true_and, and_true]
  exact OrdMap.ext fun k => by
    by_cases h₁ : t₁ = k <;> by_cases h₂ : t₂ = k <;> simp_all

@[simp] theorem watermark_addChange (tc : TopicCache) (instant : Int) (cc : CacheChange)
    (g : GUID) : (tc.addChange instant cc).watermark g = tc.watermark g := rfl

@[simp] theorem watermark_removeChangesBefore (tc : TopicCache) (instant : Int) (g : GUID) :
    (tc.removeChangesBefore instant).watermark g = tc.watermark g := rfl

/-- What marking does to every watermark. -/
@[simp] theorem watermark_markReliablyReceivedBefore (tc : TopicCache) (writer g : GUID)
    (sn : Int) :
    (tc.markReliablyReceivedBefore writer sn).1.watermark g =
      if writer = g then some (raiseTo (tc.watermark writer) sn) else tc.watermark g := by
  unfold markReliablyReceivedBefore
  split <;> rename_i w h
  · by_cases hw : w < sn
    · by_cases hg : writer = g
      · subst hg; rw [h]; simp [watermark, hw, raiseTo, max_eq_right hw.le]
      · simp [watermark, hw, hg]
    · by_cases hg : writer = g
      · subst hg; rw [h]; simp [hw, h, raiseTo, max_eq_left (not_lt.mp hw)]
      · simp [hw, hg]
  · by_cases hg : writer = g <;> simp_all [watermark, raiseTo]

/-- Marking leaves the stored changes alone. -/
@[simp] theorem historyCache_markReliablyReceivedBefore (tc : TopicCache) (writer : GUID)
    (sn : Int) :
    (tc.markReliablyReceivedBefore writer sn).1.historyCache = tc.historyCache := by
  unfold markReliablyReceivedBefore; split <;> [split <;> rfl; rfl]

end TopicCache

end RustDds
