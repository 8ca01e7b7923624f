import RustDds.Reader

/-!
# Runs of a Reader

The Reader runs on one event-loop thread: its operations happen one after another, each
complete before the next. `Input` lists them, each with what it reads from outside (the
submessage and its receiver state, the clock, the timer's events, the discovery data of a
writer); `Reader.step` performs one. The DataReader shares the topic cache and trims it
between two operations (`removeChangesBefore`).

A run is recorded step by step: `StepRecord` keeps the state a step started in, its input,
its effects and the state it ended in, so that properties of runs can speak of *earlier
steps*, of *the step that added a writer* and of *the order of what was sent*. `Run cfw r₀ L r`
says that `L` takes the Reader from `r₀` to `r` and that no step of it panicked.

Discovery hands `update_writer_proxy` a proxy it has just built with `RtpsWriterProxy::new`
from a discovered writer, so the input carries the constructor's arguments.
-/

namespace RustDds

/-- What happens to a Reader: one of its operations, or the DataReader trimming the topic
cache. -/
inductive Input where
  | updateWriterProxy (remoteWriterGuid : GUID) (unicastLocatorList multicastLocatorList : List Locator)
      (remoteGroupEntityId : EntityId) (offeredQos : QosPolicies)
  | removeWriterProxy (writerGuid : GUID)
  | participantLost (guidPrefix : GuidPrefix)
  | handleDataMsg (data : Data) (dataFlags : DataFlags) (mrState : MessageReceiverState)
      (now : Int)
  | handleDatafragMsg (datafrag : DataFrag) (datafragFlags : DataFragFlags)
      (mrState : MessageReceiverState) (now : Int)
  | handleHeartbeatMsg (heartbeat : Heartbeat) (finalFlagSet : Bool)
      (mrState : MessageReceiverState)
  | handleGapMsg (gap : Gap) (mrState : MessageReceiverState)
  | handleHeartbeatfragMsg (heartbeatfrag : HeartbeatFrag) (mrState : MessageReceiverState)
  | handleTimedEvent (events : List TimedEvent) (now : Int)
  | sendPreemptiveAcknacks
  | removeChangesBefore (instant : Int)

/-- The writer an input is addressed to: the writer it matches or drops, or the writer of
its submessage. -/
def Input.writer? : Input → Option GUID
  | .updateWriterProxy g _ _ _ _ => some g
  | .removeWriterProxy g => some g
  | .handleDataMsg d _ mr _ => some (GUID.newWithPrefixAndId mr.sourceGuidPrefix d.writerId)
  | .handleDatafragMsg d _ mr _ => some (GUID.newWithPrefixAndId mr.sourceGuidPrefix d.writerId)
  | .handleHeartbeatMsg hb _ mr => some (GUID.newWithPrefixAndId mr.sourceGuidPrefix hb.writerId)
  | .handleGapMsg gap mr => some (GUID.newWithPrefixAndId mr.sourceGuidPrefix gap.writerId)
  | .handleHeartbeatfragMsg hbf mr =>
    some (GUID.newWithPrefixAndId mr.sourceGuidPrefix hbf.writerId)
  | _ => none

namespace Reader

variable (complianceFailureWrt : QosPolicies → QosPolicies → Option QosPolicyId)

/-- One operation of the Reader. Only `handle_heartbeat_msg` can panic. -/
def step (r : Reader) : Input → Except String (Reader × List Effect)
  | .updateWriterProxy g uc mc e q =>
    .ok (r.updateWriterProxy complianceFailureWrt (RtpsWriterProxy.new g uc mc e) q)
  | .removeWriterProxy g => .ok (r.removeWriterProxy g)
  | .participantLost p => .ok (r.participantLost p)
  | .handleDataMsg d f mr now => .ok (r.handleDataMsg d f mr now)
  | .handleDatafragMsg d f mr now => .ok (r.handleDatafragMsg d f mr now)
  | .handleHeartbeatMsg hb fin mr =>
    (r.handleHeartbeatMsg hb fin mr).map fun res => (res.1, res.2.1)
  | .handleGapMsg gap mr => .ok (r.handleGapMsg gap mr)
  | .handleHeartbeatfragMsg hbf mr => .ok (r.handleHeartbeatfragMsg hbf mr)
  | .handleTimedEvent evs now => .ok (r.handleTimedEvent now evs)
  | .sendPreemptiveAcknacks => .ok r.sendPreemptiveAcknacks
  | .removeChangesBefore instant =>
    .ok ({ r with topicCache := r.topicCache.removeChangesBefore instant }, [])

end Reader

/-- One step of a run. -/
structure StepRecord where
  pre : Reader
  input : Input
  effects : List Effect
  post : Reader

/-- `Run cfw r₀ L r`: the steps `L`, taken in order from `r₀`, end in `r`; none panicked. -/
inductive Run (complianceFailureWrt : QosPolicies → QosPolicies → Option QosPolicyId)
    (r₀ : Reader) : List StepRecord → Reader → Prop
  | nil : Run complianceFailureWrt r₀ [] r₀
  | snoc {L : List StepRecord} {r r' : Reader} {i : Input} {es : List Effect} :
      Run complianceFailureWrt r₀ L r → r.step complianceFailureWrt i = .ok (r', es) →
      Run complianceFailureWrt r₀ (L ++ [⟨r, i, es, r'⟩]) r'

namespace Run

variable {cfw : QosPolicies → QosPolicies → Option QosPolicyId} {r₀ r : Reader}
  {L : List StepRecord}

/-- Every recorded step is a step of the Reader. -/
theorem step_of_mem (h : Run cfw r₀ L r) {t : StepRecord} (ht : t ∈ L) :
    t.pre.step cfw t.input = .ok (t.post, t.effects) := by
  induction h with
  | nil => cases ht
  | snoc _ hs ih =>
    rcases List.mem_append.mp ht with ht | ht
    · exact ih ht
    · obtain rfl := List.mem_singleton.mp ht; exact hs

/-- A run of no step ends where it starts. -/
theorem eq_of_nil (h : Run cfw r₀ [] r) : r = r₀ := by
  generalize hL : ([] : List StepRecord) = L at h
  cases h with
  | nil => rfl
  | snoc _ _ => simp at hL

/-- The last step of a run, taken off. -/
theorem of_snoc {t : StepRecord} (h : Run cfw r₀ (L ++ [t]) r) :
    Run cfw r₀ L t.pre ∧ t.pre.step cfw t.input = .ok (t.post, t.effects) ∧ r = t.post := by
  generalize hL : L ++ [t] = L' at h
  cases h with
  | nil => simp at hL
  | snoc h hs =>
    obtain ⟨rfl, ht⟩ := List.append_inj' hL rfl
    simp only [List.cons.injEq, and_true] at ht
    subst ht
    exact ⟨h, hs, rfl⟩

theorem append {L₂ : List StepRecord} {r' : Reader} (h₁ : Run cfw r₀ L r)
    (h₂ : Run cfw r L₂ r') : Run cfw r₀ (L ++ L₂) r' := by
  induction h₂ with
  | nil => simpa using h₁
  | snoc _ hs ih => rw [← List.append_assoc]; exact ih.snoc hs

/-- A run splits at any point into two runs. -/
theorem split {L₁ L₂ : List StepRecord} (h : Run cfw r₀ (L₁ ++ L₂) r) :
    ∃ m, Run cfw r₀ L₁ m ∧ Run cfw m L₂ r := by
  induction L₂ using List.reverseRecOn generalizing r with
  | nil => exact ⟨r, by simpa using h, .nil⟩
  | append_singleton L₂ t ih =>
    rw [← List.append_assoc] at h
    obtain ⟨h', hs, rfl⟩ := of_snoc h
    obtain ⟨m, h₁, h₂⟩ := ih h'
    exact ⟨m, h₁, h₂.snoc hs⟩

/-- A run through a step: the run up to it, the step, and the run after it. -/
theorem of_mem (h : Run cfw r₀ L r) {t : StepRecord} (ht : t ∈ L) :
    ∃ L₁ L₂, L = L₁ ++ t :: L₂ ∧ Run cfw r₀ L₁ t.pre ∧
      t.pre.step cfw t.input = .ok (t.post, t.effects) ∧ Run cfw t.post L₂ r := by
  obtain ⟨L₁, L₂, rfl⟩ := List.append_of_mem ht
  obtain ⟨m, h₁, h₂⟩ := split (show Run cfw r₀ ((L₁ ++ [t]) ++ L₂) r by simpa using h)
  obtain ⟨h₀, hs, rfl⟩ := of_snoc h₁
  exact ⟨L₁, L₂, rfl, h₀, hs, h₂⟩

/-- What every step preserves holds at the end of every run. -/
theorem invariant {P : Reader → Prop}
    (hstep : ∀ r i r' es, P r → r.step cfw i = .ok (r', es) → P r') (h₀ : P r₀)
    (h : Run cfw r₀ L r) : P r := by
  induction h with
  | nil => exact h₀
  | snoc _ hs ih => exact hstep _ _ _ _ ih hs

/-- What every step preserves holds before and after every step of a run. -/
theorem invariant_mem {P : Reader → Prop}
    (hstep : ∀ r i r' es, P r → r.step cfw i = .ok (r', es) → P r') (h₀ : P r₀)
    (h : Run cfw r₀ L r) : ∀ t ∈ L, P t.pre ∧ P t.post := by
  induction h with
  | nil => intro t ht; cases ht
  | snoc h hs ih =>
    intro t ht
    rcases List.mem_append.mp ht with ht | ht
    · exact ih t ht
    · obtain rfl := List.mem_singleton.mp ht
      have := invariant hstep h₀ h
      exact ⟨this, hstep _ _ _ _ this hs⟩

end Run

/-! ### An example run

A stateful reliable Reader on a new topic matches one writer, then receives a DATA of it with
sequence number 1. The theorems about runs are instantiated on it. -/

/-- A QoS module that finds every offered QoS compatible. -/
def exampleCompliance : QosPolicies → QosPolicies → Option QosPolicyId := fun _ _ => none

/-- A reliable QoS. -/
def exampleQos : QosPolicies := { QosPolicies.default with reliability := some (.reliable 0) }

/-- A user-defined writer. -/
def exampleWriter : GUID := ⟨⟨1⟩, ⟨1, ⟨2⟩⟩⟩

/-- The ingredients of a stateful reliable Reader on a new topic. -/
def exampleIngredients : ReaderIngredients :=
  ⟨⟨⟨2⟩, ⟨1, ⟨7⟩⟩⟩, "topic", TopicCache.new "topic", false, exampleQos⟩

/-- The Reader `Reader::new` builds from `exampleIngredients` at time 0. -/
def exampleReader : Reader :=
  { likeStateless := false, reliability := .reliable 0, topicCache := TopicCache.new "topic",
    topicName := "topic", qosPolicy := exampleQos, myGuid := ⟨⟨2⟩, ⟨1, ⟨7⟩⟩⟩,
    fragmentAssemblers := ∅, lastFragmentGarbageCollect := 0, matchedWriters := ∅,
    writerMatchCountTotal := 0, requestedDeadlineMissedCount := 0,
    offeredIncompatibleQosCount := 0 }

theorem new_exampleIngredients : Reader.new exampleIngredients 0 = .ok exampleReader := rfl

/-- Discovery matches `exampleWriter`. -/
def exampleMatch : StepRecord :=
  let res := exampleReader.updateWriterProxy exampleCompliance
    (RtpsWriterProxy.new exampleWriter [] [] ⟨0, ⟨0⟩⟩) QosPolicies.default
  ⟨exampleReader, .updateWriterProxy exampleWriter [] [] ⟨0, ⟨0⟩⟩ QosPolicies.default, res.2, res.1⟩

/-- `exampleWriter` sends the DATA of its sample 1. -/
def exampleSample : StepRecord :=
  let data : Data := ⟨⟨0, ⟨0⟩⟩, exampleWriter.entityId, 1, none, some [0, 1, 0, 0, 5]⟩
  let mr : MessageReceiverState := ⟨exampleWriter.guidPrefix, [], [], none⟩
  let res := exampleMatch.post.handleDataMsg data ⟨true, false⟩ mr 10
  ⟨exampleMatch.post, .handleDataMsg data ⟨true, false⟩ mr 10, res.2, res.1⟩

theorem exampleRun :
    Run exampleCompliance exampleReader [exampleMatch, exampleSample] exampleSample.post :=
  (Run.snoc (Run.snoc Run.nil rfl) rfl :
    Run exampleCompliance exampleReader ([] ++ [exampleMatch] ++ [exampleSample]) _)

end RustDds
