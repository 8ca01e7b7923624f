import RustDds.Structure

/-!
# Submessages and status events

The RTPS submessages the Reader consumes (DATA, DATAFRAG, HEARTBEAT, GAP, HEARTBEATFRAG) and
emits (ACKNACK, NACKFRAG, each behind an INFO_DESTINATION), the message receiver state that
comes with each received submessage, and the status events the Reader reports to its
DataReader and to the participant.

Submessages are kept as the parsed records the Reader is handed, with the fields it reads.
Inline QoS is kept decoded: the three parameters the Reader asks for.
-/

namespace RustDds

/-- Modelled from the spec: the inline QoS parameters the Reader decodes with
`InlineQos::related_sample_identity`, `InlineQos::key_hash` and `InlineQos::status_info`
(inline_qos.rs is not in the source). Each is the decoded value, or `none` when the parameter
is absent; a decoding error behaves as an absent parameter, since the Reader logs it and goes
on with `None`. A status info is kept as the change kind it stands for. -/
structure ParameterList where
  relatedSampleIdentity : Option SampleIdentity
  keyHash : Option KeyHash
  statusInfo : Option ChangeKind
  deriving DecidableEq, Repr

/-- `Reader::deduce_change_kind`: the change kind a DATA without data stands for, from its
status info, else by default. -/
def deduceChangeKind (inlineQos : Option ParameterList) (noWriters : Bool) : ChangeKind :=
  match inlineQos.bind ParameterList.statusInfo with
  | some changeKind => changeKind
  | none => if noWriters then .notAliveUnregistered else .notAliveDisposed

/-- `Data`. The payload is the raw bytes, parsed by `SerializedPayload.fromBytes`. -/
structure Data where
  readerId : EntityId
  writerId : EntityId
  writerSn : Int
  inlineQos : Option ParameterList
  serializedPayload : Option (List UInt8)
  deriving DecidableEq, Repr

/-- The flags of a DATA submessage that decide what it carries. -/
structure DataFlags where
  data : Bool
  key : Bool
  deriving DecidableEq, Repr

/-- `DataFrag`: `fragments_in_submessage` fragments of `fragment_size` bytes, from fragment
`fragment_starting_num` on, of a sample of `data_size` bytes. -/
structure DataFrag where
  readerId : EntityId
  writerId : EntityId
  writerSn : Int
  fragmentStartingNum : Nat
  fragmentsInSubmessage : Nat
  dataSize : Nat
  fragmentSize : Nat
  inlineQos : Option ParameterList
  serializedPayload : List UInt8
  deriving DecidableEq, Repr

/-- The flag of a DATAFRAG submessage that decides what it carries. -/
structure DataFragFlags where
  key : Bool
  deriving DecidableEq, Repr

/-- `Heartbeat`. -/
structure Heartbeat where
  readerId : EntityId
  writerId : EntityId
  firstSn : Int
  lastSn : Int
  count : Int
  deriving DecidableEq, Repr

/-- `Gap`. -/
structure Gap where
  readerId : EntityId
  writerId : EntityId
  gapStart : Int
  gapList : SequenceNumberSet
  deriving DecidableEq, Repr

/-- `HeartbeatFrag`. -/
structure HeartbeatFrag where
  readerId : EntityId
  writerId : EntityId
  writerSn : Int
  lastFragmentNum : Nat
  count : Int
  deriving DecidableEq, Repr

/-- `AckNack`. -/
structure AckNack where
  readerId : EntityId
  writerId : EntityId
  readerSnState : SequenceNumberSet
  count : Int
  deriving DecidableEq, Repr

/-- `NackFrag`. -/
structure NackFrag where
  readerId : EntityId
  writerId : EntityId
  writerSn : Int
  fragmentNumberState : FragmentNumberSet
  count : Int
  deriving DecidableEq, Repr

/-- `InfoDestination`. -/
structure InfoDestination where
  guidPrefix : GuidPrefix
  deriving DecidableEq, Repr

/-- `MessageReceiverState`: what the message receiver knows about the message a submessage
came in. -/
structure MessageReceiverState where
  sourceGuidPrefix : GuidPrefix
  unicastReplyLocatorList : List Locator
  multicastReplyLocatorList : List Locator
  sourceTimestamp : Option Int
  deriving DecidableEq, Repr

/-! ### Status events -/

/-- Modelled from the spec: `CountWithChange` (statusevents.rs is not in the source), a count
and its change. `new` and `start_from` both build it from the two numbers. -/
structure CountWithChange where
  count : Int
  countChange : Int
  deriving DecidableEq, Repr

/-- `CountWithChange::new`. -/
def CountWithChange.new (count countChange : Int) : CountWithChange := ⟨count, countChange⟩

/-- `CountWithChange::start_from`. -/
def CountWithChange.startFrom (count countChange : Int) : CountWithChange :=
  ⟨count, countChange⟩

/-- `DataReaderStatus`, the variants the Reader sends. -/
inductive DataReaderStatus where
  | subscriptionMatched (total current : CountWithChange) (writer : GUID)
  | requestedIncompatibleQos (count : CountWithChange) (lastPolicyId : QosPolicyId)
      (writer : GUID) (requestedQos offeredQos : QosPolicies)
  | requestedDeadlineMissed (count : CountWithChange)
  deriving DecidableEq, Repr

/-- `DomainParticipantStatusEvent`, the variants the Reader sends. -/
inductive DomainParticipantStatusEvent where
  | remoteWriterMatched (localReader remoteWriter : GUID)
  | remoteWriterQosIncompatible (localReader remoteWriter : GUID)
      (requestedQos offeredQos : QosPolicies)
  deriving DecidableEq, Repr

/-- `TimedEvent`. -/
inductive TimedEvent where
  | deadlineMissedCheck
  deriving DecidableEq, Repr

end RustDds
