import RustDds.OrdMap
import Mathlib.Data.Prod.Lex

/-!
# Identifiers, numbers and cache changes

The data the Reader reads and stores, following `structure/` and the field types of
`reader.rs`: GUIDs and entity ids, sequence and fragment numbers, timestamps, locators, the
QoS policies the Reader consults, and the `CacheChange` it stores in the topic cache.

Numbers are `Int`s and `Nat`s: a `SequenceNumber` (`i64`) is an `Int`, a `FragmentNumber`
(`u32`) a `Nat`, and a `Timestamp` or a `Duration` an `Int` count of the `2⁻³²` s ticks of an
RTPS `Time_t`. Where the source does arithmetic on a fixed-width integer and the width
matters, the arithmetic goes through `wrapI32` or `wrapI64`: the Reader's `i32` counters are
incremented with `+=`, which wraps in a release build (a debug build panics at the same
point), and the ACKNACK window bound `first_missing + 256` is `SequenceNumber` arithmetic.

GUIDs are ordered as the source derives it, lexicographically on prefix, entity key and
entity kind, so that `OrdMap GUID _` iterates as the Reader's `BTreeMap`s do.
-/

namespace RustDds

/-! ### Machine integers -/

/-- The value an `i32` holds after Rust's wrapping arithmetic has produced `x`. -/
def wrapI32 (x : Int) : Int := (x + 2147483648) % 4294967296 - 2147483648

/-- The value an `i64` holds after Rust's wrapping arithmetic has produced `x`. -/
def wrapI64 (x : Int) : Int :=
  (x + 9223372036854775808) % 18446744073709551616 - 9223372036854775808

/-- In range, wrapping changes nothing. -/
theorem wrapI32_of_lt {x : Int} (h₀ : -2147483648 ≤ x) (h₁ : x < 2147483648) :
    wrapI32 x = x := by
  unfold wrapI32; omega

/-- A wrapped value is an `i32`. -/
theorem wrapI32_mem_range (x : Int) : -2147483648 ≤ wrapI32 x ∧ wrapI32 x < 2147483648 := by
  unfold wrapI32; omega

/-- Wrapping after each addition is wrapping once at the end. -/
theorem wrapI32_wrapI32_add (x y : Int) : wrapI32 (wrapI32 x + y) = wrapI32 (x + y) := by
  unfold wrapI32; omega

/-- A wrapped value wraps to itself. -/
theorem wrapI32_wrapI32 (x : Int) : wrapI32 (wrapI32 x) = wrapI32 x := by
  unfold wrapI32; omega

/-- `Duration::from_secs`, in ticks. -/
def Duration.fromSecs (s : Nat) : Int := s * 4294967296

/-! ### GUIDs -/

/-- `GuidPrefix`: the twelve bytes that name a participant, read as one big-endian number. -/
structure GuidPrefix where
  bytes : Nat
  deriving DecidableEq, Repr

/-- `EntityKind`: the kind byte of an entity id. -/
structure EntityKind where
  value : Nat
  deriving DecidableEq, Repr

/-- Modelled from the spec: `EntityKind::is_user_defined` (guid.rs is not in the source). The
spec separates user-defined writers from discovery (built-in) traffic; in the RTPS layout of
the kind byte its two high bits are `00` exactly for user-defined entities. -/
def EntityKind.isUserDefined (k : EntityKind) : Bool := k.value % 256 / 64 = 0

/-- `EntityId`: a three-byte entity key, read as a big-endian number, and a kind. -/
structure EntityId where
  entityKey : Nat
  entityKind : EntityKind
  deriving DecidableEq, Repr

/-- Modelled from the spec: `EntityId::SPDP_BUILTIN_PARTICIPANT_READER` (guid.rs is not in the
source), the reader of participant discovery: key `00 01 00`, kind `c7`. -/
def EntityId.spdpBuiltinParticipantReader : EntityId := ⟨0x000100, ⟨0xc7⟩⟩

/-- `GUID`: a participant prefix and an entity id. The Rust field `prefix` is `guidPrefix`
here, `prefix` being a Lean keyword. -/
structure GUID where
  guidPrefix : GuidPrefix
  entityId : EntityId
  deriving DecidableEq, Repr

/-- The derived order of `GUID`: prefix, then entity key, then entity kind. -/
def GUID.lexKey (g : GUID) : Lex (Nat × Lex (Nat × Nat)) :=
  toLex (g.guidPrefix.bytes, toLex (g.entityId.entityKey, g.entityId.entityKind.value))

theorem GUID.lexKey_injective : Function.Injective GUID.lexKey := by
  rintro ⟨⟨p⟩, ⟨k, ⟨e⟩⟩⟩ ⟨⟨p'⟩, ⟨k', ⟨e'⟩⟩⟩ h
  simp only [GUID.lexKey, toLex_inj, Prod.mk.injEq] at h
  obtain ⟨rfl, rfl, rfl⟩ := h
  rfl

instance : LinearOrder GUID := LinearOrder.lift' GUID.lexKey GUID.lexKey_injective

/-- `GUID::new_with_prefix_and_id`. -/
def GUID.newWithPrefixAndId (guidPrefix : GuidPrefix) (entityId : EntityId) : GUID :=
  ⟨guidPrefix, entityId⟩

/-! ### Locators and QoS -/

/-- `Locator`: where a reply can be sent. Only `Locator::Invalid` is told apart by the
Reader; the address kinds are kept as data. -/
inductive Locator where
  | invalid
  | udpV4 (address : Nat) (port : Nat)
  | udpV6 (address : Nat) (port : Nat)
  | other (kind : Int) (address : Nat) (port : Nat)
  deriving DecidableEq, Repr

/-- `policy::Reliability`. -/
inductive Reliability where
  | bestEffort
  | reliable (maxBlockingTime : Int)
  deriving DecidableEq, Repr

/-- `policy::ResourceLimits`. -/
structure ResourceLimits where
  maxSamples : Int
  maxInstances : Int
  maxSamplesPerInstance : Int
  deriving DecidableEq, Repr

/-- `QosPolicies`, with the policies the Reader and its topic cache read: reliability, the
deadline period, the lifespan duration and the resource limits. -/
structure QosPolicies where
  reliability : Option Reliability
  deadline : Option Int
  lifespan : Option Int
  resourceLimits : Option ResourceLimits
  deriving DecidableEq, Repr

/-- `QosPolicyBuilder::new().build()`: no policy set. -/
def QosPolicies.default : QosPolicies := ⟨none, none, none, none⟩

/-- `QosPolicies::is_reliable`. -/
def QosPolicies.isReliable (q : QosPolicies) : Bool :=
  match q.reliability with
  | some (.reliable _) => true
  | _ => false

/-- `QosPolicyId`: which policy an incompatibility is about. -/
structure QosPolicyId where
  value : Nat
  deriving DecidableEq, Repr

/-! ### Cache changes -/

/-- `ChangeKind`. -/
inductive ChangeKind where
  | alive
  | notAliveDisposed
  | notAliveUnregistered
  | notAliveDisposedUnregistered
  deriving DecidableEq, Repr

/-- `SerializedPayload`: the encapsulation header (representation identifier and options,
two bytes each) and the serialized value. -/
structure SerializedPayload where
  representationIdentifier : List UInt8
  representationOptions : List UInt8
  value : List UInt8
  deriving DecidableEq, Repr

/-- Modelled from the spec: `SerializedPayload::from_bytes` (serialized_payload.rs is not in
the source). The spec treats payloads as opaque; the bytes are read as the four header bytes
and the value, and bytes too short for the header do not parse. -/
def SerializedPayload.fromBytes : List UInt8 → Except String SerializedPayload
  | a :: b :: c :: d :: value => .ok ⟨[a, b], [c, d], value⟩
  | _ => .error "SerializedPayload: shorter than its encapsulation header"

/-- The bytes a payload was read from. -/
def SerializedPayload.toBytes (p : SerializedPayload) : List UInt8 :=
  p.representationIdentifier ++ p.representationOptions ++ p.value

theorem SerializedPayload.toBytes_of_fromBytes {bytes : List UInt8} {p : SerializedPayload}
    (h : SerializedPayload.fromBytes bytes = .ok p) : p.toBytes = bytes := by
  match bytes, h with
  | _ :: _ :: _ :: _ :: _, h => cases h; rfl

/-- `KeyHash`: sixteen bytes. -/
structure KeyHash where
  bytes : List UInt8
  deriving DecidableEq, Repr

/-- `DDSData`: a sample, a disposal by serialized key, or a disposal by key hash. -/
inductive DDSData where
  | data (serializedPayload : SerializedPayload)
  | disposeByKey (changeKind : ChangeKind) (key : SerializedPayload)
  | disposeByKeyHash (changeKind : ChangeKind) (keyHash : KeyHash)
  deriving DecidableEq, Repr

/-- `SampleIdentity`. -/
structure SampleIdentity where
  writerGuid : GUID
  sequenceNumber : Int
  deriving DecidableEq, Repr

/-- `WriteOptions`, as the Reader fills them in. -/
structure WriteOptions where
  relatedSampleIdentity : Option SampleIdentity
  sourceTimestamp : Option Int
  deriving DecidableEq, Repr

/-- `CacheChange`: what the topic cache stores for one received sample. -/
structure CacheChange where
  writerGuid : GUID
  sequenceNumber : Int
  writeOptions : WriteOptions
  dataValue : DDSData
  deriving DecidableEq, Repr

/-! ### Sequence and fragment number sets -/

/-- `SequenceNumberSet`: a base and the members, which on the wire lie in
`[base, base + 256)`. -/
structure SequenceNumberSet where
  base : Int
  set : List Int
  deriving DecidableEq, Repr

/-- `SequenceNumberSet::new_empty`. -/
def SequenceNumberSet.newEmpty (base : Int) : SequenceNumberSet := ⟨base, []⟩

/-- Modelled from the spec: `SequenceNumberSet::from_base_and_set` (sequence_number.rs is not
in the source). The set is a 256-bit bitmap over `[base, base + 256)`; members outside it are
not represented. -/
def SequenceNumberSet.fromBaseAndSet (base : Int) (set : List Int) :
    SequenceNumberSet :=
  ⟨base, set.filter fun s => base ≤ s ∧ s < base + 256⟩

/-- `FragmentNumberSet`: a base and the members, within `[base, base + 256)` on the wire. -/
structure FragmentNumberSet where
  base : Nat
  set : List Nat
  deriving DecidableEq, Repr

/-- Modelled from the spec: `FragmentNumberSet::from_base_and_set`, like
`SequenceNumberSet.fromBaseAndSet`. -/
def FragmentNumberSet.fromBaseAndSet (base : Nat) (set : List Nat) :
    FragmentNumberSet :=
  ⟨base, set.filter fun s => base ≤ s ∧ s < base + 256⟩

end RustDds
