import RustDds.Messages
import Mathlib.Order.Interval.Finset.Nat

/-!
# The fragment assembler

Modelled from the spec: `FragmentAssembler` and `AssemblyBuffer`
(`rtps/fragment_assembler.rs` is not in the source; `reader.rs` creates one assembler per
writer with `FragmentAssembler::new(frag_size)` and calls `new_datafrag`,
`missing_frags_for`, `is_partially_received` and `garbage_collect_before`).

Following the spec's §4.1, an assembler keeps one assembly buffer per sequence number being
reassembled. The first fragment of a sequence number allocates a zeroed buffer of the
sample's size, expecting `⌈sample_size / fragment_size⌉` fragments. Each DATAFRAG copies its
payload to offset `(fragment_starting_num − 1) × fragment_size` and records the fragments it
carries; fragments past the expected count are not recorded, and bytes past the end of the
buffer are not written. When every fragment is recorded the buffer is dropped and its bytes
are handed on, once: later fragments of that sequence number are ignored. A fragment whose
size differs from the buffer's is a protocol error and is discarded, and so is a DATAFRAG
with fragment size 0 or fragment number 0, which the spec's arithmetic cannot place.
-/

namespace RustDds

/-- Modelled from the spec: `AssemblyBuffer`, the reassembly of one sample. `receivedFrags`
holds the 0-based indices of the fragments received. -/
structure AssemblyBuffer where
  sampleSize : Nat
  fragmentSize : Nat
  receivedFrags : Finset Nat
  bufferBytes : List UInt8
  modifiedTime : Int
  deriving DecidableEq

namespace AssemblyBuffer

/-- The number of fragments of the sample, `⌈sample_size / fragment_size⌉`. -/
def expectedFragmentCount (b : AssemblyBuffer) : Nat :=
  (b.sampleSize + b.fragmentSize - 1) / b.fragmentSize

/-- `AssemblyBuffer::new`: a zeroed buffer of the sample's size, nothing received. -/
def new (datafrag : DataFrag) (now : Int) : AssemblyBuffer :=
  ⟨datafrag.dataSize, datafrag.fragmentSize, ∅, List.replicate datafrag.dataSize 0, now⟩

/-- `buf` with `payload` written from byte `offset` on, within the length of `buf`. -/
def writeAt (buf : List UInt8) (offset : Nat) (payload : List UInt8) : List UInt8 :=
  (List.range buf.length).map fun i =>
    if offset ≤ i ∧ i - offset < payload.length then payload.getD (i - offset) 0
    else buf.getD i 0

/-- `insert_frags`: copy the payload to offset `(fragment_starting_num − 1) × fragment_size`
and record the fragments it carries that the sample has. -/
def insertFrags (b : AssemblyBuffer) (datafrag : DataFrag) (now : Int) : AssemblyBuffer :=
  let start := datafrag.fragmentStartingNum - 1
  { b with
    bufferBytes := writeAt b.bufferBytes (start * b.fragmentSize) datafrag.serializedPayload
    receivedFrags := b.receivedFrags ∪
      (Finset.Ico start (start + datafrag.fragmentsInSubmessage)).filter
        (· < b.expectedFragmentCount)
    modifiedTime := now }

/-- Every fragment of the sample has been received. -/
def isComplete (b : AssemblyBuffer) : Bool :=
  (List.range b.expectedFragmentCount).all (· ∈ b.receivedFrags)

/-- The fragment numbers (1-based) not yet received, in increasing order. -/
def missingFrags (b : AssemblyBuffer) : List Nat :=
  ((List.range b.expectedFragmentCount).filter (· ∉ b.receivedFrags)).map (· + 1)

end AssemblyBuffer

/-- Modelled from the spec: `FragmentAssembler`, the reassembly of one writer's samples.
`fragmentSize` is the size the Reader created it with; `completedSeqnums` the sequence
numbers already handed on. -/
structure FragmentAssembler where
  fragmentSize : Nat
  assemblyBuffers : OrdMap Int AssemblyBuffer
  completedSeqnums : Finset Int

namespace FragmentAssembler

/-- `FragmentAssembler::new`. -/
def new (fragmentSize : Nat) : FragmentAssembler := ⟨fragmentSize, ∅, ∅⟩

/-- The sample that completed bytes make, read as the DATA path reads a payload: a disposal
by key when the key flag is set, a sample otherwise. Bytes that do not parse give nothing. -/
def completedData (flags : DataFragFlags) (inlineQos : Option ParameterList)
    (bytes : List UInt8) : Option DDSData :=
  match SerializedPayload.fromBytes bytes with
  | .ok payload =>
    some (if flags.key then .disposeByKey (deduceChangeKind inlineQos false) payload
      else .data payload)
  | .error _ => none

/-- `new_datafrag`: feed one DATAFRAG; the completed sample, if this fragment completes
one. -/
def newDatafrag (fa : FragmentAssembler) (datafrag : DataFrag) (flags : DataFragFlags)
    (now : Int) : FragmentAssembler × Option DDSData :=
  let sn := datafrag.writerSn
  if datafrag.fragmentSize = 0 ∨ datafrag.fragmentStartingNum = 0 ∨ sn ∈ fa.completedSeqnums then
    (fa, none)
  else
    let abuf := (fa.assemblyBuffers.find? sn).getD (AssemblyBuffer.new datafrag now)
    if datafrag.fragmentSize ≠ abuf.fragmentSize then (fa, none)
    else
      let abuf := abuf.insertFrags datafrag now
      if abuf.isComplete then
        ({ fa with assemblyBuffers := fa.assemblyBuffers.erase sn,
                   completedSeqnums := insert sn fa.completedSeqnums },
          completedData flags datafrag.inlineQos abuf.bufferBytes)
      else ({ fa with assemblyBuffers := fa.assemblyBuffers.insert sn abuf }, none)

/-- `missing_frags_for`: the fragments of `seq` not yet received; none for a sequence number
not being assembled. -/
def missingFragsFor (fa : FragmentAssembler) (seq : Int) : List Nat :=
  match fa.assemblyBuffers.find? seq with
  | some b => b.missingFrags
  | none => []

/-- `is_partially_received`: some but not all fragments of `seq` have arrived. -/
def isPartiallyReceived (fa : FragmentAssembler) (seq : Int) : Bool :=
  match fa.assemblyBuffers.find? seq with
  | some b => b.receivedFrags.Nonempty ∧ !b.isComplete
  | none => false

/-- A sample some but not all of whose fragments have arrived misses a fragment: the reply to a
HEARTBEAT has a NACKFRAG for every sequence number it leaves out of its ACKNACK. -/
theorem missingFragsFor_ne_nil {fa : FragmentAssembler} {seq : Int}
    (h : fa.isPartiallyReceived seq = true) : fa.missingFragsFor seq ≠ [] := by
  unfold isPartiallyReceived at h
  unfold missingFragsFor
  split at h
  · rename_i b hb
    simp only [hb, AssemblyBuffer.missingFrags, ne_eq, List.map_eq_nil_iff,
      List.filter_eq_nil_iff]
    simp only [AssemblyBuffer.isComplete, decide_eq_true_eq, Bool.not_eq_true', List.all_eq_false,
      List.mem_range] at h
    obtain ⟨i, hi, hni⟩ := h.2
    exact fun h' => by simpa [hni] using h' i (List.mem_range.mpr hi)
  · cases h

/-- `garbage_collect_before`: drop the buffers last updated before `expireBefore`. -/
def garbageCollectBefore (fa : FragmentAssembler) (expireBefore : Int) : FragmentAssembler :=
  { fa with assemblyBuffers := fa.assemblyBuffers.filter fun _ b => expireBefore ≤ b.modifiedTime }

end FragmentAssembler

end RustDds
