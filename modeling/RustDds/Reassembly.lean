import RustDds.Assemblers
import Mathlib.Data.List.GetD

/-!
# Reassembled samples are the samples sent

A writer sends a sample too large for one submessage as DATAFRAGs: the sample is cut in
fragments of a fixed size, and a DATAFRAG carries some consecutive fragments, the sample's bytes
from offset `(fragment_starting_num − 1) × fragment_size` on. The network may lose, reorder and
duplicate DATAFRAGs, and mixes those of many writers and samples. The Reader keeps one fragment
assembler per writer and, in it, one assembly buffer per sequence number, so a fragment can only
reach the buffer of its own writer and sample; a fragment copies its bytes to its own offset, so
a duplicate writes what is already there.

`SampleSource` says what each writer sends: the bytes of each of its samples and the fragment
size it cuts that sample with (the samples of one writer may use different sizes). Over it:

* `AssemblyBuffer.Holds` — a buffer holds its sample's size, fragment size and length, and in
  every fragment it has received, the sample's bytes; `Holds.insertFrags` shows that copying a
  DATAFRAG cut from the sample keeps that, and `Holds.bufferBytes_eq` that a complete buffer
  is the sample;
* `FragmentAssembler.Holds.newDatafrag` and `Reader.step_assemblersHold` — feeding a DATAFRAG,
  the fragment GC and every other step keep every buffer of every writer holding its sample;
* `reassembled_samples_are_original` — in every run from `Reader::new` in which each DATAFRAG
  is cut from its writer's sample, every sample `handle_datafrag_msg` completes and hands to
  `process_received_data` is the sample sent.
-/

namespace RustDds

/-- What the writers send: the bytes of sample `s` of writer `g`, and the fragment size its
DATAFRAGs declare. -/
structure SampleSource where
  bytes : GUID → Int → List UInt8
  fragmentSize : GUID → Int → Nat

/-- A DATAFRAG of writer `g` is cut from its sample: it declares the sample's size and fragment
size, and carries the sample's bytes from the offset of its first fragment on, as many
fragments as it says (fewer bytes at the end of the sample). -/
def SampleSource.Cuts (src : SampleSource) (g : GUID) (d : DataFrag) : Prop :=
  d.dataSize = (src.bytes g d.writerSn).length ∧
    d.fragmentSize = src.fragmentSize g d.writerSn ∧
    d.serializedPayload = ((src.bytes g d.writerSn).drop
      ((d.fragmentStartingNum - 1) * d.fragmentSize)).take
        (d.fragmentsInSubmessage * d.fragmentSize)

namespace AssemblyBuffer

/-! ### The buffer -/

theorem length_writeAt (buf : List UInt8) (offset : Nat) (payload : List UInt8) :
    (writeAt buf offset payload).length = buf.length := by
  simp [writeAt]

theorem getD_writeAt (buf : List UInt8) (offset : Nat) (payload : List UInt8) (i : Nat) :
    (writeAt buf offset payload).getD i 0 =
      if i < buf.length ∧ offset ≤ i ∧ i - offset < payload.length then
        payload.getD (i - offset) 0
      else buf.getD i 0 := by
  by_cases hi : i < buf.length
  · simp [writeAt, hi, List.getD_eq_getElem?_getD]
  · have h₁ : (List.range buf.length)[i]? = none := List.getElem?_eq_none (by simpa using hi)
    simp [writeAt, List.getD_eq_getElem?_getD, h₁, hi, List.getElem?_eq_none (not_lt.mp hi)]

/-- A byte of a cut fragment is the sample's byte at its place. -/
theorem getD_take_drop (l : List UInt8) (a b j : Nat) (hj : j < b) :
    ((l.drop a).take b).getD j 0 = l.getD (a + j) 0 := by
  simp [hj, List.getD_eq_getElem?_getD, List.getElem?_take]

/-- **An assembly buffer holds sample `bytes` cut in fragments of size `fs`**: its size, its
fragment size and its length are the sample's, and every byte of every fragment it has
received is the sample's. -/
structure Holds (b : AssemblyBuffer) (bytes : List UInt8) (fs : Nat) : Prop where
  sampleSize_eq : b.sampleSize = bytes.length
  fragmentSize_eq : b.fragmentSize = fs
  length_eq : b.bufferBytes.length = bytes.length
  getD_eq : ∀ i, i / fs ∈ b.receivedFrags → b.bufferBytes.getD i 0 = bytes.getD i 0

/-- A new buffer, nothing received yet, holds the sample of the DATAFRAG that creates it. -/
theorem holds_new {src : SampleSource} {g : GUID} {d : DataFrag} (hd : src.Cuts g d)
    (now : Int) :
    (AssemblyBuffer.new d now).Holds (src.bytes g d.writerSn) (src.fragmentSize g d.writerSn) :=
  ⟨hd.1, hd.2.1, by simp [AssemblyBuffer.new, hd.1], fun _ h => by simp [AssemblyBuffer.new] at h⟩

variable {b : AssemblyBuffer} {bytes : List UInt8} {fs : Nat}

/-- **Copying a DATAFRAG cut from the sample** keeps the buffer holding it: a byte the DATAFRAG
writes is the sample's, and every fragment it records lies, within the sample, among the bytes
it writes. -/
theorem Holds.insertFrags (hb : b.Holds bytes fs) (hfs : 0 < fs) {d : DataFrag}
    (hp : d.serializedPayload = (bytes.drop ((d.fragmentStartingNum - 1) * fs)).take
      (d.fragmentsInSubmessage * fs)) (now : Int) :
    (b.insertFrags d now).Holds bytes fs := by
  refine ⟨hb.sampleSize_eq, hb.fragmentSize_eq, by simp [AssemblyBuffer.insertFrags,
    length_writeAt, hb.length_eq], fun i hi => ?_⟩
  simp only [AssemblyBuffer.insertFrags, hb.fragmentSize_eq] at hi ⊢
  rw [getD_writeAt, hp, hb.length_eq]
  have hlen := List.length_take (d.fragmentsInSubmessage * fs)
    (bytes.drop ((d.fragmentStartingNum - 1) * fs))
  rw [List.length_drop] at hlen
  split_ifs with hw
  · rw [getD_take_drop _ _ _ _ (by omega), Nat.add_sub_cancel' hw.2.1]
  · rcases Finset.mem_union.mp hi with hi | hi
    · exact hb.getD_eq i hi
    obtain ⟨hi, -⟩ := Finset.mem_filter.mp hi
    obtain ⟨h₁, h₂⟩ := Finset.mem_Ico.mp hi
    rw [Nat.le_div_iff_mul_le hfs] at h₁
    rw [Nat.div_lt_iff_lt_mul hfs, Nat.add_mul] at h₂
    have hout : bytes.length ≤ i := by
      by_contra hin
      exact hw ⟨by omega, h₁, by omega⟩
    rw [List.getD_eq_default _ _ (hb.length_eq ▸ hout), List.getD_eq_default _ _ hout]

/-- **A complete buffer is the sample.** -/
theorem Holds.bufferBytes_eq (hb : b.Holds bytes fs) (hfs : 0 < fs) (hc : b.isComplete = true) :
    b.bufferBytes = bytes := by
  refine List.ext_getElem hb.length_eq fun i h₁ h₂ => ?_
  have hrecv : i / fs ∈ b.receivedFrags := by
    simp only [isComplete, List.all_eq_true, List.mem_range, decide_eq_true_eq] at hc
    apply hc
    rw [expectedFragmentCount, hb.sampleSize_eq, hb.fragmentSize_eq, Nat.div_lt_iff_lt_mul hfs]
    have := Nat.lt_div_mul_add (a := bytes.length + fs - 1) hfs
    omega
  have := hb.getD_eq i hrecv
  rwa [List.getD_eq_getElem _ _ h₁, List.getD_eq_getElem _ _ h₂] at this

end AssemblyBuffer

/-! ### The assembler of one writer -/

namespace FragmentAssembler

/-- Every buffer of writer `g`'s assembler holds its sample. -/
def Holds (fa : FragmentAssembler) (src : SampleSource) (g : GUID) : Prop :=
  ∀ s b, fa.assemblyBuffers.find? s = some b → b.Holds (src.bytes g s) (src.fragmentSize g s)

variable {fa : FragmentAssembler} {src : SampleSource} {g : GUID}

theorem holds_new (fs : Nat) : (FragmentAssembler.new fs).Holds src g :=
  fun _ _ h => by simp [FragmentAssembler.new] at h

/-- **Feeding a DATAFRAG cut from its sample** keeps the assembler's buffers holding their
samples, and a sample it completes is the sample's bytes, read as a DATA's payload is. -/
theorem Holds.newDatafrag (hfa : fa.Holds src g) {d : DataFrag} (hd : src.Cuts g d)
    (f : DataFragFlags) (now : Int) :
    (fa.newDatafrag d f now).1.Holds src g ∧
      ∀ dd, (fa.newDatafrag d f now).2 = some dd →
        completedData f d.inlineQos (src.bytes g d.writerSn) = some dd := by
  have hbuf : ((fa.assemblyBuffers.find? d.writerSn).getD (AssemblyBuffer.new d now)).Holds
      (src.bytes g d.writerSn) (src.fragmentSize g d.writerSn) := by
    cases h : fa.assemblyBuffers.find? d.writerSn with
    | none => exact AssemblyBuffer.holds_new hd now
    | some b => exact hfa _ _ h
  unfold FragmentAssembler.newDatafrag
  dsimp only
  split_ifs with h₀ h₁ h₂
  · exact ⟨hfa, fun _ h => nomatch h⟩
  · exact ⟨hfa, fun _ h => nomatch h⟩
  all_goals
    have hfs : 0 < src.fragmentSize g d.writerSn := by rw [← hd.2.1]; omega
    have hb := hbuf.insertFrags hfs (by rw [hd.2.2, hd.2.1]) now
  · refine ⟨fun s b hs => ?_, fun dd h => ?_⟩
    · rw [OrdMap.find?_erase] at hs
      split_ifs at hs
      exact hfa s b hs
    · rw [← hb.bufferBytes_eq hfs h₂]; exact h
  · refine ⟨fun s b hs => ?_, fun _ h => nomatch h⟩
    rw [OrdMap.find?_insert] at hs
    split_ifs at hs with hs'
    · subst hs'; cases hs; exact hb
    · exact hfa s b hs

theorem Holds.garbageCollectBefore (hfa : fa.Holds src g) (expireBefore : Int) :
    (fa.garbageCollectBefore expireBefore).Holds src g := by
  intro s b hs
  simp only [FragmentAssembler.garbageCollectBefore, OrdMap.find?_filter] at hs
  exact hfa s b (Option.filter_eq_some.mp hs).1

end FragmentAssembler

/-! ### The Reader -/

namespace Reader

/-- Every buffer of every writer's assembler holds its sample. -/
def AssemblersHold (r : Reader) (src : SampleSource) : Prop :=
  ∀ g fa, r.fragmentAssemblers.find? g = some fa → fa.Holds src g

/-- The sample `handle_datafrag_msg` completes and hands to `process_received_data`: the one
its writer's assembler completes, if the DATAFRAG passes the lifespan check. -/
def datafragCompletes (r : Reader) (d : DataFrag) (f : DataFragFlags) (mr : MessageReceiverState)
    (now : Int) : Option DDSData :=
  if r.lifespanExceeded mr now then none
  else (r.feedDatafrag (GUID.newWithPrefixAndId mr.sourceGuidPrefix d.writerId) d f now).2

variable {r : Reader} {src : SampleSource}

/-- `handle_datafrag_msg`, with the fed assembler named once. -/
theorem handleDatafragMsg_eq (d : DataFrag) (f : DataFragFlags) (mr : MessageReceiverState)
    (now : Int) :
    let g := GUID.newWithPrefixAndId mr.sourceGuidPrefix d.writerId
    let fed := r.feedDatafrag g d f now
    r.handleDatafragMsg d f mr now =
      if r.lifespanExceeded mr now then (r, [])
      else match fed.2 with
        | some dd => fed.1.processReceivedData dd now (writeOptionsOf mr d.inlineQos) g d.writerSn
        | none => (fed.1.garbageCollectFragments now, []) :=
  rfl

/-- `handle_datafrag_msg` hands the sample it completes to `process_received_data`. -/
theorem handleDatafragMsg_of_datafragCompletes {d : DataFrag} {f : DataFragFlags}
    {mr : MessageReceiverState} {now : Int} {dd : DDSData}
    (h : r.datafragCompletes d f mr now = some dd) :
    let g := GUID.newWithPrefixAndId mr.sourceGuidPrefix d.writerId
    r.handleDatafragMsg d f mr now =
      (r.feedDatafrag g d f now).1.processReceivedData dd now (writeOptionsOf mr d.inlineQos) g
        d.writerSn := by
  unfold datafragCompletes at h
  split_ifs at h with hl
  rw [handleDatafragMsg_eq, if_neg hl]
  simp only [h]

theorem feedDatafrag_assemblersHold (hr : r.AssemblersHold src) {g : GUID} {d : DataFrag}
    (hd : src.Cuts g d) (f : DataFragFlags) (now : Int) :
    (r.feedDatafrag g d f now).1.AssemblersHold src ∧
      ∀ dd, (r.feedDatafrag g d f now).2 = some dd →
        FragmentAssembler.completedData f d.inlineQos (src.bytes g d.writerSn) = some dd := by
  have hfa : ((r.fragmentAssemblers.find? g).getD
      (FragmentAssembler.new d.fragmentSize)).Holds src g := by
    cases h : r.fragmentAssemblers.find? g with
    | none => exact FragmentAssembler.holds_new _
    | some fa => exact hr _ _ h
  obtain ⟨hfa', hdd⟩ := hfa.newDatafrag hd f now
  refine ⟨fun k fa hk => ?_, hdd⟩
  simp only [feedDatafrag, OrdMap.find?_insert] at hk
  split_ifs at hk with hgk
  · subst hgk; cases hk; exact hfa'
  · exact hr k fa hk

theorem garbageCollectFragments_assemblersHold (hr : r.AssemblersHold src) (now : Int) :
    (r.garbageCollectFragments now).AssemblersHold src := by
  unfold garbageCollectFragments
  split
  · intro g fa hfa
    simp only [OrdMap.find?_mapVal, Option.map_eq_some'] at hfa
    obtain ⟨fa₀, h₀, rfl⟩ := hfa
    exact (hr g fa₀ h₀).garbageCollectBefore _
  · exact hr

/-- **The sample a DATAFRAG completes is its sample**, when it is cut from it. -/
theorem datafragCompletes_eq (hr : r.AssemblersHold src) {d : DataFrag} {f : DataFragFlags}
    {mr : MessageReceiverState} {now : Int} {dd : DDSData}
    (hd : src.Cuts (GUID.newWithPrefixAndId mr.sourceGuidPrefix d.writerId) d)
    (h : r.datafragCompletes d f mr now = some dd) :
    FragmentAssembler.completedData f d.inlineQos
      (src.bytes (GUID.newWithPrefixAndId mr.sourceGuidPrefix d.writerId) d.writerSn) = some dd := by
  unfold datafragCompletes at h
  split_ifs at h
  exact (feedDatafrag_assemblersHold hr hd f now).2 dd h

variable {cfw : QosPolicies → QosPolicies → Option QosPolicyId} {r' : Reader} {i : Input}
  {es : List Effect}

/-- **Every step keeps every buffer holding its sample**, if a DATAFRAG it handles is cut from
its writer's sample. -/
theorem step_assemblersHold (h : r.step cfw i = .ok (r', es)) (hr : r.AssemblersHold src)
    (hcut : ∀ d f mr now, i = .handleDatafragMsg d f mr now →
      src.Cuts (GUID.newWithPrefixAndId mr.sourceGuidPrefix d.writerId) d) :
    r'.AssemblersHold src := by
  cases i
  case handleDatafragMsg d f mr now =>
    simp only [step, Except.ok.injEq] at h
    obtain ⟨rfl, -⟩ := Prod.ext_iff.mp h.symm
    have hfeed := feedDatafrag_assemblersHold hr (hcut d f mr now rfl) f now
    rw [handleDatafragMsg_eq]
    split_ifs
    · exact hr
    · split
      · intro g fa hfa
        rw [processReceivedData_fragmentAssemblers] at hfa
        exact hfeed.1 g fa hfa
      · exact garbageCollectFragments_assemblersHold hfeed.1 now
  all_goals
    intro g fa hfa
    rw [step_fragmentAssemblers h (fun _ _ _ _ => nofun)] at hfa
    exact hr g fa hfa

end Reader

/-- What every step keeps holds along a run whose DATAFRAGs are cut from their samples. -/
theorem Run.assemblersHold {cfw : QosPolicies → QosPolicies → Option QosPolicyId}
    {src : SampleSource} {r₀ r : Reader} {L : List StepRecord} (hrun : Run cfw r₀ L r)
    (h₀ : r₀.AssemblersHold src)
    (hcut : ∀ t ∈ L, ∀ d f mr now, t.input = .handleDatafragMsg d f mr now →
      src.Cuts (GUID.newWithPrefixAndId mr.sourceGuidPrefix d.writerId) d) :
    r.AssemblersHold src := by
  induction hrun with
  | nil => exact h₀
  | snoc _ hs ih =>
    refine Reader.step_assemblersHold hs (ih fun t ht => hcut t (List.mem_append_left _ ht))
      fun d f mr now hi => hcut _ (List.mem_append_right _ (List.mem_singleton_self _)) d f mr now hi

/-- **Reassembled samples are the samples sent.** In every run from `Reader::new` whose
DATAFRAGs, of any writers and samples, in any order and with any duplicates, are cut from their
writers' samples, every assembly buffer holds its own sample, and every sample
`handle_datafrag_msg` completes and hands to `process_received_data` is the sample sent, read as
a DATA's payload is. -/
theorem reassembled_samples_are_original {cfw : QosPolicies → QosPolicies → Option QosPolicyId}
    (src : SampleSource) {ingredients : ReaderIngredients} {now : Int} {r₀ r : Reader}
    {L : List StepRecord} (hnew : Reader.new ingredients now = .ok r₀) (hrun : Run cfw r₀ L r)
    (hcut : ∀ t ∈ L, ∀ d f mr now, t.input = .handleDatafragMsg d f mr now →
      src.Cuts (GUID.newWithPrefixAndId mr.sourceGuidPrefix d.writerId) d) :
    r.AssemblersHold src ∧
      ∀ t ∈ L, ∀ d f mr now dd, t.input = .handleDatafragMsg d f mr now →
        t.pre.datafragCompletes d f mr now = some dd →
        FragmentAssembler.completedData f d.inlineQos
            (src.bytes (GUID.newWithPrefixAndId mr.sourceGuidPrefix d.writerId) d.writerSn) =
          some dd ∧
          (t.post, t.effects) =
            (t.pre.feedDatafrag (GUID.newWithPrefixAndId mr.sourceGuidPrefix d.writerId) d f
              now).1.processReceivedData dd now (Reader.writeOptionsOf mr d.inlineQos)
              (GUID.newWithPrefixAndId mr.sourceGuidPrefix d.writerId) d.writerSn := by
  obtain ⟨-, -, -, -, -, -, -, hfa, -⟩ := Reader.new_eq_ok hnew
  have h₀ : r₀.AssemblersHold src := fun g fa h => by simp [hfa] at h
  refine ⟨hrun.assemblersHold h₀ hcut, fun t ht d f mr now dd hi hc => ?_⟩
  obtain ⟨L₁, L₂, rfl, h₁, hs, -⟩ := hrun.of_mem ht
  have hpre := h₁.assemblersHold h₀ fun t' ht' => hcut t' (by simp [ht'])
  rw [hi] at hs
  simp only [Reader.step, Except.ok.injEq] at hs
  exact ⟨Reader.datafragCompletes_eq hpre (hcut t ht d f mr now hi) hc,
    hs.symm.trans (Reader.handleDatafragMsg_of_datafragCompletes hc)⟩

/-! ### An example run

After the example match, `exampleWriter` sends its 5-byte sample 3 in 2-byte fragments: the
third fragment first, then the first one twice, then the second one, which completes it. -/

/-- The example writer sends the same 5 bytes as every sample, in 2-byte fragments. -/
def exampleSampleSource : SampleSource := ⟨fun _ _ => [0, 1, 0, 0, 5], fun _ _ => 2⟩

/-- The DATAFRAG carrying fragment `k` of sample 3. -/
def exampleFragmentOf (k : Nat) : DataFrag :=
  ⟨⟨0, ⟨0⟩⟩, exampleWriter.entityId, 3, k, 1, 5, 2, none,
    ((([0, 1, 0, 0, 5] : List UInt8).drop ((k - 1) * 2)).take 2)⟩

/-- The step handling the DATAFRAG of fragment `k` from `pre`. -/
def exampleFragmentStep (k : Nat) (pre : Reader) : StepRecord :=
  let mr : MessageReceiverState := ⟨exampleWriter.guidPrefix, [], [], none⟩
  let res := pre.handleDatafragMsg (exampleFragmentOf k) ⟨false⟩ mr 20
  ⟨pre, .handleDatafragMsg (exampleFragmentOf k) ⟨false⟩ mr 20, res.2, res.1⟩

def exampleReassemblySteps : List StepRecord :=
  let s₃ := exampleFragmentStep 3 exampleMatch.post
  let s₁ := exampleFragmentStep 1 s₃.post
  let s₁' := exampleFragmentStep 1 s₁.post
  [exampleMatch, s₃, s₁, s₁', exampleFragmentStep 2 s₁'.post]

/-- The Reader after the example fragments. -/
def exampleReassembled : Reader :=
  (exampleFragmentStep 2 (exampleFragmentStep 1 (exampleFragmentStep 1
    (exampleFragmentStep 3 exampleMatch.post).post).post).post).post

theorem exampleReassemblyRun :
    Run exampleCompliance exampleReader exampleReassemblySteps exampleReassembled :=
  (Run.snoc (Run.snoc (Run.snoc (Run.snoc (Run.snoc Run.nil rfl) rfl) rfl) rfl) rfl :
    Run exampleCompliance exampleReader ([] ++ [exampleMatch] ++
      [exampleFragmentStep 3 exampleMatch.post] ++
      [exampleFragmentStep 1 (exampleFragmentStep 3 exampleMatch.post).post] ++
      [exampleFragmentStep 1 (exampleFragmentStep 1 (exampleFragmentStep 3
        exampleMatch.post).post).post] ++
      [exampleFragmentStep 2 (exampleFragmentStep 1 (exampleFragmentStep 1
        (exampleFragmentStep 3 exampleMatch.post).post).post).post]) _)

/-- The last fragment completes the sample. -/
example : (exampleFragmentStep 1 (exampleFragmentStep 1 (exampleFragmentStep 3
    exampleMatch.post).post).post).post.datafragCompletes (exampleFragmentOf 2) ⟨false⟩
    ⟨exampleWriter.guidPrefix, [], [], none⟩ 20 =
      FragmentAssembler.completedData ⟨false⟩ none [0, 1, 0, 0, 5] := by
  decide

theorem example_reassembled_samples_are_original :
    exampleReassembled.AssemblersHold exampleSampleSource ∧
      ∀ t ∈ exampleReassemblySteps, ∀ d f mr now dd, t.input = .handleDatafragMsg d f mr now →
        t.pre.datafragCompletes d f mr now = some dd →
        FragmentAssembler.completedData f d.inlineQos
            (exampleSampleSource.bytes (GUID.newWithPrefixAndId mr.sourceGuidPrefix d.writerId)
              d.writerSn) = some dd ∧
          (t.post, t.effects) =
            (t.pre.feedDatafrag (GUID.newWithPrefixAndId mr.sourceGuidPrefix d.writerId) d f
              now).1.processReceivedData dd now (Reader.writeOptionsOf mr d.inlineQos)
              (GUID.newWithPrefixAndId mr.sourceGuidPrefix d.writerId) d.writerSn :=
  reassembled_samples_are_original exampleSampleSource new_exampleIngredients exampleReassemblyRun
    fun t ht d f mr now hi => by
      simp only [exampleReassemblySteps, List.mem_cons, List.mem_singleton, List.not_mem_nil,
        or_false] at ht
      rcases ht with rfl | rfl | rfl | rfl | rfl <;>
        simp only [exampleMatch, exampleFragmentStep, Input.handleDatafragMsg.injEq,
          reduceCtorEq] at hi <;>
        obtain ⟨rfl, -, -, -⟩ := hi <;> exact ⟨rfl, rfl, rfl⟩

end RustDds
