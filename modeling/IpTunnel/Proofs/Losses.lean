import IpTunnel.Proofs.Unbuffered

namespace IpTunnel

def Notice.isLoss : Notice → Bool
  | .shutdownLost => true
  | _ => false

def Script.losses (script : Script) : Nat := script.log.countP Notice.isLoss

namespace Deed

def isLoss : Deed → Bool
  | .say notice => notice.isLoss
  | _ => false

-- Deeds that say nothing of a shutdown.
def Discreet (deeds : List Deed) : Prop := ∀ deed ∈ deeds, deed.isLoss = false

theorem discreet_nil : Discreet [] := List.forall_mem_nil _

theorem discreet_append {first second : List Deed} (former : Discreet first) (latter : Discreet second) :
    Discreet (first ++ second) := by
  intro deed member
  rcases List.mem_append.mp member with member | member
  · exact former deed member
  · exact latter deed member

theorem discreet_cons {deed : Deed} {rest : List Deed} (head : deed.isLoss = false) (behind : Discreet rest) :
    Discreet (deed :: rest) := discreet_append (List.forall_mem_singleton.mpr head) behind

theorem discreet_routed (packet : Bytes) (peers : PeerTable) :
    Discreet ((route packet peers).notices.map Deed.say) := by
  intro deed member
  obtain ⟨notice, said, rfl⟩ := List.mem_map.mp member
  unfold route at said
  split at said
  · rw [List.mem_singleton.mp said]
    rfl
  · rw [List.mem_singleton.mp said]
    rfl
  · split at said
    · rw [List.mem_singleton.mp said]
      rfl
    · rw [List.mem_singleton.mp said]
      rfl

theorem discreet_ofPacket (setup : Setup) (packet : Bytes) : Discreet (Plan.ofPacket setup packet) := by
  unfold Plan.ofPacket
  split
  · exact discreet_cons rfl discreet_nil
  · apply discreet_append (discreet_routed packet setup.peers)
    split
    · exact discreet_cons rfl discreet_nil
    · exact discreet_nil
    · split
      · exact discreet_cons rfl (discreet_cons rfl discreet_nil)
      · exact discreet_cons rfl discreet_nil

theorem discreet_ofFrame (setup : Setup) (frame : Bytes) : Discreet (Plan.ofFrame setup frame) := by
  unfold Plan.ofFrame
  apply discreet_cons rfl
  split
  · exact discreet_cons rfl discreet_nil
  · exact discreet_cons rfl (discreet_ofPacket setup _)

theorem discreet_ofDatagram (setup : Setup) (family : Family) (datagram : Bytes) :
    Discreet (ofDatagram setup family datagram) := by
  unfold ofDatagram
  split
  · exact discreet_cons rfl discreet_nil
  · apply discreet_cons rfl
    split
    · exact discreet_cons rfl (discreet_cons rfl (discreet_cons rfl discreet_nil))
    · exact discreet_cons rfl discreet_nil

theorem discreet_ofReport (setup : Setup) (family : Family) (error : ExtendedError) (fragment : Bytes) :
    Discreet (ofReport setup family error fragment) := by
  unfold ofReport
  split
  · exact discreet_cons rfl discreet_nil
  · apply discreet_cons rfl
    split
    · exact discreet_cons rfl discreet_nil
    · split
      · exact discreet_cons rfl discreet_nil
      · exact discreet_cons rfl (discreet_cons rfl (discreet_cons rfl discreet_nil))

theorem discreet_ofTunnel (setup : Setup) (event : Option (Except IoError Bytes)) :
    Discreet (ofTunnel setup event) := by
  cases event with
  | none => exact discreet_nil
  | some outcome =>
    cases outcome with
    | error cause => exact discreet_cons rfl discreet_nil
    | ok frame => exact discreet_ofFrame setup frame

theorem discreet_ofSocket (setup : Setup) (family : Family) (event : Option (Except IoError Delivery)) :
    Discreet (ofSocket setup family event) := by
  cases event with
  | none => exact discreet_nil
  | some outcome =>
    cases outcome with
    | error cause => exact discreet_cons rfl discreet_nil
    | ok delivery =>
      cases delivery with
      | datagram datagram => exact discreet_ofDatagram setup family datagram
      | report error fragment => exact discreet_ofReport setup family error fragment

end Deed

theorem Intake.discreet (setup : Setup) (intake : Intake) : Deed.Discreet (intake.deeds setup) :=
  Deed.discreet_append (Deed.discreet_ofTunnel setup intake.tunnel)
    (Deed.discreet_append (Deed.discreet_ofSocket setup .v4 intake.socket4)
      (Deed.discreet_ofSocket setup .v6 intake.socket6))

theorem Capture.Recorder.write_discreet (recorder : Recorder) (faults : List (Option Fault)) :
    ∀ notice ∈ (recorder.write faults).notices, notice.isLoss = false := by
  induction faults generalizing recorder with
  | nil => exact List.forall_mem_nil _
  | cons fault rest ih =>
    intro notice member
    rcases List.mem_append.mp member with first | later
    · unfold writeNext at first
      split at first
      · cases first
      · cases first
      · cases List.mem_singleton.mp first
        rfl
    · exact ih _ notice later

theorem Capture.Recording.handOver_discreet (recording : Recording) (packet : Bytes) :
    ∀ notice ∈ (recording.handOver packet).2, notice.isLoss = false := by
  intro notice member
  rcases List.mem_append.mp member with written | sent
  · exact recording.recorder.write_discreet _ notice written
  · unfold Sender.send at sent
    split at sent
    · cases sent
    · split at sent
      · cases List.mem_singleton.mp sent
        rfl
      · split at sent
        · cases sent
        · split at sent
          · cases sent
          · cases List.mem_singleton.mp sent
            rfl

namespace Script

theorem say_losses (notice : Notice) (script : Script) :
    (script.say notice).losses = script.losses + if notice.isLoss then 1 else 0 := by
  simp [losses, say, List.countP_append, List.countP_singleton]

theorem capture_losses (packet : Bytes) (script : Script) : (script.capture packet).losses = script.losses := by
  unfold capture
  cases script.recording with
  | none => rfl
  | some recording =>
    have silent : (recording.handOver packet).2.countP Notice.isLoss = 0 :=
      List.countP_eq_zero.mpr fun notice member => Bool.eq_false_iff.mp (recording.handOver_discreet packet notice member)
    simp only [losses, List.countP_append, silent]
    rfl

theorem send_losses (family : Family) (packet : Bytes) (peer : Endpoint) (script : Script) :
    (Host.send family packet peer script).2.losses = script.losses := by
  cases family <;> rfl

theorem act_losses {deeds : List Deed} (discreet : Deed.Discreet deeds) (script : Script) :
    (Unbuffered.act deeds script).1.losses = script.losses := by
  induction deeds generalizing script with
  | nil => rfl
  | cons deed rest ih =>
    have behind := ih fun other member => discreet other (List.mem_cons_of_mem _ member)
    cases deed with
    | say notice =>
      have silent : notice.isLoss = false := discreet _ (List.mem_cons_self ..)
      refine (behind (script.say notice)).trans ((script.say_losses notice).trans ?_)
      rw [silent]
      rfl
    | capture packet => exact (behind (script.capture packet)).trans (script.capture_losses packet)
    | send family packet peer =>
      have sent := send_losses family packet peer script
      rw [Unbuffered.act_send]
      generalize Host.send family packet peer script = answer at sent
      rcases answer with ⟨_ | _ | _, after⟩
      · exact sent
      · exact sent
      · exact (behind after).trans sent
    | write frame =>
      have written : (Host.write frame script).2.losses = script.losses := rfl
      rw [Unbuffered.act_write]
      generalize Host.write frame script = answer at written
      rcases answer with ⟨_ | _ | _, after⟩
      · exact written
      · exact written
      · exact (behind after).trans written
    | fail cause => rfl
    | overrun => rfl

end Script

namespace Unbuffered

theorem handle_losses (setup : Setup) (intake : Intake) (station : Station Script) :
    (handle setup intake station).1.host.losses =
      station.host.losses + if intake.news = some .lost then 1 else 0 := by
  refine (Script.act_losses (intake.discreet setup) (heed intake.news station).host).trans ?_
  unfold heed
  cases intake.news with
  | none => rfl
  | some news =>
    cases news with
    | requested => rfl
    | lost => exact station.host.say_losses .shutdownLost

end Unbuffered

end IpTunnel
