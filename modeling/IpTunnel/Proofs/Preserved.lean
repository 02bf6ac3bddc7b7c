import IpTunnel.Proofs.Endpoint

namespace IpTunnel

structure Host.Preserves {σ : Type} [Host σ] (kept : σ → Prop) : Prop where
  hear : ∀ host, kept host → kept (Host.hear host).2
  readTunnel : ∀ buffer host, kept host → kept (Host.readTunnel buffer host).host
  receive : ∀ family buffer host, kept host → kept (Host.receive family buffer host).host
  await : ∀ deadline host, kept host → kept (Host.await deadline host).2
  rest : ∀ deadline host, kept host → kept (Host.rest deadline host)
  say : ∀ notice host, kept host → kept (Host.say notice host)
  capture : ∀ packet host, kept host → kept (Host.capture packet host)
  send : ∀ family packet peer host, kept host → kept (Host.send family packet peer host).2
  write : ∀ frame host, kept host → kept (Host.write frame host).2

namespace Forwarder

variable {σ : Type} [Host σ] {kept : σ → Prop} (preserves : Host.Preserves kept) {setup : Setup}

omit [Host σ] in
theorem andThen_preserves {progress : Progress σ} {next : Run σ → Progress σ} (holds : kept progress.run.host)
    (onward : ∀ {run : Run σ}, kept run.host → kept (next run).run.host) :
    kept (Progress.andThen progress next).run.host := by
  unfold Progress.andThen
  split
  · exact holds
  · exact onward holds

include preserves

theorem hear_preserves {run : Run σ} (holds : kept run.host) : kept (hear run).1.host := by
  unfold hear
  split
  · exact preserves.hear run.host holds
  · exact holds

theorem receive_preserves {family : Family} {run : Run σ} (holds : kept run.host) :
    kept (receive setup family run).1.host := by
  unfold receive
  split
  · exact preserves.receive family _ run.host holds
  · exact holds

theorem look_preserves {run : Run σ} (holds : kept run.host) : kept (look setup run).1.host := by
  have heard := hear_preserves preserves holds
  have read : kept (readTunnel (hear run).1).1.host := preserves.readTunnel _ _ heard
  exact receive_preserves preserves (receive_preserves preserves read)

def Wait.run : Wait σ → Run σ
  | .ready run _ => run
  | .idle run => run
  | .stuck run => run

theorem waitUntil_preserves {deadline : Option Nat} (fuel : Nat) {run : Run σ} (holds : kept run.host) :
    kept (waitUntil setup deadline fuel run).run.host := by
  induction fuel generalizing run with
  | zero => exact holds
  | succ fuel ih =>
    have looked : kept (look setup run).1.host := look_preserves preserves holds
    have awaited := preserves.await deadline _ looked
    unfold waitUntil
    simp only
    split
    · exact looked
    · split
      · rename_i host woken
        rw [woken] at awaited
        exact ih awaited
      · rename_i host timedOut
        rw [timedOut] at awaited
        exact awaited
      · rename_i host never
        rw [never] at awaited
        exact awaited

theorem perform_preserves (deeds : List Deed) {run : Run σ} (holds : kept run.host) :
    kept (perform run deeds).run.host := by
  induction deeds generalizing run with
  | nil => exact holds
  | cons deed rest ih =>
    cases deed with
    | say notice => exact ih (preserves.say notice run.host holds)
    | capture packet => exact ih (preserves.capture packet run.host holds)
    | send family packet peer =>
      have sent := preserves.send family packet peer run.host holds
      unfold perform
      split
      · rename_i host done
        rw [done] at sent
        exact ih sent
      · rename_i cause host failed
        rw [failed] at sent
        exact sent
      · rename_i host stalled
        rw [stalled] at sent
        exact sent
    | write frame =>
      have wrote := preserves.write frame run.host holds
      unfold perform
      split
      · rename_i host done
        rw [done] at wrote
        exact ih wrote
      · rename_i cause host failed
        rw [failed] at wrote
        exact wrote
      · rename_i host stalled
        rw [stalled] at wrote
        exact wrote
    | fail cause => exact holds
    | overrun => exact holds

theorem handleTunnel_preserves (event : Option (Except IoError Nat)) {run : Run σ} (holds : kept run.host) :
    kept (handleTunnel setup event run).run.host := by
  unfold handleTunnel
  split
  · exact holds
  · exact holds
  · split
    · exact holds
    · exact perform_preserves preserves _ holds

theorem handleSocket_preserves (family : Family) (event : Option (Except IoError Received)) {run : Run σ}
    (holds : kept run.host) : kept (handleSocket setup family event run).run.host := by
  unfold handleSocket
  split
  · exact holds
  · exact holds
  · exact perform_preserves preserves _ holds
  · exact perform_preserves preserves _ holds

theorem handleNews_preserves (news : Option News) {run : Run σ} (holds : kept run.host) :
    kept (handleNews news run).host := by
  unfold handleNews
  split
  · exact holds
  · exact holds
  · exact preserves.say _ run.host holds

theorem handle_preserves (events : Events) {run : Run σ} (holds : kept run.host) :
    kept (handle setup events run).run.host := by
  have heeded := handleNews_preserves preserves events.news holds
  apply andThen_preserves (handleTunnel_preserves preserves events.tunnel heeded)
  intro run holds
  apply andThen_preserves (handleSocket_preserves preserves .v4 events.socket4 holds)
  intro run holds
  exact handleSocket_preserves preserves .v6 events.socket6 holds

theorem close_preserves {run : Run σ} (holds : kept run.host) : kept (close setup run).run.host :=
  preserves.rest _ _ (preserves.say _ run.host holds)

theorem iterate_preserves {run : Run σ} (holds : kept run.host) : kept (iterate setup run).run.host := by
  unfold iterate
  split
  · exact close_preserves preserves holds
  · have waited : kept (wait setup run).run.host := waitUntil_preserves preserves _ holds
    split
    · rename_i run events ready
      rw [ready] at waited
      exact handle_preserves preserves events waited
    · rename_i run idle
      rw [idle] at waited
      exact preserves.say _ run.host waited
    · rename_i run stuck
      rw [stuck] at waited
      exact waited

theorem loop_preserves (fuel : Nat) {run : Run σ} (holds : kept run.host) :
    kept (loop setup fuel run).1.host := by
  induction fuel generalizing run with
  | zero => exact holds
  | succ fuel ih =>
    have iterated : kept (iterate setup run).run.host := iterate_preserves preserves holds
    unfold loop
    split
    · rename_i next ending ended
      rw [ended] at iterated
      exact iterated
    · rename_i next goes
      rw [goes] at iterated
      exact ih iterated

theorem run_preserves {host : σ} (holds : kept host) : kept (run setup host).1.host := by
  unfold run
  apply loop_preserves preserves
  exact preserves.say _ host holds

end Forwarder

namespace Kernel

def Lacks (family : Family) (kernel : Kernel) : Prop := kernel.socket family = none

theorem lacks_iff {family : Family} {kernel : Kernel} :
    kernel.Lacks family ↔ (kernel.socket family).isSome = false := by
  simp [Lacks]

namespace Lacks

variable {family : Family} {kernel : Kernel}

-- Where there is none there is nothing to put back in its place.
theorem withSocket {member : Family} {socket other : UdpSocket} (lacks : kernel.Lacks family)
    (found : kernel.socket member = some socket) : (kernel.withSocket member other).Lacks family := by
  have different : family ≠ member := by
    rintro rfl
    rw [lacks] at found
    cases found
  exact (socket_withOther kernel other different).trans lacks

theorem say (notices : List Notice) (lacks : kernel.Lacks family) : (kernel.say notices).Lacks family :=
  (socket_say notices kernel family).trans lacks

theorem wake (lacks : kernel.Lacks family) : kernel.wake.Lacks family := by
  rw [Lacks, socket_wake, lacks]
  rfl

theorem settle (lacks : kernel.Lacks family) : kernel.settle.Lacks family := by
  cases family <;> exact lacks

theorem raise (lacks : kernel.Lacks family) : kernel.raise.Lacks family := by
  cases family <;> exact lacks

theorem later (moment : Nat) (lacks : kernel.Lacks family) : { kernel with now := moment }.Lacks family := by
  cases family <;> exact lacks

theorem await (deadline : Option Nat) (lacks : kernel.Lacks family) : (kernel.await deadline).2.Lacks family := by
  unfold Kernel.await
  simp only
  split
  · exact lacks.settle.wake
  · split
    · exact lacks.settle.raise
    · split
      · exact lacks.settle.later _
      · exact lacks.settle

theorem rest (deadline : Nat) (lacks : kernel.Lacks family) : (kernel.rest deadline).Lacks family := by
  unfold Kernel.rest
  apply Lacks.later
  split
  · exact lacks.settle.wake.raise
  · exact lacks.settle.wake

theorem capture (packet : Bytes) (lacks : kernel.Lacks family) : (kernel.capture packet).Lacks family := by
  unfold Kernel.capture
  split
  · exact lacks
  · cases family <;> exact lacks

theorem readTunnel (buffer : Bytes) (lacks : kernel.Lacks family) :
    (kernel.readTunnel buffer).host.Lacks family := by
  unfold Kernel.readTunnel
  split
  · exact lacks
  · cases family <;> exact lacks

theorem receive (member : Family) (buffer : Bytes) (lacks : kernel.Lacks family) :
    (kernel.receive member buffer).host.Lacks family := by
  unfold Kernel.receive
  split
  · exact lacks
  · rename_i socket found
    exact (lacks.withSocket found).say _

theorem sendWithin (member : Family) (packet : Bytes) (peer : Endpoint) (fuel retries : Nat)
    (lacks : kernel.Lacks family) : (kernel.sendWithin member packet peer fuel retries).2.Lacks family := by
  induction fuel generalizing kernel retries with
  | zero => exact lacks
  | succ fuel ih =>
    unfold Kernel.sendWithin
    split
    · exact lacks
    · rename_i socket found
      let sending := UdpSocket.send socket.endpoint packet peer retries socket.descriptor
      have sent : ((kernel.withSocket member { socket with descriptor := sending.descriptor }).say
          sending.notices).Lacks family := (lacks.withSocket found).say sending.notices
      simp only
      split
      · exact sent
      · have awaited := sent.await none
        split
        · rename_i woken waking
          rw [waking] at awaited
          exact ih _ awaited
        · rename_i waking
          rw [waking] at awaited
          exact awaited

theorem writeWithin (frame : Bytes) (fuel : Nat) (lacks : kernel.Lacks family) :
    (kernel.writeWithin frame fuel).2.Lacks family := by
  induction fuel generalizing kernel with
  | zero => exact lacks
  | succ fuel ih =>
    unfold Kernel.writeWithin
    split
    · exact lacks
    · rename_i device found
      have wrote : { kernel with tunnel := some (device.write frame).1 }.Lacks family := by
        cases family <;> exact lacks
      simp only
      split
      · exact wrote
      · have awaited := wrote.await none
        split
        · rename_i woken waking
          rw [waking] at awaited
          exact ih awaited
        · rename_i waking
          rw [waking] at awaited
          exact awaited

end Lacks

theorem lacks_preserved (family : Family) : Host.Preserves (Lacks family) where
  hear _ lacks := lacks
  readTunnel buffer _ lacks := lacks.readTunnel buffer
  receive member buffer _ lacks := lacks.receive member buffer
  await deadline _ lacks := lacks.await deadline
  rest deadline _ lacks := lacks.rest deadline
  say notice _ lacks := lacks.say [notice]
  capture packet _ lacks := lacks.capture packet
  send member packet peer _ lacks := lacks.sendWithin member packet peer _ _
  write frame _ lacks := lacks.writeWithin frame _

end Kernel

end IpTunnel
