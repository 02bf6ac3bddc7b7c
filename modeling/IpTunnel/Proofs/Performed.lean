import IpTunnel.Proofs.Unbuffered

namespace IpTunnel

-- What is still to come from outside; deeds leave all of it alone.
structure Inputs where
  mode : Mode
  now : Nat
  sleep : Nat → Nat
  tunnel : List (Scheduled Bytes)
  socket4 : List (Scheduled Delivery)
  socket6 : List (Scheduled Delivery)
  shutdown : Option (Nat × News)

def Script.inputs (script : Script) : Inputs :=
  ⟨script.mode, script.now, script.sleep, script.tunnel, script.socket4, script.socket6, script.shutdown⟩

def Entry.sent? : Entry → Option (Family × Bytes × Endpoint)
  | .send family packet peer _ => some (family, packet, peer)
  | _ => none

def Entry.written? : Entry → Option Bytes
  | .write frame _ => some frame
  | _ => none

def Entry.hasFailed : Entry → Bool
  | .read _ (.error _) => true
  | .write _ (.error _) => true
  | .send _ _ _ (.error _) => true
  | _ => false

def sends (entries : List Entry) : List (Family × Bytes × Endpoint) := entries.filterMap Entry.sent?

def writes (entries : List Entry) : List Bytes := entries.filterMap Entry.written?

theorem sends_append (first second : List Entry) : sends (first ++ second) = sends first ++ sends second :=
  List.filterMap_append

theorem writes_append (first second : List Entry) : writes (first ++ second) = writes first ++ writes second :=
  List.filterMap_append

-- The relation says what was done of a list of deeds; it does not say which outcomes there are.
inductive Performed : List Deed → List Entry → Option Ending → Prop where
  | nil : Performed [] [] none
  | say (rest : Performed deeds entries ending) : Performed (.say notice :: deeds) entries ending
  | capture (rest : Performed deeds entries ending) : Performed (.capture packet :: deeds) entries ending
  | sent (rest : Performed deeds entries ending) :
      Performed (.send family packet peer :: deeds) (.send family packet peer (.ok ()) :: entries) ending
  | unsent : Performed (.send family packet peer :: deeds) [.send family packet peer (.error cause)]
      (some (.failed (.socketWrite cause)))
  | written (rest : Performed deeds entries ending) :
      Performed (.write frame :: deeds) (.write frame (.ok ()) :: entries) ending
  | unwritten : Performed (.write frame :: deeds) [.write frame (.error cause)] (some (.failed (.tunnelWrite cause)))
  | fail : Performed (.fail cause :: deeds) [] (some (.failed cause))
  | overrun : Performed (.overrun :: deeds) [] (some .overran)

inductive Staged : List (List Deed) → List (List Entry) → Option Ending → Prop where
  | nil : Staged [] [] none
  | done (performed : Performed deeds entries none) (rest : Staged others parts ending) :
      Staged (deeds :: others) (entries :: parts) ending
  | failed (performed : Performed deeds entries (some ending)) :
      Staged (deeds :: others) (entries :: others.map fun _ => []) (some ending)

theorem Staged.length_eq (staged : Staged stages parts ending) : parts.length = stages.length := by
  induction staged with
  | nil => rfl
  | done performed rest ih => simp [ih]
  | failed performed => simp

theorem Staged.three (staged : Staged [first, second, third] parts ending) : ∃ a b c, parts = [a, b, c] := by
  have count := staged.length_eq
  match parts, count with
  | [a, b, c], _ => exact ⟨a, b, c, rfl⟩

-- The first stage is always begun; a stage after a failed one leaves nothing.
theorem Staged.first (staged : Staged (deeds :: others) (entries :: parts) ending) :
    ∃ progress, Performed deeds entries progress ∧
      match progress with
      | none => Staged others parts ending
      | some failure => ending = some failure ∧ parts = others.map fun _ => [] := by
  cases staged with
  | done performed rest => exact ⟨none, performed, rest⟩
  | failed performed => exact ⟨some _, performed, rfl, rfl⟩

theorem Staged.each {property : List Entry → Prop} (staged : Staged stages parts ending) (nothing : property [])
    (done : ∀ deeds ∈ stages, ∀ entries progress, Performed deeds entries progress → property entries) :
    ∀ part ∈ parts, property part := by
  induction staged with
  | nil => intro part member; cases member
  | done performed rest ih =>
    intro part member
    rcases List.mem_cons.mp member with rfl | member
    · exact done _ (List.mem_cons_self ..) _ _ performed
    · exact ih (fun deeds among => done deeds (List.mem_cons_of_mem _ among)) part member
  | failed performed =>
    intro part member
    rcases List.mem_cons.mp member with rfl | member
    · exact done _ (List.mem_cons_self ..) _ _ performed
    · obtain ⟨_, _, rfl⟩ := List.mem_map.mp member
      exact nothing

theorem Staged.behind {property : List Entry → Prop} (staged : Staged (deeds :: others) (entries :: parts) ending)
    (nothing : property [])
    (done : ∀ deeds ∈ others, ∀ entries progress, Performed deeds entries progress → property entries) :
    ∀ part ∈ parts, property part := by
  cases staged with
  | done performed rest => exact rest.each nothing done
  | failed performed =>
    intro part member
    obtain ⟨_, _, rfl⟩ := List.mem_map.mp member
    exact nothing

namespace Script

theorem capture_frame (packet : Bytes) (script : Script) :
    (script.capture packet).trace = script.trace ∧ (script.capture packet).inputs = script.inputs := by
  unfold capture
  split <;> exact ⟨rfl, rfl⟩

theorem send_frame (family : Family) (packet : Bytes) (peer : Endpoint) (script : Script) :
    ∃ outcome after, Host.send family packet peer script = (some outcome, after) ∧
      after.trace = script.trace ++ [.send family packet peer outcome] ∧ after.inputs = script.inputs := by
  cases family <;> exact ⟨_, _, rfl, rfl, rfl⟩

theorem write_frame (frame : Bytes) (script : Script) :
    ∃ outcome after, Host.write frame script = (some outcome, after) ∧
      after.trace = script.trace ++ [.write frame outcome] ∧ after.inputs = script.inputs :=
  ⟨_, _, rfl, rfl, rfl⟩

-- Whatever the outcomes of sends and writes are, the trace grows by what was done of the deeds.
theorem act_performed (deeds : List Deed) (script : Script) :
    ∃ entries, Performed deeds entries (Unbuffered.act deeds script).2 ∧
      (Unbuffered.act deeds script).1.trace = script.trace ++ entries ∧
      (Unbuffered.act deeds script).1.inputs = script.inputs := by
  induction deeds generalizing script with
  | nil => exact ⟨[], .nil, (List.append_nil _).symm, rfl⟩
  | cons deed rest ih =>
    cases deed with
    | say notice =>
      obtain ⟨entries, performed, trace, inputs⟩ := ih (script.say notice)
      exact ⟨entries, .say performed, trace, inputs⟩
    | capture packet =>
      obtain ⟨entries, performed, trace, inputs⟩ := ih (script.capture packet)
      obtain ⟨sameTrace, sameInputs⟩ := capture_frame packet script
      exact ⟨entries, .capture performed, sameTrace ▸ trace, sameInputs ▸ inputs⟩
    | send family packet peer =>
      obtain ⟨outcome, after, answered, trace, inputs⟩ := send_frame family packet peer script
      rw [Unbuffered.act_send, answered]
      cases outcome with
      | error cause => exact ⟨_, .unsent, trace, inputs⟩
      | ok =>
        obtain ⟨entries, performed, grown, kept⟩ := ih after
        refine ⟨_, .sent performed, ?_, kept.trans inputs⟩
        rw [grown, trace, List.append_assoc]
        rfl
    | write frame =>
      obtain ⟨outcome, after, answered, trace, inputs⟩ := write_frame frame script
      rw [Unbuffered.act_write, answered]
      cases outcome with
      | error cause => exact ⟨_, .unwritten, trace, inputs⟩
      | ok =>
        obtain ⟨entries, performed, grown, kept⟩ := ih after
        refine ⟨_, .written performed, ?_, kept.trans inputs⟩
        rw [grown, trace, List.append_assoc]
        rfl
    | fail cause => exact ⟨[], .fail, (List.append_nil _).symm, rfl⟩
    | overrun => exact ⟨[], .overrun, (List.append_nil _).symm, rfl⟩

theorem act_staged (stages : List (List Deed)) (script : Script) :
    ∃ parts, Staged stages parts (Unbuffered.act stages.flatten script).2 ∧
      (Unbuffered.act stages.flatten script).1.trace = script.trace ++ parts.flatten ∧
      (Unbuffered.act stages.flatten script).1.inputs = script.inputs := by
  induction stages generalizing script with
  | nil => exact ⟨[], .nil, (List.append_nil _).symm, rfl⟩
  | cons deeds others ih =>
    obtain ⟨entries, performed, trace, inputs⟩ := act_performed deeds script
    rw [List.flatten_cons, Unbuffered.act_append]
    generalize Unbuffered.act deeds script = done at performed trace inputs
    obtain ⟨after, _ | ending⟩ := done
    · obtain ⟨parts, staged, grown, kept⟩ := ih after
      refine ⟨_, .done performed staged, ?_, kept.trans inputs⟩
      rw [grown, trace, List.append_assoc, List.flatten_cons]
    · have nothing : (others.map fun _ => ([] : List Entry)).flatten = [] := by simp
      refine ⟨_, .failed performed, ?_, inputs⟩
      rw [List.flatten_cons, nothing, List.append_nil]
      exact trace

end Script

end IpTunnel
