import IpTunnel.Kernel.ErrorQueue
import IpTunnel.Proofs.ErrorRecords
import Mathlib.Algebra.Ring.Int.Defs

namespace IpTunnel

namespace ControlMessage

def Explains (message : ControlMessage) : Prop :=
  (message.level = 0 ∧ message.kind = 11) ∨ (message.level = 41 ∧ message.kind = 25)

theorem isExtendedError_iff {message : ControlMessage} : message.isExtendedError = true ↔ message.Explains := by
  simp [isExtendedError, Explains]

-- Level and kind are numbers of 32 bits with a sign.
structure Sized (message : ControlMessage) : Prop where
  level : -2 ^ 31 ≤ message.level ∧ message.level < 2 ^ 31
  kind : -2 ^ 31 ≤ message.kind ∧ message.kind < 2 ^ 31

end ControlMessage

namespace ControlArea

-- A length of eight octets, a level and a kind of four each.
def headerLength : Nat := 16

def aligned (length : Nat) : Nat := (length + 7) / 8 * 8

def unsigned (value : Int) : Nat := (value % 2 ^ 32).toNat

def signed (value : Nat) : Int := if value < 2 ^ 31 then value else value - 2 ^ 32

-- The length in a header is that of header and data, without the gap behind them.
def laid (message : ControlMessage) : Bytes :=
  Bytes.low 8 (headerLength + message.data.length) ++ (Bytes.low 4 (unsigned message.level) ++
    (Bytes.low 4 (unsigned message.kind) ++ (message.data ++
      List.replicate (aligned message.data.length - message.data.length) 0)))

def lay (control : List ControlMessage) : Bytes := control.flatMap laid

def lengthAt (area : Bytes) (offset : Nat) : Nat := Bytes.ofLow ((area.drop offset).take 8)

def messageAt (area : Bytes) (offset : Nat) : ControlMessage where
  level := signed (Bytes.ofLow ((area.drop (offset + 8)).take 4))
  kind := signed (Bytes.ofLow ((area.drop (offset + 12)).take 4))
  data := (area.drop (offset + headerLength)).take (lengthAt area offset - headerLength)

def first? (area : Bytes) : Option Nat := if headerLength ≤ area.length then some 0 else none

-- The header behind a message, if it and its message are inside the area.
def next? (area : Bytes) (offset : Nat) : Option Nat :=
  let next := offset + aligned (lengthAt area offset)
  if lengthAt area offset < headerLength then none
  else if area.length < next + headerLength ∨ area.length < next + aligned (lengthAt area next) then none
  else some next

def ahead (area : Bytes) : Option Nat → Nat
  | none => 0
  | some offset => area.length - offset + 1

theorem ahead_next (area : Bytes) (offset : Nat) : ahead area (next? area offset) < ahead area (some offset) := by
  unfold next?
  simp only
  split
  · exact Nat.succ_pos _
  · split
    · exact Nat.succ_pos _
    · simp only [ahead, headerLength, aligned] at *
      omega

def decode (data : Bytes) : Except IoError ExtendedError :=
  (ExtendedError.read data).mapError fun _ => .shortExtendedError

def search (area : Bytes) (place : Option Nat) : Except IoError ExtendedError :=
  match place with
  | none => .error .noExtendedError
  | some offset =>
    if (messageAt area offset).isExtendedError then decode (messageAt area offset).data
    else search area (next? area offset)
termination_by ahead area place
decreasing_by exact ahead_next area offset

theorem signed_unsigned {value : Int} (sized : -2 ^ 31 ≤ value ∧ value < 2 ^ 31) : signed (unsigned value) = value := by
  unfold signed unsigned
  split <;> omega

theorem unsigned_lt (value : Int) : unsigned value < 256 ^ 4 := by
  unfold unsigned
  omega

theorem length_laid (message : ControlMessage) :
    (laid message).length = headerLength + aligned message.data.length := by
  simp only [laid, List.length_append, Bytes.length_low, List.length_replicate, headerLength, aligned]
  omega

-- The area that the program offers is of this size; the system says how much of it is in use.
structure Fits (control : List ControlMessage) : Prop where
  sized : ∀ message ∈ control, message.Sized
  room : (lay control).length ≤ 512

section Behind

variable (front : Bytes) {message : ControlMessage} (rest : Bytes)

theorem drop_behind (count : Nat) :
    (front ++ (laid message ++ rest)).drop (front.length + count) = (laid message ++ rest).drop count := by
  rw [← List.drop_drop, List.drop_left]

theorem lengthAt_laid (short : headerLength + message.data.length < 256 ^ 8) :
    lengthAt (front ++ (laid message ++ rest)) front.length = headerLength + message.data.length := by
  have field : (laid message ++ rest).take 8 = Bytes.low 8 (headerLength + message.data.length) := by
    simp [laid]
  rw [lengthAt, List.drop_left, field, Bytes.ofLow_low short]

theorem messageAt_laid (sized : message.Sized) (short : headerLength + message.data.length < 256 ^ 8) :
    messageAt (front ++ (laid message ++ rest)) front.length = message := by
  have level : ((laid message ++ rest).drop 8).take 4 = Bytes.low 4 (unsigned message.level) := by
    simp [laid]
  have kind : ((laid message ++ rest).drop (8 + 4)).take 4 = Bytes.low 4 (unsigned message.kind) := by
    rw [← List.drop_drop]
    simp [laid]
  have data : ((laid message ++ rest).drop (8 + 4 + 4)).take message.data.length = message.data := by
    rw [← List.drop_drop, ← List.drop_drop]
    simp [laid]
  simp only [messageAt, lengthAt_laid front rest short, drop_behind, level, kind, data, headerLength,
    Nat.add_sub_cancel_left, Bytes.ofLow_low (unsigned_lt _), signed_unsigned sized.level, signed_unsigned sized.kind]

end Behind

-- Where the next message is, if one is left behind this part of the area.
def place (front : Bytes) (control : List ControlMessage) : Option Nat :=
  match control with
  | [] => none
  | _ :: _ => some front.length

theorem first?_lay (control : List ControlMessage) : first? (lay control) = place [] control := by
  cases control with
  | nil => rfl
  | cons message rest =>
    have room : headerLength ≤ (lay (message :: rest)).length := by
      simp only [lay, List.flatMap_cons, List.length_append, length_laid]
      omega
    exact if_pos room

theorem lay_cons (message : ControlMessage) (rest : List ControlMessage) :
    lay (message :: rest) = laid message ++ lay rest := List.flatMap_cons

theorem short_of_room {front rest : Bytes} {message : ControlMessage}
    (room : (front ++ (laid message ++ rest)).length ≤ 512) :
    headerLength + message.data.length < 256 ^ 8 ∧
      front.length + aligned (headerLength + message.data.length) = (front ++ laid message).length := by
  simp only [List.length_append, length_laid, headerLength, aligned] at room ⊢
  omega

theorem next?_lay (front : Bytes) {message : ControlMessage} {rest : List ControlMessage}
    (room : (front ++ (laid message ++ lay rest)).length ≤ 512) :
    next? (front ++ (laid message ++ lay rest)) front.length = place (front ++ laid message) rest := by
  obtain ⟨short, step⟩ := short_of_room room
  simp only [next?, lengthAt_laid front _ short, step]
  rw [if_neg (Nat.not_lt.mpr (Nat.le_add_right _ _)), ← List.append_assoc]
  cases rest with
  | nil =>
    have beyond : (front ++ laid message ++ lay []).length < (front ++ laid message).length + headerLength := by
      simp [lay, headerLength]
    exact if_pos (.inl beyond)
  | cons second others =>
    rw [← List.append_assoc, lay_cons] at room
    obtain ⟨brief, further⟩ := short_of_room room
    rw [lay_cons, lengthAt_laid _ _ brief, further]
    apply if_neg
    simp only [List.length_append, length_laid]
    omega

theorem extendedError_cons (message : ControlMessage) (rest : List ControlMessage) :
    ErrorQueue.extendedError (message :: rest) =
      if message.isExtendedError then decode message.data else ErrorQueue.extendedError rest := by
  by_cases explains : message.isExtendedError = true
  · simp only [ErrorQueue.extendedError, explains, List.find?_cons_of_pos, if_true, decode]
    cases ExtendedError.read message.data <;> rfl
  · simp [ErrorQueue.extendedError, explains]

-- The search goes past what is in front of its place.
theorem search_behind (front : Bytes) {control : List ControlMessage} (sized : ∀ message ∈ control, message.Sized)
    (room : (front ++ lay control).length ≤ 512) :
    search (front ++ lay control) (place front control) = ErrorQueue.extendedError control := by
  induction control generalizing front with
  | nil =>
    rw [place, search]
    rfl
  | cons message rest ih =>
    have others : ∀ other ∈ rest, other.Sized := fun other member => sized other (List.mem_cons_of_mem _ member)
    rw [lay_cons] at room ⊢
    have found := messageAt_laid front (lay rest) (sized message (List.mem_cons_self ..)) (short_of_room room).1
    have next := next?_lay front room
    rw [← List.append_assoc] at room
    have onward := ih (front ++ laid message) others room
    rw [place, search, found, next, extendedError_cons, ← List.append_assoc, onward]

theorem search_lay {control : List ControlMessage} (fits : Fits control) :
    search (lay control) (first? (lay control)) = ErrorQueue.extendedError control := by
  rw [first?_lay]
  exact search_behind [] fits.sized fits.room

end ControlArea

def IoError.isInvalidData : IoError → Bool
  | .shortExtendedError => true
  | .noExtendedError => true
  | .notUtf8 => true
  | _ => false

namespace ErrorQueue

-- The message that counts among these: the first one that explains a failure.
def First (control : List ControlMessage) (message : ControlMessage) : Prop :=
  ∃ others later, control = others ++ message :: later ∧ message.Explains ∧ ∀ other ∈ others, ¬ other.Explains

theorem find?_first {control : List ControlMessage} {message : ControlMessage} :
    control.find? (·.isExtendedError) = some message ↔ First control message := by
  have skipped (others : List ControlMessage) :
      (∀ other ∈ others, (!other.isExtendedError) = true) ↔ ∀ other ∈ others, ¬ other.Explains := by
    simp [← ControlMessage.isExtendedError_iff]
  simp only [List.find?_eq_some_iff_append, ControlMessage.isExtendedError_iff, skipped]
  constructor
  · rintro ⟨explains, others, later, split, silent⟩
    exact ⟨others, later, split, explains, silent⟩
  · rintro ⟨others, later, split, explains, silent⟩
    exact ⟨explains, others, later, split, silent⟩

theorem first_or_missing (control : List ControlMessage) :
    (∃ message, First control message) ∨ ∀ message ∈ control, ¬ message.Explains := by
  cases found : control.find? (·.isExtendedError) with
  | some message => exact .inl ⟨message, find?_first.mp found⟩
  | none =>
    refine .inr fun message member explains => ?_
    exact List.find?_eq_none.mp found message member (ControlMessage.isExtendedError_iff.mpr explains)

theorem extendedError_first {control : List ControlMessage} {message : ControlMessage}
    (first : First control message) : extendedError control = ControlArea.decode message.data := by
  simp only [extendedError, find?_first.mpr first, ControlArea.decode]
  cases ExtendedError.read message.data <;> rfl

theorem extendedError_missing {control : List ControlMessage} (missing : ∀ message ∈ control, ¬ message.Explains) :
    extendedError control = .error .noExtendedError := by
  have none : control.find? (·.isExtendedError) = none := by
    simpa [List.find?_eq_none, ControlMessage.isExtendedError_iff] using missing
  rw [extendedError, none]

theorem extendedError_long {control : List ControlMessage} {message : ControlMessage} (first : First control message)
    (long : 16 ≤ message.data.length) :
    ∃ error, ExtendedError.read message.data = .ok error ∧ extendedError control = .ok error := by
  obtain ⟨error, decoded⟩ := ExtendedError.read_long long
  refine ⟨error, decoded, ?_⟩
  rw [extendedError_first first, ControlArea.decode, decoded]
  rfl

theorem extendedError_short {control : List ControlMessage} {message : ControlMessage} (first : First control message)
    (short : message.data.length < 16) : extendedError control = .error .shortExtendedError := by
  rw [extendedError_first first, ControlArea.decode, ExtendedError.read_short short]
  rfl

theorem first_single {control : List ControlMessage} {message : ControlMessage} (first : First control message) :
    First [message] message := by
  obtain ⟨_, _, _, explains, _⟩ := first
  exact ⟨[], [], rfl, explains, nofun⟩

-- An entry either has a first message that can be decoded, or fails with one of two causes.
inductive Explained (control : List ControlMessage) : Except IoError ExtendedError → Prop where
  | decoded (first : First control message) (long : 16 ≤ message.data.length)
      (read : ExtendedError.read message.data = .ok error) : Explained control (.ok error)
  | short (first : First control message) (short : message.data.length < 16) :
      Explained control (.error .shortExtendedError)
  | missing (missing : ∀ message ∈ control, ¬ message.Explains) : Explained control (.error .noExtendedError)

theorem explained (control : List ControlMessage) : Explained control (extendedError control) := by
  rcases first_or_missing control with ⟨message, first⟩ | missing
  · rcases Nat.lt_or_ge message.data.length 16 with short | long
    · rw [extendedError_short first short]
      exact .short first short
    · obtain ⟨error, read, found⟩ := extendedError_long first long
      rw [found]
      exact .decoded first long read
  · rw [extendedError_missing missing]
    exact .missing missing

structure Finds (buffer fragment : Bytes) (control : List ControlMessage) (reading : Reading) : Prop where
  succeeds : (∃ found, reading.outcome = .ok found) ↔
    ∃ message, First control message ∧ 16 ≤ message.data.length
  found : ∀ error length, reading.outcome = .ok (error, length) →
    (∃ message, First control message ∧ ExtendedError.read message.data = .ok error) ∧
      length = min fragment.length buffer.length ∧ reading.buffer.take length = fragment.take length
  -- Neither what is in front of the first such message nor what is behind it counts.
  alone : ∀ message, First control message → reading.outcome = (read buffer [.message fragment [message]]).outcome
  missing : (∀ message ∈ control, ¬ message.Explains) → reading.outcome = .error .noExtendedError
  short : ∀ message, First control message → message.data.length < 16 → reading.outcome = .error .shortExtendedError
  invalid : ∀ cause, reading.outcome = .error cause → cause.isInvalidData = true

theorem read_message (buffer fragment : Bytes) (control : List ControlMessage) (rest : List Report) :
    Finds buffer fragment control (read buffer (.message fragment control :: rest)) where
  succeeds := by
    constructor
    · rintro ⟨found, succeeded⟩
      cases told : extendedError control with
      | error cause => simp [read, told, Except.map] at succeeded
      | ok error =>
        have explained := explained control
        rw [told] at explained
        cases explained with
        | decoded first long _ => exact ⟨_, first, long⟩
    · rintro ⟨message, first, long⟩
      obtain ⟨error, _, decoded⟩ := extendedError_long first long
      exact ⟨(error, min fragment.length buffer.length), by simp [read, decoded, Except.map]⟩
  found := by
    intro error length succeeded
    have explained := explained control
    cases told : extendedError control with
    | error cause => simp [read, told, Except.map] at succeeded
    | ok decoded =>
      simp only [read, told, Except.map, Except.ok.injEq, Prod.mk.injEq] at succeeded
      obtain ⟨rfl, rfl⟩ := succeeded
      rw [told] at explained
      cases explained with
      | decoded first _ read =>
        refine ⟨⟨_, first, read⟩, rfl, Bytes.take_fill.trans ?_⟩
        exact List.take_eq_take_iff.mpr (by omega)
  alone := by
    intro message first
    simp only [read, extendedError_first first, extendedError_first (first_single first)]
  missing := by
    intro missing
    simp [read, extendedError_missing missing, Except.map]
  short := by
    intro message first short
    simp [read, extendedError_short first short, Except.map]
  invalid := by
    intro cause failed
    have explained := explained control
    cases told : extendedError control with
    | ok error => simp [read, told, Except.map] at failed
    | error other =>
      simp only [read, told, Except.map, Except.error.injEq] at failed
      subst failed
      rw [told] at explained
      cases explained <;> rfl

-- One entry is taken off the queue, whatever comes of it; the area in which the system hands over the messages of an
-- entry is searched for the very message that counts.
theorem read_finds (buffer : Bytes) :
    (∀ fragment control rest, Finds buffer fragment control (read buffer (.message fragment control :: rest)) ∧
      (read buffer (.message fragment control :: rest)).reports = rest) ∧
    (∀ control, ControlArea.Fits control →
      ControlArea.search (ControlArea.lay control) (ControlArea.first? (ControlArea.lay control)) =
        extendedError control) ∧
    (∀ errno rest, read buffer (.failure errno :: rest) = ⟨rest, buffer, .error (.system errno)⟩) ∧
    read buffer [] = ⟨[], buffer, .error (.system 11)⟩ := by
  refine ⟨?_, ?_, ?_, rfl⟩
  · intro fragment control rest
    exact ⟨read_message buffer fragment control rest, rfl⟩
  · intro control fits
    exact ControlArea.search_lay fits
  · intro errno rest
    rfl

-- A time stamp in front of two reports, of which the second is too short.
def crowded : List ControlMessage :=
  [⟨1, 29, List.replicate 13 7⟩, ⟨41, 25, [113, 0, 0, 0, 3, 1, 4, 0, 0, 0, 0, 0, 0, 0, 0, 0]⟩, ⟨0, 11, [1, 2, 3]⟩]

theorem read_finds_crowded :
    ControlArea.Fits crowded ∧
      ControlArea.search (ControlArea.lay crowded) (ControlArea.first? (ControlArea.lay crowded)) =
        .ok ⟨113, .icmp6, 1, 4, 0, none⟩ ∧
      (read [0, 0] [.message [5, 6, 7] crowded]).outcome = .ok (⟨113, .icmp6, 1, 4, 0, none⟩, 2) := by
  have fits : ControlArea.Fits crowded := by
    refine ⟨?_, by decide⟩
    intro message member
    have sized : message = crowded[0] ∨ message = crowded[1] ∨ message = crowded[2] := by
      simpa [crowded] using member
    rcases sized with rfl | rfl | rfl <;> exact ⟨by decide, by decide⟩
  exact ⟨fits, (read_finds []).2.1 crowded fits, rfl⟩

end ErrorQueue

end IpTunnel
