import IndoorRobot.ProtocolFrame
import Mathlib.Algebra.Order.Ring.Int

/-!
# Sending a frame over the serial port

`protocol_frame_sender.cpp` with the `wait` and `write_some` of `linux_serial_port.cpp`,
one step for every clock reading and every system call. The operating system answers each
step, and time passes while it does; a `poll` that times out takes at least its timeout.
-/
namespace IndoorRobot

structure LinuxSerialPollResult where
  readable : Bool := false
  writable : Bool := false
  disconnected : Bool := false
  deriving DecidableEq, Repr

/-- What `poll` comes back with; `ready` carries the flags of `revents`. -/
inductive PollAnswer where
  | ready (revents : LinuxSerialPollResult)
  | timedOut
  | interrupted
  | failed
  deriving DecidableEq, Repr

/-- What `write` comes back with, the two errors it is retried for among them. -/
inductive WriteAnswer where
  | accepted (count : ℕ)
  | interrupted
  | wouldBlock
  | failed
  deriving DecidableEq, Repr

/-- The answer to one step: the time it takes and the result of a system call in it. -/
structure SerialAnswer where
  advanceNs : ℕ := 0
  poll : PollAnswer := .timedOut
  write : WriteAnswer := .wouldBlock
  deriving Repr

/-- The arguments of `send_protocol_frame`; the port may have been closed. -/
structure SendCall where
  frame : ProtocolFrame
  timeoutMs : ℤ
  isOpen : Bool := true

/-- Where the call is: before the deadline is set, at the head of the loop, in `wait` before
its deadline is set, at the head of its loop and in `poll`, and in `write_some`. -/
inductive SenderPhase where
  | start
  | check
  | enterWait (timeoutMs : ℤ)
  | wait (deadline : ℤ)
  | poll (deadline timeoutMs : ℤ)
  | write
  | returned (result : Bool)
  deriving DecidableEq, Repr

/-- The variables of the call. `written` holds the bytes the port has accepted. -/
structure FrameSender where
  phase : SenderPhase := .start
  clock : ℤ := 0
  deadline : ℤ := 0
  bytesSent : ℕ := 0
  written : List UInt8 := []
  deriving Repr

/-- `std::chrono::ceil` from nanoseconds to milliseconds. -/
def ceilMs (ns : ℤ) : ℤ := -(-ns / 1000000)

/-- `static_cast<int>`. -/
def toCInt (x : ℤ) : ℤ := x.bmod (2 ^ 32)

namespace FrameSender

/-- The tests of `send_protocol_frame` on the result of `wait`. -/
def afterWait (s : FrameSender) (result : LinuxSerialPollResult) : FrameSender :=
  if result.disconnected then { s with phase := .returned false }
  else if ¬ result.writable then { s with phase := .returned false }
  else { s with phase := .write }

/-- One step of the call. -/
def step (c : SendCall) (a : SerialAnswer) (s : FrameSender) : FrameSender :=
  let image := protocolFrameEncode c.frame
  let now := s.clock + a.advanceNs
  match s.phase with
  | .start =>
    if image.length = 0 then { s with phase := .returned false }
    else { s with clock := now, deadline := now + c.timeoutMs * 1000000, phase := .check }
  | .check =>
    if ¬ s.bytesSent < image.length then { s with phase := .returned true }
    else if now ≥ s.deadline then { s with clock := now, phase := .returned false }
    else { s with clock := now, phase := .enterWait (toCInt (ceilMs (s.deadline - now))) }
  | .enterWait timeoutMs =>
    if ¬ c.isOpen then s.afterWait { disconnected := true }
    else { s with clock := now, phase := .wait (now + timeoutMs * 1000000) }
  | .wait deadline =>
    if now ≥ deadline then ({ s with clock := now }).afterWait {}
    else { s with clock := now, phase := .poll deadline (toCInt (ceilMs (deadline - now))) }
  | .poll deadline timeoutMs =>
    match a.poll with
    | .ready revents => ({ s with clock := now }).afterWait revents
    | .timedOut => ({ s with clock := now + timeoutMs * 1000000 }).afterWait {}
    | .interrupted => { s with clock := now, phase := .wait deadline }
    | .failed => ({ s with clock := now }).afterWait { disconnected := true }
  | .write =>
    if ¬ c.isOpen then { s with phase := .returned false }
    else
      match a.write with
      | .accepted count =>
        let bytes := (image.drop s.bytesSent).take count
        { s with
          clock := now
          bytesSent := s.bytesSent + bytes.length
          written := s.written ++ bytes
          phase := .check }
      | .interrupted => { s with clock := now }
      | .wouldBlock => { s with clock := now, phase := .check }
      | .failed => { s with clock := now, phase := .returned false }
  | .returned _ => s

/-- The call after `n` steps. -/
def run (c : SendCall) (env : ℕ → SerialAnswer) (clock : ℤ) : ℕ → FrameSender
  | 0 => { clock := clock }
  | n + 1 => step c (env n) (run c env clock n)

/-- `wait` reports that the port is disconnected. -/
def Disconnected (c : SendCall) (a : SerialAnswer) (s : FrameSender) : Prop :=
  (∃ timeoutMs, s.phase = .enterWait timeoutMs ∧ c.isOpen = false) ∨
    ∃ deadline timeoutMs, s.phase = .poll deadline timeoutMs ∧
      (a.poll = .failed ∨ ∃ revents, a.poll = .ready revents ∧ revents.disconnected = true)

/-- The deadline is reached, the port is reported disconnected, or `write_some` fails. -/
def FailsFor (c : SendCall) (a : SerialAnswer) (s : FrameSender) : Prop :=
  s.deadline ≤ (s.step c a).clock ∨ Disconnected c a s ∨
    s.phase = .write ∧ (c.isOpen = false ∨ a.write = .failed)

/-- A `poll` comes back before the deadline although the port is neither writable nor
disconnected: there is something to read. -/
def PolledForReading (a : SerialAnswer) (s : FrameSender) : Prop :=
  ∃ deadline timeoutMs revents, s.phase = .poll deadline timeoutMs ∧ a.poll = .ready revents ∧
    revents.writable = false ∧ revents.disconnected = false ∧ s.clock + a.advanceNs < s.deadline

/-- The exact image is written, and failure has a reason. -/
structure SendsExactly (c : SendCall) (env : ℕ → SerialAnswer) (clock : ℤ) : Prop where
  written : ∀ n, (run c env clock n).written <+: protocolFrameEncode c.frame
  result : ∀ n result, (run c env clock n).phase = .returned result →
    (result = true ↔ (run c env clock n).written = protocolFrameEncode c.frame)
  completes : ∀ n, (run c env clock n).written = protocolFrameEncode c.frame →
    (run c env clock (n + 1)).phase = .returned true
  failure : ∀ n, (run c env clock n).phase ≠ .returned false →
    (run c env clock (n + 1)).phase = .returned false → FailsFor c (env n) (run c env clock n)

/-- What is known in each phase. While the frame is incomplete and `wait` runs, its deadline is
not before that of the call. -/
def PhaseSound (c : SendCall) (s : FrameSender) : SenderPhase → Prop
  | .start => s.bytesSent = 0
  | .check => s.deadline ≤ s.clock + c.timeoutMs * 1000000
  | .enterWait timeoutMs =>
    s.bytesSent < (protocolFrameEncode c.frame).length ∧
      s.deadline ≤ s.clock + timeoutMs * 1000000 ∧ timeoutMs ≤ c.timeoutMs
  | .wait deadline =>
    s.bytesSent < (protocolFrameEncode c.frame).length ∧ s.deadline ≤ deadline ∧
      deadline ≤ s.clock + c.timeoutMs * 1000000
  | .poll deadline timeoutMs =>
    s.bytesSent < (protocolFrameEncode c.frame).length ∧ s.deadline ≤ deadline ∧
      deadline ≤ s.clock + timeoutMs * 1000000 ∧ timeoutMs ≤ c.timeoutMs
  | .write =>
    s.bytesSent < (protocolFrameEncode c.frame).length ∧
      s.deadline ≤ s.clock + c.timeoutMs * 1000000
  | .returned result => result = true ↔ s.bytesSent = (protocolFrameEncode c.frame).length

/-- The bytes written are those before `bytes_sent`. -/
structure Sound (c : SendCall) (s : FrameSender) : Prop where
  written : s.written = (protocolFrameEncode c.frame).take s.bytesSent
  sent_le : s.bytesSent ≤ (protocolFrameEncode c.frame).length
  phase : PhaseSound c s s.phase

theorem le_ceilMs (ns : ℤ) : ns ≤ ceilMs ns * 1000000 := by
  rw [ceilMs]
  omega

theorem ceilMs_le {ns ms : ℤ} (h : ns ≤ ms * 1000000) : ceilMs ns ≤ ms := by
  rw [ceilMs]
  omega

theorem ceilMs_pos {ns : ℤ} (h : 0 < ns) : 0 < ceilMs ns := by
  rw [ceilMs]
  omega

theorem toCInt_eq {x : ℤ} (hpos : 0 < x) (hlt : x < 2 ^ 31) : toCInt x = x := by
  rw [toCInt, Int.bmod_def]
  omega

variable {c : SendCall} {s : FrameSender}

theorem protocolFrameEncode_pos {f : ProtocolFrame}
    (h : f.payloadLength ≤ ProtocolFrameFormat.maxPayloadSize) : 0 < (protocolFrameEncode f).length := by
  rw [protocolFrameEncode_length f h]
  omega

/-- The call goes on writing, or it ends with an incomplete frame. -/
theorem Sound.afterWait (hwritten : s.written = (protocolFrameEncode c.frame).take s.bytesSent)
    (hless : s.bytesSent < (protocolFrameEncode c.frame).length)
    (result : LinuxSerialPollResult) (hdeadline : result.writable = true →
      s.deadline ≤ s.clock + c.timeoutMs * 1000000) : Sound c (s.afterWait result) := by
  rw [FrameSender.afterWait]
  split_ifs with hdisconnected hwritable
  · exact ⟨hwritten, hless.le, by simp [PhaseSound, hless.ne]⟩
  · exact ⟨hwritten, hless.le, hless, hdeadline hwritable⟩
  · exact ⟨hwritten, hless.le, by simp [PhaseSound, hless.ne]⟩

/-- The timeout handed to `wait` and `poll` is the rest of the time, rounded up. -/
theorem timeout_bounds {deadline now limit : ℤ} (hnow : now < deadline)
    (hlimit : deadline ≤ now + limit * 1000000) (hfits : limit < 2 ^ 31) :
    deadline ≤ now + toCInt (ceilMs (deadline - now)) * 1000000 ∧
      toCInt (ceilMs (deadline - now)) ≤ limit := by
  have hup := le_ceilMs (deadline - now)
  have hpos : 0 < ceilMs (deadline - now) := ceilMs_pos (by omega)
  have hle : ceilMs (deadline - now) ≤ limit := ceilMs_le (by omega)
  rw [toCInt_eq hpos (by omega)]
  constructor <;> omega

theorem Sound.check_step (hfits : c.timeoutMs < 2 ^ 31) (h : Sound c s) (hcase : s.phase = .check)
    (a : SerialAnswer) : Sound c (s.step c a) := by
  have hdeadline : s.deadline ≤ s.clock + c.timeoutMs * 1000000 := by
    simpa [hcase, PhaseSound] using h.phase
  simp only [FrameSender.step, hcase]
  split_ifs with hless hlate
  · exact ⟨h.written, h.sent_le, by simp [PhaseSound, hless.ne]⟩
  · obtain ⟨hcovers, hbound⟩ := timeout_bounds (Int.not_le.mp hlate)
      (hdeadline.trans (by omega)) hfits
    exact ⟨h.written, h.sent_le, hless, hcovers, hbound⟩
  · have hall : s.bytesSent = (protocolFrameEncode c.frame).length :=
      le_antisymm h.sent_le (Nat.not_lt.mp hless)
    exact ⟨h.written, h.sent_le, by simp [PhaseSound, hall]⟩

theorem Sound.poll_step (h : Sound c s) {deadline timeoutMs : ℤ}
    (hcase : s.phase = .poll deadline timeoutMs) (a : SerialAnswer) : Sound c (s.step c a) := by
  have hphase := h.phase
  rw [hcase] at hphase
  obtain ⟨hless, hcovers, hlimit, hbound⟩ := hphase
  cases hpoll : a.poll with
  | ready revents =>
    simp only [FrameSender.step, hcase, hpoll]
    apply Sound.afterWait
    · exact h.written
    · exact hless
    · intro _
      simp only
      omega
  | timedOut =>
    simp only [FrameSender.step, hcase, hpoll]
    apply Sound.afterWait
    · exact h.written
    · exact hless
    · simp
  | interrupted =>
    simp only [FrameSender.step, hcase, hpoll]
    refine ⟨h.written, h.sent_le, hless, hcovers, ?_⟩
    simp only
    omega
  | failed =>
    simp only [FrameSender.step, hcase, hpoll]
    apply Sound.afterWait
    · exact h.written
    · exact hless
    · simp

/-- The port accepts the next bytes of the image, or none. -/
theorem Sound.write_step (h : Sound c s) (hcase : s.phase = .write) (a : SerialAnswer) :
    Sound c (s.step c a) := by
  have hphase := h.phase
  rw [hcase] at hphase
  obtain ⟨hless, hdeadline⟩ := hphase
  have hfailed : ∀ clock, Sound c { s with clock := clock, phase := .returned false } :=
    fun clock => ⟨h.written, h.sent_le, by simp [PhaseSound, hless.ne]⟩
  have hchecks : s.deadline ≤ s.clock + a.advanceNs + c.timeoutMs * 1000000 := by omega
  by_cases hopen : c.isOpen = true
  · cases hwrite : a.write with
    | accepted count =>
      simp only [FrameSender.step, hcase, hopen, hwrite, not_true_eq_false, if_false]
      refine ⟨?_, ?_, hchecks⟩
      · simp only [h.written]
        rw [List.take_add, List.length_take, ← List.take_eq_take_min]
      · simp only [List.length_take, List.length_drop]
        omega
    | interrupted =>
      simp only [FrameSender.step, hcase, hopen, hwrite, not_true_eq_false, if_false]
      exact ⟨h.written, h.sent_le, hless, hchecks⟩
    | wouldBlock =>
      simp only [FrameSender.step, hcase, hopen, hwrite, not_true_eq_false, if_false]
      exact ⟨h.written, h.sent_le, hchecks⟩
    | failed =>
      simp only [FrameSender.step, hcase, hopen, hwrite, not_true_eq_false, if_false]
      exact hfailed _
  · simp only [FrameSender.step, hcase, hopen]
    exact hfailed s.clock

theorem Sound.step (hlength : c.frame.payloadLength ≤ ProtocolFrameFormat.maxPayloadSize)
    (hfits : c.timeoutMs < 2 ^ 31) (h : Sound c s) (a : SerialAnswer) : Sound c (s.step c a) := by
  have hphase := h.phase
  have hpos := protocolFrameEncode_pos hlength
  cases hcase : s.phase with
  | start =>
    simp only [FrameSender.step, hcase, hpos.ne', if_false]
    exact ⟨h.written, h.sent_le, le_refl _⟩
  | check => exact h.check_step hfits hcase a
  | enterWait timeoutMs =>
    rw [hcase] at hphase
    obtain ⟨hless, hcovers, hbound⟩ := hphase
    simp only [FrameSender.step, hcase]
    split_ifs
    · exact ⟨h.written, h.sent_le, hless, by simp only; omega, by simp only; omega⟩
    · refine Sound.afterWait h.written hless _ ?_
      simp
  | wait deadline =>
    rw [hcase] at hphase
    obtain ⟨hless, hcovers, hlimit⟩ := hphase
    simp only [FrameSender.step, hcase]
    split_ifs with hlate
    · apply Sound.afterWait
      · exact h.written
      · exact hless
      · simp
    · obtain ⟨hrest, hbound⟩ := timeout_bounds (Int.not_le.mp hlate)
        (hlimit.trans (by omega)) hfits
      exact ⟨h.written, h.sent_le, hless, hcovers, hrest, hbound⟩
  | poll deadline timeoutMs => exact h.poll_step hcase a
  | write => exact h.write_step hcase a
  | returned result => simpa only [FrameSender.step, hcase] using h

theorem afterWait_returned {result : LinuxSerialPollResult}
    (h : (s.afterWait result).phase = .returned false) :
    result.disconnected = true ∨ result.disconnected = false ∧ result.writable = false := by
  rw [afterWait] at h
  split_ifs at h with hdisconnected hwritable
  · exact .inl hdisconnected
  · exact .inr ⟨by simpa using hdisconnected, by simpa using hwritable⟩

@[simp] theorem afterWait_clock (result : LinuxSerialPollResult) :
    (s.afterWait result).clock = s.clock := by
  rw [afterWait]
  split_ifs <;> rfl

/-- The call can fail in `poll` for its two reasons, or because there is something to read. -/
theorem poll_failure (h : Sound c s) (a : SerialAnswer) {deadline timeoutMs : ℤ}
    (hcase : s.phase = .poll deadline timeoutMs) (hfailed : (s.step c a).phase = .returned false) :
    FailsFor c a s ∨ PolledForReading a s := by
  have hphase := h.phase
  rw [hcase] at hphase
  obtain ⟨-, hcovers, hlimit, -⟩ := hphase
  cases hpoll : a.poll with
  | ready revents =>
    by_cases hlate : s.deadline ≤ s.clock + a.advanceNs
    · left
      left
      simpa [step, hcase, hpoll] using hlate
    · simp only [step, hcase, hpoll] at hfailed
      rcases afterWait_returned hfailed with hdisconnected | ⟨hdisconnected, hwritable⟩
      · exact .inl (.inr (.inl (.inr ⟨deadline, timeoutMs, hcase, .inr ⟨revents, hpoll, hdisconnected⟩⟩)))
      · exact .inr ⟨deadline, timeoutMs, revents, hcase, hpoll, hwritable, hdisconnected,
          Int.not_le.mp hlate⟩
  | timedOut =>
    left
    left
    simp only [step, hcase, hpoll, afterWait_clock]
    omega
  | interrupted => simp [step, hcase, hpoll] at hfailed
  | failed => exact .inl (.inr (.inl (.inr ⟨deadline, timeoutMs, hcase, .inl hpoll⟩)))

theorem failure_cases (hlength : c.frame.payloadLength ≤ ProtocolFrameFormat.maxPayloadSize)
    (h : Sound c s) (a : SerialAnswer) (hrunning : s.phase ≠ .returned false)
    (hfailed : (s.step c a).phase = .returned false) : FailsFor c a s ∨ PolledForReading a s := by
  have hphase := h.phase
  have hpos := protocolFrameEncode_pos hlength
  cases hcase : s.phase with
  | start => simp [step, hcase, hpos.ne'] at hfailed
  | check =>
    simp only [step, hcase] at hfailed
    split_ifs at hfailed with hless hlate
    · left
      left
      simp [step, hcase, hless, hlate]
    · simp at hfailed
  | enterWait timeoutMs =>
    cases hopen : c.isOpen with
    | false => exact .inl (.inr (.inl (.inl ⟨timeoutMs, hcase, hopen⟩)))
    | true => simp [step, hcase, hopen] at hfailed
  | wait deadline =>
    rw [hcase] at hphase
    obtain ⟨-, hcovers, -⟩ := hphase
    by_cases hlate : deadline ≤ s.clock + a.advanceNs
    · left
      left
      simpa [step, hcase, hlate] using hcovers.trans hlate
    · simp [step, hcase, hlate] at hfailed
  | poll deadline timeoutMs => exact poll_failure h a hcase hfailed
  | write =>
    cases hopen : c.isOpen with
    | false => exact .inl (.inr (.inr ⟨hcase, .inl hopen⟩))
    | true =>
      cases hwrite : a.write with
      | failed => exact .inl (.inr (.inr ⟨hcase, .inr hwrite⟩))
      | accepted count => simp [step, hcase, hopen, hwrite] at hfailed
      | interrupted => simp [step, hcase, hopen, hwrite] at hfailed
      | wouldBlock => simp [step, hcase, hopen, hwrite] at hfailed
  | returned result =>
    simp only [step, hcase] at hfailed
    exact absurd (hcase.trans hfailed) hrunning

/-- A `poll` for reading ends the call, without any of the reasons. -/
theorem PolledForReading.fails {a : SerialAnswer} (h : PolledForReading a s) :
    s.phase ≠ .returned false ∧ (s.step c a).phase = .returned false ∧ ¬ FailsFor c a s := by
  obtain ⟨deadline, timeoutMs, revents, hcase, hpoll, hwritable, hdisconnected, hearly⟩ := h
  refine ⟨by simp [hcase], by simp [step, hcase, hpoll, afterWait, hwritable, hdisconnected], ?_⟩
  rintro (hlate | (⟨t, henter, -⟩ | ⟨d, t, -, hfailed | ⟨r, hready, hr⟩⟩) | ⟨hwrite, -⟩)
  · simp only [step, hcase, hpoll, afterWait_clock] at hlate
    omega
  · simp [hcase] at henter
  · simp [hpoll] at hfailed
  · obtain rfl : revents = r := by simpa [hpoll] using hready
    simp [hdisconnected] at hr
  · simp [hcase] at hwrite

theorem run_sound (env : ℕ → SerialAnswer) (clock : ℤ)
    (hlength : c.frame.payloadLength ≤ ProtocolFrameFormat.maxPayloadSize)
    (hfits : c.timeoutMs < 2 ^ 31) (n : ℕ) : Sound c (run c env clock n) := by
  induction n with
  | zero => exact ⟨by simp [run], Nat.zero_le _, rfl⟩
  | succ n ih => exact ih.step hlength hfits (env n)

/-- All bytes are accepted exactly if the counter says so. -/
theorem Sound.written_eq_iff (h : Sound c s) :
    s.written = protocolFrameEncode c.frame ↔
      s.bytesSent = (protocolFrameEncode c.frame).length := by
  rw [h.written]
  constructor
  · intro hall
    have hlength := congrArg List.length hall
    rw [List.length_take] at hlength
    have hle := h.sent_le
    omega
  · intro hall
    rw [hall, List.take_length]

/-- Once all bytes are accepted, the next test of the loop ends the call. -/
theorem Sound.completes (hlength : c.frame.payloadLength ≤ ProtocolFrameFormat.maxPayloadSize)
    (h : Sound c s) (a : SerialAnswer) (hall : s.written = protocolFrameEncode c.frame) :
    (s.step c a).phase = .returned true := by
  have hphase := h.phase
  have hpos := protocolFrameEncode_pos hlength
  have hsent := h.written_eq_iff.mp hall
  cases hcase : s.phase with
  | start =>
    rw [hcase] at hphase
    have hzero : s.bytesSent = 0 := hphase
    omega
  | check => simp [FrameSender.step, hcase, hsent]
  | enterWait timeoutMs =>
    rw [hcase] at hphase
    exact absurd hsent hphase.1.ne
  | wait deadline =>
    rw [hcase] at hphase
    exact absurd hsent hphase.1.ne
  | poll deadline timeoutMs =>
    rw [hcase] at hphase
    exact absurd hsent hphase.1.ne
  | write =>
    rw [hcase] at hphase
    exact absurd hsent hphase.1.ne
  | returned result =>
    rw [hcase] at hphase
    have hresult : result = true := hphase.mpr hsent
    simp only [FrameSender.step, hcase, hresult]

/-- The call does what it is for exactly if no `poll` before the deadline comes back for reading
alone. -/
theorem sends_exactly_iff (c : SendCall) (env : ℕ → SerialAnswer) (clock : ℤ)
    (hlength : c.frame.payloadLength ≤ ProtocolFrameFormat.maxPayloadSize)
    (hfits : c.timeoutMs < 2 ^ 31) :
    SendsExactly c env clock ↔ ∀ n, ¬ PolledForReading (env n) (run c env clock n) := by
  have hsound := fun n => run_sound env clock hlength hfits n
  constructor
  · intro h n hread
    obtain ⟨hrunning, hfailed, hreasons⟩ := hread.fails (c := c)
    exact hreasons (h.failure n hrunning hfailed)
  · intro h
    refine ⟨fun n => ?_, fun n result hreturned => ?_, fun n hall => ?_, fun n hrunning hfailed => ?_⟩
    · rw [(hsound n).written]
      exact List.take_prefix _ _
    · have hphase := (hsound n).phase
      rw [hreturned] at hphase
      rw [(hsound n).written_eq_iff]
      exact hphase
    · exact (hsound n).completes hlength (env n) hall
    · exact (failure_cases hlength (hsound n) (env n) hrunning hfailed).resolve_right (h n)

/-- The port that takes everything at once. -/
def readyPort (_ : ℕ) : SerialAnswer :=
  { poll := .ready { writable := true }, write := .accepted 74 }

/-- A frame of ten bytes on a port that is always writable. -/
theorem sends_exactly_iff_ready_port :
    ({} : ProtocolFrame).payloadLength ≤ ProtocolFrameFormat.maxPayloadSize ∧ (100 : ℤ) < 2 ^ 31 ∧
      SendsExactly { frame := {}, timeoutMs := 100 } readyPort 0 := by
  refine ⟨by decide, by decide, (sends_exactly_iff _ _ _ (by decide) (by decide)).mpr ?_⟩
  rintro n ⟨deadline, timeoutMs, revents, -, hpoll, hwritable, -⟩
  obtain rfl : ({ writable := true } : LinuxSerialPollResult) = revents := by
    simpa [readyPort] using hpoll
  simp at hwritable

/-- The port that has something to read and no room to write. -/
def busyPort (_ : ℕ) : SerialAnswer := { poll := .ready { readable := true } }

/-- The call gives up at once, 100 ms before its deadline and with the port connected. -/
theorem busy_port_fails_early :
    ¬ SendsExactly { frame := {}, timeoutMs := 100 } busyPort 0 := by
  intro h
  have hlength : (protocolFrameEncode {}).length = 10 :=
    protocolFrameEncode_length {} (by decide)
  have hrun : run { frame := {}, timeoutMs := 100 } busyPort 0 4 =
      { phase := .poll 100000000 100, deadline := 100000000 } := by
    simp [run, step, busyPort, hlength, ceilMs, toCInt]
  have hread : PolledForReading (busyPort 4) (run { frame := {}, timeoutMs := 100 } busyPort 0 4) := by
    rw [hrun]
    exact ⟨_, _, _, rfl, rfl, rfl, rfl, by decide⟩
  obtain ⟨hrunning, hfailed, hreasons⟩ := hread.fails (c := { frame := {}, timeoutMs := 100 })
  exact hreasons (h.failure 4 hrunning hfailed)

end FrameSender

end IndoorRobot
