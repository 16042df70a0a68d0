import IndoorRobot.FrameSender
import IndoorRobot.OwnedResources

/-!
# Serial ports and their descriptors

`linux_serial_port.cpp`. The programs of the Pi hold several ports at a time and call them in
any order. The kernel's answer to a system call may depend on all the calls before it; `open`
gives out no descriptor that is still open. Then no port ever uses a descriptor that it has
closed or that belongs to another one, and no descriptor is lost.
-/
namespace IndoorRobot

open EventLogs OwnedResources

/-- The fields of `termios2` that `LinuxSerialPort::open` sets. -/
structure Termios2 where
  iflag : UInt32 := 0
  oflag : UInt32 := 0
  cflag : UInt32 := 0
  lflag : UInt32 := 0
  vmin : UInt8 := 0
  vtime : UInt8 := 0
  ispeed : UInt32 := 0
  ospeed : UInt32 := 0
  deriving DecidableEq, Repr

/-- Eight bits, no control of the modem, and the rate as a number: `BOTHER`, `CS8`, `CLOCAL` and
`CREAD`. -/
def Termios2.raw (tty : Termios2) (baudRate : UInt32) : Termios2 :=
  { tty with
    iflag := 0
    oflag := 0
    lflag := 0
    cflag := 0x1000 ||| 0x30 ||| 0x800 ||| 0x80
    ispeed := baudRate
    ospeed := baudRate
    vmin := 1
    vtime := 0 }

/-- What `read` comes back with; no bytes are the end of the file. -/
inductive ReadAnswer where
  | received (count : ℕ)
  | interrupted
  | wouldBlock
  | failed
  deriving DecidableEq, Repr

inductive SystemCall where
  | openDevice (path : String) (fd : ℤ)
  | getAttributes (fd : ℤ) (ok : Bool)
  | setAttributes (fd : ℤ) (tty : Termios2) (ok : Bool)
  | read (fd : ℤ) (capacity : ℕ)
  | write (fd : ℤ) (size : ℕ)
  | poll (fd : ℤ) (watchWrite : Bool) (timeoutMs : ℤ)
  | close (fd : ℤ)
  deriving DecidableEq, Repr

/-- The kernel's answer to the next system call, the time until the call and the time it takes. -/
structure KernelAnswer where
  untilNs : ℕ := 0
  takesNs : ℕ := 0
  fd : ℤ := -1
  ok : Bool := true
  tty : Termios2 := {}
  read : ReadAnswer := .wouldBlock
  write : WriteAnswer := .wouldBlock
  poll : PollAnswer := .timedOut

/-- The ports of a program, with the member `fd_` of each. `baudRate` is the argument of the
latest `open`. -/
structure SerialPorts (ι : Type*) where
  fd : ι → ℤ := fun _ => -1
  baudRate : ι → UInt32 := fun _ => 0
  clock : ℤ := 0
  log : List SystemCall := []

namespace SerialPorts

variable {ι : Type*}

def call (s : SerialPorts ι) (c : SystemCall) : SerialPorts ι := { s with log := s.log ++ [c] }

def isOpen (s : SerialPorts ι) (i : ι) : Bool := decide (0 ≤ s.fd i)

section Methods
variable [DecidableEq ι] (kernel : List SystemCall → KernelAnswer) (i : ι)

def setFd (s : SerialPorts ι) (fd : ℤ) : SerialPorts ι := { s with fd := Function.update s.fd i fd }

def setBaudRate (s : SerialPorts ι) (baudRate : UInt32) : SerialPorts ι :=
  { s with baudRate := Function.update s.baudRate i baudRate }

/-- `LinuxSerialPort::close`, and the destructor. -/
def close (s : SerialPorts ι) : SerialPorts ι :=
  if 0 ≤ s.fd i then (s.call (.close (s.fd i))).setFd i (-1) else s

/-- `LinuxSerialPort::open`. -/
def openPort (path : String) (baudRate : UInt32) (s : SerialPorts ι) : Bool × SerialPorts ι :=
  let s := (s.close i).setBaudRate i baudRate
  if baudRate = 0 then (false, s)
  else
    let fd := (kernel s.log).fd
    let s := (s.call (.openDevice path fd)).setFd i fd
    if fd < 0 then (false, s)
    else
      let got := kernel s.log
      let s := s.call (.getAttributes fd got.ok)
      if ¬ got.ok then (false, s.close i)
      else
        let set := kernel s.log
        let s := s.call (.setAttributes fd (got.tty.raw baudRate) set.ok)
        if ¬ set.ok then (false, s.close i) else (true, s)

/-- The loop of `LinuxSerialPort::read_some`. A call that is still in its loop has no result. -/
def readLoop (capacity : ℕ) : ℕ → SerialPorts ι → Option ℤ × SerialPorts ι
  | 0, s => (none, s)
  | turns + 1, s =>
    let answer := kernel s.log
    let s := s.call (.read (s.fd i) capacity)
    match answer.read with
    | .received count => (if 0 < count then some count else some (-1), s)
    | .interrupted => readLoop capacity turns s
    | .wouldBlock => (some 0, s)
    | .failed => (some (-1), s)

/-- `LinuxSerialPort::read_some`. -/
def readSome (capacity turns : ℕ) (s : SerialPorts ι) : Option ℤ × SerialPorts ι :=
  if s.fd i < 0 then (some (-1), s) else readLoop kernel i capacity turns s

/-- The loop of `LinuxSerialPort::write_some`. -/
def writeLoop (size : ℕ) : ℕ → SerialPorts ι → Option ℤ × SerialPorts ι
  | 0, s => (none, s)
  | turns + 1, s =>
    let answer := kernel s.log
    let s := s.call (.write (s.fd i) size)
    match answer.write with
    | .accepted count => (some count, s)
    | .interrupted => writeLoop size turns s
    | .wouldBlock => (some 0, s)
    | .failed => (some (-1), s)

/-- `LinuxSerialPort::write_some`. -/
def writeSome (size turns : ℕ) (s : SerialPorts ι) : Option ℤ × SerialPorts ι :=
  if s.fd i < 0 then (some (-1), s) else writeLoop kernel i size turns s

/-- The loop of `LinuxSerialPort::wait`. -/
def waitLoop (watchWrite : Bool) (deadline : ℤ) :
    ℕ → SerialPorts ι → Option LinuxSerialPollResult × SerialPorts ι
  | 0, s => (none, s)
  | turns + 1, s =>
    let answer := kernel s.log
    let now := s.clock + answer.untilNs
    if now ≥ deadline then (some {}, { s with clock := now })
    else
      let s := { s.call (.poll (s.fd i) watchWrite (toCInt (ceilMs (deadline - now)))) with
        clock := now + answer.takesNs }
      match answer.poll with
      | .ready revents => (some revents, s)
      | .timedOut => (some {}, s)
      | .interrupted => waitLoop watchWrite deadline turns s
      | .failed => (some { disconnected := true }, s)

/-- `LinuxSerialPort::wait`. -/
def wait (watchWrite : Bool) (timeoutMs : Int32) (turns : ℕ) (s : SerialPorts ι) :
    Option LinuxSerialPollResult × SerialPorts ι :=
  if s.fd i < 0 then (some { disconnected := true }, s)
  else waitLoop kernel i watchWrite (s.clock + timeoutMs.toInt * 1000000) turns s

end Methods

/-- A call of a method, or the time until the next one. -/
inductive Move (ι : Type*) where
  | openPort (i : ι) (path : String) (baudRate : UInt32)
  | close (i : ι)
  | readSome (i : ι) (capacity turns : ℕ)
  | writeSome (i : ι) (size turns : ℕ)
  | wait (i : ι) (watchWrite : Bool) (timeoutMs : Int32) (turns : ℕ)
  | pass (ns : ℕ)

section Runs
variable [DecidableEq ι] (kernel : List SystemCall → KernelAnswer)

def step (s : SerialPorts ι) : Move ι → SerialPorts ι
  | .openPort i path baudRate => (s.openPort kernel i path baudRate).2
  | .close i => s.close i
  | .readSome i capacity turns => (s.readSome kernel i capacity turns).2
  | .writeSome i size turns => (s.writeSome kernel i size turns).2
  | .wait i watchWrite timeoutMs turns => (s.wait kernel i watchWrite timeoutMs turns).2
  | .pass ns => { s with clock := s.clock + ns }

def run (s : SerialPorts ι) (moves : List (Move ι)) : SerialPorts ι := moves.foldl (step kernel) s

end Runs

/-! ### What the calls do to the descriptors -/

/-- The descriptor a call is about. -/
def access : SystemCall → Option (Access ℤ)
  | .openDevice _ fd => if 0 ≤ fd then some (.acquire fd) else none
  | .close fd => some (.release fd)
  | .getAttributes fd _ | .setAttributes fd _ _ | .read fd _ | .write fd _ | .poll fd _ _ =>
    some (.use fd)

/-- The descriptors that are open after the calls. -/
def openDescriptors (log : List SystemCall) : Set ℤ := held (log.filterMap access)

/-- `open` gives out no descriptor that is open. -/
def FreshDescriptors (kernel : List SystemCall → KernelAnswer) : Prop :=
  ∀ log, (kernel log).fd ∉ openDescriptors log

/-- The descriptor of a port. -/
def owner (s : SerialPorts ι) (i : ι) : Option ℤ := if 0 ≤ s.fd i then some (s.fd i) else none

/-- The call leaves the settings of the descriptor as they are. -/
def Keeps (fd : ℤ) (c : SystemCall) : Prop :=
  (∀ path, c ≠ .openDevice path fd) ∧ (∀ tty ok, c ≠ .setAttributes fd tty ok) ∧ c ≠ .close fd

/-- The settings of the descriptor are those of a raw line of this rate. -/
def Configured (log : List SystemCall) (fd : ℤ) (baudRate : UInt32) : Prop :=
  Since (fun _ c => ∃ tty : Termios2, c = .setAttributes fd (tty.raw baudRate) true) (Keeps fd) log

/-- No `poll` waits without a limit. -/
def Bounded (c : SystemCall) : Prop := ∀ fd watchWrite timeoutMs, c = .poll fd watchWrite timeoutMs →
  0 < timeoutMs

/-- Every descriptor belongs to one port, and every port but the one that is being opened is set up. -/
structure Settled (opening : Option ι) (s : SerialPorts ι) : Prop where
  owned : Owned s.owner (s.log.filterMap access)
  bounded : ∀ c ∈ s.log, Bounded c
  configured : ∀ i, opening ≠ some i → 0 ≤ s.fd i → Configured s.log (s.fd i) (s.baudRate i)

variable {s : SerialPorts ι} {opening : Option ι} {i j : ι} {c : SystemCall}

theorem owner_eq (h : 0 ≤ s.fd i) : s.owner i = some (s.fd i) := if_pos h

theorem owner_eq_none (h : ¬ 0 ≤ s.fd i) : s.owner i = none := if_neg h

theorem filterMap_call (s : SerialPorts ι) (c : SystemCall) :
    (s.call c).log.filterMap access = s.log.filterMap access ++ (access c).toList := by
  rw [call, List.filterMap_append]
  cases hc : access c <;> simp [hc]

theorem mem_call {c d : SystemCall} (h : d ∈ (s.call c).log) : d ∈ s.log ∨ d = c := by
  simpa [call] using h

namespace Settled

theorem initial (clock : ℤ) : Settled none ({ clock := clock } : SerialPorts ι) where
  owned := .initial
  bounded := by simp
  configured i _ h := absurd h (show ¬ (0 : ℤ) ≤ -1 by decide)

theorem advance (h : Settled opening s) (clock : ℤ) : Settled opening { s with clock := clock } :=
  ⟨h.owned, h.bounded, h.configured⟩

/-- A call that uses the descriptor of a port and changes no settings. -/
theorem use (h : Settled opening s) (hi : 0 ≤ s.fd i) (hc : access c = some (.use (s.fd i)))
    (hbounded : Bounded c) (hkeeps : ∀ fd, Keeps fd c) : Settled opening (s.call c) where
  owned := by
    rw [filterMap_call, hc]
    exact h.owned.use (owner_eq hi)
  bounded d hd := (mem_call hd).elim (h.bounded d) fun heq => heq ▸ hbounded
  configured j hj hopen := (h.configured j hj hopen).append (by simpa using hkeeps _)

/-- Different ports have different descriptors. -/
theorem fd_ne (h : Settled opening s) (hi : 0 ≤ s.fd i) (hj : 0 ≤ s.fd j) (hne : i ≠ j) :
    s.fd i ≠ s.fd j := by
  intro heq
  refine hne (h.owned.apart i j (s.fd i) (owner_eq hi) ?_)
  rw [owner_eq hj, heq]

theorem failed (h : Settled (some i) s) (hi : ¬ 0 ≤ s.fd i) : Settled none s := by
  refine ⟨h.owned, h.bounded, fun j _ hopen => h.configured j ?_ hopen⟩
  rintro ⟨⟩
  exact hi hopen

theorem setAttributes (h : Settled (some i) s) (hi : 0 ≤ s.fd i) (tty : Termios2) (ok : Bool) :
    Settled (if ok then none else some i)
      (s.call (.setAttributes (s.fd i) (tty.raw (s.baudRate i)) ok)) where
  owned := by
    rw [filterMap_call]
    exact h.owned.use (owner_eq hi)
  bounded d hd := by
    refine (mem_call hd).elim (h.bounded d) ?_
    rintro rfl fd watchWrite timeoutMs hpoll
    cases hpoll
  configured j hj hopen := by
    by_cases heq : j = i
    · subst heq
      cases ok with
      | false => exact absurd rfl hj
      | true => exact since_now ⟨tty, rfl⟩
    · refine (h.configured j (by simpa using Ne.symm heq) hopen).append ?_
      have hne := h.fd_ne hopen hi heq
      simp [Keeps, hne.symm]

variable {kernel : List SystemCall → KernelAnswer}

theorem readLoop (h : Settled none s) (hi : 0 ≤ s.fd i) (capacity turns : ℕ) :
    Settled none (s.readLoop kernel i capacity turns).2 := by
  induction turns generalizing s with
  | zero => exact h
  | succ turns ih =>
    have hread : Settled none (s.call (.read (s.fd i) capacity)) :=
      h.use hi rfl (by simp [Bounded]) (by simp [Keeps])
    rw [SerialPorts.readLoop]
    cases (kernel s.log).read with
    | interrupted => exact ih hread hi
    | _ => exact hread

theorem writeLoop (h : Settled none s) (hi : 0 ≤ s.fd i) (size turns : ℕ) :
    Settled none (s.writeLoop kernel i size turns).2 := by
  induction turns generalizing s with
  | zero => exact h
  | succ turns ih =>
    have hwritten : Settled none (s.call (.write (s.fd i) size)) :=
      h.use hi rfl (by simp [Bounded]) (by simp [Keeps])
    rw [SerialPorts.writeLoop]
    cases (kernel s.log).write with
    | interrupted => exact ih hwritten hi
    | _ => exact hwritten

/-- The time that is left is never more than the time there was. -/
theorem waitLoop (h : Settled none s) (hi : 0 ≤ s.fd i) (watchWrite : Bool) {deadline : ℤ}
    {timeoutMs : Int32} (hdeadline : deadline ≤ s.clock + timeoutMs.toInt * 1000000) (turns : ℕ) :
    Settled none (s.waitLoop kernel i watchWrite deadline turns).2 := by
  induction turns generalizing s with
  | zero => exact h
  | succ turns ih =>
    rw [SerialPorts.waitLoop]
    dsimp only
    split_ifs with hlate
    · exact h.advance _
    · have hpositive : 0 < toCInt (ceilMs (deadline - (s.clock + (kernel s.log).untilNs))) := by
        have hpos : 0 < ceilMs (deadline - (s.clock + (kernel s.log).untilNs)) :=
          FrameSender.ceilMs_pos (by omega)
        have hle : ceilMs (deadline - (s.clock + (kernel s.log).untilNs)) ≤ timeoutMs.toInt :=
          FrameSender.ceilMs_le (by omega)
        have hlt := timeoutMs.toInt_lt
        rwa [FrameSender.toCInt_eq hpos (by omega)]
      have hpolled : Settled none (s.call (.poll (s.fd i) watchWrite
          (toCInt (ceilMs (deadline - (s.clock + (kernel s.log).untilNs)))))) :=
        h.use hi rfl (by rintro _ _ _ ⟨⟩; exact hpositive) (by simp [Keeps])
      have hafter := hpolled.advance (s.clock + (kernel s.log).untilNs + (kernel s.log).takesNs)
      cases (kernel s.log).poll with
      | interrupted =>
        refine ih hafter hi ?_
        dsimp only
        omega
      | _ => exact hafter

variable [DecidableEq ι]

theorem owner_setFd (s : SerialPorts ι) (i : ι) (fd : ℤ) :
    (s.setFd i fd).owner = Function.update s.owner i (if 0 ≤ fd then some fd else none) := by
  funext j
  by_cases hj : j = i
  · subst hj
    simp [owner, setFd]
  · simp [owner, setFd, Function.update_of_ne hj]

theorem setFd_of_ne (s : SerialPorts ι) {i j : ι} (hj : j ≠ i) (fd : ℤ) :
    (s.setFd i fd).fd j = s.fd j :=
  Function.update_of_ne hj ..

/-- The destructor, or `close`. -/
theorem close (h : Settled opening s) (hopening : ∀ j, opening = some j → j = i) :
    Settled none (s.close i) ∧ ¬ 0 ≤ (s.close i).fd i := by
  rw [SerialPorts.close]
  split_ifs with hi
  · have hclosed : ¬ 0 ≤ ((s.call (.close (s.fd i))).setFd i (-1)).fd i := by simp [setFd]
    refine ⟨⟨?_, ?_, ?_⟩, hclosed⟩
    · have hlog : ((s.call (.close (s.fd i))).setFd i (-1)).log.filterMap access =
          s.log.filterMap access ++ (access (.close (s.fd i))).toList := filterMap_call s _
      rw [owner_setFd, hlog]
      exact h.owned.release (owner_eq hi)
    · intro d hd
      refine (mem_call hd).elim (h.bounded d) ?_
      rintro rfl fd watchWrite timeoutMs hpoll
      cases hpoll
    · intro j _ hopen
      have hji : j ≠ i := by
        rintro rfl
        exact hclosed hopen
      rw [setFd_of_ne _ hji] at hopen ⊢
      refine (h.configured j (fun hj => hji (hopening j hj)) hopen).append ?_
      have hne := h.fd_ne hopen hi hji
      simp [Keeps, hne.symm]
  · refine ⟨⟨h.owned, h.bounded, fun j _ hopen => h.configured j ?_ hopen⟩, hi⟩
    rintro hj
    exact hi (hopening j hj ▸ hopen)

/-- The rate of a port that is closed. -/
theorem setBaudRate (h : Settled none s) (hi : ¬ 0 ≤ s.fd i) (baudRate : UInt32) :
    Settled none (s.setBaudRate i baudRate) where
  owned := h.owned
  bounded := h.bounded
  configured j hj hopen := by
    have hji : j ≠ i := by
      rintro rfl
      exact hi hopen
    have hrate : (s.setBaudRate i baudRate).baudRate j = s.baudRate j := Function.update_of_ne hji ..
    rw [hrate]
    exact h.configured j hj hopen

theorem openDevice (h : Settled none s) (hi : ¬ 0 ≤ s.fd i) {fd : ℤ}
    (hfresh : fd ∉ openDescriptors s.log) (path : String) :
    Settled (some i) ((s.call (.openDevice path fd)).setFd i fd) where
  owned := by
    have hlog : ((s.call (.openDevice path fd)).setFd i fd).log.filterMap access =
        s.log.filterMap access ++ (access (.openDevice path fd)).toList := filterMap_call s _
    rw [owner_setFd, hlog, access]
    split_ifs
    · exact h.owned.acquire (owner_eq_none hi) hfresh
    · have hsame : Function.update (s.call (.openDevice path fd)).owner i none = s.owner :=
        Function.update_eq_self_iff.mpr (owner_eq_none hi).symm
      rw [hsame]
      exact (List.append_nil _).symm ▸ h.owned
  bounded d hd := by
    refine (mem_call hd).elim (h.bounded d) ?_
    rintro rfl _ watchWrite timeoutMs hpoll
    cases hpoll
  configured j hj hopen := by
    have hji : j ≠ i := fun heq => hj (heq ▸ rfl)
    rw [setFd_of_ne _ hji] at hopen ⊢
    refine (h.configured j (by simp) hopen).append ?_
    have hne : fd ≠ s.fd j := by
      rintro rfl
      exact hfresh ((h.owned.held _).mpr ⟨j, owner_eq hopen⟩)
    simp [Keeps, hne]

theorem openPort (h : Settled none s) (hkernel : FreshDescriptors kernel) (i : ι) (path : String)
    (baudRate : UInt32) : Settled none (s.openPort kernel i path baudRate).2 := by
  obtain ⟨hclosed, hi⟩ := h.close (i := i) (by simp)
  have hrate := hclosed.setBaudRate hi baudRate
  have hbaudRate : ((s.close i).setBaudRate i baudRate).baudRate i = baudRate :=
    Function.update_self ..
  have hi' : ¬ 0 ≤ ((s.close i).setBaudRate i baudRate).fd i := hi
  rw [SerialPorts.openPort]
  generalize (s.close i).setBaudRate i baudRate = t at hrate hbaudRate hi' ⊢
  have hopened := hrate.openDevice hi' (hkernel t.log) path
  have hfd : ((t.call (.openDevice path (kernel t.log).fd)).setFd i (kernel t.log).fd).fd i =
      (kernel t.log).fd := Function.update_self ..
  have hbaudRate' : ((t.call (.openDevice path (kernel t.log).fd)).setFd i
      (kernel t.log).fd).baudRate i = baudRate := hbaudRate
  dsimp only
  generalize (t.call (.openDevice path (kernel t.log).fd)).setFd i (kernel t.log).fd = q
    at hopened hfd hbaudRate' ⊢
  rw [← hfd, ← hbaudRate']
  have hget (hopen : ¬ q.fd i < 0) :
      Settled (some i) (q.call (.getAttributes (q.fd i) (kernel q.log).ok)) :=
    hopened.use (not_lt.mp hopen) rfl (by simp [Bounded]) (by simp [Keeps])
  have hset (hopen : ¬ q.fd i < 0) (tty : Termios2) (ok : Bool) :=
    (hget hopen).setAttributes (not_lt.mp hopen) tty ok
  have hopening (j : ι) (hj : some i = some j) : j = i := (Option.some.inj hj).symm
  split_ifs with hzero hfailed hgot hok
  · exact hrate
  · exact hopened.failed (not_le.mpr hfailed)
  · have hconfigured := hset hfailed (kernel q.log).tty
      (kernel (q.call (.getAttributes (q.fd i) (kernel q.log).ok)).log).ok
    rw [if_pos hok] at hconfigured
    exact hconfigured
  · have hrefused := hset hfailed (kernel q.log).tty
      (kernel (q.call (.getAttributes (q.fd i) (kernel q.log).ok)).log).ok
    rw [if_neg hok] at hrefused
    exact (hrefused.close hopening).1
  · exact ((hget hfailed).close hopening).1

theorem step (h : Settled none s) (hkernel : FreshDescriptors kernel) (move : Move ι) :
    Settled none (s.step kernel move) := by
  cases move with
  | openPort i path baudRate => exact h.openPort hkernel i path baudRate
  | close i => exact (h.close (by simp)).1
  | readSome i capacity turns =>
    rw [SerialPorts.step, SerialPorts.readSome]
    split_ifs with hi
    · exact h
    · exact h.readLoop (not_lt.mp hi) capacity turns
  | writeSome i size turns =>
    rw [SerialPorts.step, SerialPorts.writeSome]
    split_ifs with hi
    · exact h
    · exact h.writeLoop (not_lt.mp hi) size turns
  | wait i watchWrite timeoutMs turns =>
    rw [SerialPorts.step, SerialPorts.wait]
    split_ifs with hi
    · exact h
    · exact h.waitLoop (not_lt.mp hi) watchWrite le_rfl turns
  | pass ns => exact h.advance _

theorem run (h : Settled none s) (hkernel : FreshDescriptors kernel) (moves : List (Move ι)) :
    Settled none (s.run kernel moves) := by
  induction moves generalizing s with
  | nil => exact h
  | cons move moves ih => exact ih (h.step hkernel move)

end Settled

/-- **Descriptors are owned.** Whatever the kernel answers, and in whatever order a program calls its
ports: every system call is made on a descriptor that is open at that time; what is open belongs to
the ports that are open, to each a descriptor of its own, which has the settings of a raw line
of the rate of the latest `open`; and no `poll` waits without a limit. -/
theorem descriptors_are_owned [DecidableEq ι] (kernel : List SystemCall → KernelAnswer)
    (hkernel : FreshDescriptors kernel) (clock : ℤ) (moves : List (Move ι)) :
    let s : SerialPorts ι := run kernel { clock := clock } moves
    Disciplined (s.log.filterMap access) ∧
      (∀ fd, fd ∈ openDescriptors s.log ↔ ∃ i, s.isOpen i = true ∧ s.fd i = fd) ∧
      (∀ i j, s.isOpen i = true → s.fd i = s.fd j → i = j) ∧
      (∀ i, s.isOpen i = true → Configured s.log (s.fd i) (s.baudRate i)) ∧
      ∀ c ∈ s.log, Bounded c := by
  intro s
  have h : Settled none s := (Settled.initial clock).run hkernel moves
  have hopen (i : ι) : s.isOpen i = true ↔ 0 ≤ s.fd i := decide_eq_true_iff
  refine ⟨h.owned.disciplined, fun fd => ?_, fun i j hi heq => ?_, fun i hi => ?_, h.bounded⟩
  · rw [openDescriptors, h.owned.held]
    refine exists_congr fun i => ?_
    rw [hopen, owner]
    split_ifs with hi
    · rw [Option.some.injEq]
      exact ⟨fun heq => ⟨hi, heq⟩, fun heq => heq.2⟩
    · exact iff_of_false (by simp) fun heq => hi heq.1
  · by_contra hne
    rw [hopen] at hi
    exact h.fd_ne hi (heq ▸ hi) hne heq
  · exact h.configured i (by simp) ((hopen i).mp hi)

/-- A descriptor above all that were given out, the standard ones included. -/
def nextDescriptor (log : List SystemCall) : ℤ :=
  log.foldl (fun next c => match c with
    | .openDevice _ fd => max next (fd + 1)
    | _ => next) 3

theorem lt_nextDescriptor {log : List SystemCall} {fd : ℤ} (h : fd ∈ openDescriptors log) :
    fd < nextDescriptor log := by
  induction log using List.reverseRecOn with
  | nil => cases h
  | append_singleton log c ih =>
    rw [openDescriptors, List.filterMap_append] at h
    rw [nextDescriptor, List.foldl_append]
    cases c with
    | openDevice path opened =>
      have hnext : fd < nextDescriptor log ∨ fd < opened + 1 := by
        simp only [List.filterMap_cons, List.filterMap_nil, access] at h
        split_ifs at h
        · rw [held_concat] at h
          rcases Set.mem_insert_iff.mp h with rfl | hbefore
          · exact .inr (Int.lt_succ fd)
          · exact .inl (ih hbefore)
        · rw [List.append_nil] at h
          exact .inl (ih h)
      exact lt_max_iff.mpr hnext
    | close closed =>
      change fd ∈ held (_ ++ [.release closed]) at h
      rw [held_concat] at h
      exact ih h.1
    | _ =>
      change fd ∈ held (_ ++ [.use _]) at h
      rw [held_concat] at h
      exact ih h

/-- A kernel with devices that work. -/
def workingKernel (log : List SystemCall) : KernelAnswer := { fd := nextDescriptor log }

theorem descriptors_are_owned_two_ports :
    let s : SerialPorts Bool := run workingKernel {} [.openPort false "/dev/ttyAMA0" 420000,
      .openPort true "/dev/ttyACM0" 115200, .wait false false 20 3, .readSome false 64 3, .close false]
    s.fd false = -1 ∧ s.fd true = 4 ∧ 3 ∉ openDescriptors s.log ∧ 4 ∈ openDescriptors s.log ∧
      Configured s.log 4 115200 := by
  intro s
  obtain ⟨-, hheld, -, hconfigured, -⟩ := descriptors_are_owned workingKernel
    (fun log h => lt_irrefl _ (lt_nextDescriptor h)) 0 [.openPort false "/dev/ttyAMA0" 420000,
      .openPort true "/dev/ttyACM0" 115200, .wait false false 20 3, .readSome false 64 3, .close false]
  have hfalse : s.fd false = -1 := rfl
  have htrue : s.fd true = 4 := rfl
  refine ⟨hfalse, htrue, ?_, (hheld 4).mpr ⟨true, rfl, htrue⟩, hconfigured true rfl⟩
  rw [hheld 3]
  rintro ⟨i, -, hi⟩
  cases i with
  | false => exact absurd hi (by decide)
  | true => exact absurd hi (by decide)

end SerialPorts

end IndoorRobot
