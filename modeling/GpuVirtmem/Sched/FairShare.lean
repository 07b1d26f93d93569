import GpuVirtmem.Sched.Table

/-!
# The listeners of the fair-share scheduler (`l2scheduler/fair_share_sched.c`)

Each GPU has a listener, which handles one message of its FIFO after the other. What it makes known
to clients, on their FIFOs and by signals, is the list of its effects.

A listener's step is a function of the table and the message, with the answer of the client as a
further argument where the listener asks for one. The messages at the end are those that the
functions of `libl2scheduler.c` write; some of them leave fields unset, and these stay open.
-/

namespace GpuVirtmem.Sched

/-- `process_credit_data`. -/
structure ProcessCreditData where
  pid : Nat
  shareUnit : UInt64
  action : Nat
  appType : Int32
  gpuid : Nat
  executionTime : Timeval
  deriving DecidableEq

/-- `ADD_Q`. -/
def addQ : Nat := 10

/-- `REM_Q`. -/
def remQ : Nat := 11

/-- `NOTIFY_SCHED`. -/
def notifySched : Nat := 12

/-- `GET_SIGNUM`. -/
def getSignum : Nat := 13

/-- `GET_PRIORITY`. -/
def getPriority : Nat := 14

/-- `GET_L2_DATA`. -/
def getL2Data : Nat := 15

/-- `SIGSCHED`, the first real-time signal. -/
def sigsched : Int32 := 34

/-- `SIGALRM`. -/
def sigalrm : Int32 := 14

/-- The FIFOs between a client and its listener, each named after the process id. -/
inductive Fifo
  | clientWritePath (pid : Nat)
  | clientReadPath (pid : Nat)
  | clientSiggetPath (pid : Nat)
  deriving DecidableEq

/-- What one `write` to a client carries. -/
inductive Content
  | int (value : Int32)
  | data (pcd : ProcessCreditData)
  deriving DecidableEq

/-- What a listener does that a client can see. -/
inductive Effect
  | write (fifo : Fifo) (content : Content)
  | sigqueue (pid : Nat) (signum data : Int32)
  | unlink (fifo : Fifo)
  deriving DecidableEq

/-- `already_added`. -/
def alreadyAdded (d : SchedulerData) (pcd : ProcessCreditData) : Bool :=
  (d.findSlot fun e => e.processList == pcd.pid).isSome

/-- `fs_register_process`. -/
def fsRegisterProcess (d : SchedulerData) (processId : Nat) (signum appType : Int32) (gpuid : Nat)
    (shareUnit : Int32) : SchedulerData :=
  let i := d.pollingThreadCount
  let registered := d.set i { d.entry i with
    processList := processId, shareUnit := shareUnit.toInt64.toUInt64, signalNum := signum,
    state := .procActive, appType := appType, penaltyEpochs := 0, gpuBinding := gpuid }
  { registered with pollingThreadCount := nextSlot i }

/-- The loop of `REM_Q`: the first slot of the process on the listener's GPU is freed. -/
def remProcess (d : SchedulerData) (gpuid pid : Nat) (freed : Entry → Entry) : SchedulerData :=
  match d.findSlot fun e => pid == e.processList && gpuid == e.gpuBinding with
  | some i => d.set i (freed (d.entry i))
  | none => d

/-- A slot that `fs_listen_thread` frees. -/
def Entry.fsFreed (e : Entry) : Entry :=
  { e with processList := invalidProceess, state := .procInactive }

/-- `fs_listen_thread` before it opens its FIFO. -/
def fsListenStart (d : SchedulerData) : SchedulerData :=
  d.mapEntries fun e => { e with state := .procInactive }

/-- What `fs_listen_thread` of GPU `gpuid` does with one message; `err` is what the client answers
to the signal number. -/
def fsListen (gpuid : Nat) (d : SchedulerData) (pcd : ProcessCreditData) (err : Int32) :
    SchedulerData × List Effect :=
  if pcd.action = addQ ∧ alreadyAdded d pcd = false then
    let reply := Effect.write (.clientReadPath pcd.pid) (.int sigsched)
    if err = 0 then
      (fsRegisterProcess d pcd.pid sigsched pcd.appType pcd.gpuid pcd.shareUnit.toUInt32.toInt32,
        [reply, .sigqueue pcd.pid sigalrm sigsched])
    else (d, [reply])
  else if pcd.action = remQ then
    (remProcess d gpuid pcd.pid Entry.fsFreed,
      [.unlink (.clientWritePath pcd.pid), .unlink (.clientReadPath pcd.pid)])
  else (d, [])

/-- The slots of `Scheduler_Data` when `fs_start_scheduler` creates its threads. -/
def fsStartScheduler : SchedulerData :=
  staticData.mapEntries fun e => { e with state := .procInactive }

/-! ## The message a client writes (`backend/libl2scheduler.c`) -/

/-- The message of `fs_add_queue`; `execution_time` is not set. -/
def fsAddQueue (processId gpuid : Nat) (appType share : Int32) (unset : Timeval) :
    ProcessCreditData :=
  { pid := processId, shareUnit := share.toInt64.toUInt64, action := addQ, appType := appType,
    gpuid := gpuid, executionTime := unset }

/-- The message of `fs_rem_queue`, which sets two fields of its structure. -/
def fsRemQueue (pid : Nat) (unset : ProcessCreditData) : ProcessCreditData :=
  { unset with pid := pid, action := remQ }

/-- The message of `fs_get_RTsignal`, which sets two fields of its structure. -/
def fsGetRTsignal (pid : Nat) (unset : ProcessCreditData) : ProcessCreditData :=
  { unset with pid := pid, action := getSignum }

section

variable {d : SchedulerData} {pcd : ProcessCreditData} {gpuid pid : Nat} {i j : Slot}
  {freed : Entry → Entry} {signum appType share : Int32}

/-- The test that comes before a registration looks for the process in all slots, on every GPU. -/
theorem alreadyAdded_iff : alreadyAdded d pcd = true ↔ ∃ i, (d.entry i).processList = pcd.pid := by
  unfold alreadyAdded
  rw [SchedulerData.findSlot_isSome]
  simp only [beq_iff_eq]

/-- A process that is not found has no slot at all. -/
theorem alreadyAdded_eq_false :
    alreadyAdded d pcd = false ↔ ∀ i, (d.entry i).processList ≠ pcd.pid := by
  rw [← Bool.not_eq_true, alreadyAdded_iff, not_exists]

/-- A registration writes the slot of the counter and no other. -/
theorem fsRegisterProcess_entry_of_ne (h : j ≠ d.pollingThreadCount) :
    (fsRegisterProcess d pid signum appType gpuid share).entry j = d.entry j :=
  SchedulerData.set_entry_of_ne h

/-- The process has that slot afterwards, whoever had it before: the counter is not asked whether
its slot is free. -/
@[simp] theorem fsRegisterProcess_processList :
    ((fsRegisterProcess d pid signum appType gpuid share).entry
      d.pollingThreadCount).processList = pid := by
  simp [fsRegisterProcess]

/-- `REM_Q` frees one slot of the process on the GPU, or finds none and changes nothing. -/
theorem remProcess_cases (d : SchedulerData) (gpuid pid : Nat) (freed : Entry → Entry) :
    (∃ i, (d.entry i).processList = pid ∧ (d.entry i).gpuBinding = gpuid ∧
      remProcess d gpuid pid freed = d.set i (freed (d.entry i))) ∨
    ((∀ i, (d.entry i).processList = pid → (d.entry i).gpuBinding ≠ gpuid) ∧
      remProcess d gpuid pid freed = d) := by
  unfold remProcess
  cases hf : d.findSlot fun e => pid == e.processList && gpuid == e.gpuBinding with
  | some i =>
    have hi := SchedulerData.findSlot_holds hf
    rw [Bool.and_eq_true, beq_iff_eq, beq_iff_eq] at hi
    exact .inl ⟨i, hi.1.symm, hi.2.symm, rfl⟩
  | none =>
    refine .inr ⟨?_, rfl⟩
    intro i hpid hgpu
    have hi := SchedulerData.findSlot_eq_none.mp hf i
    simp [hpid, hgpu] at hi

/-- A slot that is freed does not move the counter back. -/
@[simp] theorem remProcess_pollingThreadCount :
    (remProcess d gpuid pid freed).pollingThreadCount = d.pollingThreadCount := by
  obtain ⟨i, _, _, h⟩ | ⟨_, h⟩ := remProcess_cases d gpuid pid freed
  · rw [h, SchedulerData.set_pollingThreadCount]
  · rw [h]

/-- What the listener does with a message: the effects are fixed by the branch it takes. Later
results about replies, slots and the counter split on this and do not look at the branches again. -/
theorem fsListen_cases (gpuid : Nat) (d : SchedulerData) (pcd : ProcessCreditData) (err : Int32) :
    (pcd.action = addQ ∧ alreadyAdded d pcd = false ∧ err = 0 ∧
      fsListen gpuid d pcd err =
        (fsRegisterProcess d pcd.pid sigsched pcd.appType pcd.gpuid pcd.shareUnit.toUInt32.toInt32,
          [.write (.clientReadPath pcd.pid) (.int sigsched),
            .sigqueue pcd.pid sigalrm sigsched])) ∨
    (pcd.action = addQ ∧ alreadyAdded d pcd = false ∧ err ≠ 0 ∧
      fsListen gpuid d pcd err = (d, [.write (.clientReadPath pcd.pid) (.int sigsched)])) ∨
    (pcd.action = remQ ∧
      fsListen gpuid d pcd err =
        (remProcess d gpuid pcd.pid Entry.fsFreed,
          [.unlink (.clientWritePath pcd.pid), .unlink (.clientReadPath pcd.pid)])) ∨
    (¬ (pcd.action = addQ ∧ alreadyAdded d pcd = false) ∧ pcd.action ≠ remQ ∧
      fsListen gpuid d pcd err = (d, [])) := by
  unfold fsListen
  by_cases hadd : pcd.action = addQ ∧ alreadyAdded d pcd = false
  · rw [if_pos hadd]
    by_cases herr : err = 0
    · rw [if_pos herr]
      exact .inl ⟨hadd.1, hadd.2, herr, rfl⟩
    · rw [if_neg herr]
      exact .inr (.inl ⟨hadd.1, hadd.2, herr, rfl⟩)
  · rw [if_neg hadd]
    by_cases hrem : pcd.action = remQ
    · rw [if_pos hrem]
      exact .inr (.inr (.inl ⟨hrem, rfl⟩))
    · rw [if_neg hrem]
      exact .inr (.inr (.inr ⟨hadd, hrem, rfl⟩))

/-- A process that has no slot gets one, where its handshake succeeds: the client answers 0 to the
number of the signal it is told. -/
theorem fsListen_new (gpuid : Nat) (haction : pcd.action = addQ)
    (hnew : alreadyAdded d pcd = false) :
    (fsListen gpuid d pcd 0).1 = fsRegisterProcess d pcd.pid sigsched pcd.appType pcd.gpuid
      pcd.shareUnit.toUInt32.toInt32 := by
  unfold fsListen
  rw [if_pos ⟨haction, hnew⟩, if_pos rfl]

theorem setWidth_signExtend (b : BitVec 32) : (b.signExtend 64).setWidth 32 = b := by
  ext i hi
  have hi' : i < 64 := by omega
  rw [BitVec.getElem_setWidth, BitVec.getLsbD_signExtend]
  simp [hi, hi']

/-- A share survives the way from `fs_add_queue` to `fs_register_process`. It is written to a field
of another type and read back from it, so that this is not by itself clear. -/
theorem share_kept (share : Int32) : share.toInt64.toUInt64.toUInt32.toInt32 = share := by
  apply Int32.toBitVec_inj.mp
  exact setWidth_signExtend share.toBitVec

end

end GpuVirtmem.Sched
