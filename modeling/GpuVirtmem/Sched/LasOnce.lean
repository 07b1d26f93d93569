import GpuVirtmem.Sched.LasTalk

/-!
# Processes that set their device once

What a process goes through that asks to be added at most once, to a GPU that has a listener: until
a listener has taken its message it has no slot, so that its message is not refused.

The invariant is of the process's part alone (`Once`), on top of what `LasTalk` says of any process.
It is used for one thing: that a message with which such a process asks to be added comes to a
listener before the process has a slot, and is not refused.
-/

namespace GpuVirtmem.Sched.LasNode

open Lib

/-- The GPUs that a client sets as its device. -/
def devices (requests : List Request) : List Nat :=
  requests.filterMap fun
    | .setDevice gpuid .. => some gpuid
    | .ignored | .other _ => none

/-- The client sets its device at most once, to a GPU that has a listener. -/
def SetsOnce (requests : List Request) : Prop :=
  devices requests = [] ∨ ∃ g, g < numGpus ∧ devices requests = [g]

/-- The process is in `las_add_queue`. -/
def Place.adds : Place → Bool
  | .calling (.addQueue ..) _ => true
  | _ => false

/-- The way of a process that sets its device at most once. -/
inductive Once (v : Part) : Prop
  | free (hdevices : devices v.client.requests = []) (hplace : v.client.place.adds = false)
  | first {g : Nat} (hdevices : devices v.client.requests = [g]) (hg : g < numGpus)
      (hplace : v.client.place = .looping ∨ v.client.place = .receiving)
      (hindex : v.client.index = none) (hgpu : v.client.runningGpu = none)
      (hnew : v.listed = false)
  | adding {g : Nat} {appType : Int32} {elapsed : Timeval}
      (hdevices : devices v.client.requests = []) (hg : g < numGpus)
      (hplace : v.client.place = .calling (.addQueue g appType elapsed) .p ∨
        v.client.place = .calling (.addQueue g appType elapsed) .write)
      (hnew : v.listed = false)
  | asked {gpuid : Nat} {appType : Int32} {elapsed : Timeval} {g : Nat} {pcd : ProcessCreditData}
      (hdevices : devices v.client.requests = [])
      (hplace : v.client.place.awaits = some (.addQueue gpuid appType elapsed))
      (hasked : v.asked = asking g pcd) (hnew : v.listed = false)
  | answered {gpuid : Nat} {appType : Int32} {elapsed : Timeval}
      (hdevices : devices v.client.requests = [])
      (hplace : v.client.place.awaits = some (.addQueue gpuid appType elapsed))
      (hanswer : (∃ g h, v.handling = working g h) ∨ v.client.readPath ≠ [])

section

variable {pid g gpuid : Nat} {c c' : Client} {v v' : Part} {call : Call} {elapsed : Timeval}
  {device : Option (Nat × Int32)}

/-! ## Who sets its device once -/

/-- Who waits for the answer to a registration is in `las_add_queue`. -/
theorem adds_of_awaits {appType : Int32}
    (h : c.place.awaits = some (.addQueue gpuid appType elapsed)) : c.place.adds = true := by
  unfold Place.awaits at h
  split at h
  · next hplace =>
    rw [hplace]
    rfl
  · next hplace =>
    rw [hplace]
    rfl
  · cases h
  · cases h

/-- The execution of a request takes none of those to come. -/
theorem Client.executed_requests : (c.executed elapsed device).requests = c.requests := by
  have hserved : (c.served device).requests = c.requests := by
    cases device with
    | none => rfl
    | some d => rfl
  obtain ⟨g, -, h⟩ | ⟨-, h⟩ := enter_cases c (.notify elapsed device) (c.served device)
  · rw [executed, h]
    rfl
  · rw [executed, h, hserved]

/-- The execution of a request leads to no registration. -/
theorem Client.executed_adds : (c.executed elapsed device).place.adds = false := by
  rcases @executed_place c elapsed device with h | h
  · rw [h]
    rfl
  · rw [h]
    rfl

/-- Entering a call takes no request either. -/
theorem Client.enter_requests {place : Place} :
    (c.enter call (c.goTo place)).requests = c.requests := by
  obtain ⟨g, -, h⟩ | ⟨-, h⟩ := enter_cases c call (c.goTo place)
  · rw [h]
    rfl
  · rw [h]
    rfl

/-- A call that is not a registration, or what comes instead of one, adds nothing. -/
theorem Client.enter_adds {otherwise : Client}
    (hcall : ∀ stage, (Place.calling call stage).adds = false)
    (hother : otherwise.place.adds = false) : (c.enter call otherwise).place.adds = false := by
  obtain ⟨g, -, h⟩ | ⟨-, h⟩ := enter_cases c call otherwise
  · rw [h]
    exact hcall .p
  · rw [h, hother]

/-- A process that sets no device any more does not ask to be added. -/
theorem Client.Moves.free (hmoves : c.Moves c') (hdevices : devices c.requests = [])
    (hplace : c.place.adds = false) :
    devices c'.requests = [] ∧ c'.place.adds = false := by
  cases hmoves with
  | loop h =>
    unfold Client.loop
    split
    · refine ⟨?_, enter_adds (fun _ => rfl) rfl⟩
      rw [enter_requests]
      exact hdevices
    · exact ⟨hdevices, rfl⟩
  | receive h =>
    unfold Client.receive
    split
    · refine ⟨?_, enter_adds (fun _ => rfl) rfl⟩
      rw [enter_requests]
      exact hdevices
    · next requests hrequests =>
      rw [hrequests] at hdevices
      exact ⟨hdevices, rfl⟩
    · next hrequests =>
      rw [hrequests] at hdevices
      cases hdevices
    · next elapsed requests hrequests =>
      rw [hrequests] at hdevices
      exact ⟨executed_requests.symm ▸ hdevices, executed_adds⟩
  | @p call h =>
    rw [h] at hplace
    refine ⟨hdevices, ?_⟩
    cases call with
    | addQueue => cases hplace
    | getPriority | notify | remQueue => rfl
  | @v call h =>
    rw [h] at hplace
    cases call with
    | addQueue => cases hplace
    | getPriority | remQueue => exact ⟨hdevices, rfl⟩
    | notify elapsed device =>
      cases device with
      | none => exact ⟨hdevices, rfl⟩
      | some d => exact ⟨hdevices, rfl⟩
  | @readAnswer call answer readPath h hcall hread =>
    rw [h] at hplace
    cases call with
    | addQueue => cases hplace
    | getPriority => exact ⟨hdevices, rfl⟩
    | notify | remQueue => cases hcall

/-- A process that waits to be added goes on waiting, or takes its answer. -/
theorem Client.Moves.awaiting {appType : Int32} (hmoves : c.Moves c')
    (hplace : c.place.awaits = some (.addQueue gpuid appType elapsed)) :
    c'.requests = c.requests ∧
      (c'.place.awaits = c.place.awaits ∧ c'.readPath = c.readPath ∨
        c.readPath ≠ [] ∧ c'.place.adds = false) := by
  cases hmoves with
  | loop h | receive h =>
    rw [h] at hplace
    cases hplace
  | @p call h =>
    rw [h] at hplace
    cases call <;> cases hplace
  | @v call h =>
    rw [h] at hplace ⊢
    cases call with
    | addQueue => exact ⟨rfl, .inl ⟨rfl, rfl⟩⟩
    | getPriority | notify | remQueue => cases hplace
  | @readAnswer call answer readPath h hcall hread =>
    have hne : c.readPath ≠ [] := hread ▸ List.cons_ne_nil answer readPath
    rw [h] at hplace
    cases call with
    | addQueue => exact ⟨executed_requests, .inr ⟨hne, executed_adds⟩⟩
    | getPriority | notify | remQueue => cases hplace

/-- What the client sets next is its device. -/
theorem Client.receive_first (hdevices : devices c.requests = [g]) (hgpu : c.runningGpu = none) :
    (devices c.receive.requests = [g] ∧ c.receive.place = .looping ∧
      c.receive.index = c.index ∧ c.receive.runningGpu = none) ∨
    ∃ appType elapsed, devices c.receive.requests = [] ∧
      c.receive.place = .calling (.addQueue g appType elapsed) .p := by
  unfold receive
  split
  · next hnone =>
    rw [hnone] at hdevices
    cases hdevices
  · next requests hrequests =>
    rw [hrequests] at hdevices
    exact .inl ⟨hdevices, rfl, rfl, hgpu⟩
  · next gpuid isLocal elapsed requests hrequests =>
    rw [hrequests] at hdevices
    have hcons : gpuid :: devices requests = [g] := hdevices
    obtain ⟨rfl, hrest⟩ := List.cons.inj hcons
    exact .inr ⟨_, elapsed, hrest, rfl⟩
  · next elapsed requests hrequests =>
    rw [hrequests] at hdevices
    have hmapped : ({ c with requests := requests } : Client).mapped = none := by
      unfold mapped
      rw [show ({ c with requests := requests } : Client).runningGpu = none from hgpu]
      rfl
    have hexecuted : ({ c with requests := requests } : Client).executed elapsed none =
        { c with requests := requests }.goTo .looping := by
      unfold executed enter
      rw [hmapped]
      rfl
    rw [hexecuted]
    exact .inl ⟨hdevices, rfl, rfl, hgpu⟩

/-- What the process does without the listeners keeps it on its way. -/
theorem Once.own (hs : Spoken v) (ho : Once v) (hmoves : v.client.Moves c') :
    Once { v with client := c' } := by
  cases ho with
  | free hdevices hplace =>
    obtain ⟨hdevices', hplace'⟩ := hmoves.free hdevices hplace
    exact .free hdevices' hplace'
  | @first g hdevices hg hplace hindex hgpu hnew =>
    cases hmoves with
    | loop h =>
      have hloop : v.client.loop = v.client.goTo .receiving := by
        unfold Client.loop
        rw [hindex]
      rw [hloop]
      exact .first hdevices hg (.inr rfl) hindex hgpu hnew
    | receive h =>
      obtain ⟨hdevices', hplace', hindex', hgpu'⟩ | ⟨appType, elapsed, hdevices', hplace'⟩ :=
        Client.receive_first hdevices hgpu
      · exact .first hdevices' hg (.inl hplace') (hindex'.trans hindex) hgpu' hnew
      · exact .adding hdevices' hg (.inl hplace') hnew
    | p h | v h | readAnswer h =>
      rw [h] at hplace
      rcases hplace with hplace | hplace <;> cases hplace
  | adding hdevices hg hplace hnew =>
    cases hmoves with
    | @p call h =>
      rw [h] at hplace
      rcases hplace with hplace | hplace
      · cases hplace
        exact .adding hdevices hg (.inr rfl) hnew
      · cases hplace
    | loop h | receive h | v h | readAnswer h =>
      rw [h] at hplace
      rcases hplace with hplace | hplace <;> cases hplace
  | asked hdevices hplace hasked hnew =>
    obtain ⟨hrequests, ⟨hplace', -⟩ | ⟨hread, -⟩⟩ := hmoves.awaiting hplace
    · exact .asked (hrequests ▸ hdevices) (hplace'.trans hplace) hasked hnew
    · obtain ⟨-, -, hnone, -⟩ := hs.talk.of_asked (hasked ▸ asking_self)
      exact absurd hnone hread
  | answered hdevices hplace hanswer =>
    obtain ⟨hrequests, ⟨hplace', hread'⟩ | ⟨hread, hadds⟩⟩ := hmoves.awaiting hplace
    · exact .answered (hrequests ▸ hdevices) (hplace'.trans hplace) (hread' ▸ hanswer)
    · exact .free (hrequests ▸ hdevices) hadds

/-- Its one registration is written while it has no slot. -/
theorem Once.write (hs : Spoken v) (ho : Once v) {unset : ProcessCreditData}
    (h : v.client.place = .calling call .write) :
    Once { v with
      client := v.client.written call
      asked := fun g => if v.client.gpuOf call = some g ∧ g < numGpus then
        v.asked g ++ asks pid [v.client.message pid unset call] else v.asked g } := by
  have hawaits : v.client.place.awaits = none := by
    rw [h]
    cases call <;> rfl
  cases ho with
  | free hdevices hplace =>
    rw [h] at hplace
    cases call with
    | addQueue => cases hplace
    | getPriority | notify | remQueue => exact .free hdevices rfl
  | first hdevices hg hplace =>
    rw [h] at hplace
    rcases hplace with hplace | hplace <;> cases hplace
  | @adding g appType elapsed hdevices hg hplace hnew =>
    rw [h] at hplace
    rcases hplace with hplace | hplace
    · cases hplace
    · cases hplace
      obtain ⟨-, -, hasked⟩ := hs.talk.of_not_awaits hawaits
      rw [hasked]
      exact .asked hdevices rfl (asked_written rfl hg (asks_self (.inl rfl))) hnew
  | asked _ hplace | answered _ hplace => cases hawaits.symm.trans hplace

/-- A process that waits to be added has asked, or is being answered. -/
theorem Once.of_awaits {appType : Int32} (ho : Once v)
    (hplace : v.client.place.awaits = some (.addQueue gpuid appType elapsed)) :
    devices v.client.requests = [] ∧ ((∃ g pcd, v.asked = asking g pcd ∧ v.listed = false) ∨
      (∃ g h, v.handling = working g h) ∨ v.client.readPath ≠ []) := by
  cases ho with
  | free hdevices hadds => cases hadds.symm.trans (adds_of_awaits hplace)
  | first hdevices hg hplace' | adding hdevices hg hplace' =>
    rcases hplace' with hplace' | hplace'
    · rw [hplace'] at hplace
      cases hplace
    · rw [hplace'] at hplace
      cases hplace
  | asked hdevices _ hasked hnew => exact ⟨hdevices, .inl ⟨_, _, hasked, hnew⟩⟩
  | answered hdevices _ hanswer => exact ⟨hdevices, .inr hanswer⟩

/-- A process that waits for its priority asks for nothing else any more. -/
theorem Once.of_getPriority (ho : Once v) (hplace : v.client.place.awaits = some .getPriority) :
    devices v.client.requests = [] ∧ v.client.place.adds = false := by
  cases ho with
  | free hdevices hadds => exact ⟨hdevices, hadds⟩
  | first hdevices hg hplace' | adding hdevices hg hplace' =>
    rcases hplace' with hplace' | hplace'
    · rw [hplace'] at hplace
      cases hplace
    · rw [hplace'] at hplace
      cases hplace
  | asked _ hplace' | answered _ hplace' => cases hplace.symm.trans hplace'

/-- The step lemma: a process that sets its device at most once goes on doing so, whatever the
listeners and the others do. -/
theorem Once.step (hpid : pid ≠ invalidProceess) (hs : Spoken v) (ho : Once v)
    {d : SchedulerData}
    (hstep : PartStep d pid v v') : Once v' := by
  cases hstep with
  | own hmoves => exact ho.own hs hmoves
  | write h => exact ho.write hs h
  | @taken g pcd asked haction hnew hasked =>
    obtain ⟨call, hplace, hread, hasks, hhandling, hrest⟩ := hs.talk.of_asked hasked
    cases call with
    | addQueue gpuid appType elapsed =>
      refine .answered (ho.of_awaits hplace).1 hplace (.inl ⟨g, .register pcd .processList, ?_⟩)
      show Function.update v.handling g _ = _
      rw [hhandling]
      rfl
    | getPriority => cases haction.symm.trans hasks.1
    | notify | remQueue => cases hasks
  | dropped haction hadded hasked =>
    obtain ⟨call, hplace, hread, hasks, hhandling, hrest⟩ := hs.talk.of_asked hasked
    cases call with
    | addQueue gpuid appType elapsed =>
      obtain ⟨-, ⟨_, _, -, hnew⟩ | ⟨g, h, hworking⟩ | hne⟩ := ho.of_awaits hplace
      · cases hnew.symm.trans hadded
      · exact absurd (hworking.symm.trans hhandling) working_ne_none
      · exact absurd hread hne
    | getPriority => cases haction.symm.trans hasks.1
    | notify | remQueue => cases hasks
  | looked haction hasked =>
    obtain ⟨call, hplace, hread, hasks, hhandling, hrest⟩ := hs.talk.of_asked hasked
    cases call with
    | addQueue => cases haction.symm.trans hasks.1
    | getPriority =>
      obtain ⟨hdevices, hadds⟩ := ho.of_getPriority hplace
      exact .free hdevices hadds
    | notify | remQueue => cases hasks
  | @register g pcd next b hlisten =>
    obtain ⟨call, hplace, hread, ⟨appType, elapsed, rfl⟩, hhandling, hasked⟩ :=
      hs.talk.of_handling hlisten
    refine .answered (ho.of_awaits hplace).1 hplace (.inl ⟨g, next.next d pcd, ?_⟩)
    show Function.update v.handling g _ = _
    rw [hhandling, update_working]
  | reply hlisten =>
    obtain ⟨call, hplace, hread, hh, hhandling, hasked⟩ := hs.talk.of_handling hlisten
    cases call with
    | addQueue gpuid appType elapsed =>
      refine .answered (ho.of_awaits hplace).1 hplace (.inr ?_)
      exact List.append_ne_nil_of_right_ne_nil _ (List.cons_ne_nil _ _)
    | getPriority =>
      obtain ⟨hdevices, hadds⟩ := ho.of_getPriority hplace
      exact .free hdevices hadds
    | notify | remQueue => cases hh
  | @relisted b hb =>
    have hnone : v.listed = false → b = false := fun hnew =>
      Bool.eq_false_iff.mpr fun htrue => Bool.noConfusion (hnew.symm.trans (hb hpid htrue))
    cases ho with
    | free hdevices hplace => exact .free hdevices hplace
    | first hdevices hg hplace hindex hgpu hnew =>
      exact .first hdevices hg hplace hindex hgpu (hnone hnew)
    | adding hdevices hg hplace hnew => exact .adding hdevices hg hplace (hnone hnew)
    | asked hdevices hplace hasked hnew => exact .asked hdevices hplace hasked (hnone hnew)
    | answered hdevices hplace hanswer => exact .answered hdevices hplace hanswer

end

end GpuVirtmem.Sched.LasNode
