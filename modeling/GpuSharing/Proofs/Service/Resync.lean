import GpuSharing.Proofs.Service.Entry

/-!
# Syncing the allocators with the registry

A sync enters one device after another, and no device concerns the books of another one. So what
becomes of a device, and whether it is rejected, is as if it were the only one, however many are
listed. Once all of them have been entered there is nothing left to change.
-/

set_option autoImplicit false

namespace GpuSharing

namespace DeviceRegistry

variable {registry other : DeviceRegistry}

/-- Every device is entered under its own name. -/
def Named (registry : DeviceRegistry) : Prop :=
  ∀ id descriptor, registry.described? id = some descriptor → descriptor.device = id

theorem Assessed.named (assessed : registry.Assessed) : registry.Named := by
  intro id descriptor described
  obtain ⟨device, stored, rfl⟩ := Option.map_eq_some_iff.mp described
  exact (assessed id device stored).1

theorem Named.congr (named : registry.Named) (same : other.described? = registry.described?) :
    other.Named := by
  unfold Named
  rw [same]
  exact named

theorem Named.get?_of_mem_list (named : registry.Named) {device : Device}
    (listed : device ∈ registry.list) :
    registry.devices.get? device.descriptor.device = some device := by
  obtain ⟨id, stored⟩ := mem_list.mp listed
  rw [named id _ (described?_of_get? stored), stored]

theorem Named.nodup_list (named : registry.Named) :
    (registry.list.map (·.descriptor.device)).Nodup := by
  have sorted : registry.list.Perm registry.devices.values := List.mergeSort_perm _ _
  have keys : registry.devices.values.map (·.descriptor.device) = registry.devices.keys := by
    unfold Keyed.values Keyed.keys
    rw [List.map_map]
    refine List.map_congr_left fun entry member => ?_
    exact named entry.1 _ (described?_of_get? (Keyed.mem_entries.mp member))
  rw [(sorted.map _).nodup_iff, keys]
  exact registry.devices.nodup_keys

/-- The descriptions are listed in the natural order of their names. -/
theorem map_list_descriptor (registry : DeviceRegistry) :
    registry.list.map (·.descriptor) =
      naturalSort (·.device) (registry.devices.map (·.descriptor)).values := by
  have values : (registry.devices.map (·.descriptor)).values =
      registry.devices.values.map (·.descriptor) := by
    simp [Keyed.values, Keyed.map, Keyed.mapKeyed]
  rw [values]
  exact List.map_mergeSort fun _ _ _ _ => rfl

theorem map_list_congr (same : other.described? = registry.described?) :
    other.list.map (·.descriptor) = registry.list.map (·.descriptor) := by
  have devices : other.devices.map (·.descriptor) = registry.devices.map (·.descriptor) := by
    refine Keyed.ext_get? fun id => ?_
    rw [Keyed.get?_map, Keyed.get?_map]
    exact congrFun same id
  rw [map_list_descriptor, map_list_descriptor, devices]

end DeviceRegistry

namespace AllocationService

variable {service : AllocationService}

section Each

theorem booksOn_syncEach_of_notMem (now : Instant) {devices : List Device} {other : String}
    (absent : other ∉ devices.map (·.descriptor.device)) :
    (service.syncEach now devices).2.booksOn other = service.booksOn other := by
  induction devices generalizing service with
  | nil => rfl
  | cons first rest ih =>
      rw [List.map_cons, List.mem_cons, not_or] at absent
      exact (ih absent.2).trans (booksOn_syncDevice_of_ne first now absent.1)

theorem config_syncEach (service : AllocationService) (now : Instant) (devices : List Device) :
    (service.syncEach now devices).2.scheduler.config = service.scheduler.config := by
  induction devices generalizing service with
  | nil => rfl
  | cons first rest ih => exact (ih _).trans (service.config_syncDevice first now)

theorem placeIn_syncDevice (service : AllocationService) (device : Device) (now : Instant) :
    (service.syncDevice device now).2.placeIn = service.placeIn := by
  funext kind id
  unfold syncDevice
  cases device.descriptor.partition with
  | none =>
      cases kind with
      | fractional | partitionAware | timeSlicing => rfl
  | some division =>
      cases kind with
      | fractional | timeSlicing => rfl
      | partitionAware =>
          exact congrArg (·.get? id) (PartitionAllocator.owners_register ..)

theorem placeIn_syncEach (service : AllocationService) (now : Instant) (devices : List Device) :
    (service.syncEach now devices).2.placeIn = service.placeIn := by
  induction devices generalizing service with
  | nil => rfl
  | cons first rest ih => exact (ih _).trans (service.placeIn_syncDevice first now)

/-- A listed device is entered as if it were the only one. -/
theorem entered_syncEach (sound : service.Sound) (now : Instant) {devices : List Device}
    (distinct : (devices.map (·.descriptor.device)).Nodup) {device : Device}
    (listed : device ∈ devices) :
    (service.booksOn device.descriptor.device).Entered service.scheduler.config device.descriptor
      ((service.syncEach now devices).2.booksOn device.descriptor.device) := by
  induction devices generalizing service with
  | nil => cases listed
  | cons first rest ih =>
      obtain ⟨absent, distinct⟩ := List.nodup_cons.mp distinct
      change (service.booksOn device.descriptor.device).Entered service.scheduler.config
        device.descriptor
        (((service.syncDevice first now).2.syncEach now rest).2.booksOn device.descriptor.device)
      rcases List.mem_cons.mp listed with rfl | later
      · rw [booksOn_syncEach_of_notMem now absent]
        exact entered_syncDevice sound device now
      · have elsewhere : device.descriptor.device ≠ first.descriptor.device := fun same =>
          absent (List.mem_map.mpr ⟨device, later, same⟩)
        have entered := ih (sound.syncDevice first now) distinct later
        rw [booksOn_syncDevice_of_ne first now elsewhere, config_syncDevice] at entered
        exact entered

/-- The names of the devices, of some that are described, that are rejected. -/
def rejectedOf (service : AllocationService) (descriptors : List DeviceDescriptor) : List String :=
  (descriptors.filter fun descriptor =>
    (service.booksOn descriptor.device).rejects descriptor).map (·.device)

theorem rejectedOf_congr {after : AllocationService} {descriptors : List DeviceDescriptor}
    (same : ∀ descriptor ∈ descriptors, (after.booksOn descriptor.device).rejects descriptor =
      (service.booksOn descriptor.device).rejects descriptor) :
    after.rejectedOf descriptors = service.rejectedOf descriptors :=
  congrArg _ (List.filter_congr same)

/-- The devices are rejected that would be rejected one by one. -/
theorem syncEach_fst (service : AllocationService) (now : Instant) {devices : List Device}
    (distinct : (devices.map (·.descriptor.device)).Nodup) :
    (service.syncEach now devices).1 = service.rejectedOf (devices.map (·.descriptor)) := by
  induction devices generalizing service with
  | nil => rfl
  | cons first rest ih =>
      obtain ⟨absent, distinct⟩ := List.nodup_cons.mp distinct
      have others : (service.syncDevice first now).2.rejectedOf (rest.map (·.descriptor)) =
          service.rejectedOf (rest.map (·.descriptor)) := by
        refine rejectedOf_congr fun descriptor found => ?_
        obtain ⟨device, later, rfl⟩ := List.mem_map.mp found
        have elsewhere : device.descriptor.device ≠ first.descriptor.device := fun same =>
          absent (List.mem_map.mpr ⟨device, later, same⟩)
        rw [booksOn_syncDevice_of_ne first now elsewhere]
      change (if (service.syncDevice first now).1 = true
        then ((service.syncDevice first now).2.syncEach now rest).1
        else first.descriptor.device :: ((service.syncDevice first now).2.syncEach now rest).1) = _
      rw [ih _ distinct, others, syncDevice_fst, rejectedOf, rejectedOf, List.map_cons,
        List.filter_cons]
      cases (service.booksOn first.descriptor.device).rejects first.descriptor with
      | true => rfl
      | false => rfl

theorem syncEach_eq_self (now : Instant) {devices : List Device}
    (settled : ∀ device ∈ devices, (service.syncDevice device now).2 = service) :
    (service.syncEach now devices).2 = service := by
  induction devices with
  | nil => rfl
  | cons first rest ih =>
      change ((service.syncDevice first now).2.syncEach now rest).2 = service
      rw [settled first List.mem_cons_self]
      exact ih fun device later => settled device (List.mem_cons_of_mem first later)

end Each

section Counts

/-- The registry has the count of a device, and what follows from it. -/
def Recorded (service : AllocationService) (device : String) : Prop :=
  ∀ known, service.registry.devices.get? device = some known →
    { known with activeAllocations := service.count device }.recompute service.registry.config =
      known

theorem Recorded.syncCount_eq_self {device : String} (recorded : service.Recorded device) :
    service.syncCount device = service := by
  unfold syncCount
  rw [DeviceRegistry.setActive_eq_self recorded]

theorem recorded_syncDevice (service : AllocationService) (device : Device) (now : Instant) :
    (service.syncDevice device now).2.Recorded device.descriptor.device := by
  unfold Recorded
  rw [registry_syncDevice, DeviceRegistry.config_setActive, DeviceRegistry.get?_setActive,
    if_pos rfl]
  intro known stored
  obtain ⟨_, _, rfl⟩ := Option.map_eq_some_iff.mp stored
  rfl

theorem Recorded.syncDevice {device : String} (recorded : service.Recorded device)
    (entered : Device) (now : Instant) : (service.syncDevice entered now).2.Recorded device := by
  by_cases here : device = entered.descriptor.device
  · rw [here]
    exact service.recorded_syncDevice entered now
  · -- Nothing leaves the books when a device is entered, so the other counts stay right.
    unfold Recorded
    rw [count_congr (service.liveIn_syncDevice entered now), registry_syncDevice,
      DeviceRegistry.config_setActive, DeviceRegistry.get?_setActive, if_neg here]
    exact recorded

theorem Recorded.syncEach {device : String} (recorded : service.Recorded device) (now : Instant)
    (devices : List Device) : (service.syncEach now devices).2.Recorded device := by
  induction devices generalizing service with
  | nil => exact recorded
  | cons first rest ih => exact ih (recorded.syncDevice first now)

theorem recorded_syncEach (now : Instant) {devices : List Device} {device : Device}
    (listed : device ∈ devices) :
    (service.syncEach now devices).2.Recorded device.descriptor.device := by
  induction devices generalizing service with
  | nil => cases listed
  | cons first rest ih =>
      rcases List.mem_cons.mp listed with rfl | later
      · exact (service.recorded_syncDevice device now).syncEach now rest
      · exact ih later

end Counts

/-- What a sync does to a service: everything that lives stays as it is, the devices that are
described get their memory and their division unless they are rejected, and to sync again changes
nothing more. -/
structure Resyncs (before : AllocationService) (result : List String × AllocationService) :
    Prop where
  liveIn_eq : result.2.liveIn = before.liveIn
  placeIn_eq : result.2.placeIn = before.placeIn
  owners_eq : result.2.owners = before.owners
  described_eq : result.2.registry.described? = before.registry.described?
  rejected_eq : result.1 = before.rejectedOf (before.registry.list.map (·.descriptor))
  entered : ∀ id descriptor, before.registry.described? id = some descriptor →
    (before.booksOn id).Entered before.scheduler.config descriptor (result.2.booksOn id)
  unlisted : ∀ id, before.registry.described? id = none → result.2.booksOn id = before.booksOn id
  again : ∀ later, result.2.sync later = result

section Again

variable (sound : service.Sound) (named : service.registry.Named)

include sound named

theorem entered_sync (now : Instant) {id : String} {descriptor : DeviceDescriptor}
    (described : service.registry.described? id = some descriptor) :
    (service.booksOn id).Entered service.scheduler.config descriptor
      ((service.sync now).2.booksOn id) := by
  obtain rfl := named id descriptor described
  obtain ⟨device, stored, rfl⟩ := Option.map_eq_some_iff.mp described
  exact entered_syncEach sound now named.nodup_list (DeviceRegistry.mem_list.mpr ⟨_, stored⟩)

omit sound in
theorem booksOn_sync_of_unlisted (now : Instant) {id : String}
    (unlisted : service.registry.described? id = none) :
    (service.sync now).2.booksOn id = service.booksOn id := by
  refine booksOn_syncEach_of_notMem now fun found => ?_
  obtain ⟨device, listed, rfl⟩ := List.mem_map.mp found
  rw [DeviceRegistry.described?_of_get? (named.get?_of_mem_list listed)] at unlisted
  cases unlisted

theorem sync_sync_fst (now later : Instant) :
    ((service.sync now).2.sync later).1 = (service.sync now).1 := by
  have same := service.described?_sync now
  refine ((service.sync now).2.syncEach_fst later (named.congr same).nodup_list).trans ?_
  refine Eq.trans ?_ (service.syncEach_fst now named.nodup_list).symm
  rw [DeviceRegistry.map_list_congr same]
  refine rejectedOf_congr fun descriptor found => ?_
  obtain ⟨device, listed, rfl⟩ := List.mem_map.mp found
  exact (entered_sync sound named now
    (DeviceRegistry.described?_of_get? (named.get?_of_mem_list listed))).rejects_eq

theorem sync_sync_snd (now later : Instant) :
    ((service.sync now).2.sync later).2 = (service.sync now).2 := by
  have same := service.described?_sync now
  -- Every device that is listed has its books and its count already.
  refine syncEach_eq_self later fun device listed => ?_
  have stored := (named.congr same).get?_of_mem_list listed
  have described := DeviceRegistry.described?_of_get? stored
  rw [same] at described
  have entered := entered_sync sound named now described
  obtain ⟨earlier, found, describes⟩ := Option.map_eq_some_iff.mp described
  have recorded : (service.sync now).2.Recorded device.descriptor.device := by
    rw [← describes]
    exact recorded_syncEach now (DeviceRegistry.mem_list.mpr ⟨_, found⟩)
  refine congrArg Prod.snd
    (syncDevice_eq_self later (fun accepted => ?_) recorded.syncCount_eq_self)
  rw [entered.rejects_eq] at accepted
  rw [show (service.sync now).2.scheduler.config = _ from
    service.config_syncEach now service.registry.list]
  exact entered.accepted accepted

end Again

theorem resyncs_sync (sound : service.Sound) (named : service.registry.Named) (now : Instant) :
    service.Resyncs (service.sync now) where
  liveIn_eq := service.liveIn_sync now
  placeIn_eq := service.placeIn_syncEach now service.registry.list
  owners_eq := by
    obtain ⟨_, _, _, _, synced⟩ := service.sync_frame now
    rw [synced]
  described_eq := service.described?_sync now
  rejected_eq := service.syncEach_fst now named.nodup_list
  entered _ _ described := entered_sync sound named now described
  unlisted _ unlisted := booksOn_sync_of_unlisted named now unlisted
  again later := Prod.ext (sync_sync_fst sound named now later) (sync_sync_snd sound named now later)

/-- Whatever the registry describes by now, a sync takes nothing from what lives, rejects exactly
the devices that cannot be divided as described, and has nothing left to do the second time. -/
theorem run_resyncs (setup : ServiceSetup) (operations : List Operation)
    (registry : DeviceRegistry) (named : registry.Named) (now : Instant) :
    ({ setup.service.run operations with registry } : AllocationService).Resyncs
      (({ setup.service.run operations with registry } : AllocationService).sync now) := by
  have sound : ({ setup.service.run operations with registry } : AllocationService).Sound :=
    ((sound_new setup).run operations).congr rfl
  exact resyncs_sync sound named now

/-- One device that is divided, or is not. -/
def dividedReport (partition : Option PartitionConfig) : Discovery :=
  .ok { source := "scripted"
        devices := [{ device := "card0", model := "gpu", memoryTotalBytes := 8589934592, partition }] }

/-- Of a device that is divided by its dies, half is given away. -/
def halfOfDies : List Operation :=
  [.refresh (dividedReport (some { computeMode := .cpx, memoryMode := .nps1 })) firstSecond,
    .allocate "card0" (halfFor "a" .partition) firstSecond]

/-- The device is found as one unit. -/
def foundWhole : DeviceRegistry :=
  (DeviceRegistry.refreshAll { config := {} }
    (dividedReport (some { computeMode := .spx, memoryMode := .nps1 })) nextSecond.wall).2

theorem rejected_halfOfDies :
    let before : AllocationService :=
      { ({} : ServiceSetup).service.run halfOfDies with registry := foundWhole }
    foundWhole.Named ∧ (before.sync nextSecond.monotonic).1 = ["card0"] ∧
      (before.sync nextSecond.monotonic).2.booksOn "card0" = before.booksOn "card0" := by
  intro before
  have named : foundWhole.Named :=
    ((DeviceRegistry.assessed_new {}).refreshAll _ nextSecond.wall).named
  have resyncs := run_resyncs {} halfOfDies foundWhole named nextSecond.monotonic
  refine ⟨named, resyncs.rejected_eq.trans ?listed, (resyncs.entered "card0" _ rfl).rejected ?refused⟩
  case listed => decide +kernel
  case refused => decide +kernel

end AllocationService

end GpuSharing
