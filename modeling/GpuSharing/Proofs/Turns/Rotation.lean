import GpuSharing.Proofs.Pruning

/-!
# Passing turns on

When the slice of a device is over, an update passes its turn on, and an update of the whole
node does so on every device. No update looks at any other device, so the order in which the
devices are visited does not matter.
-/

set_option autoImplicit false

namespace GpuSharing

namespace SlicedDevice

/-- The slice of the device is over. -/
def isDue (slice : Duration) (now : Instant) (device : SlicedDevice) : Bool :=
  !decide (now.since device.lastSwitch < slice)

/-- The device after an update: the turn passes on if it is due. -/
def passOn (slice : Duration) (now : Instant) (device : SlicedDevice) : SlicedDevice :=
  if device.isDue slice now then (device.rotate now).2 else device

end SlicedDevice

namespace TimeSlicingScheduler

variable (scheduler : TimeSlicingScheduler) (now : Instant)

/-- An update of a device passes its turn on. -/
def isDue (device : String) : Bool :=
  (scheduler.ledger.devices.get? device).any (·.isDue scheduler.config.timeSlice now)

/-- What an update of a device reports. -/
def report? (device : String) : Option Rotation :=
  match (scheduler.update device now).1 with
  | .ok rotation => rotation
  | .error _ => none

theorem isSome_report? (device : String) :
    (scheduler.report? now device).isSome = scheduler.isDue now device := by
  unfold report? update Ledger.device isDue
  cases scheduler.ledger.devices.get? device with
  | none => rfl
  | some known =>
      by_cases early : now.since known.lastSwitch < scheduler.config.timeSlice
      · simp [SlicedDevice.isDue, early]
      · simp [SlicedDevice.isDue, early]

theorem get?_update (place device : String) :
    (scheduler.update place now).2.ledger.devices.get? device =
      if device = place then
        (scheduler.ledger.devices.get? device).map
          (·.passOn scheduler.config.timeSlice now)
      else scheduler.ledger.devices.get? device := by
  unfold update Ledger.device
  cases found : scheduler.ledger.devices.get? place with
  | none =>
      by_cases here : device = place
      · rw [if_pos here, here, found]
        exact found
      · rw [if_neg here]
        rfl
  | some known =>
      by_cases early : now.since known.lastSwitch < scheduler.config.timeSlice
      · have kept : known.passOn scheduler.config.timeSlice now = known := by
          simp [SlicedDevice.passOn, SlicedDevice.isDue, early]
        simp only [if_pos early]
        by_cases here : device = place
        · rw [if_pos here, here, found, Option.map_some, kept]
        · rw [if_neg here]
      · have passed : known.passOn scheduler.config.timeSlice now = (known.rotate now).2 := by
          simp [SlicedDevice.passOn, SlicedDevice.isDue, early]
        simp only [if_neg early, Keyed.get?_insert]
        by_cases here : device = place
        · rw [if_pos here, if_pos here, here, found, Option.map_some, passed]
        · rw [if_neg here, if_neg here]

theorem isDue_update_of_ne {place device : String} (differs : device ≠ place) :
    (scheduler.update place now).2.isDue now device = scheduler.isDue now device := by
  unfold isDue
  rw [get?_update, if_neg differs, config_update]

section Everywhere

/-- The update of one more device, with the rotations that have been reported so far. -/
def updateNext (reached : List (String × Rotation) × TimeSlicingScheduler) (device : String) :
    List (String × Rotation) × TimeSlicingScheduler :=
  match reached.2.update device now with
  | (.ok (some rotation), scheduler) => (reached.1 ++ [(device, rotation)], scheduler)
  | (_, scheduler) => (reached.1, scheduler)

theorem updateAll_eq_foldl : scheduler.updateAll now =
    scheduler.ledger.deviceIds.foldl (updateNext now) ([], scheduler) := rfl

theorem updateNext_eq (reported : List (String × Rotation)) (device : String) :
    updateNext now (reported, scheduler) device =
      (reported ++ ((scheduler.report? now device).map (device, ·)).toList,
        (scheduler.update device now).2) := by
  unfold updateNext report?
  dsimp only
  split
  · rename_i rotation next updated
    simp [updated]
  · rename_i outcome next other updated
    rw [updated]
    cases outcome with
    | error failure => simp
    | ok rotation =>
        cases rotation with
        | none => simp
        | some rotation => exact absurd rfl (other rotation)

theorem get?_foldl_updateNext {ids : List String} (distinct : ids.Nodup)
    (reported : List (String × Rotation)) (device : String) :
    (ids.foldl (updateNext now) (reported, scheduler)).2.ledger.devices.get? device =
      if device ∈ ids then
        (scheduler.ledger.devices.get? device).map (·.passOn scheduler.config.timeSlice now)
      else scheduler.ledger.devices.get? device := by
  induction ids generalizing scheduler reported with
  | nil => simp
  | cons place rest ih =>
      -- A device comes up once, and no other update looks at it.
      obtain ⟨once, distinctRest⟩ := List.nodup_cons.mp distinct
      rw [List.foldl_cons, updateNext_eq, ih _ distinctRest, get?_update, config_update]
      by_cases here : device = place
      · subst here
        simp [once]
      · simp [here]

theorem any_foldl_updateNext {ids : List String} (distinct : ids.Nodup)
    (reported : List (String × Rotation)) (device : String) :
    (ids.foldl (updateNext now) (reported, scheduler)).1.any (·.1 = device) =
      (reported.any (·.1 = device) || (decide (device ∈ ids) && scheduler.isDue now device)) := by
  induction ids generalizing scheduler reported with
  | nil => simp
  | cons place rest ih =>
      obtain ⟨once, distinctRest⟩ := List.nodup_cons.mp distinct
      rw [List.foldl_cons, updateNext_eq, ih _ distinctRest, List.any_append, Bool.or_assoc]
      have own : ((scheduler.report? now place).map (place, ·)).toList.any (·.1 = device) =
          (decide (place = device) && scheduler.isDue now place) := by
        rw [← isSome_report?]
        cases scheduler.report? now place with
        | none => simp
        | some rotation => simp
      rw [own]
      by_cases here : device = place
      · subst here
        simp [once]
      · rw [isDue_update_of_ne scheduler now here]
        simp [here, Ne.symm here]

/-- An update of the whole node updates each device as if it were the only one. -/
theorem get?_updateAll (device : String) :
    (scheduler.updateAll now).2.ledger.devices.get? device =
      (scheduler.ledger.devices.get? device).map (·.passOn scheduler.config.timeSlice now) := by
  have distinct : scheduler.ledger.deviceIds.Nodup := Keyed.nodup_keys _
  rw [updateAll_eq_foldl, get?_foldl_updateNext _ _ distinct]
  split
  · rfl
  · rename_i unknown
    cases found : scheduler.ledger.devices.get? device with
    | none => rfl
    | some known => exact absurd (Keyed.mem_keys.mpr ⟨known, found⟩) unknown

theorem any_updateAll (device : String) :
    (scheduler.updateAll now).1.any (·.1 = device) = scheduler.isDue now device := by
  have distinct : scheduler.ledger.deviceIds.Nodup := Keyed.nodup_keys _
  rw [updateAll_eq_foldl, any_foldl_updateNext _ _ distinct, List.any_nil, Bool.false_or]
  by_cases member : device ∈ scheduler.ledger.deviceIds
  · simp [member]
  · have unknown : scheduler.ledger.devices.get? device = none := by
      cases found : scheduler.ledger.devices.get? device with
      | none => rfl
      | some known => exact absurd (Keyed.mem_keys.mpr ⟨known, found⟩) member
    simp [isDue, unknown]

end Everywhere

end TimeSlicingScheduler

end GpuSharing
