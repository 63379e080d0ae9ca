/-!
# Device memory

Memory is counted in bytes by the devices and in MiB by requests. Both are 64-bit
counts; what would not fit stays at the greatest count.
-/

set_option autoImplicit false

namespace GpuSharing

/-- The difference of two counts, or nothing where it would be negative. -/
def monus (a b : UInt64) : UInt64 := UInt64.ofNat (a.toNat - b.toNat)

theorem toNat_monus (a b : UInt64) : (monus a b).toNat = a.toNat - b.toNat := by
  have bound := a.toNat_lt
  simp only [monus, UInt64.toNat_ofNat']
  exact Nat.mod_eq_of_lt (by omega)

/-- What is at most the rest of a total fits beside what is used, or is nothing. -/
theorem fits_of_le_monus {requested total used : UInt64} (free : requested ≤ monus total used) :
    used.toNat + requested.toNat ≤ total.toNat ∨ requested = 0 := by
  rw [UInt64.le_iff_toNat_le, toNat_monus] at free
  by_cases none : requested = 0
  · exact .inr none
  · have some : requested.toNat ≠ 0 := fun zero => none (UInt64.toNat_inj.mp zero)
    exact .inl (by omega)

def bytesPerMib : Nat := 1048576

def bytesToMib (bytes : UInt64) : UInt64 := UInt64.ofNat (bytes.toNat / bytesPerMib)

def mibToBytes (mib : UInt64) : UInt64 :=
  UInt64.ofNat (min (mib.toNat * bytesPerMib) (UInt64.size - 1))

end GpuSharing
