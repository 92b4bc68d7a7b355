import RemoteBatch.Descriptor
import RemoteBatch.Error
import RemoteBatch.Nersc.Service
import RemoteBatch.Settings
import RemoteBatch.Slurm.Service
import RemoteBatch.SortedMap

/-!
# Registries of drivers

The drivers that can be selected, by name.  A name belongs to the driver that was
registered under it last.

## Main definitions

* `Registry` — the drivers, each of which makes a `δ`.
* `Registry.register` — adds a driver.
* `Registry.create` — makes the driver with a name.
* `Registry.builtin` — the drivers that come with the library.
-/

namespace RemoteBatch

/-- A driver that can be selected. -/
structure Registry.Entry (δ : Type) where
  descriptor : Descriptor
  /-- Makes the driver from its settings. -/
  factory : Settings → Except Error δ

/-- The drivers that can be selected, by name. -/
structure Registry (δ : Type) where
  drivers : SortedMap (Registry.Entry δ)

namespace Registry

variable {δ : Type}

/-- The registry without drivers. -/
def empty : Registry δ := ⟨∅⟩

/-- Adds a driver under the name on its card, in place of the one there. -/
def register (r : Registry δ) (descriptor : Descriptor) (factory : Settings → Except Error δ) :
    Registry δ :=
  ⟨r.drivers.insert descriptor.name ⟨descriptor, factory⟩⟩

/-- The cards of all drivers, in the order of their names. -/
def descriptors (r : Registry δ) : List Descriptor := r.drivers.values.map (·.descriptor)

/-- The card of the driver with a name. -/
def descriptor? (r : Registry δ) (name : String) : Option Descriptor :=
  (r.drivers.find? name).map (·.descriptor)

/-- Makes the driver with a name. -/
def create (r : Registry δ) (name : String) (settings : Settings) : Except Error δ :=
  match r.drivers.find? name with
  | some entry => entry.factory settings
  | none => .error (.unknownDriver name)

/-- The drivers that come with the library. -/
def builtin : Registry Http.Service :=
  (empty.register Slurm.descriptor fun s => do return (← Slurm.Driver.ofSettings s).service)
    |>.register Nersc.descriptor fun s => do return (← Nersc.Driver.ofSettings s).service

end Registry

end RemoteBatch
