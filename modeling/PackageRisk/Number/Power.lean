/-!
# Powers

Bounds and units are powers of natural numbers and integers. The instance of core is preferred
throughout, so that a power is the same term in every module, whatever else is imported.
-/

namespace PackageRisk

attribute [instance (1100), default_instance (20000)] instPowNat

end PackageRisk
