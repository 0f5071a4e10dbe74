/-!
# Powers

A power of natural numbers is repeated multiplication as core defines it. A library of algebra offers
the same power by way of its monoids; inside this namespace the one of core comes first, so that a
definition reads the same wherever it stands.
-/
namespace Checkup

attribute [scoped instance (2000)] instPowNat

end Checkup
