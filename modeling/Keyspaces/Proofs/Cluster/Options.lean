import Keyspaces.Cluster.Options
import Keyspaces.Proofs.Cluster.Reconnection
import Keyspaces.Proofs.Number.Double

/-
  The options of a cluster exist for every resource that is
  read: no option that the attributes can set is refused
  later.

  Main declarations:
    * `ClusterOptions.exists_seconds`
    * `Resource.exists_options`
-/

------------------------------------------------------------
-- Timeouts
------------------------------------------------------------

namespace Keyspaces

namespace ClusterOptions

open Number

/- An integer that fits in at most 64 bits is small. -/
theorem natAbs_lt_of_fits
    {bits : Nat}
    {n : Int}
    (hBits : bits ≤ 64)
    (hFits : Setting.fits bits n = true) :
    n.natAbs < Nat.pow 2 64 := by
  have hBound : 2 ^ (bits - 1) ≤ 2 ^ 63 :=
    Nat.pow_le_pow_right (by omega) (by omega)
  simp only [Setting.fits, Bool.and_eq_true,
    decide_eq_true_eq, Nat.pow_eq, Int.ofNat_eq_natCast]
    at hFits
  change n.natAbs < 2 ^ 64
  have hSmall : n.natAbs ≤ 2 ^ (bits - 1) := by
    omega
  omega

/- A timeout of an integer of at most 64 bits is a number. -/
theorem exists_seconds
    {bits : Nat}
    {n : Int}
    (hBits : bits ≤ 64)
    (hFits : Setting.fits bits n = true) :
    ∃ timeout, seconds (.int n) = .ok timeout := by
  rcases Double.exists_ofIntRatio
      (natAbs_lt_of_fits hBits hFits) 1000 with
    ⟨x, hSeconds⟩
  unfold seconds
  rw [Value.isPositive_int]
  cases decide (0 < n) with
  | false => exact ⟨none, rfl⟩
  | true =>
      refine ⟨some x, ?_⟩
      simp [bind, Except.bind, toSeconds, hSeconds,
        Except.map]

end ClusterOptions

end Keyspaces

------------------------------------------------------------
-- Options
------------------------------------------------------------

namespace Keyspaces

namespace Resource

/-
  The options of a cluster exist if the settings they are
  derived from can be read.
-/
theorem exists_options
    {conf settings : Config}
    {reference : Reference}
    {resource : Resource}
    (hResource : ofReference conf reference = .ok resource)
    (hCompression :
      ∃ value,
        settings.read Setting.compression = .ok value)
    (hMetrics :
      ∃ value,
        settings.read Setting.metricsEnabled = .ok value)
    (hVersion :
      ∃ value,
        settings.read Setting.protocolVersion = .ok value) :
    ∃ options,
      ClusterOptions.ofConfigurator settings
          resource.configurator =
        .ok options := by
  rcases hCompression with ⟨compression, hCompression⟩
  rcases hMetrics with ⟨metrics, hMetrics⟩
  rcases hVersion with ⟨version, hVersion⟩
  rcases exists_follows hResource with
    ⟨_, _, policy, hPolicy, _⟩
  rcases exists_readAs hResource with ⟨_, _, _, hRead⟩
  rcases hRead.admits .maxConnectTimeMillis with
    ⟨connect, hConnect, hConnectFits⟩
  rcases hRead.admits .cassandraThriftSocketTimeout with
    ⟨request, hRequest, hRequestFits⟩
  rcases ClusterOptions.exists_seconds (by decide)
      hConnectFits with
    ⟨connectTimeout, hConnectTimeout⟩
  rcases ClusterOptions.exists_seconds (by decide)
      hRequestFits with
    ⟨requestTimeout, hRequestTimeout⟩
  unfold ClusterOptions.ofConfigurator
  rw [hCompression, hMetrics, hVersion, hPolicy, hConnect,
    hRequest, hConnectTimeout, hRequestTimeout]
  exact ⟨_, rfl⟩

end Resource

end Keyspaces
