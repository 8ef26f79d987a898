/-! # Connection pools -/

namespace SessionTokens

/-- How many connections a pool holds, how many of them are idle and how many it may hold. -/
structure PoolStatistics where
  connections : Nat
  idle : Nat
  limit : Nat
  deriving DecidableEq, Repr

/-- One line about a pool. -/
def PoolStatistics.display (s : PoolStatistics) : String :=
  s!"Pool Stats: {s.connections}/{s.limit} connections ({s.idle} idle)"

end SessionTokens
