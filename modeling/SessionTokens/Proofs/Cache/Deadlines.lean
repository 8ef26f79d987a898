import SessionTokens.Proofs.Cache.History

/-! # How long an entry is kept

For how long an entry may be kept is decided once, when it is stored; whether it answers is decided
anew whenever it is asked for, by the expiry of its token. Between whole seconds the two agree: the
life of an entry ends with the second in which its token is accepted for the last time, unless the
time to live cuts it short.
-/

namespace SessionTokens

open Time

variable {timeToLive : Duration} {expiresAt now later : Instant}

theorem remainingLife_nanos (htimeToLive : 0 ≤ timeToLive.nanos) (expiresAt now : Instant) :
    (remainingLife timeToLive expiresAt now).nanos =
      min timeToLive.nanos
        (max 0 (((expiresAt.add? (.ofSeconds 1)).getD expiresAt).nanos - now.nanos)) := by
  unfold remainingLife
  generalize (expiresAt.add? (.ofSeconds 1)).getD expiresAt = validUntil
  by_cases hpast : (validUntil.since now).nanos < 0
  · have hpast' : validUntil.nanos - now.nanos < 0 := hpast
    simp only [if_pos hpast, Duration.zero]
    omega
  · have hahead : 0 ≤ validUntil.nanos - now.nanos := Int.not_lt.mp hpast
    simp only [if_neg hpast]
    split
    next hle =>
      have hle : validUntil.nanos - now.nanos ≤ timeToLive.nanos := hle
      show validUntil.nanos - now.nanos = _
      omega
    next hlonger =>
      have hlonger : ¬ validUntil.nanos - now.nanos ≤ timeToLive.nanos := hlonger
      omega

theorem remainingLife_le (htimeToLive : 0 ≤ timeToLive.nanos) (expiresAt now : Instant) :
    remainingLife timeToLive expiresAt now ≤ timeToLive := by
  have hlife := remainingLife_nanos htimeToLive expiresAt now
  show (remainingLife timeToLive expiresAt now).nanos ≤ timeToLive.nanos
  omega

/-- The second after an expiry, or the expiry itself at the end of the representable instants. -/
theorem validUntil_le (expiresAt : Instant) :
    ((expiresAt.add? (.ofSeconds 1)).getD expiresAt).nanos ≤ expiresAt.nanos + nanosPerSecond := by
  cases hsum : expiresAt.add? (.ofSeconds 1) with
  | none => exact Int.le_add_of_nonneg_right (by decide)
  | some validUntil => exact Int.le_of_eq (Instant.add?_eq_some.mp hsum)

theorem add_remainingLife_le (htimeToLive : 0 ≤ timeToLive.nanos) (expiresAt now : Instant) :
    now.nanos + (remainingLife timeToLive expiresAt now).nanos ≤
      max now.nanos (expiresAt.nanos + nanosPerSecond) := by
  have hlife := remainingLife_nanos htimeToLive expiresAt now
  have hvalid := validUntil_le expiresAt
  omega

/-- Where the time to live reaches to the second after the expiry, a life ends there, or at once. -/
theorem remainingLife_uncut (htimeToLive : 0 ≤ timeToLive.nanos)
    (hsecond : (expiresAt.add? (.ofSeconds 1)).isSome)
    (hreach : expiresAt.nanos + nanosPerSecond - now.nanos ≤ timeToLive.nanos) :
    (remainingLife timeToLive expiresAt now).nanos =
      max 0 (expiresAt.nanos + nanosPerSecond - now.nanos) := by
  obtain ⟨validUntil, hvalid⟩ := Option.isSome_iff_exists.mp hsecond
  have hnanos : validUntil.nanos = expiresAt.nanos + nanosPerSecond := Instant.add?_eq_some.mp hvalid
  have hlife := remainingLife_nanos htimeToLive expiresAt now
  rw [hvalid, Option.getD_some, hnanos] at hlife
  omega

/-- Two whole seconds less than a second apart are in order. -/
theorem le_iff_lt_add_second (hlater : later.IsWhole) (hexpiry : expiresAt.IsWhole) :
    later ≤ expiresAt ↔ later.nanos < expiresAt.nanos + nanosPerSecond := by
  simp only [Instant.IsWhole, Instant.le_def, nanosPerSecond] at *
  omega

/-- From one whole second to a later one, a life has not passed exactly if the token is accepted. -/
theorem since_lt_remainingLife_iff (htimeToLive : 0 ≤ timeToLive.nanos) (hexpiry : expiresAt.IsWhole)
    (hsecond : (expiresAt.add? (.ofSeconds 1)).isSome)
    (hreach : expiresAt.nanos + nanosPerSecond - now.nanos ≤ timeToLive.nanos)
    (hlater : later.IsWhole) (hle : now ≤ later) :
    later.since now < remainingLife timeToLive expiresAt now ↔ later ≤ expiresAt := by
  have hlife := remainingLife_uncut htimeToLive hsecond hreach
  have hnow := Instant.le_def.mp hle
  rw [le_iff_lt_add_second hlater hexpiry]
  show later.nanos - now.nanos < (remainingLife timeToLive expiresAt now).nanos ↔ _
  omega

namespace LruCache

/-- What becomes of an identity that is stored in a cache. Its entry is never kept longer than the
time to live, nor beyond the second after the expiry. Where neither the time to live nor the end of
the representable instants cuts that second off, the entry is within its life at a later whole second
exactly if its token is still accepted then, and so exactly if a lookup is answered. -/
structure KeepsToExpiry (cache : LruCache) (now : Instant) (token : AccessToken)
    (context : SecurityContext) (expiresAt : Instant) (entry : CacheEntry) : Prop where
  held : (cache.put now token context expiresAt).2.entries.lookup token = some entry
  context_eq : entry.context = context
  expiresAt_eq : entry.expiresAt = expiresAt
  life_eq : entry.life = remainingLife cache.timeToLive expiresAt now
  life_le : entry.life ≤ cache.timeToLive
  deadline_le : now.nanos + entry.life.nanos ≤ max now.nanos (expiresAt.nanos + nanosPerSecond)
  exact : expiresAt.IsWhole → (expiresAt.add? (.ofSeconds 1)).isSome →
    expiresAt.nanos + nanosPerSecond - now.nanos ≤ cache.timeToLive.nanos →
    ∀ later : Instant, later.IsWhole → now ≤ later →
      (later.since now < entry.life ↔ entry.isLive later = true) ∧
      (entry.isLive later = true ↔
        ((cache.put now token context expiresAt).2.get later token).1 = some context)

/-- What was stored last is what a lookup answers with, as long as its token is accepted and if it
could be kept for any time. -/
theorem get_put_eq_some_iff {cache : LruCache} {token : AccessToken} {context : SecurityContext}
    (hkept : later ≤ expiresAt → .zero < remainingLife cache.timeToLive expiresAt now) :
    ((cache.put now token context expiresAt).2.get later token).1 = some context ↔
      later ≤ expiresAt := by
  rw [get_eq, put, entry?_store, if_pos rfl, CacheEntry.bind_live?_eq_some_iff]
  constructor
  · rintro ⟨entry, hfound, hlive, -⟩
    cases (Option.filter_eq_some_iff.mp hfound).1
    exact hlive
  · intro hlive
    have hlong := decide_eq_true (hkept hlive)
    exact ⟨_, Option.filter_eq_some_iff.mpr ⟨rfl, hlong⟩, hlive, rfl⟩

/-- A cache keeps an entry that it stores at whichever time to the expiry of its token, neither
shorter nor longer. -/
theorem put_keepsToExpiry (cache : LruCache) (now : Instant) (token : AccessToken)
    (context : SecurityContext) (expiresAt : Instant) (htimeToLive : 0 ≤ cache.timeToLive.nanos) :
    ∃ entry, cache.KeepsToExpiry now token context expiresAt entry := by
  refine ⟨⟨context, expiresAt, remainingLife cache.timeToLive expiresAt now⟩, by simp [put], rfl,
    rfl, rfl, remainingLife_le htimeToLive expiresAt now,
    add_remainingLife_le htimeToLive expiresAt now, ?_⟩
  intro hexpiry hsecond hreach later hlater hle
  rw [CacheEntry.isLive, decide_eq_true_iff, get_put_eq_some_iff]
  · have hwithin := since_lt_remainingLife_iff htimeToLive hexpiry hsecond hreach hlater hle
    exact ⟨hwithin, Iff.rfl⟩
  · intro hlive
    have hsome : .zero < cache.timeToLive := by
      have := Instant.le_def.mp hle
      have := Instant.le_def.mp hlive
      show (0 : Int) < cache.timeToLive.nanos
      simp only [nanosPerSecond] at hreach
      omega
    exact remainingLife_pos hsome hsecond (Int.le_trans hle hlive)

/-- An entry that replaces another one, with a time to live that just reaches to the second after
its expiry. -/
theorem put_again_keepsToExpiry :
    let context : SecurityContext := ⟨⟨7, by decide, by decide⟩, .user⟩
    let now : Instant := ⟨-3000000000, by decide, by decide⟩
    let expiresAt : Instant := ⟨-1000000000, by decide, by decide⟩
    let cache : LruCache :=
      ⟨1024, .ofSeconds 3, [(⟨"a"⟩, ⟨context, .epoch, .ofSeconds 3⟩)]⟩
    0 ≤ cache.timeToLive.nanos ∧
      ∃ entry, cache.KeepsToExpiry now ⟨"a"⟩ context expiresAt entry := by
  intro context now expiresAt cache
  have htimeToLive : 0 ≤ cache.timeToLive.nanos := by decide
  exact ⟨htimeToLive, put_keepsToExpiry cache now ⟨"a"⟩ context expiresAt htimeToLive⟩

end LruCache

/-- In the last representable second a token may be accepted still, and its entry has no life. -/
example :
    let last : Instant := ⟨8210266876799000000000, by decide, by decide⟩
    remainingLife (.ofSeconds 60) last last = .zero ∧ last ≤ last := by
  decide

end SessionTokens
