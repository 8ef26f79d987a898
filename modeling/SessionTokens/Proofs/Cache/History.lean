import SessionTokens.Cache.History
import SessionTokens.Proofs.Cache.Entries

/-! # A cache answers from its history

Whatever a cache drops, whichever lives end and whichever way its clock is moved, an answer is the
identity that was last stored under the very token, and it is given only through its expiry. It is
always given if nothing was dropped and the clock was never moved back. An entry past its expiry is
removed when it is met, which shows only after the clock was moved back.
-/

namespace SessionTokens

open Time

/-! ## The last writer -/

section LastStored

variable {token : AccessToken} {context : SecurityContext} {expiresAt : Instant}
  {events : List CacheEvent} {event : CacheEvent}

theorem not_lastStored_nil : ¬ LastStored token context expiresAt [] := by
  rintro ⟨before, after, heq, -⟩
  simp at heq

theorem lastStored_put (events : List CacheEvent) :
    LastStored token context expiresAt (events ++ [.call (.put token context expiresAt)]) :=
  ⟨events, [], rfl, List.forall_mem_nil _⟩

theorem LastStored.later (h : LastStored token context expiresAt events)
    (hwrites : event.writes token = false) :
    LastStored token context expiresAt (events ++ [event]) := by
  obtain ⟨before, after, rfl, hafter⟩ := h
  refine ⟨before, after ++ [event], by simp, fun other hmem => ?_⟩
  rcases List.mem_append.mp hmem with hold | hnew
  · exact hafter other hold
  · rw [List.mem_singleton.mp hnew]
    exact hwrites

theorem LastStored.cases (h : LastStored token context expiresAt (events ++ [event])) :
    event = .call (.put token context expiresAt) ∨
      event.writes token = false ∧ LastStored token context expiresAt events := by
  obtain ⟨before, after, heq, hafter⟩ := h
  rcases after.eq_nil_or_concat with rfl | ⟨earlier, last, rfl⟩
  · exact .inl (List.append_inj_right' heq rfl |> List.singleton_inj.mp)
  · right
    rw [List.concat_eq_append] at heq hafter
    rw [← List.cons_append, ← List.append_assoc] at heq
    obtain ⟨rfl, hlast⟩ := List.append_inj' heq rfl
    obtain rfl := List.singleton_inj.mp hlast
    exact ⟨hafter event (by simp), before, earlier, rfl,
      fun other hmem => hafter other (List.mem_append_left _ hmem)⟩

end LastStored

/-! ## Entries that can be found -/

namespace LruCache

variable {cache : LruCache} {now : Instant} {token : AccessToken}

theorem lookup_without (cache : LruCache) (token other : AccessToken) :
    (cache.without token).lookup other =
      if other = token then none else cache.entries.lookup other := by
  unfold without
  induction cache.entries with
  | nil => simp
  | cons head rest ih =>
      obtain ⟨key, entry⟩ := head
      rw [List.filter_cons, List.lookup_cons]
      by_cases hkey : key = token
      · subst hkey
        by_cases hother : other = key
        · simpa [hother] using ih
        · have hne : (other == key) = false := beq_eq_false_iff_ne.mpr hother
          simpa [hother, hne] using ih
      · by_cases hother : other = key
        · subst hother
          simp [hkey]
        · have hne : (other == key) = false := beq_eq_false_iff_ne.mpr hother
          simpa [hkey, List.lookup_cons, hne] using ih

theorem entry?_store (cache : LruCache) (token other : AccessToken) (entry : CacheEntry) :
    entry? { cache with entries := (token, entry) :: cache.without token } other =
      if other = token then (some entry).filter CacheEntry.isKept else cache.entry? other := by
  unfold entry?
  rw [List.lookup_cons]
  by_cases hother : other = token
  · simp [hother]
  · have hne : (other == token) = false := beq_eq_false_iff_ne.mpr hother
    simp [hother, hne, lookup_without]

theorem entry?_remove (cache : LruCache) (token other : AccessToken) :
    entry? { cache with entries := cache.without token } other =
      if other = token then none else cache.entry? other := by
  unfold entry?
  by_cases hother : other = token
  · simp [hother, lookup_without]
  · simp [hother, lookup_without]

theorem entry?_isKept {entry : CacheEntry} (h : cache.entry? token = some entry) :
    entry.isKept = true :=
  (Option.filter_eq_some_iff.mp h).2

/-- Looking a token up takes away its entry if that has lapsed, and changes nothing else about what
can be found. -/
theorem entry?_get (cache : LruCache) (now : Instant) (token other : AccessToken) :
    entry? (cache.get now token).2 other =
      if other = token then (cache.entry? token).filter (·.isLive now)
      else cache.entry? other := by
  unfold get
  split
  next hnone =>
    split
    next hother => rw [hother, hnone, Option.filter_none]
    next => rfl
  next entry hfound =>
    split
    next hlive => rw [entry?_store, Option.filter_some, entry?_isKept hfound, hfound,
        Option.filter_some, hlive]
    next hlapsed => rw [entry?_remove, hfound, Option.filter_some, if_neg hlapsed]

end LruCache

/-! ## Answers -/

namespace ClockedCache

variable {c : ClockedCache} {event : CacheEvent} {earlier : List CacheEvent}

/-- An answer is the identity of an entry that is held for the token and not past its expiry. -/
theorem answer_eq_some {call : CacheCall} {context : SecurityContext}
    (h : c.answer call = some context) :
    ∃ entry, (call.token, entry) ∈ c.cache.entries ∧ c.now ≤ entry.expiresAt ∧
      entry.context = context := by
  cases call with
  | put token stored expiresAt =>
      obtain ⟨entry, hfound, hlive⟩ := CacheEntry.bind_live?_eq_some_iff.mp h
      exact ⟨entry, LruCache.mem_of_found hfound, hlive⟩
  | get token => exact LruCache.get_eq_some h
  | revoke token =>
      obtain ⟨entry, hfound, hlive⟩ := CacheEntry.bind_live?_eq_some_iff.mp h
      exact ⟨entry, LruCache.mem_of_lookup hfound, hlive⟩

/-- An entry that can be found and has not lapsed is what every call is answered from. -/
theorem answer_of_entry {call : CacheCall} {entry : CacheEntry}
    (hfound : c.cache.entry? call.token = some entry) (hlive : c.now ≤ entry.expiresAt) :
    c.answer call = some entry.context := by
  have hanswer : (c.cache.entry? call.token).bind (·.live? c.now) = some entry.context :=
    CacheEntry.bind_live?_eq_some_iff.mpr ⟨entry, hfound, hlive, rfl⟩
  cases call with
  | put token stored expiresAt => exact hanswer
  | get token => exact (LruCache.get_eq ..).trans hanswer
  | revoke token =>
      have hheld := (Option.filter_eq_some_iff.mp hfound).1
      exact CacheEntry.bind_live?_eq_some_iff.mpr ⟨entry, hheld, hlive, rfl⟩

/-! ## What is held was stored -/

/-- Every entry is the one that was last stored under its token. -/
def HoldsStored (c : ClockedCache) (earlier : List CacheEvent) : Prop :=
  c.cache.AllEntries fun token entry => LastStored token entry.context entry.expiresAt earlier

theorem HoldsStored.call (h : c.HoldsStored earlier) (call : CacheCall) :
    (c.take (.call call)).HoldsStored (earlier ++ [.call call]) := by
  cases call with
  | put token context expiresAt =>
      intro other entry hmem
      rcases List.mem_cons.mp hmem with heq | hmem
      · cases heq
        exact lastStored_put earlier
      · obtain ⟨hkept, hother⟩ := List.mem_filter.mp hmem
        exact (h other entry hkept).later (decide_eq_false (bne_iff_ne.mp hother).symm)
  | get token =>
      intro other entry hmem
      exact (LruCache.AllEntries.get h c.now token other entry hmem).later rfl
  | revoke token =>
      intro other entry hmem
      obtain ⟨hkept, hother⟩ := List.mem_filter.mp hmem
      exact (h other entry hkept).later (decide_eq_false (bne_iff_ne.mp hother).symm)

theorem HoldsStored.take (h : c.HoldsStored earlier) (event : CacheEvent) :
    (c.take event).HoldsStored (earlier ++ [event]) := by
  cases event with
  | showTime time => exact fun other entry hmem => (h other entry hmem).later rfl
  | call call => exact h.call call
  | drop dropped =>
      exact fun other entry hmem => (LruCache.AllEntries.drop h dropped other entry hmem).later rfl
  | lapse lapsed =>
      intro other entry hmem
      exact (LruCache.AllEntries.lapse h (fun _ _ _ => id) _ other entry hmem).later rfl
  | settle =>
      intro other entry hmem
      exact (LruCache.AllEntries.settle h (fun _ _ _ => id) other entry hmem).later rfl

theorem HoldsStored.run (h : c.HoldsStored earlier) (events : List CacheEvent) :
    (c.run events).HoldsStored (earlier ++ events) := by
  induction events generalizing c earlier with
  | nil =>
      rw [List.append_nil]
      exact h
  | cons event rest ih =>
      rw [List.append_cons]
      exact ih (h.take event)

/-! ## What was stored is held -/

/-- What was last stored under a token, and has not lapsed, can be found. -/
def FindsStored (c : ClockedCache) (earlier : List CacheEvent) : Prop :=
  ∀ token context expiresAt, LastStored token context expiresAt earlier → c.now ≤ expiresAt →
    ∃ entry, c.cache.entry? token = some entry ∧ entry.context = context ∧
      entry.expiresAt = expiresAt

theorem findsStored_nil (c : ClockedCache) : c.FindsStored [] :=
  fun _ _ _ hstored => absurd hstored not_lastStored_nil

theorem FindsStored.put (h : c.FindsStored earlier) {token : AccessToken}
    {context : SecurityContext} {expiresAt : Instant}
    (hlossless : c.LosesNothing (.call (.put token context expiresAt))) :
    (c.take (.call (.put token context expiresAt))).FindsStored
      (earlier ++ [.call (.put token context expiresAt)]) := by
  intro other stored storedExpiry hstored hlive
  show ∃ entry, LruCache.entry? { c.cache with entries := _ :: _ } other = some entry ∧ _
  rw [LruCache.entry?_store]
  rcases hstored.cases with heq | ⟨hwrites, hstored⟩
  · cases heq
    rw [if_pos rfl, Option.filter_some, CacheEntry.isKept, decide_eq_true (hlossless hlive)]
    exact ⟨_, rfl, rfl, rfl⟩
  · rw [if_neg (Ne.symm (of_decide_eq_false hwrites))]
    exact h other stored storedExpiry hstored hlive

/-- Only a lapsed entry is taken away when its token is looked up, and it stays lapsed. -/
theorem FindsStored.get (h : c.FindsStored earlier) (token : AccessToken) :
    (c.take (.call (.get token))).FindsStored (earlier ++ [.call (.get token)]) := by
  intro other stored storedExpiry hstored hlive
  rcases hstored.cases with heq | ⟨-, hstored⟩
  · cases heq
  obtain ⟨entry, hfound, hentry⟩ := h other stored storedExpiry hstored hlive
  refine ⟨entry, ?_, hentry⟩
  show LruCache.entry? (c.cache.get c.now token).2 other = some entry
  rw [LruCache.entry?_get]
  split
  next heq =>
    subst heq
    have hlive : entry.isLive c.now = true := decide_eq_true (hentry.2 ▸ hlive)
    rw [hfound, Option.filter_some, if_pos hlive]
  next => exact hfound

theorem FindsStored.revoke (h : c.FindsStored earlier) (token : AccessToken) :
    (c.take (.call (.revoke token))).FindsStored (earlier ++ [.call (.revoke token)]) := by
  intro other stored storedExpiry hstored hlive
  rcases hstored.cases with heq | ⟨hwrites, hstored⟩
  · cases heq
  show ∃ entry, LruCache.entry? { c.cache with entries := c.cache.without token } other =
    some entry ∧ _
  rw [LruCache.entry?_remove, if_neg (Ne.symm (of_decide_eq_false hwrites))]
  exact h other stored storedExpiry hstored hlive

/-- An event that leaves the entries alone and stores nothing may only move the clock on. -/
theorem FindsStored.later {after : ClockedCache} (h : c.FindsStored earlier)
    (hcache : after.cache = c.cache) (hforward : c.now ≤ after.now)
    (hput : ∀ token context expiresAt, event ≠ .call (.put token context expiresAt)) :
    after.FindsStored (earlier ++ [event]) := by
  intro token context expiresAt hstored hlive
  rcases hstored.cases with heq | ⟨-, hstored⟩
  · exact absurd heq (hput token context expiresAt)
  · rw [hcache]
    exact h token context expiresAt hstored (Int.le_trans hforward hlive)

theorem FindsStored.take (h : c.FindsStored earlier) (hlossless : c.LosesNothing event)
    (hforward : c.now ≤ (c.take event).now) :
    (c.take event).FindsStored (earlier ++ [event]) := by
  cases event with
  | showTime time => exact h.later rfl hforward fun _ _ _ => nofun
  | call call =>
      cases call with
      | put token context expiresAt => exact h.put hlossless
      | get token => exact h.get token
      | revoke token => exact h.revoke token
  | drop dropped => exact h.later hlossless hforward fun _ _ _ => nofun
  | lapse lapsed => exact h.later hlossless hforward fun _ _ _ => nofun
  | settle => exact h.later hlossless hforward fun _ _ _ => nofun

theorem FindsStored.run (h : c.FindsStored earlier) {events : List CacheEvent}
    (hundisturbed : c.IsUndisturbed events) :
    (c.run events).FindsStored (earlier ++ events) := by
  induction events generalizing c earlier with
  | nil =>
      rw [List.append_nil]
      exact h
  | cons event rest ih =>
      obtain ⟨⟨hlossless, hforward⟩, hrest⟩ := hundisturbed
      rw [List.append_cons]
      exact ih (h.take hlossless hforward) hrest

/-! ## What is kept from the start -/

@[simp] theorem take_timeToLive (c : ClockedCache) (event : CacheEvent) :
    (c.take event).cache.timeToLive = c.cache.timeToLive := by
  cases event with
  | showTime time => rfl
  | call call =>
      cases call with
      | put token context expiresAt => rfl
      | get token =>
          show (c.cache.get c.now token).2.timeToLive = _
          unfold LruCache.get
          split
          next => rfl
          next => split <;> rfl
      | revoke token => rfl
  | drop dropped => rfl
  | lapse lapsed => rfl
  | settle => rfl

theorem run_timeToLive (c : ClockedCache) (events : List CacheEvent) :
    (c.run events).cache.timeToLive = c.cache.timeToLive := by
  induction events generalizing c with
  | nil => rfl
  | cons event rest ih => exact (ih (c.take event)).trans (take_timeToLive c event)

end ClockedCache

/-- By the second by which an entry outlives its token it has a life whenever the token is
accepted. -/
theorem remainingLife_pos {timeToLive : Duration} {expiresAt now : Instant}
    (hlife : .zero < timeToLive) (hsecond : (expiresAt.add? (.ofSeconds 1)).isSome)
    (hlive : now ≤ expiresAt) : .zero < remainingLife timeToLive expiresAt now := by
  obtain ⟨validUntil, hvalid⟩ := Option.isSome_iff_exists.mp hsecond
  have hnanos : validUntil.nanos = expiresAt.nanos + 1000000000 :=
    (Instant.add?_eq_some.mp hvalid).trans rfl
  have hleft : 1000000000 ≤ (validUntil.since now).nanos := by
    have := Instant.le_def.mp hlive
    simp only [Instant.since]
    omega
  unfold remainingLife
  simp only [hvalid, Option.getD_some]
  rw [if_neg (by omega)]
  split
  next => exact Int.lt_of_lt_of_le (by decide) hleft
  next => exact hlife

namespace ClockedCache

/-- What a cache answers after some events: only what was last stored under the token, until its
expiry; and all of it while nothing was dropped and the clock was never moved back. A cache whose
entries may live for any time keeps what it is given. -/
structure IsFaithful (c : ClockedCache) (events : List CacheEvent) : Prop where
  sound : ∀ call context, (c.run events).answer call = some context →
    ∃ expiresAt, LastStored call.token context expiresAt events ∧ (c.run events).now ≤ expiresAt
  complete : c.IsUndisturbed events → ∀ call context expiresAt,
    LastStored call.token context expiresAt events → (c.run events).now ≤ expiresAt →
    (c.run events).answer call = some context
  keeps : .zero < c.cache.timeToLive → ∀ token context expiresAt,
    (expiresAt.add? (.ofSeconds 1)).isSome →
    (c.run events).LosesNothing (.call (.put token context expiresAt))

/-- A cache that starts without entries answers from its history. -/
theorem run_isFaithful (budget : Nat) (timeToLive : Duration) (start : Instant)
    (events : List CacheEvent) : IsFaithful ⟨start, .empty budget timeToLive⟩ events where
  sound call context hanswer := by
    have hholds : HoldsStored ⟨start, .empty budget timeToLive⟩ [] :=
      LruCache.allEntries_empty budget timeToLive
    obtain ⟨entry, hmem, hlive, rfl⟩ := answer_eq_some hanswer
    exact ⟨entry.expiresAt, hholds.run events call.token entry hmem, hlive⟩
  complete hundisturbed call context expiresAt hstored hlive := by
    obtain ⟨entry, hfound, rfl, rfl⟩ :=
      (findsStored_nil _).run hundisturbed call.token context expiresAt hstored hlive
    exact answer_of_entry hfound hlive
  keeps hlife token context expiresAt hsecond hlive := by
    rw [run_timeToLive]
    exact remainingLife_pos hlife hsecond hlive

/-- An entry that was asked for after its expiry is gone when the clock is moved back, and one that
was not is answered again. -/
example :
    let context : SecurityContext := ⟨⟨7, by decide, by decide⟩, .user⟩
    let later : Instant := ⟨1, by decide, by decide⟩
    let put : CacheEvent := .call (.put ⟨"a"⟩ context .epoch)
    let c : ClockedCache := ⟨.epoch, .empty 1024 (.ofSeconds 60)⟩
    (c.run [put, .showTime later, .showTime .epoch]).answer (.get ⟨"a"⟩) = some context ∧
      (c.run [put, .showTime later, .call (.get ⟨"a"⟩), .showTime .epoch]).answer
        (.get ⟨"a"⟩) = none := by
  refine ⟨?_, ?_⟩ <;> decide

end ClockedCache

end SessionTokens
