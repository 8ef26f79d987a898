import SessionTokens.Cache.Configured

/-! # What a cache holds and answers

A cache may forget but it does not invent: whatever is true of the entries that were stored is true
of every answer. An answer is the identity of an entry for that very token, and it is given only
through the instant at which the token expires. None of this depends on what the cache drops, when
it drops it, or which of its calls fail.
-/

namespace SessionTokens

open Time

variable {p : AccessToken → CacheEntry → Prop}

theorem CacheEntry.bind_live?_eq_some_iff {found : Option CacheEntry} {now : Instant}
    {context : SecurityContext} :
    found.bind (·.live? now) = some context ↔
      ∃ entry, found = some entry ∧ now ≤ entry.expiresAt ∧ entry.context = context := by
  simp [Option.bind_eq_some_iff, live?, isLive]

namespace LruCache

/-- A property of all entries together with their tokens. -/
def AllEntries (p : AccessToken → CacheEntry → Prop) (cache : LruCache) : Prop :=
  ∀ token entry, (token, entry) ∈ cache.entries → p token entry

theorem allEntries_empty (budget : Nat) (timeToLive : Duration) :
    (empty budget timeToLive).AllEntries p :=
  fun _ _ hmem => nomatch hmem

theorem mem_of_lookup {token : AccessToken} {entry : CacheEntry}
    {entries : List (AccessToken × CacheEntry)} (h : entries.lookup token = some entry) :
    (token, entry) ∈ entries := by
  induction entries with
  | nil => cases h
  | cons head rest ih =>
      obtain ⟨key, value⟩ := head
      rw [List.lookup_cons] at h
      split at h
      next heq =>
        cases h
        rw [eq_of_beq heq]
        exact List.mem_cons_self
      next => exact List.mem_cons_of_mem _ (ih h)

theorem mem_of_found {cache : LruCache} {token : AccessToken} {entry : CacheEntry}
    (h : cache.entry? token = some entry) : (token, entry) ∈ cache.entries :=
  mem_of_lookup (Option.filter_eq_some_iff.mp h).1

theorem AllEntries.drop {cache : LruCache} (h : cache.AllEntries p) (q : AccessToken → Bool) :
    (cache.drop q).AllEntries p :=
  fun token entry hmem => h token entry (List.mem_filter.mp hmem).1

theorem AllEntries.without {cache : LruCache} (h : cache.AllEntries p) (token : AccessToken) :
    ({ cache with entries := cache.without token } : LruCache).AllEntries p :=
  fun other entry hmem => h other entry (List.mem_filter.mp hmem).1

theorem AllEntries.store {cache : LruCache} (h : cache.AllEntries p) {token : AccessToken}
    {entry : CacheEntry} (hentry : p token entry) :
    ({ cache with entries := (token, entry) :: cache.without token } : LruCache).AllEntries p := by
  intro other held hmem
  rcases List.mem_cons.mp hmem with heq | hmem
  · cases heq
    exact hentry
  · exact h.without token other held hmem

theorem fitting_subset (budget : Nat) (entries : List (AccessToken × CacheEntry)) :
    fitting budget entries ⊆ entries := by
  induction entries generalizing budget with
  | nil => exact fun _ hmem => hmem
  | cons head rest ih =>
      rw [fitting]
      split
      next => exact List.cons_subset_cons _ (ih _)
      next => exact List.subset_cons_of_subset _ (ih _)

/-- What does not depend on lives stays when lives end. -/
theorem AllEntries.lapse {cache : LruCache} (h : cache.AllEntries p)
    (hlife : ∀ token entry life, p token entry → p token { entry with life })
    (q : AccessToken → CacheEntry → Bool) : (cache.lapse q).AllEntries p := by
  intro token entry hmem
  obtain ⟨⟨_, held⟩, hheld, heq⟩ := List.mem_map.mp hmem
  cases heq
  split
  next => exact hlife token held .zero (h token held hheld)
  next => exact h token held hheld

theorem AllEntries.settle {cache : LruCache} (h : cache.AllEntries p)
    (hlife : ∀ token entry life, p token entry → p token { entry with life }) :
    cache.settle.AllEntries p :=
  fun token entry hmem => h.lapse hlife _ token entry (fitting_subset _ _ hmem)

theorem AllEntries.put {cache : LruCache} (h : cache.AllEntries p) {now : Instant}
    {token : AccessToken} {context : SecurityContext} {expiresAt : Instant}
    (hentry : ∀ life, p token ⟨context, expiresAt, life⟩) :
    (cache.put now token context expiresAt).2.AllEntries p :=
  h.store (hentry _)

theorem AllEntries.get {cache : LruCache} (h : cache.AllEntries p) (now : Instant)
    (token : AccessToken) : (cache.get now token).2.AllEntries p := by
  unfold LruCache.get
  split
  next => exact h
  next entry hentry =>
    split
    next => exact h.store (h token entry (mem_of_found hentry))
    next => exact h.without token

theorem get_eq (cache : LruCache) (now : Instant) (token : AccessToken) :
    (cache.get now token).1 = (cache.entry? token).bind (·.live? now) := by
  unfold get
  split
  next hnone => rw [hnone, Option.bind_none]
  next entry hfound =>
    rw [hfound, Option.bind_some, CacheEntry.live?]
    split <;> rfl

theorem get_eq_some {cache : LruCache} {now : Instant} {token : AccessToken}
    {context : SecurityContext} (h : (cache.get now token).1 = some context) :
    ∃ entry, (token, entry) ∈ cache.entries ∧ now ≤ entry.expiresAt ∧ entry.context = context := by
  rw [get_eq] at h
  obtain ⟨entry, hfound, hlive⟩ := CacheEntry.bind_live?_eq_some_iff.mp h
  exact ⟨entry, mem_of_found hfound, hlive⟩

end LruCache

namespace VerificationCache

/-- A property of all entries of a cache that remembers expiries. A cache that ignores them is not
covered, and one that remembers nothing always is. -/
def AllEntries (p : AccessToken → CacheEntry → Prop) : VerificationCache → Prop
  | .off | .broken => True
  | .lru entries | .unreliable _ entries => entries.AllEntries p
  | .plain _ _ => False

theorem AllEntries.mono {q : AccessToken → CacheEntry → Prop} {cache : VerificationCache}
    (h : cache.AllEntries p) (hpq : ∀ token entry, p token entry → q token entry) :
    cache.AllEntries q := by
  cases cache with
  | off => trivial
  | broken => trivial
  | lru entries => exact fun token entry hmem => hpq token entry (h token entry hmem)
  | unreliable faults entries => exact fun token entry hmem => hpq token entry (h token entry hmem)
  | plain writable entries => exact h.elim

/-- Whatever a fault drops or undoes, the entries afterwards are some of those that the call left or
found. -/
theorem allEntries_underFault {faults : List CacheFault} {entries : LruCache}
    {call : LruCache → Option SecurityContext × LruCache} (h : entries.AllEntries p)
    (hcall : ∀ kept : LruCache, kept.AllEntries p → (call kept).2.AllEntries p) :
    (underFault faults entries call).2.AllEntries p := by
  have hkept := h.drop ((faults.headD {}).dropped.contains)
  unfold underFault
  simp only
  split
  next => exact hcall _ hkept
  next =>
    simp only [AllEntries]
    split
    next => exact hcall _ hkept
    next => exact hkept

theorem AllEntries.put {cache : VerificationCache} (h : cache.AllEntries p) {now : Instant}
    {token : AccessToken} {context : SecurityContext} {expiresAt : Instant}
    (hentry : ∀ life, p token ⟨context, expiresAt, life⟩) :
    (cache.put now token context expiresAt).2.AllEntries p := by
  cases cache with
  | off => trivial
  | broken => trivial
  | lru entries => exact LruCache.AllEntries.put h hentry
  | unreliable faults entries =>
      exact allEntries_underFault h fun kept hkept => hkept.put hentry
  | plain writable entries => exact h.elim

theorem AllEntries.get {cache : VerificationCache} (h : cache.AllEntries p) (now : Instant)
    (token : AccessToken) : (cache.get now token).2.AllEntries p := by
  cases cache with
  | off => trivial
  | broken => trivial
  | lru entries => exact LruCache.AllEntries.get h now token
  | unreliable faults entries =>
      exact allEntries_underFault h fun kept hkept => hkept.get now token
  | plain writable entries => exact h.elim

theorem AllEntries.settle {cache : VerificationCache} (h : cache.AllEntries p)
    (hlife : ∀ token entry life, p token entry → p token { entry with life }) :
    cache.settle.AllEntries p := by
  cases cache with
  | off => trivial
  | broken => trivial
  | lru entries => exact LruCache.AllEntries.settle h hlife
  | unreliable faults entries => exact LruCache.AllEntries.settle h hlife
  | plain writable entries => exact h.elim

/-- An answer is the identity of an entry whose token has not expired yet. -/
theorem AllEntries.answer {cache : VerificationCache} (h : cache.AllEntries p) {now : Instant}
    {token : AccessToken} {context : SecurityContext}
    (hanswer : (cache.get now token).1 = .ok (some context)) :
    ∃ entry, p token entry ∧ now ≤ entry.expiresAt ∧ entry.context = context := by
  cases cache with
  | off => cases hanswer
  | broken => cases hanswer
  | lru entries =>
      obtain ⟨entry, hmem, hlive, hcontext⟩ := LruCache.get_eq_some (Except.ok.inj hanswer)
      exact ⟨entry, h token entry hmem, hlive, hcontext⟩
  | unreliable faults entries =>
      simp only [VerificationCache.get, underFault] at hanswer
      split at hanswer
      next =>
        obtain ⟨entry, hmem, hlive, hcontext⟩ := LruCache.get_eq_some (Except.ok.inj hanswer)
        exact ⟨entry, h.drop _ token entry hmem, hlive, hcontext⟩
      next => cases hanswer
  | plain writable entries => exact h.elim

end VerificationCache

end SessionTokens
