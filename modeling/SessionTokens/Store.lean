import SessionTokens.Token.Record

/-! # The refresh token store

Rows are keyed by token and every key occurs once. Each operation is one atomic step that is given
the reading of the clock it works with, and, where it issues a token, the fresh token. Looking a row
up is the view in terms of which every operation is described.
-/

namespace SessionTokens

open Time

/-- Records by token. -/
structure Store where
  rows : List (RefreshToken × Record)
  keys_nodup : (rows.map Prod.fst).Nodup

namespace Store

/-- The store without records. -/
def empty : Store := ⟨[], List.nodup_nil⟩

instance : Inhabited Store := ⟨empty⟩

/-- The record that is kept under a token. -/
def find? (store : Store) (token : RefreshToken) : Option Record := store.rows.lookup token

/-- The number of records. -/
def size (store : Store) : Nat := store.rows.length

/-- Whether there are no records. -/
def isEmpty (store : Store) : Bool := store.rows.isEmpty

/-- Changes every record where it stands. -/
def mapRecords (f : RefreshToken → Record → Record) (store : Store) : Store where
  rows := store.rows.map fun (token, record) => (token, f token record)
  keys_nodup := by
    have h := store.keys_nodup
    simpa [List.map_map, Function.comp_def] using h

/-- Replaces the record under a token, if there is one. -/
def replace (store : Store) (token : RefreshToken) (record : Record) : Store :=
  store.mapRecords fun key old => if key = token then record else old

/-- Keeps the records that satisfy a condition. -/
def filter (keep : Record → Bool) (store : Store) : Store where
  rows := store.rows.filter fun (_, record) => keep record
  keys_nodup := (List.filter_sublist.map Prod.fst).nodup store.keys_nodup

/-- The number of records that satisfy a condition. -/
def count (p : Record → Bool) (store : Store) : Nat := store.rows.countP fun (_, record) => p record

theorem lookup_eq_none {token : RefreshToken} :
    ∀ {rows : List (RefreshToken × Record)},
      rows.lookup token = none ↔ token ∉ rows.map Prod.fst
  | [] => by simp
  | (key, record) :: rest => by
      rw [List.lookup_cons]
      by_cases h : token = key
      · simp [h]
      · have hne : (token == key) = false := beq_eq_false_iff_ne.2 h
        simp only [hne, List.map_cons, List.mem_cons, h, false_or]
        exact lookup_eq_none

/-- Keeps a new record under its own token. -/
def push (store : Store) (record : Record) (fresh : store.find? record.token = none) : Store where
  rows := store.rows ++ [(record.token, record)]
  keys_nodup := by
    rw [List.map_append, List.nodup_append]
    refine ⟨store.keys_nodup, by simp, ?_⟩
    intro a ha b hb heq
    simp only [List.map_cons, List.map_nil, List.mem_singleton] at hb
    subst hb heq
    exact lookup_eq_none.1 fresh ha

/-- Issues a record for a context under a fresh token. -/
def insert (store : Store) (lifetime : Duration) (now : Instant) (fresh : RefreshToken)
    (context : SecurityContext) : Except DomainError Record × Store :=
  match Record.issue fresh context now lifetime with
  | .error cause => (.error (.token cause), store)
  | .ok record =>
      if h : store.find? record.token = none then (.ok record, store.push record h)
      else (.error (.storage "Refresh token already exists"), store)

/-- Revokes the record under a token. -/
def revoke (store : Store) (now : Instant) (token : RefreshToken) :
    Except DomainError Record × Store :=
  match store.find? token with
  | none => (.error (.refreshToken .invalid), store)
  | some record =>
      if record.isActive then
        (.ok (record.revoke now), store.replace token (record.revoke now))
      else (.error (.refreshToken .alreadyRevoked), store)

/-- Gives a lapsed token another lifetime from now on. -/
def prolong (store : Store) (lifetime : Duration) (now : Instant) (token : RefreshToken) :
    Except DomainError RefreshToken × Store :=
  match store.find? token with
  | none => (.error (.refreshToken .invalid), store)
  | some record =>
      if !record.isActive then (.error (.refreshToken .alreadyRevoked), store)
      else if !record.isExpiredAt now then (.error (.refreshToken .stillValid), store)
      else
        match now.add? lifetime with
        | none => (.error (.token .generationFailed), store)
        | some expiresAt => (.ok record.token, store.replace token { record with expiresAt })

/-- Whether a sweep revokes a record: it is active and its expiry has come. -/
def isLapsed (now : Instant) (record : Record) : Bool :=
  record.isActive && record.isOverdueAt now

/-- Revokes every active record whose expiry has come, and counts them. -/
def revokeExpired (store : Store) (now : Instant) : Nat × Store :=
  (store.count (isLapsed now),
    store.mapRecords fun _ record => if isLapsed now record then record.revoke now else record)

/-- Deletes every record whose expiry had come a span ago, and counts them. A span that reaches
beyond the representable instants deletes nothing. -/
def deleteExpiredFor (store : Store) (span : Duration) (now : Instant) : Nat × Store :=
  match now.sub? span with
  | none => (0, store)
  | some cutoff =>
      (store.count fun record => record.isOverdueAt cutoff,
        store.filter fun record => !record.isOverdueAt cutoff)

end Store

end SessionTokens
