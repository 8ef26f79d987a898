import SessionTokens.Store

/-! # Operations on the store in any order

A run is a list of operations, of which each brings the reading of the clock that it works with. The
readings of a run need not be in any order: the clock may be moved back, and an operation that waits
for the store works with an old reading.
-/

namespace SessionTokens.Store

open Time

/-- An operation on the store. What issues a record brings the token that it issues it under. -/
inductive Operation where
  | insert (lifetime : Duration) (now : Instant) (fresh : RefreshToken)
      (context : SecurityContext)
  | find (token : RefreshToken)
  | revoke (now : Instant) (token : RefreshToken)
  | prolong (lifetime : Duration) (now : Instant) (token : RefreshToken)
  | revokeExpired (now : Instant)
  | deleteExpiredFor (span : Duration) (now : Instant)
  deriving Repr

/-- The store after an operation. -/
def apply (store : Store) : Operation → Store
  | .insert lifetime now fresh context => (store.insert lifetime now fresh context).2
  | .find _ => store
  | .revoke now token => (store.revoke now token).2
  | .prolong lifetime now token => (store.prolong lifetime now token).2
  | .revokeExpired now => (store.revokeExpired now).2
  | .deleteExpiredFor span now => (store.deleteExpiredFor span now).2

/-- The store after operations in order. -/
def run (store : Store) (operations : List Operation) : Store := operations.foldl apply store

/-- The reading of the clock that an operation works with. -/
def Operation.reading? : Operation → Option Instant
  | .insert _ now _ _ | .revoke now _ | .prolong _ now _ => some now
  | .revokeExpired now | .deleteExpiredFor _ now => some now
  | .find _ => none

/-- The token under which an operation issues a record. -/
def Operation.drawn? : Operation → Option RefreshToken
  | .insert _ _ fresh _ => some fresh
  | _ => none

/-- The tokens under which operations issue records. -/
def drawn (operations : List Operation) : List RefreshToken :=
  operations.filterMap Operation.drawn?

/-- The token that an operation names or draws. A sweep has none. -/
def Operation.subject? : Operation → Option RefreshToken
  | .insert _ _ fresh _ => some fresh
  | .find token | .revoke _ token | .prolong _ _ token => some token
  | .revokeExpired _ | .deleteExpiredFor _ _ => none

/-- What an operation is answered. -/
inductive Answer where
  | issued (result : Except DomainError Record)
  | found (record : Option Record)
  | revoked (result : Except DomainError Record)
  | prolonged (result : Except DomainError RefreshToken)
  | counted (number : Nat)

/-- The answer to an operation. -/
def answer (store : Store) : Operation → Answer
  | .insert lifetime now fresh context => .issued (store.insert lifetime now fresh context).1
  | .find token => .found (store.find? token)
  | .revoke now token => .revoked (store.revoke now token).1
  | .prolong lifetime now token => .prolonged (store.prolong lifetime now token).1
  | .revokeExpired now => .counted (store.revokeExpired now).1
  | .deleteExpiredFor span now => .counted (store.deleteExpiredFor span now).1

/-- Operations in order, each with its answer. -/
def transcript (store : Store) : List Operation → List (Operation × Answer)
  | [] => []
  | operation :: rest =>
      (operation, store.answer operation) :: (store.apply operation).transcript rest

/-- The part of a transcript that is about a token. -/
def transcriptOf (store : Store) (token : RefreshToken) (operations : List Operation) :
    List (Operation × Answer) :=
  (store.transcript operations).filter fun (operation, _) => operation.subject? = some token

/-- A run without the operations that name or draw other tokens. The sweeps stay. -/
def isolate (token : RefreshToken) (operations : List Operation) : List Operation :=
  operations.filter fun operation => operation.subject?.all (· = token)

@[simp] theorem run_nil (store : Store) : store.run [] = store := rfl

@[simp] theorem run_cons (store : Store) (operation : Operation) (rest : List Operation) :
    store.run (operation :: rest) = (store.apply operation).run rest := rfl

@[simp] theorem run_append (store : Store) (earlier later : List Operation) :
    store.run (earlier ++ later) = (store.run earlier).run later :=
  List.foldl_append

@[simp] theorem drawn_append (earlier later : List Operation) :
    drawn (earlier ++ later) = drawn earlier ++ drawn later :=
  List.filterMap_append

end SessionTokens.Store
