import Mathlib.Data.List.Nodup
import Mathlib.Data.List.Perm.Subperm
import SessionTokens.Proofs.Service.Lines

/-! # Refreshing changes neither identity nor number

Every record that is stored was issued by a login or comes from one through refreshes. It is for the
identity and the role of that login, and of all records that come from the same login one is active
at most. So there are never more active records for somebody than there were successful logins.
-/

namespace SessionTokens

open Time CallStep Function

/-- There are no more records than there are things to tell them apart by. -/
theorem Store.count_le {α : Type} {store : Store} {p : Record → Bool} {targets : List α}
    (f : RefreshToken → α)
    (hmem : ∀ token record, store.find? token = some record → p record = true →
      f token ∈ targets)
    (hdistinct : ∀ token other record otherRecord, store.find? token = some record →
      store.find? other = some otherRecord → p record = true → p otherRecord = true →
        f token = f other → token = other) :
    store.count p ≤ targets.length := by
  have hfound : ∀ row ∈ store.rows.filter fun row => p row.2,
      store.find? row.1 = some row.2 ∧ p row.2 = true := by
    intro row hrow
    obtain ⟨hstored, hp⟩ := List.mem_filter.mp hrow
    exact ⟨find?_eq_some_iff.mpr hstored, hp⟩
  have hrows : (store.rows.filter fun row => p row.2).Nodup :=
    (List.Nodup.of_map Prod.fst store.keys_nodup).filter _
  have hnodup : ((store.rows.filter fun row => p row.2).map fun row => f row.1).Nodup := by
    refine hrows.map_on fun row hrow other hother heq => ?_
    obtain ⟨hrowFound, hrowP⟩ := hfound row hrow
    obtain ⟨hotherFound, hotherP⟩ := hfound other hother
    have htoken := hdistinct _ _ _ _ hrowFound hotherFound hrowP hotherP heq
    rw [htoken, hotherFound, Option.some.injEq] at hrowFound
    exact Prod.ext htoken hrowFound.symm
  have hsubset : ((store.rows.filter fun row => p row.2).map fun row => f row.1) ⊆
      targets := by
    intro target htarget
    obtain ⟨row, hrow, rfl⟩ := List.mem_map.mp htarget
    exact hmem _ _ (hfound row hrow).1 (hfound row hrow).2
  have hle := (List.subperm_of_subset hnodup hsubset).length_le
  rw [List.length_map] at hle
  rw [count, List.countP_eq_length_filter]
  exact hle

namespace Interleaving

variable {s : Interleaving} {index : Nat} {call : ServiceCall}

/-- What a call was made for. -/
def request? (s : Interleaving) (index : Nat) : Option Request :=
  s.calls[index]?.map ServiceCall.request

/-- A login has issued its record. Once it is answered, it is successful. -/
def HasLoggedIn (s : Interleaving) (index : Nat) : Prop :=
  (∃ context, s.request? index = some (.login context)) ∧ hasIssued index s.steps = true

/-- The logins for a context that have issued their records. -/
def logins (s : Interleaving) (context : SecurityContext) : List Nat :=
  (List.range s.calls.length).filter fun index =>
    s.request? index = some (.login context) && hasIssued index s.steps

/-- A call has issued the record under a token, or has begun the line of refreshes that did. -/
def Begins (s : Interleaving) (login : Nat) (token : RefreshToken) : Prop :=
  ∃ issuer, issuer? token s.steps = some issuer ∧ Descends s.steps login issuer

theorem request?_arrive (request : Request) :
    (s.take (.arrive request)).request? = update s.request? s.calls.length (some request) := by
  funext index
  rcases Nat.lt_trichotomy index s.calls.length with hlt | rfl | hgt
  · rw [update_of_ne (Nat.ne_of_lt hlt)]
    simp only [request?, take, List.getElem?_append_left hlt]
  · simp [request?, take]
  · rw [update_of_ne (Nat.ne_of_gt hgt)]
    simp only [request?, take]
    rw [List.getElem?_eq_none (by simp; omega), List.getElem?_eq_none (Nat.le_of_lt hgt)]

theorem request?_advance (hcall : s.calls[index]? = some call) (script : Script Deployment.Reply)
    (d : Deployment) : (s.advance index call script d).request? = s.request? := by
  funext other
  rw [request?, calls_advance hcall, request?]
  split
  next heq => rw [heq, hcall, Option.map_some, Option.map_some]
  next => rfl

/-- What is true at every turn: each call is in a stage of its conversation, and the records belong
to lines. -/
structure HasLines (s : Interleaving) (stage : Nat → Stage) (origin : Nat → Nat) : Prop where
  scripts : ∀ index call, s.calls[index]? = some call →
    Proceeds call.request Stage.Ends (stage index) call.script
  lines : Lines s.request? s.steps s.deployment.store stage origin

variable {stage : Nat → Stage} {origin : Nat → Nat}

theorem start_hasLines (d : Deployment) :
    HasLines { deployment := { d with store := .empty } } (fun _ => .waiting) id where
  scripts index call hcall := by simp at hcall
  lines := .start

theorem HasLines.beside (h : s.HasLines stage origin) {d : Deployment}
    (hkeeps : s.deployment.store.Keeps d.store) :
    HasLines { s with deployment := d } stage origin where
  scripts := h.scripts
  lines := h.lines.keep hkeeps

theorem HasLines.arrive (h : s.HasLines stage origin) (request : Request) :
    (s.take (.arrive request)).HasLines (update stage s.calls.length (.start request)) origin where
  scripts := by
    refine forall_calls_arrive ?_ fun other found hfound => ?_
    · rw [update_self]
      exact request.script_proceeds s.deployment.config
    · rw [update_of_ne (Nat.ne_of_lt (List.getElem?_eq_some_iff.mp hfound).1)]
      exact h.scripts other found hfound
  lines := by
    rw [request?_arrive]
    exact h.lines.arrive (by simp [request?]) request

theorem HasLines.proceed (h : s.HasLines stage origin) (index : Nat) (cacheFirst : Bool)
    (reading : Instant) :
    ∃ stage origin, (s.proceed index cacheFirst reading).HasLines stage origin := by
  cases hcall : s.calls[index]? with
  | none =>
      simp only [Interleaving.proceed, hcall]
      exact ⟨stage, origin, h⟩
  | some call =>
      obtain ⟨next, hmove, hscript⟩ := (h.scripts index call hcall).step
        (fun _ _ _ => .stays rfl) trivial cacheFirst reading
      simp only [Interleaving.proceed, hcall]
      generalize call.script.step (Deployment.collaboratorsAt reading) cacheFirst s.deployment =
        answered at hmove hscript ⊢
      let step : CallStep := ⟨index, call.request, s.deployment, answered.2⟩
      have hrequest : s.request? step.call = some step.request := by
        rw [request?, hcall, Option.map_some]
      have hbefore : Lines s.request? s.steps step.before.store stage origin := h.lines
      obtain ⟨origins, hlines⟩ := hbefore.move hrequest hmove
      refine ⟨update stage index next, origins, forall_calls_advance hcall ?_ ?_, ?_⟩
      · rw [update_self]
        exact hscript
      · intro other found hne hfound
        rw [update_of_ne hne]
        exact h.scripts other found hfound
      · rw [request?_advance hcall]
        exact hlines

theorem HasLines.take (h : s.HasLines stage origin) (turn : Turn) :
    ∃ stage origin, (s.take turn).HasLines stage origin := by
  have hkept : s.deployment.store.Keeps s.deployment.store := s.deployment.store.keeps_refl
  cases turn with
  | arrive request => exact ⟨_, _, h.arrive request⟩
  | proceed index cacheFirst reading => exact h.proceed index cacheFirst reading
  | moveClock m => exact ⟨stage, origin, h.beside hkept⟩
  | prolong token reading =>
      exact ⟨stage, origin, h.beside (Deployment.unlessRefused_keeps hkept
        (s.deployment.store.apply_keeps (.prolong s.deployment.refreshLifetime reading token) rfl))⟩
  | revokeExpired reading =>
      exact ⟨stage, origin, h.beside (Deployment.unlessRefused_keeps hkept
        (s.deployment.store.apply_keeps (.revokeExpired reading) rfl))⟩
  | deleteExpired span reading =>
      exact ⟨stage, origin, h.beside (Deployment.unlessRefused_keeps hkept
        (s.deployment.store.apply_keeps (.deleteExpiredFor span reading) rfl))⟩

theorem HasLines.run (h : s.HasLines stage origin) (turns : List Turn) :
    ∃ stage origin, (s.run turns).HasLines stage origin := by
  induction turns generalizing s stage origin with
  | nil => exact ⟨stage, origin, h⟩
  | cons turn turns ih =>
      obtain ⟨_, _, hnext⟩ := h.take turn
      exact ih hnext

/-! ## Every interleaving -/

/-- Records are rotated in lines, of which each begins with a login. -/
structure IsRotated (s : Interleaving) : Prop where
  /-- Every record comes from exactly one login. -/
  origin : ∀ token record, s.deployment.store.find? token = some record →
    ∃! login, s.HasLoggedIn login ∧ s.Begins login token
  /-- It is for the user and the role of that login. -/
  identity : ∀ token record login context, s.deployment.store.find? token = some record →
    s.request? login = some (.login context) → s.Begins login token → record.context = context
  /-- Of all records that come from a login one is active at most. -/
  one_active : ∀ login token other record otherRecord, s.HasLoggedIn login →
    s.Begins login token → s.Begins login other →
      s.deployment.store.find? token = some record →
        s.deployment.store.find? other = some otherRecord →
          record.isActive = true → otherRecord.isActive = true → token = other
  /-- There are no more active records for a user and a role than there are logins. -/
  active_le : ∀ context,
    s.deployment.store.count (fun record => record.isActive && record.context = context) ≤
      (s.logins context).length
  /-- A call that is over was answered with a pair exactly if it has issued a record. -/
  answered : ∀ index reply, s.reply? index = some reply →
    (hasIssued index s.steps = true ↔ ∃ pair, reply = .pair (.ok pair))

namespace HasLines

/-- Nobody but the origin of its line begins the line of a call. -/
theorem origin_eq (h : s.HasLines stage origin) {login issuer : Nat} {context : SecurityContext}
    (hlogin : s.request? login = some (.login context)) (hline : Descends s.steps login issuer) :
    origin issuer = login := by
  rw [hline.eq fun parent child hsucceeds => (h.lines.succeeds parent child hsucceeds).2]
  exact h.lines.login login context hlogin

/-- Whoever begins the line of a call that has issued a record has issued one. -/
theorem hasIssued_of_descends (h : s.HasLines stage origin) {login issuer : Nat}
    (hline : Descends s.steps login issuer) (hissued : stage issuer = .issued) :
    hasIssued login s.steps = true := by
  rw [h.lines.issued login]
  rcases hline.eq_or_succeeded with rfl | ⟨child, hsucceeds⟩
  · exact hissued
  · exact (h.lines.succeeds login child hsucceeds).1

theorem stored_begins (h : s.HasLines stage origin) {token : RefreshToken} {record : Record}
    (hfound : s.deployment.store.find? token = some record) :
    ∃ issuer, issuer? token s.steps = some issuer ∧
      s.request? (origin issuer) = some (.login record.context) ∧
        hasIssued (origin issuer) s.steps = true ∧ Descends s.steps (origin issuer) issuer := by
  obtain ⟨issuer, hissuer, hissued, hlogin, hline⟩ := h.lines.stored token record hfound
  exact ⟨issuer, hissuer, hlogin, h.hasIssued_of_descends hline hissued, hline⟩

/-- Active records of which the issuers have one origin are under one token. -/
theorem one_active (h : s.HasLines stage origin) {token other : RefreshToken}
    {record otherRecord : Record} {issuer otherIssuer : Nat}
    (hfound : s.deployment.store.find? token = some record)
    (hother : s.deployment.store.find? other = some otherRecord)
    (hactive : record.isActive = true) (hotherActive : otherRecord.isActive = true)
    (hissuer : issuer? token s.steps = some issuer)
    (hotherIssuer : issuer? other s.steps = some otherIssuer)
    (hsame : origin issuer = origin otherIssuer) : token = other := by
  have hholder := h.lines.one_holder issuer otherIssuer (.active hfound hactive hissuer)
    (.active hother hotherActive hotherIssuer) hsame
  rw [hholder] at hissuer
  exact h.lines.one_record token other record otherRecord otherIssuer hfound hother hissuer
    hotherIssuer

/-- Each active record is counted with the login that it comes from. -/
theorem active_le (h : s.HasLines stage origin) (context : SecurityContext) :
    s.deployment.store.count (fun record => record.isActive && record.context = context) ≤
      (s.logins context).length := by
  rw [← List.length_map some]
  refine Store.count_le (fun token => (issuer? token s.steps).map origin) ?_ ?_
  · intro token record hfound hcounted
    obtain ⟨hactive, hcontext⟩ := Bool.and_eq_true _ _ |>.mp hcounted
    obtain ⟨issuer, hissuer, hlogin, hissued, -⟩ := h.stored_begins hfound
    rw [of_decide_eq_true hcontext] at hlogin
    obtain ⟨call, hcall, -⟩ := Option.map_eq_some_iff.mp hlogin
    rw [hissuer, Option.map_some]
    refine List.mem_map_of_mem (List.mem_filter.mpr ⟨List.mem_range.mpr ?_, ?_⟩)
    · exact (List.getElem?_eq_some_iff.mp hcall).1
    · simp [hlogin, hissued]
  · intro token other record otherRecord hfound hother hcounted hotherCounted heq
    have hactive := (Bool.and_eq_true _ _ |>.mp hcounted).1
    have hotherActive := (Bool.and_eq_true _ _ |>.mp hotherCounted).1
    obtain ⟨issuer, hissuer, -⟩ := h.stored_begins hfound
    obtain ⟨otherIssuer, hotherIssuer, -⟩ := h.stored_begins hother
    rw [hissuer, hotherIssuer, Option.map_some, Option.map_some, Option.some.injEq] at heq
    exact h.one_active hfound hother hactive hotherActive hissuer hotherIssuer heq

theorem isRotated (h : s.HasLines stage origin) : s.IsRotated where
  origin token record hfound := by
    obtain ⟨issuer, hissuer, hlogin, hissued, hline⟩ := h.stored_begins hfound
    refine ⟨origin issuer, ⟨⟨⟨_, hlogin⟩, hissued⟩, issuer, hissuer, hline⟩, ?_⟩
    rintro other ⟨⟨⟨context, hother⟩, -⟩, _, hby, hotherLine⟩
    cases hissuer.symm.trans hby
    exact (h.origin_eq hother hotherLine).symm
  identity token record login context hfound hlogin hbegins := by
    obtain ⟨issuer, hissuer, horigin, -⟩ := h.stored_begins hfound
    obtain ⟨_, hby, hline⟩ := hbegins
    cases hissuer.symm.trans hby
    rw [h.origin_eq hlogin hline, hlogin] at horigin
    cases horigin
    rfl
  one_active login token other record otherRecord hlogin hbegins hotherBegins hfound hother hactive
      hotherActive := by
    obtain ⟨⟨context, hasked⟩, -⟩ := hlogin
    obtain ⟨issuer, hissuer, hline⟩ := hbegins
    obtain ⟨otherIssuer, hotherIssuer, hotherLine⟩ := hotherBegins
    refine h.one_active hfound hother hactive hotherActive hissuer hotherIssuer ?_
    rw [h.origin_eq hasked hline, h.origin_eq hasked hotherLine]
  active_le := h.active_le
  answered index reply hreply := by
    obtain ⟨call, hcall, hdone⟩ := reply?_eq_some_iff.mp hreply
    have hscript := h.scripts index call hcall
    rw [hdone] at hscript
    rw [h.lines.issued index]
    exact hscript.ends_of_done

end HasLines

/-- However calls of the service are interleaved with each other, with prolongations, sweeps and
movements of the clock, from an empty store on, records are rotated in lines that begin with
logins. -/
theorem run_isRotated (d : Deployment) (turns : List Turn) :
    (Interleaving.run { deployment := { d with store := .empty } } turns).IsRotated := by
  obtain ⟨_, _, h⟩ := (start_hasLines d).run turns
  exact h.isRotated

/-- A refresh takes the record of a login and issues its own, in the same line. -/
example :
    let ids : Nat → RefreshToken := fun n => if n = 0 then ⟨"a"⟩ else ⟨"b"⟩
    let d : Deployment :=
      { config := ⟨"issuer", ⟨[115]⟩, .ofSeconds 60⟩, refreshLifetime := .ofSeconds 600
        clock := .startingAt .epoch, ids }
    let holder : SecurityContext := ⟨⟨7, by decide, by decide⟩, .user⟩
    let s := Interleaving.run { deployment := d } [.arrive (.login holder),
      .arrive (.refresh ⟨"a"⟩), .proceed 0 false .epoch, .proceed 0 false .epoch,
      .proceed 0 false .epoch, .proceed 1 false .epoch, .proceed 1 false .epoch,
      .proceed 1 false .epoch, .proceed 1 false .epoch]
    s.logins holder = [0] ∧ issuer? ⟨"b"⟩ s.steps = some 1 ∧
      s.deployment.store.size = 2 ∧ s.deployment.store.count (·.isActive) = 1 := by
  decide

end Interleaving

end SessionTokens
