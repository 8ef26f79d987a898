import Mathlib.Logic.Function.Basic
import SessionTokens.Proofs.Service.Lineage
import SessionTokens.Proofs.Service.Stages

/-! # Lines of calls, one for each login

The invariant gives each call an origin, the login that its line goes back to, and knows how far the
call has come with issuing a record. In each line there is one holder at most: a call that owes a
record, or one of which the record is active. A refresh that takes a record gets its place from the
holder, and passes it on to nobody before it has issued a record of its own. Sweeps and
prolongations only take records away or leave them as active as they were.
-/

namespace SessionTokens

open Time CallStep Function

/-! ## The invariant -/

/-- A call holds the place in its line: it owes a record, or a record that it issued is active. -/
inductive Holds (steps : List CallStep) (store : Store) (stage : Nat → Stage) (index : Nat) : Prop
  | owing {context : SecurityContext} :
      stage index = .owing context → Holds steps store stage index
  | active {token : RefreshToken} {record : Record} :
      store.find? token = some record → record.isActive = true →
        issuer? token steps = some index → Holds steps store stage index

/-- The records of a store in the lines of the calls that were asked for and have made steps, where
each call is in a stage and has an origin. -/
structure Lines (asked : Nat → Option Request) (steps : List CallStep) (store : Store)
    (stage : Nat → Stage) (origin : Nat → Nat) : Prop where
  issued : ∀ index, hasIssued index steps = true ↔ stage index = .issued
  unborn : ∀ index, asked index = none → stage index = .waiting ∧ origin index = index
  login : ∀ index context, asked index = some (.login context) → origin index = index
  orphan : ∀ index parent, stage index = .waiting → ¬ Succeeds parent index steps
  succeeds : ∀ parent child, Succeeds parent child steps →
    stage parent = .issued ∧ origin child = origin parent
  owing : ∀ index context, stage index = .owing context →
    asked (origin index) = some (.login context) ∧ Descends steps (origin index) index
  stored : ∀ token record, store.find? token = some record →
    ∃ issuer, issuer? token steps = some issuer ∧ stage issuer = .issued ∧
      asked (origin issuer) = some (.login record.context) ∧
        Descends steps (origin issuer) issuer
  one_record : ∀ token other record otherRecord issuer, store.find? token = some record →
    store.find? other = some otherRecord → issuer? token steps = some issuer →
      issuer? other steps = some issuer → token = other
  one_holder : ∀ index other, Holds steps store stage index → Holds steps store stage other →
    origin index = origin other → index = other

variable {asked : Nat → Option Request} {steps : List CallStep} {store : Store}
  {stage : Nat → Stage} {origin : Nat → Nat} {step : CallStep} {index : Nat}

theorem Holds.of_stage_eq {later : Nat → Stage} (h : Holds steps store later index)
    (heq : later index = stage index) : Holds steps store stage index := by
  cases h with
  | owing howing => exact .owing (heq ▸ howing)
  | active hfound hactive hissuer => exact .active hfound hactive hissuer

theorem Holds.of_keeps {after : Store} (h : Holds steps after stage index)
    (hkeeps : store.Keeps after) : Holds steps store stage index := by
  cases h with
  | owing howing => exact .owing howing
  | active hkept hactive hissuer =>
      obtain ⟨record, hrecord, -, hstill⟩ := hkeeps _ _ hkept
      exact .active hrecord (hstill hactive) hissuer

theorem Holds.of_issuer_eq {later : List CallStep} (h : Holds later store stage index)
    (heq : ∀ token, issuer? token later = issuer? token steps) : Holds steps store stage index := by
  cases h with
  | owing howing => exact .owing howing
  | active hfound hactive hissuer => exact .active hfound hactive ((heq _).symm.trans hissuer)

/-- One call may become a holder, if no other holder has its origin. -/
theorem one_holder_of_newcomer {holds later : Nat → Prop} {origins : Nat → Nat} (newcomer : Nat)
    (h : ∀ index other, holds index → holds other → origin index = origin other → index = other)
    (hrest : ∀ index, index ≠ newcomer → later index →
      holds index ∧ origins index = origin index ∧ origins index ≠ origins newcomer) :
    ∀ index other, later index → later other → origins index = origins other → index = other := by
  intro index other hindex hother heq
  by_cases hfirst : index = newcomer
  · by_cases hsecond : other = newcomer
    · rw [hfirst, hsecond]
    · rw [hfirst] at heq
      exact absurd heq.symm (hrest other hsecond hother).2.2
  · by_cases hsecond : other = newcomer
    · rw [hsecond] at heq
      exact absurd heq (hrest index hfirst hindex).2.2
    · obtain ⟨hindexBefore, hindexSame, -⟩ := hrest index hfirst hindex
      obtain ⟨hotherBefore, hotherSame, -⟩ := hrest other hsecond hother
      rw [hindexSame, hotherSame] at heq
      exact h index other hindexBefore hotherBefore heq

namespace Lines

theorem start : Lines (fun _ => none) [] .empty (fun _ => .waiting) id where
  issued index := by simp [hasIssued]
  unborn _ _ := ⟨rfl, rfl⟩
  login _ _ h := by cases h
  orphan _ _ _ h := h
  succeeds _ _ h := h.elim
  owing _ _ h := by cases h
  stored _ _ h := by cases h
  one_record _ _ _ _ _ h := by cases h
  one_holder _ _ h _ _ := by
    cases h with
    | owing howing => cases howing
    | active hfound => cases hfound

theorem asked_of_holds (h : Lines asked steps store stage origin)
    (hholds : Holds steps store stage index) :
    ∃ context, asked (origin index) = some (.login context) := by
  cases hholds with
  | owing howing => exact ⟨_, (h.owing _ _ howing).1⟩
  | active hfound _ hissuer =>
      obtain ⟨issuer, hissuer', -, hasked, -⟩ := h.stored _ _ hfound
      cases hissuer.symm.trans hissuer'
      exact ⟨_, hasked⟩

/-- Keeping only records that there were keeps the lines. -/
theorem keep (h : Lines asked steps store stage origin) {after : Store}
    (hkeeps : store.Keeps after) : Lines asked steps after stage origin where
  issued := h.issued
  unborn := h.unborn
  login := h.login
  orphan := h.orphan
  succeeds := h.succeeds
  owing := h.owing
  stored token kept hkept := by
    obtain ⟨record, hrecord, hcontext, -⟩ := hkeeps token kept hkept
    rw [hcontext]
    exact h.stored token record hrecord
  one_record token other kept otherKept issuer hkept hother := by
    obtain ⟨record, hrecord, -⟩ := hkeeps token kept hkept
    obtain ⟨otherRecord, hotherRecord, -⟩ := hkeeps other otherKept hother
    exact h.one_record token other record otherRecord issuer hrecord hotherRecord
  one_holder index other hindex hother :=
    h.one_holder index other (hindex.of_keeps hkeeps) (hother.of_keeps hkeeps)

/-- A login that arrives begins a line of its own. -/
theorem arrive (h : Lines asked steps store stage origin) (hnew : asked index = none)
    (request : Request) :
    Lines (update asked index (some request)) steps store
      (update stage index (.start request)) origin := by
  obtain ⟨hwaiting, horigin⟩ := h.unborn index hnew
  have hasked : ∀ other context, asked other = some (.login context) →
      update asked index (some request) other = some (.login context) := by
    intro other context hother
    rw [update_of_ne (ne_of_apply_ne asked (by rw [hother, hnew]; nofun)), hother]
  have hissued : ∀ other, stage other = .issued →
      update stage index (.start request) other = .issued := by
    intro other hother
    rw [update_of_ne (ne_of_apply_ne stage (by rw [hother, hwaiting]; nofun)), hother]
  constructor
  case issued =>
    intro other
    rw [h.issued other]
    by_cases hsame : other = index
    · rw [hsame, update_self, hwaiting]
      exact ⟨nofun, fun hstart => absurd hstart (Stage.start_ne_issued request)⟩
    · rw [update_of_ne hsame]
  case unborn =>
    intro other hother
    by_cases hsame : other = index
    · rw [hsame, update_self] at hother
      cases hother
    · rw [update_of_ne hsame] at hother ⊢
      exact h.unborn other hother
  case login =>
    intro other context hother
    by_cases hsame : other = index
    · rw [hsame]
      exact horigin
    · rw [update_of_ne hsame] at hother
      exact h.login other context hother
  case orphan =>
    intro other parent hother
    by_cases hsame : other = index
    · rw [hsame]
      exact h.orphan index parent hwaiting
    · rw [update_of_ne hsame] at hother
      exact h.orphan other parent hother
  case succeeds =>
    intro parent child hsucceeds
    obtain ⟨hparent, hsame⟩ := h.succeeds parent child hsucceeds
    exact ⟨hissued parent hparent, hsame⟩
  case owing =>
    intro other context hother
    by_cases hsame : other = index
    · rw [hsame, update_self] at hother
      rw [hsame, horigin, update_self, Stage.start_eq_owing hother]
      exact ⟨rfl, .self⟩
    · rw [update_of_ne hsame] at hother
      obtain ⟨hlogin, hdescends⟩ := h.owing other context hother
      exact ⟨hasked _ _ hlogin, hdescends⟩
  case stored =>
    intro token record hfound
    obtain ⟨issuer, hissuer, hstage, hlogin, hdescends⟩ := h.stored token record hfound
    exact ⟨issuer, hissuer, hissued issuer hstage, hasked _ _ hlogin, hdescends⟩
  case one_record => exact h.one_record
  case one_holder =>
    refine one_holder_of_newcomer index h.one_holder fun other hne hholds => ?_
    have hbefore := hholds.of_stage_eq (update_of_ne hne _ _)
    refine ⟨hbefore, rfl, fun hsame => ?_⟩
    -- the login of an older line was asked for before, so that its line is another one
    obtain ⟨context, hlogin⟩ := h.asked_of_holds hbefore
    rw [hsame, horigin, hnew] at hlogin
    cases hlogin

/-! ## Steps of calls -/

/-- A step that keeps only records that there were, and takes none to refresh it, keeps the lines. -/
theorem pass (h : Lines asked steps step.before.store stage origin)
    (hkeeps : step.before.store.Keeps step.after.store)
    (hnot : ∀ token record, step.request = .refresh token → ¬ step.Takes token record) :
    Lines asked (step :: steps) step.after.store stage origin := by
  have hissuer : ∀ token, issuer? token (step :: steps) = issuer? token steps :=
    issuer?_cons_of_keeps hkeeps
  have hkept := h.keep hkeeps
  constructor
  case issued =>
    intro index
    rw [hasIssued_cons_of_keeps hkeeps]
    exact h.issued index
  case unborn => exact h.unborn
  case login => exact h.login
  case orphan =>
    exact fun index parent hwaiting hnew => h.orphan index parent hwaiting (hnew.earlier hnot)
  case succeeds => exact fun parent child hnew => h.succeeds parent child (hnew.earlier hnot)
  case owing =>
    intro index context howing
    obtain ⟨hlogin, hdescends⟩ := h.owing index context howing
    exact ⟨hlogin, hdescends.later step⟩
  case stored =>
    intro token record hfound
    obtain ⟨issuer, hold, hissued, hlogin, hdescends⟩ := hkept.stored token record hfound
    exact ⟨issuer, by rw [hissuer, hold], hissued, hlogin, hdescends.later step⟩
  case one_record =>
    intro token other record otherRecord issuer
    rw [hissuer, hissuer]
    exact hkept.one_record token other record otherRecord issuer
  case one_holder =>
    exact fun index other hindex hother =>
      hkept.one_holder index other (hindex.of_issuer_eq hissuer) (hother.of_issuer_eq hissuer)

/-- The call whose record is taken loses its place, and nobody but the taker gets one. -/
theorem holds_of_take (h : Lines asked steps step.before.store stage origin) {token : RefreshToken}
    {record : Record} {parent : Nat} {next : Stage} (htakes : step.Takes token record)
    (hkeeps : step.before.store.Keeps step.after.store)
    (hparent : issuer? token steps = some parent) (hissued : stage parent = .issued)
    (hother : index ≠ step.call)
    (hholds : Holds (step :: steps) step.after.store (update stage step.call next) index) :
    Holds steps step.before.store stage index ∧ index ≠ parent := by
  have hafter := (hholds.of_stage_eq (update_of_ne hother _ _)).of_issuer_eq
    (issuer?_cons_of_keeps hkeeps)
  refine ⟨hafter.of_keeps hkeeps, ?_⟩
  rintro rfl
  cases hafter with
  | owing howing =>
      rw [hissued] at howing
      cases howing
  | active hfound hactive hby =>
      -- the one record of this call is the one that was revoked
      cases (h.keep hkeeps).one_record _ _ _ _ index hfound htakes.2.2 hby hparent
      cases hfound.symm.trans htakes.2.2
      cases hactive

/-- A refresh that takes a record takes over the place of the call that had issued it. -/
theorem take (h : Lines asked steps step.before.store stage origin) {token : RefreshToken}
    {record : Record} (hasked : asked step.call = some step.request)
    (hrequest : step.request = .refresh token) (hwaiting : stage step.call = .waiting)
    (htakes : step.Takes token record) (hkeeps : step.before.store.Keeps step.after.store) :
    ∃ origins, Lines asked (step :: steps) step.after.store
      (update stage step.call (.owing record.context)) origins := by
  obtain ⟨parent, hparent, hparentIssued, hlogin, hline⟩ := h.stored token record htakes.1
  have hissuer : ∀ token, issuer? token (step :: steps) = issuer? token steps :=
    issuer?_cons_of_keeps hkeeps
  have hne : ∀ index, stage index = .issued → index ≠ step.call :=
    fun index hissued => ne_of_apply_ne stage (by rw [hissued, hwaiting]; nofun)
  have hsucceeds : ∀ ancestor child, Succeeds ancestor child (step :: steps) →
      (child = step.call ∧ ancestor = parent) ∨
        (child ≠ step.call ∧ Succeeds ancestor child steps) := by
    rintro ancestor child (⟨rfl, taken, _, hpresented, -, hancestor⟩ | hearlier)
    · cases hrequest.symm.trans hpresented
      exact .inl ⟨rfl, Option.some.inj (hancestor.symm.trans hparent)⟩
    · refine .inr ⟨?_, hearlier⟩
      rintro rfl
      exact h.orphan _ ancestor hwaiting hearlier
  have hkept := h.keep hkeeps
  refine ⟨update origin step.call (origin parent), ?_⟩
  constructor
  case issued =>
    intro index
    rw [hasIssued_cons_of_keeps hkeeps, h.issued index]
    by_cases hsame : index = step.call
    · rw [hsame, update_self, hwaiting]
      exact ⟨nofun, nofun⟩
    · rw [update_of_ne hsame]
  case unborn =>
    intro index hnone
    have hother : index ≠ step.call := ne_of_apply_ne asked (by rw [hnone, hasked]; nofun)
    rw [update_of_ne hother, update_of_ne hother]
    exact h.unborn index hnone
  case login =>
    intro index context hindex
    have hother : index ≠ step.call :=
      ne_of_apply_ne asked (by rw [hindex, hasked, hrequest]; nofun)
    rw [update_of_ne hother]
    exact h.login index context hindex
  case orphan =>
    intro index ancestor hstage hnew
    rcases hsucceeds ancestor index hnew with ⟨rfl, -⟩ | ⟨hother, hearlier⟩
    · rw [update_self] at hstage
      cases hstage
    · rw [update_of_ne hother] at hstage
      exact h.orphan index ancestor hstage hearlier
  case succeeds =>
    intro ancestor child hnew
    rcases hsucceeds ancestor child hnew with ⟨rfl, rfl⟩ | ⟨hother, hearlier⟩
    · have hapart := hne ancestor hparentIssued
      rw [update_of_ne hapart, update_of_ne hapart, update_self]
      exact ⟨hparentIssued, rfl⟩
    · obtain ⟨hissued, hsame⟩ := h.succeeds ancestor child hearlier
      have hapart := hne ancestor hissued
      rw [update_of_ne hapart, update_of_ne hapart, update_of_ne hother]
      exact ⟨hissued, hsame⟩
  case owing =>
    intro index context hstage
    by_cases hsame : index = step.call
    · rw [hsame, update_self] at hstage
      cases hstage
      rw [hsame, update_self]
      exact ⟨hlogin,
        (hline.later step).refreshed (.inl ⟨rfl, token, record, hrequest, htakes, hparent⟩)⟩
    · rw [update_of_ne hsame] at hstage ⊢
      obtain ⟨hcontext, hdescends⟩ := h.owing index context hstage
      exact ⟨hcontext, hdescends.later step⟩
  case stored =>
    intro other kept hfound
    obtain ⟨issuer, hby, hissued, hcontext, hdescends⟩ := hkept.stored other kept hfound
    have hapart := hne issuer hissued
    refine ⟨issuer, by rw [hissuer, hby], ?_⟩
    rw [update_of_ne hapart, update_of_ne hapart]
    exact ⟨hissued, hcontext, hdescends.later step⟩
  case one_record =>
    intro one other oneRecord otherRecord issuer
    rw [hissuer, hissuer]
    exact hkept.one_record one other oneRecord otherRecord issuer
  case one_holder =>
    refine one_holder_of_newcomer step.call h.one_holder fun index hother hholds => ?_
    obtain ⟨hbefore, hapart⟩ :=
      h.holds_of_take htakes hkeeps hparent hparentIssued hother hholds
    rw [update_of_ne hother, update_self]
    refine ⟨hbefore, rfl, fun hsame => hapart ?_⟩
    exact h.one_holder index parent hbefore (.active htakes.1 htakes.2.1 hparent) hsame

/-- A call that issues the record that it owes keeps its place. -/
theorem issue (h : Lines asked steps step.before.store stage origin) {record : Record}
    {hfresh : step.before.store.find? record.token = none}
    (howing : stage step.call = .owing record.context)
    (hpush : step.after.store = step.before.store.push record hfresh) :
    Lines asked (step :: steps) step.after.store (update stage step.call .issued) origin := by
  obtain ⟨hlogin, hline⟩ := h.owing step.call record.context howing
  have hsucceeds : ∀ parent child, Succeeds parent child (step :: steps) →
      Succeeds parent child steps :=
    fun _ _ hnew => hnew.earlier fun _ _ _ => not_takes_of_push hpush
  have hissued : ∀ index, stage index = .issued →
      update stage step.call .issued index = .issued := by
    intro index hindex
    by_cases hsame : index = step.call
    · rw [hsame, update_self]
    · rw [update_of_ne hsame, hindex]
  -- the call itself had issued nothing so far
  have hnone : ∀ token kept, step.before.store.find? token = some kept →
      issuer? token steps ≠ some step.call := by
    intro token kept hfound hby
    obtain ⟨issuer, hissuer, hstage, -⟩ := h.stored token kept hfound
    cases hby.symm.trans hissuer
    rw [howing] at hstage
    cases hstage
  constructor
  case issued =>
    intro index
    rw [hasIssued_cons_of_push hpush, h.issued index]
    by_cases hsame : index = step.call
    · simp [hsame]
    · simp [update_of_ne hsame, Ne.symm hsame]
  case unborn =>
    intro index hunborn
    obtain ⟨hwaiting, horigin⟩ := h.unborn index hunborn
    refine ⟨?_, horigin⟩
    rw [update_of_ne (ne_of_apply_ne stage (by rw [hwaiting, howing]; nofun)), hwaiting]
  case login => exact h.login
  case orphan =>
    intro index parent hstage hnew
    by_cases hsame : index = step.call
    · rw [hsame, update_self] at hstage
      cases hstage
    · rw [update_of_ne hsame] at hstage
      exact h.orphan index parent hstage (hsucceeds _ _ hnew)
  case succeeds =>
    intro parent child hnew
    obtain ⟨hparent, hsame⟩ := h.succeeds parent child (hsucceeds _ _ hnew)
    exact ⟨hissued parent hparent, hsame⟩
  case owing =>
    intro index context hstage
    by_cases hsame : index = step.call
    · rw [hsame, update_self] at hstage
      cases hstage
    · rw [update_of_ne hsame] at hstage
      obtain ⟨hasked, hdescends⟩ := h.owing index context hstage
      exact ⟨hasked, hdescends.later step⟩
  case stored =>
    intro token kept hfound
    rcases find?_cases_of_push hpush hfound steps with ⟨-, rfl, hby⟩ | ⟨hfound, hby⟩
    · exact ⟨step.call, hby, update_self _ _ _, hlogin, hline.later step⟩
    · obtain ⟨issuer, hissuer, hstage, hasked, hdescends⟩ := h.stored token kept hfound
      exact ⟨issuer, hby.trans hissuer, hissued issuer hstage, hasked, hdescends.later step⟩
  case one_record =>
    intro one other oneRecord otherRecord issuer hone hother
    rcases find?_cases_of_push hpush hone steps with ⟨hone, -, hby⟩ | ⟨hone, hby⟩
    · rcases find?_cases_of_push hpush hother steps with ⟨hother, -, -⟩ | ⟨hother, hotherBy⟩
      · exact fun _ _ => hone.trans hother.symm
      · rw [hby, hotherBy]
        rintro ⟨⟩ hissuer
        exact absurd hissuer (hnone other otherRecord hother)
    · rcases find?_cases_of_push hpush hother steps with ⟨hother, -, hotherBy⟩ | ⟨hother, hotherBy⟩
      · rw [hby, hotherBy]
        rintro hissuer ⟨⟩
        exact absurd hissuer (hnone one oneRecord hone)
      · rw [hby, hotherBy]
        exact h.one_record one other oneRecord otherRecord issuer hone hother
  case one_holder =>
    have hheld : ∀ index,
        Holds (step :: steps) step.after.store (update stage step.call .issued) index →
          Holds steps step.before.store stage index := by
      intro index hholds
      by_cases hsame : index = step.call
      · rw [hsame]
        exact .owing howing
      · cases hholds.of_stage_eq (update_of_ne hsame _ _) with
        | owing howing => exact .owing howing
        | active hfound hactive hissuer =>
            rcases find?_cases_of_push hpush hfound steps with ⟨-, -, hby⟩ | ⟨hfound, hby⟩
            · exact absurd (Option.some.inj (hissuer.symm.trans hby)) hsame
            · exact .active hfound hactive (hby.symm.trans hissuer)
    exact fun index other hindex hother =>
      h.one_holder index other (hheld index hindex) (hheld other hother)

/-- However a step moves the call that makes it, there are lines afterwards. -/
theorem move (h : Lines asked steps step.before.store stage origin)
    (hasked : asked step.call = some step.request) {next : Stage}
    (hmove : Stage.Move step.request (stage step.call) step.before step.after next) :
    ∃ origins, Lines asked (step :: steps) step.after.store (update stage step.call next)
      origins := by
  generalize hstage : stage step.call = current at hmove
  cases hmove with
  | stays hstore =>
      rw [← hstage, update_eq_self]
      have hkeeps : step.before.store.Keeps step.after.store := by
        rw [hstore]
        exact step.before.store.keeps_refl
      exact ⟨origin, h.pass hkeeps fun _ _ _ => not_takes_of_store_eq hstore⟩
  | revokes hrequest hkeeps =>
      rw [← hstage, update_eq_self]
      refine ⟨origin, h.pass hkeeps fun _ _ hrefresh => ?_⟩
      cases hrequest.symm.trans hrefresh
  | takes hrequest hfound hactive hleft hkeeps =>
      exact h.take hasked hrequest hstage ⟨hfound, hactive, hleft⟩ hkeeps
  | issues hfresh hpush _ => exact ⟨origin, h.issue hstage hpush⟩

end Lines

end SessionTokens
