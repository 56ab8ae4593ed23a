import EpokAuth.ServiceDiscipline

namespace EpokAuth

open Transactional

/-!
# Shared parts under a discipline

Principals are required and links are looked up by several operations.  Their
rules say, under any discipline, which rows the client holds afterwards.
-/

variable
  {discipline : Discipline}
  {env : Environment}
  {call : ServiceTx}
  {failed : Failure → ServiceStanding → Prop}
  {earlier later standing : ServiceStanding}

open Tx (Upholds)

/-! ## Reads -/

/-- What is seen after statements that write nothing is sane. -/
theorem Follows.sane
    (follows : Follows discipline [] earlier later) :
    discipline.sane later.view := by
  rcases follows.view with ⟨seen, _, sane, same⟩
  rw [same]
  exact sane

/-- Between statements that write nothing, others change rows by the rules. -/
theorem Follows.changes
    (follows : Follows discipline [] earlier later)
    (row : StoreRow) :
    discipline.rules.changes row (row.read earlier.view)
      (row.read later.view) := by
  rcases follows.view with ⟨seen, relied, _, same⟩
  rw [same]
  exact RowRules.changes_of_changed relied.changed row

theorem Follows.spares
    {resource : Resource}
    (follows : Follows discipline [] earlier later)
    (locked : Locked earlier.locks resource)
    (row : StoreRow) :
    discipline.rules.spares resource row (row.read earlier.view)
      (row.read later.view) := by
  rcases follows.view with ⟨seen, relied, _, same⟩
  rw [same]
  exact RowRules.spares_of_spared (relied.spared resource locked) row

/-! ## Principals -/

/-- A required principal's account is held afterwards, and may authenticate. -/
theorem upholds_requirePrincipalUser_locked
    {principal : Principal}
    {now : Instant}
    {normal : UserAccount → ServiceStanding → Prop}
    (inForce :
      ∀ user later,
        HoldsRow later (.user user.id) (some user) →
        user.canAuthenticate now = true → normal user later)
    (refused : ∀ failure later, failed failure later) :
    Upholds discipline env call (requirePrincipalUser principal now true)
      normal failed standing := by
  rw [requirePrincipalUser, upholds_bind]
  refine upholds_getUserById_locked ?_ ?_
  · intro later _ _
    rw [upholds_bind, requirePrincipalSession, upholds_bind]
    exact upholds_getSessionById_locked (fun _ _ => refused _ _)
      fun _ _ _ _ _ => refused _ _
  · intro user later _ holds _
    rw [upholds_bind, requirePrincipalSession, upholds_bind]
    refine upholds_getSessionById_locked (fun _ _ => refused _ _) ?_
    intro session last follows _ _
    dsimp only
    split
    · rename_i permitted
      rw [Bool.and_eq_true] at permitted
      exact inForce user last (holds.reads follows) permitted.1
    · exact refused _ _

/-! ## Links -/

/-- A link is seen that has a token and a purpose. -/
structure Presented
    (discipline : Discipline)
    (deps : Dependencies)
    (token : String)
    (purpose : EmailLinkPurpose)
    (candidate : EmailLink)
    (view : Store) :
    Prop where
  stored : view.links.get? candidate.id = some candidate
  token : candidate.tokenHash = deps.tokenHash token
  purpose : candidate.purpose = purpose
  sane : discipline.sane view

/-- A link that was presented is held by now, and is active. -/
structure HoldsPresented
    (discipline : Discipline)
    (deps : Dependencies)
    (token : String)
    (purpose : EmailLinkPurpose)
    (candidate link : EmailLink)
    (view : Store)
    (standing : ServiceStanding) :
    Prop where
  presented : Presented discipline deps token purpose candidate view
  holds : HoldsRow standing (.link link.id) (some link)
  same : link.id = candidate.id
  changes :
    discipline.rules.changes (.link link.id) (some candidate) (some link)
  active : link.state = .active
  sane : discipline.sane standing.view

theorem HoldsPresented.reads
    {deps : Dependencies}
    {token : String}
    {purpose : EmailLinkPurpose}
    {candidate link : EmailLink}
    {view : Store}
    (holds :
      HoldsPresented discipline deps token purpose candidate link view earlier)
    (follows : Follows discipline [] earlier later) :
    HoldsPresented discipline deps token purpose candidate link view later :=
  { holds with
    holds := holds.holds.reads follows
    sane := follows.sane }

/-- What a refused lookup has written: nothing, or the revocation of a link. -/
def Closes
    (discipline : Discipline)
    (call : ServiceTx)
    (now : Instant)
    (earlier later : ServiceStanding) :
    Prop :=
  later.issued = earlier.issued ∨
    ∃ link before,
      discipline.permits call before (.revokeEmailLink link.id now) ∧
        before.view.links.get? link.id = some link ∧
        later.issued =
          earlier.issued ++ [.putLink (Store.revokeLinkAt now link)]

/-- Statements that write nothing leave what was issued. -/
theorem Follows.issued_nil
    (follows : Follows discipline [] earlier later) :
    later.issued = earlier.issued :=
  follows.issued.trans (List.append_nil _)

/-- A link that is locked after it was presented is held, as others left it. -/
theorem Presented.held
    {deps : Dependencies}
    {token : String}
    {purpose : EmailLinkPurpose}
    {candidate link : EmailLink}
    {middle : ServiceStanding}
    (presented :
      Presented discipline deps token purpose candidate earlier.view)
    (first : Follows discipline [] earlier middle)
    (second : Follows discipline [] middle later)
    (holds : HoldsRow later (.link link.id) (some link))
    (same : link.id = candidate.id)
    (active : link.state = .active) :
    HoldsPresented discipline deps token purpose candidate link earlier.view
      later := by
  refine ⟨presented, holds, same, ?_, active, second.sane⟩
  have changed :=
    discipline.rules.changes_trans (.link link.id) _ _ _
      (first.changes (.link link.id)) (second.changes (.link link.id))
  have before : earlier.view.links.get? link.id = some candidate :=
    same ▸ presented.stored
  have after : later.view.links.get? link.id = some link := holds.seen
  simp only [StoreRow.read, before, after] at changed
  exact changed

/-- A held link that does not match is revoked, where that is permitted. -/
theorem upholds_closing
    {now : Instant}
    {link : EmailLink}
    {user : Option UserAccount}
    {normal : Option EmailLink × Option UserAccount → ServiceStanding → Prop}
    (holds : HoldsRow standing (.link link.id) (some link))
    (active : link.state = .active)
    (nothing : standing.issued = earlier.issued)
    (permitted :
      ∀ later, Follows discipline [] standing later →
        discipline.permits call later (.revokeEmailLink link.id now))
    (refused :
      ∀ later, Closes discipline call now earlier later →
        normal (none, user) later) :
    Upholds discipline env call
      (do
        let _ ← Tx.revokeEmailLink link.id now
        return (none, user))
      normal failed standing := by
  rw [upholds_bind]
  refine upholds_point rfl (fun _ seeing => permitted _ seeing) ?_
  intro seen last seeing follows _ _
  have found : seen.links.get? link.id = some link :=
    (holds.reads seeing).seen
  have isOpen :
      (seen.links.get? link.id).filter (fun link =>
        decide (link.state = .pending) || decide (link.state = .active)) =
        some link := by
    rw [found, Option.filter_some_pos (by simp [active])]
  dsimp only at follows
  rw [isOpen] at follows
  refine refused _ (.inr ⟨link, _, permitted _ seeing, found, ?_⟩)
  rw [follows.issued, nothing]

/--
Looking up a presented link ends with its account and itself held, or with
nothing; it is revoked when it does not match an account.
-/
theorem upholds_consumableLink
    {deps : Dependencies}
    {token : String}
    {purpose : EmailLinkPurpose}
    {now : Instant}
    {browserNonce : Option String}
    {normal : Option EmailLink × Option UserAccount → ServiceStanding → Prop}
    (orphaned :
      ∀ candidate link view later,
        HoldsPresented discipline deps token purpose candidate link view
          later →
        discipline.rules.changes (.user candidate.userId)
          (view.users.get? candidate.userId) none →
        discipline.permits call later (.revokeEmailLink link.id now))
    (unmatched :
      ∀ candidate link user view later,
        HoldsPresented discipline deps token purpose candidate link view
          later →
        HoldsRow later (.user user.id) (some user) →
        user.id = candidate.userId →
        matchesUser deps link user now = .ok false →
        discipline.permits call later (.revokeEmailLink link.id now))
    (matched :
      ∀ candidate link user view later,
        HoldsPresented discipline deps token purpose candidate link view
          later →
        HoldsRow later (.user user.id) (some user) →
        user.id = candidate.userId →
        matchesUser deps link user now = .ok true →
        (purpose = .login → validBrowser deps link browserNonce = .ok true) →
        later.issued = standing.issued →
        normal (some link, some user) later)
    (refused :
      ∀ user later, Closes discipline call now standing later →
        normal (none, user) later)
    (raised :
      ∀ failure later, later.issued = standing.issued →
        failed failure later) :
    Upholds discipline env call
      (consumableLink deps token purpose now browserNonce) normal failed
      standing := by
  unfold consumableLink
  split
  · exact refused _ _ (.inl rfl)
  rw [upholds_bind]
  refine upholds_read rfl rfl ?_
  intro early first
  have nothingFirst := first.issued_nil
  cases looked :
      early.view.links.find? fun link =>
        decide (link.tokenHash = deps.tokenHash token) &&
          decide (link.purpose = purpose) with
  | none =>
      exact refused _ _ (.inl nothingFirst)
  | some candidate =>
      have stored := Table.get?_of_find? looked
      have matching := stored.2
      rw [Bool.and_eq_true, decide_eq_true_eq, decide_eq_true_eq] at matching
      have presented :
          Presented discipline deps token purpose candidate early.view :=
        ⟨stored.1, matching.1, matching.2, first.sane⟩
      dsimp only
      rw [upholds_bind]
      refine upholds_getUserById_locked ?_ ?_
      · intro middle second noUser
        have nothingSecond := second.issued_nil.trans nothingFirst
        rw [upholds_bind]
        refine upholds_getEmailLink_locked
          (fun _ third =>
            refused _ _ (.inl (third.issued_nil.trans nothingSecond))) ?_
        intro link late third holds same
        have nothing := third.issued_nil.trans nothingSecond
        dsimp only
        by_cases active : link.state = .active
        · rw [if_neg (not_not.mpr active)]
          have gone := second.changes (.user candidate.userId)
          simp only [StoreRow.read, noUser] at gone
          have held := presented.held second third holds same active
          exact upholds_closing holds active nothing
            (fun last follows =>
              orphaned candidate link early.view last (held.reads follows)
                gone)
            (refused none)
        · rw [if_pos active]
          exact refused _ _ (.inl nothing)
      · intro user middle second holdsUser owner
        have nothingSecond := second.issued_nil.trans nothingFirst
        rw [upholds_bind]
        refine upholds_getEmailLink_locked
          (fun _ third =>
            refused _ _ (.inl (third.issued_nil.trans nothingSecond))) ?_
        intro link late third holds same
        have nothing := third.issued_nil.trans nothingSecond
        dsimp only
        by_cases active : link.state = .active
        · rw [if_neg (not_not.mpr active), upholds_bind, upholds_ofExcept]
          have held := presented.held second third holds same active
          have userHeld := holdsUser.reads third
          cases decided : matchesUser deps link user now with
          | error failure =>
              exact raised failure late nothing
          | ok isMatch =>
              cases isMatch with
              | false =>
                  exact upholds_closing holds active nothing
                    (fun last follows =>
                      unmatched candidate link user early.view last
                        (held.reads follows) (userHeld.reads follows) owner
                        decided)
                    (refused (some user))
              | true =>
                  have isAccepted : ¬ (!true) = true := by simp
                  dsimp only
                  rw [if_neg isAccepted]
                  by_cases isLogin : purpose = .login
                  · rw [if_pos isLogin, upholds_bind, upholds_ofExcept]
                    cases browser : validBrowser deps link browserNonce with
                    | error failure =>
                        exact raised failure late nothing
                    | ok isBrowser =>
                        cases isBrowser with
                        | false =>
                            exact refused _ _ (.inl nothing)
                        | true =>
                            exact matched candidate link user early.view late
                              held userHeld owner decided (fun _ => browser)
                              nothing
                  · rw [if_neg isLogin]
                    exact matched candidate link user early.view late held
                      userHeld owner decided
                      (fun isToo => absurd isToo isLogin) nothing
        · rw [if_pos active]
          exact refused _ _ (.inl nothing)

/-- A change of the state of one link writes at most that link. -/
theorem closing_writes
    {linkId : Uuid}
    {allowed : EmailLink → Bool}
    {change : EmailLink → EmailLink} :
    StoreExecution.Writes (fun _ write => ∃ link, write = .putLink (change link))
      (Store.closing linkId allowed change) :=
  StoreExecution.returning_writes fun _ _ _ _ => ⟨_, rfl⟩

/-- Writes of links leave all accounts as they are. -/
theorem HoldsRow.putsLinks
    {written : List Write}
    {userId : Uuid}
    {seen : Option UserAccount}
    (holds : HoldsRow earlier (.user userId) seen)
    (follows : Follows discipline written earlier later)
    (links : WritesOne (fun write => ∃ link, write = .putLink link) written) :
    HoldsRow later (.user userId) seen := by
  refine holds.follows follows ?_
  intro write member guards
  rcases links.forall write member with ⟨link, rfl⟩
  cases guards

/-- A presented link that matches its account, which may have it. -/
structure Redeemable
    (discipline : Discipline)
    (deps : Dependencies)
    (token : String)
    (purpose : EmailLinkPurpose)
    (now : Instant)
    (browserNonce : Option String)
    (candidate link : EmailLink)
    (user : UserAccount)
    (view : Store)
    (standing : ServiceStanding) :
    Prop where
  presented :
    HoldsPresented discipline deps token purpose candidate link view standing
  holds : HoldsRow standing (.user user.id) (some user)
  owner : user.id = candidate.userId
  matched : matchesUser deps link user now = .ok true
  browser :
    purpose = .login → validBrowser deps link browserNonce = .ok true
  eligible : canRequest deps.settings user purpose now = true

theorem Redeemable.reads
    {deps : Dependencies}
    {token : String}
    {purpose : EmailLinkPurpose}
    {now : Instant}
    {browserNonce : Option String}
    {candidate link : EmailLink}
    {user : UserAccount}
    {view : Store}
    (redeemable :
      Redeemable discipline deps token purpose now browserNonce candidate link
        user view earlier)
    (follows : Follows discipline [] earlier later) :
    Redeemable discipline deps token purpose now browserNonce candidate link
      user view later :=
  { redeemable with
    presented := redeemable.presented.reads follows
    holds := redeemable.holds.reads follows }

/-- Consuming a link that matches ends with its account held. -/
theorem upholds_consuming
    {deps : Dependencies}
    {token : String}
    {purpose : EmailLinkPurpose}
    {now : Instant}
    {browserNonce : Option String}
    {complete : UserAccount → Tx α}
    {refused : Option UserAccount → Tx Unit}
    {normal : Option α → ServiceStanding → Prop}
    (orphaned :
      ∀ candidate link view later,
        HoldsPresented discipline deps token purpose candidate link view
          later →
        discipline.rules.changes (.user candidate.userId)
          (view.users.get? candidate.userId) none →
        discipline.permits call later (.revokeEmailLink link.id now))
    (unmatched :
      ∀ candidate link user view later,
        HoldsPresented discipline deps token purpose candidate link view
          later →
        HoldsRow later (.user user.id) (some user) →
        user.id = candidate.userId →
        matchesUser deps link user now = .ok false →
        discipline.permits call later (.revokeEmailLink link.id now))
    (consumes :
      ∀ candidate link user view later,
        Redeemable discipline deps token purpose now browserNonce candidate
          link user view later →
        discipline.permits call later
          (.consumeEmailLink link.id link.purpose now))
    (completes :
      ∀ candidate link user view before later,
        Redeemable discipline deps token purpose now browserNonce candidate
          link user view before →
        HoldsRow later (.user user.id) (some user) →
        later.issued =
          standing.issued ++ [.putLink (Store.consumeLinkAt now link)] →
        Upholds discipline env call (complete user)
          (fun value => normal (some value)) failed later)
    (refuses :
      ∀ user later, Closes discipline call now standing later →
        Upholds discipline env call (refused user) (fun _ => normal none)
          failed later)
    (raised :
      ∀ failure later, later.issued = standing.issued →
        failed failure later) :
    Upholds discipline env call
      (consuming deps token purpose now browserNonce complete refused) normal
      failed standing := by
  rw [consuming, upholds_bind]
  refine upholds_consumableLink orphaned unmatched ?_ ?_ raised
  · intro candidate link user view found held holdsUser owner decided browser
      nothing
    dsimp only
    split
    · rename_i permitted
      have redeemable :
          Redeemable discipline deps token purpose now browserNonce candidate
            link user view found :=
        ⟨held, holdsUser, owner, decided, browser, permitted⟩
      rw [upholds_bind]
      refine upholds_point rfl ?_ ?_
      · intro seen seeing
        exact consumes candidate link user view _ (redeemable.reads seeing)
      · intro seen later seeing follows _ _
        have holdsStill :=
          holdsUser.putsLinks follows
            ((closing_writes seen).mono fun _ ⟨_, puts⟩ => ⟨_, puts⟩)
        have stored : seen.links.get? link.id = some link :=
          (held.holds.reads seeing).seen
        dsimp only at follows ⊢
        rw [stored] at follows ⊢
        cases isConsumable :
            (some link).filter (Store.isConsumable link.purpose now) with
        | none =>
            rw [isConsumable] at follows
            dsimp only
            rw [upholds_bind]
            exact refuses _ _ (.inl (follows.issued_nil.trans nothing))
        | some row =>
            rw [isConsumable] at follows
            obtain rfl :=
              Option.some.inj (Option.filter_eq_some_iff.mp isConsumable).1
            have issued := follows.issued
            rw [nothing] at issued
            dsimp only
            rw [upholds_bind]
            exact completes candidate link user view found later redeemable
              holdsStill issued
    · rw [upholds_bind]
      exact refuses _ _ (.inl nothing)
  · intro user later closes
    cases user with
    | none =>
        dsimp only
        rw [upholds_bind]
        exact refuses _ _ closes
    | some user =>
        dsimp only
        rw [upholds_bind]
        exact refuses _ _ closes

end EpokAuth
