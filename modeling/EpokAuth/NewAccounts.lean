import EpokAuth.StoredDigests

namespace EpokAuth

open Transactional
open Tx (StaysWithin)

/-!
# Accounts a transaction inserts

Few transactions insert an account, and none of them updates one after that.
What an account is like that was not there before can therefore be read off the
statement that inserts it.
-/

/-- Every account that was not there before is of some kind. -/
def NewAccounts
    (granted : UserAccount → Prop)
    (before after : Store) :
    Prop :=
  ∀ userId user, after.users.get? userId = some user →
    before.users.get? userId = none → granted user

/-- A statement inserts such accounts, and updates none if there are such. -/
def Statement.Enrolls (granted : UserAccount → Prop) : Statement → Prop
  | .insertUser user => granted user
  | .updateUser _ => ∀ user, ¬ granted user
  | _ => True

section Enrolling

variable
  {granted : UserAccount → Prop}
  {statement : Statement}
  {store view : Store}

/-- A row write that such a statement makes inserts such accounts. -/
theorem newAccounts_apply
    {write : Write}
    (enrolls : statement.Enrolls granted)
    (kept : NewAccounts granted store view)
    (may : statement.MayWrite view write) :
    NewAccounts granted store (Store.apply write view) := by
  have elsewhere :
      (∀ user, write ≠ .putUser user) →
        NewAccounts granted store (Store.apply write view) := by
    intro other
    cases write with
    | putUser user => exact absurd rfl (other user)
    | _ => exact kept
  cases statement with
  | insertUser user =>
      obtain ⟨rfl, _⟩ := may
      intro userId other found absent
      rw [Store.apply, Table.get?_put] at found
      split at found
      · exact Option.some.inj found ▸ enrolls
      · exact kept userId other found absent
  | updateUser user =>
      obtain ⟨rfl, stored⟩ := may
      intro userId other found absent
      rw [Store.apply, Table.get?_put] at found
      split at found
      · rename_i isUser
        subst isUser
        obtain ⟨current, foundCurrent⟩ := Option.isSome_iff_exists.mp stored
        exact absurd (kept _ current foundCurrent absent) (enrolls current)
      · exact kept userId other found absent
  | insertSession session =>
      obtain ⟨rfl, _⟩ := may
      exact kept
  | updateSession session =>
      obtain ⟨rfl, _⟩ := may
      exact kept
  | revokeFamily familyId revokedAt =>
      obtain ⟨session, _, _, rfl⟩ := may
      exact kept
  | revokeUserSessions userId revokedAt =>
      obtain ⟨session, _, _, rfl⟩ := may
      exact kept
  | _ => exact elsewhere may.1

/-- Such a statement, run alone, inserts such accounts. -/
theorem newAccounts_evaluate
    (enrolls : statement.Enrolls granted)
    (kept : NewAccounts granted store view) :
    NewAccounts granted store (Store.evaluate statement view).2 :=
  StoreExecution.perform_keeps
    (Store.execution_writes statement : StoreExecution.Writes _ _)
    (fun _ _ kept may => newAccounts_apply enrolls kept may)
    (kept : (fun later : Store => NewAccounts granted store later) view)

end Enrolling

namespace Tx

/--
Run where no account is new, the transaction leaves only new accounts of some
kind.
-/
def Enrolls (granted : UserAccount → Prop) (body : Tx α) : Prop :=
  ∀ store view, NewAccounts (fun _ => False) store view →
    Tx.wp body (fun _ later => NewAccounts granted store later)
      (fun _ _ => True) view

namespace Enrolls

variable
  {granted : UserAccount → Prop}
  {kinds : List StatementKind}
  {body : Tx α}
  {later : α → Tx β}

/-- Statements that keep the new accounts of some kind, keep them so. -/
theorem wp_of_issues
    {store view : Store}
    (issues : Prog.Issues (Statement.Enrolls granted) body)
    (kept : NewAccounts granted store view) :
    Tx.wp body (fun _ later => NewAccounts granted store later)
      (fun _ _ => True) view := by
  refine
    @Prog.wp_of_issues_keeping _ _ _ _ _ _ _ _ _ _
      (fun later : Store => NewAccounts granted store later) _ issues ?_
      (fun _ _ kept => kept) (fun _ _ _ => trivial) kept
  intro statement allowed normal view kept continues
  exact continues _ _ (newAccounts_evaluate allowed kept)

/-- No account is new where none may be. -/
theorem weaken
    {store view : Store}
    (none_ : NewAccounts (fun _ => False) store view) :
    NewAccounts granted store view :=
  fun userId user found absent => (none_ userId user found absent).elim

theorem of_issues
    (issues : Prog.Issues (Statement.Enrolls granted) body) :
    Enrolls granted body :=
  fun _ _ none_ => wp_of_issues issues (weaken none_)

/-- A transaction that inserts no accounts spares the old ones. -/
theorem spares
    (within : StaysWithin kinds body)
    (inserts : .enrolls ∉ kinds) :
    Prog.Issues (Statement.Enrolls fun _ => False) body := by
  refine Prog.Issues.mono within fun statement allowed => ?_
  cases statement with
  | insertUser user => exact absurd (allowed _ rfl) inserts
  | updateUser user => exact fun _ => id
  | _ => trivial

/-- A transaction that neither inserts nor updates accounts adds none. -/
theorem issues_of_within
    (within : StaysWithin kinds body)
    (inserts : .enrolls ∉ kinds)
    (updates : .updatesUser ∉ kinds) :
    Prog.Issues (Statement.Enrolls granted) body := by
  refine Prog.Issues.mono within fun statement allowed => ?_
  cases statement with
  | insertUser user => exact absurd (allowed _ rfl) inserts
  | updateUser user => exact absurd (allowed _ rfl) updates
  | _ => trivial

theorem of_within
    (within : StaysWithin kinds body)
    (inserts : .enrolls ∉ kinds) :
    Enrolls granted body := by
  intro store view none_
  exact Tx.wp_mono (wp_of_issues (spares within inserts) none_)
    (fun _ _ kept => weaken kept) (fun _ _ holds => holds)

/-- What comes after a part that inserts nothing. -/
theorem bind
    (first : StaysWithin kinds body)
    (inserts : .enrolls ∉ kinds)
    (second : ∀ value, Enrolls granted (later value)) :
    Enrolls granted (body >>= later) := by
  intro store view none_
  rw [Tx.wp_bind]
  exact Tx.wp_mono (wp_of_issues (spares first inserts) none_)
    (fun value middle kept => second value store middle kept)
    (fun _ _ holds => holds)

/-- What comes before a part that neither inserts nor updates. -/
theorem bind_issues
    (first : Enrolls granted body)
    (second :
      ∀ value, Prog.Issues (Statement.Enrolls granted) (later value)) :
    Enrolls granted (body >>= later) := by
  intro store view none_
  rw [Tx.wp_bind]
  exact Tx.wp_mono (first store view none_)
    (fun value middle kept => wp_of_issues (second value) kept)
    (fun _ _ holds => holds)

/-- What comes after a read. -/
theorem read
    {statement : Statement}
    {continued : Answer statement → Tx β}
    (harmless : statement.kind = none)
    (second : ∀ value, Enrolls granted (continued value)) :
    Enrolls granted (Tx.issue statement >>= continued) :=
  bind (.reads harmless : StaysWithin [] _) (by simp) second

theorem pure (value : α) : Enrolls granted (Pure.pure value : Tx α) :=
  of_within (.pure value : StaysWithin [] _) (by simp)

theorem ite
    {condition : Prop}
    [Decidable condition]
    {one other : Tx α}
    (holds : Enrolls granted one)
    (fails : Enrolls granted other) :
    Enrolls granted (if condition then one else other) := by
  split
  · exact holds
  · exact fails

end Enrolls

end Tx

open Tx (Enrolls)

section Parts

variable
  {deps : Dependencies}
  {granted : UserAccount → Prop}
  {now : Instant}
  {context : RequestContext}

/-- A pending account is the only one inserted with its link. -/
theorem createPending_issues
    {user : UserAccount}
    {draws : LinkDraws}
    (isGranted : granted user) :
    Prog.Issues (Statement.Enrolls granted)
      (createPending deps user now context draws) := by
  have links :
      Prog.Issues (Statement.Enrolls granted)
        (issueLink deps user .activation now context none draws) :=
    Enrolls.issues_of_within issueLink_within (by simp) (by simp)
  refine .bind (.bind ⟨isGranted, fun _ => trivial⟩
    fun _ => Prog.issues_ofExcept _) fun _ =>
      .bind ⟨trivial, fun _ => trivial⟩ fun _ => .bind links fun issue => ?_
  split
  · trivial
  · trivial

/-- Logging in with Google inserts an account in the open mode only. -/
theorem googleLogin_enrolls_open
    {claims : GoogleClaims}
    {draws : GoogleLoginDraws}
    (isGranted :
      deps.settings.googleAccountMode = .open_ →
        ∀ email displayName passwordHash,
          granted
            (openAccount deps draws.userId email displayName passwordHash
              now)) :
    Enrolls granted (googleLogin deps claims now context draws) := by
  have links :
      ∀ user,
        Enrolls granted
          (if canAutoLink user claims now then do
            let result ← linkAndLogin deps user claims now context draws
            return some result
          else
            return none) := by
    intro user
    refine .ite ?_ (.pure _)
    exact .of_within (.bind linkAndLogin_within fun _ => .pure _) (by simp)
  have creates :
      deps.settings.googleAccountMode = .open_ → ∀ email,
        Prog.Issues (Statement.Enrolls granted)
          (createOpenUser deps claims email now context draws) := by
    intro isOpen email
    exact .bind (Prog.issues_ofExcept _) fun passwordHash =>
      .bind (Prog.issues_ofExcept _) fun displayName =>
        .bind (.bind ⟨isGranted isOpen _ _ _, fun _ => trivial⟩
          fun _ => Prog.issues_ofExcept _) fun _ =>
            .bind ⟨trivial, fun _ => trivial⟩ fun _ => trivial
  have identities :
      Enrolls granted (loginIdentity deps claims now context draws) := by
    refine .read rfl fun identity => ?_
    split
    · exact .of_within loginLinked_within (by simp)
    unfold loginUnlinked
    split
    · exact .pure _
    · unfold loginPreauthorized
      split
      · exact .pure _
      refine .ite ?_ (.pure _)
      refine .read rfl fun user => ?_
      split
      · exact .pure _
      · exact links _
    · rename_i isOpen
      unfold loginOpen
      split
      · exact .pure _
      refine .ite ?_ (.pure _)
      refine .read rfl fun user => ?_
      split
      · exact links _
      · refine .bind_issues (.of_issues (creates isOpen _)) fun user => ?_
        exact .bind
          (Enrolls.issues_of_within insertIdentityAndLogin_within (by simp)
            (by simp))
          fun _ => trivial
  refine .bind_issues identities fun result => ?_
  split
  · trivial
  · exact .bind ⟨trivial, fun _ => trivial⟩ fun _ => trivial

/-- Logging in with Google inserts an account of the default role only. -/
theorem googleLogin_enrolls
    {claims : GoogleClaims}
    {draws : GoogleLoginDraws}
    (isGranted :
      ∀ email displayName passwordHash,
        granted
          (openAccount deps draws.userId email displayName passwordHash now)) :
    Enrolls granted (googleLogin deps claims now context draws) :=
  googleLogin_enrolls_open fun _ => isGranted

end Parts

end EpokAuth
