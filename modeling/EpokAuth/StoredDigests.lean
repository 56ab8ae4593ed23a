import EpokAuth.ConcurrentServices
import EpokAuth.Footprint
import EpokAuth.SessionStep

namespace EpokAuth

open Transactional

/-!
# Stored CSRF hashes are digests

A session row is inserted by the issuer only, with the digest of a CSRF token,
and no later statement changes that digest.  So what a presented cookie is
compared with is ASCII in every reachable store, and the comparison is defined.
-/

/-- Every stored CSRF hash can be compared. -/
def DigestedSessions (sessions : Table RefreshSession) : Prop :=
  ∀ id session, sessions.get? id = some session →
    isAscii session.csrfHash = true

theorem DigestedSessions.put
    {sessions : Table RefreshSession}
    {session : RefreshSession}
    (digested : DigestedSessions sessions)
    (ascii : isAscii session.csrfHash = true) :
    DigestedSessions (sessions.put session) := by
  intro id other found
  rw [Table.get?_put] at found
  split at found
  · obtain rfl := Option.some.inj found
    exact ascii
  · exact digested id other found

/-- Revoking sessions leaves their hashes alone. -/
theorem DigestedSessions.revise
    {sessions : Table RefreshSession}
    {property : RefreshSession → Bool}
    {revokedAt : Instant}
    (digested : DigestedSessions sessions)
    (keepsKey :
      ∀ row, (key (Store.revokeAt revokedAt row) : Uuid) = key row) :
    DigestedSessions
      (sessions.revise property (Store.revokeAt revokedAt) keepsKey) := by
  intro id session found
  rw [Table.get?_revise, Option.map_eq_some_iff] at found
  obtain ⟨earlier, present, rfl⟩ := found
  have ascii := digested id earlier present
  split
  · exact ascii
  · exact ascii

/-- A statement that stores session rows with digests only. -/
def Statement.StoresDigests : Statement → Prop
  | .insertSession session => isAscii session.csrfHash = true
  | .updateSession session => isAscii session.csrfHash = true
  | _ => True

/-- A row write that such a statement makes keeps the digests. -/
theorem digested_apply
    {statement : Statement}
    {view : Store}
    {write : Write}
    (stores : statement.StoresDigests)
    (digested : DigestedSessions view.sessions)
    (may : statement.MayWrite view write) :
    DigestedSessions (Store.apply write view).sessions := by
  have elsewhere :
      (∀ session, write ≠ .putSession session) →
        DigestedSessions (Store.apply write view).sessions := by
    intro other
    cases write with
    | putSession session => exact absurd rfl (other session)
    | _ => exact digested
  cases statement with
  | insertSession session =>
      obtain ⟨rfl, _⟩ := may
      exact digested.put stores
  | updateSession session =>
      obtain ⟨rfl, _⟩ := may
      exact digested.put stores
  | revokeFamily familyId revokedAt =>
      obtain ⟨session, found, _, rfl⟩ := may
      exact digested.put (digested _ session found)
  | revokeUserSessions userId revokedAt =>
      obtain ⟨session, found, _, rfl⟩ := may
      exact digested.put (digested _ session found)
  | insertUser user =>
      obtain ⟨rfl, _⟩ := may
      exact digested
  | updateUser user =>
      obtain ⟨rfl, _⟩ := may
      exact digested
  | _ => exact elsewhere may.2

/-- What every permitted row write keeps, a statement run alone keeps. -/
theorem StoreExecution.perform_keeps
    {may : Store → Write → Prop}
    {execution : StoreExecution α}
    {keeps : Store → Prop}
    {store : Store}
    (writes : execution.Writes may)
    (step :
      ∀ view write, keeps view → may view write →
        keeps (Store.apply write view))
    (kept : keeps store) :
    keeps (execution.perform Store.apply store).2 := by
  cases execution with
  | point locks effect =>
      exact (writes store).apply_cases kept fun write may =>
        step store write kept may
  | sweep targets lock touch answer =>
      have visited :
          ∀ (remaining : List Uuid) (view : Store), keeps view →
            keeps (visitAll Store.apply touch remaining view).2 := by
        intro remaining
        induction remaining with
        | nil =>
            exact fun view keptView => keptView
        | cons target rest inductionHypothesis =>
            intro view keptView
            exact inductionHypothesis _
              ((writes target view).apply_cases keptView fun write may =>
                step view write keptView may)
      exact visited (targets store) store kept

/-- Such a statement, run alone, keeps the digests. -/
theorem digested_evaluate
    {statement : Statement}
    {store : Store}
    (stores : statement.StoresDigests)
    (digested : DigestedSessions store.sessions) :
    DigestedSessions (Store.evaluate statement store).2.sessions :=
  StoreExecution.perform_keeps
    (Store.execution_writes statement : StoreExecution.Writes _ _)
    (fun _ _ kept may => digested_apply stores kept may)
    (digested : (fun view : Store => DigestedSessions view.sessions) store)

namespace Tx

/-- A transaction whose statements store session rows with digests only. -/
def StoresDigests (body : Tx α) : Prop :=
  Prog.Issues Statement.StoresDigests body

namespace StoresDigests

theorem pure (value : α) : StoresDigests (Pure.pure value : Tx α) :=
  trivial

theorem throw (failure : Failure) :
    StoresDigests (MonadExcept.throw failure : Tx α) :=
  trivial

theorem bind
    {body : Tx α}
    {later : α → Tx β}
    (first : StoresDigests body)
    (second : ∀ value, StoresDigests (later value)) :
    StoresDigests (body >>= later) :=
  Prog.Issues.bind first second

theorem ite
    {condition : Prop}
    [Decidable condition]
    {first second : Tx α}
    (holds : StoresDigests first)
    (fails : StoresDigests second) :
    StoresDigests (if condition then first else second) := by
  split
  · exact holds
  · exact fails

/-- A transaction that neither opens nor updates sessions stores none. -/
theorem of_within
    {kinds : List StatementKind}
    {body : Tx α}
    (within : StaysWithin kinds body)
    (opens : .opensSession ∉ kinds)
    (updates : .updatesSession ∉ kinds) :
    StoresDigests body := by
  refine Prog.Issues.mono within fun statement allowed => ?_
  cases statement with
  | insertSession session => exact absurd (allowed _ rfl) opens
  | updateSession session => exact absurd (allowed _ rfl) updates
  | _ => trivial

theorem record
    {eventType : SecurityEventType}
    {now : Instant}
    {context : RequestContext}
    {userId sessionId : Option Uuid}
    {metadata : Option SecurityMetadata} :
    StoresDigests
      (recordSecurityEvent eventType now context userId sessionId metadata) :=
  of_within (.record : StaysWithin [] _) (by simp) (by simp)

theorem ofExcept (value : Except Failure α) :
    StoresDigests (Prog.ofExcept value : Tx α) :=
  Prog.issues_ofExcept value

end StoresDigests

end Tx

open Tx (StaysWithin)

section Parts

variable
  {deps : Dependencies}
  {now : Instant}
  {context : RequestContext}

/-- The issuer stores the digest of the token it drew. -/
theorem issue_stores
    {user : UserAccount}
    {lineage : Option Lineage}
    {draws : SessionDraws} :
    Tx.StoresDigests (issue deps user now lineage context draws) :=
  .bind (.bind ⟨deps.digest.ascii _, fun _ => trivial⟩ fun _ => .ofExcept _)
    fun _ => .bind .record fun _ => .pure _

/-- A session is issued and the fact recorded. -/
theorem opening_stores
    {user : UserAccount}
    {draws : SessionDraws}
    {eventType : SecurityEventType}
    {metadata : Option SecurityMetadata}
    {answer : SessionBundle → α} :
    Tx.StoresDigests
      (do
        let result ← issue deps user now none context draws
        recordSecurityEvent eventType now context (some user.id)
          (some result.principal.sessionId) metadata
        return answer result) :=
  .bind issue_stores fun _ => .bind .record fun _ => .pure _

theorem consuming_stores
    {token : String}
    {purpose : EmailLinkPurpose}
    {browserNonce : Option String}
    {complete : UserAccount → Tx α}
    {refused : Option UserAccount → Tx Unit}
    (completes : ∀ user, Tx.StoresDigests (complete user))
    (refuses : ∀ user, Tx.StoresDigests (refused user)) :
    Tx.StoresDigests
      (consuming deps token purpose now browserNonce complete refused) := by
  refine .bind (.of_within consumableLink_within (by simp) (by simp))
    fun found => ?_
  split
  · split
    · refine .bind ⟨trivial, fun _ => trivial⟩ fun consumed => ?_
      split
      · exact .bind (refuses _) fun _ => .pure _
      · exact .bind (completes _) fun _ => .pure _
    · exact .bind (refuses _) fun _ => .pure _
  · exact .bind (refuses _) fun _ => .pure _

theorem loginLinked_stores
    {identity : ExternalIdentity}
    {claims : GoogleClaims}
    {draws : SessionDraws} :
    Tx.StoresDigests
      (loginLinked deps identity claims now context draws) := by
  refine .bind ⟨trivial, fun _ => trivial⟩ fun user => ?_
  split
  · exact .pure _
  · split
    · exact .bind
        (.bind ⟨trivial, fun _ => trivial⟩ fun _ => .ofExcept _)
        fun _ => opening_stores
    · exact .pure _

theorem insertIdentityAndLogin_stores
    {user : UserAccount}
    {claims : GoogleClaims}
    {draws : GoogleLoginDraws} :
    Tx.StoresDigests
      (insertIdentityAndLogin deps user claims now context draws) := by
  refine .bind (.bind ⟨trivial, fun _ => trivial⟩ fun _ => .ofExcept _)
    fun _ => .bind .record fun _ => .bind loginLinked_stores fun result => ?_
  split
  · exact .throw _
  · exact .pure _

theorem linkAndLogin_stores
    {user : UserAccount}
    {claims : GoogleClaims}
    {draws : GoogleLoginDraws} :
    Tx.StoresDigests (linkAndLogin deps user claims now context draws) :=
  .bind (.ofExcept _) fun _ =>
    .bind (.bind ⟨trivial, fun _ => trivial⟩ fun _ => .ofExcept _)
      fun _ => insertIdentityAndLogin_stores

theorem loginUnlinked_stores
    {claims : GoogleClaims}
    {draws : GoogleLoginDraws} :
    Tx.StoresDigests (loginUnlinked deps claims now context draws) := by
  have looked :
      ∀ email, Tx.StoresDigests (Tx.getUserByEmail email true) :=
    fun _ => ⟨trivial, fun _ => trivial⟩
  unfold loginUnlinked
  split
  · exact .pure _
  · unfold loginPreauthorized
    split
    · exact .pure _
    split
    · refine .bind (looked _) fun user => ?_
      split
      · exact .pure _
      split
      · exact .bind linkAndLogin_stores fun _ => .pure _
      · exact .pure _
    · exact .pure _
  · unfold loginOpen
    split
    · exact .pure _
    split
    · refine .bind (looked _) fun user => ?_
      split
      · split
        · exact .bind linkAndLogin_stores fun _ => .pure _
        · exact .pure _
      · exact .bind
          (.of_within createOpenUser_within (by simp) (by simp)) fun _ =>
            .bind insertIdentityAndLogin_stores fun _ => .pure _
    · exact .pure _

end Parts

/-- Every transaction but a refresh stores digests, whatever it is answered. -/
theorem ServiceTx.body_stores
    {env : Environment}
    (tx : ServiceTx)
    (other :
      ∀ refreshToken csrfCookie now context draws,
        tx ≠ .refresh refreshToken csrfCookie now context draws) :
    Tx.StoresDigests (tx.body env) := by
  have reads :
      ∀ {statement : Statement}, statement.StoresDigests →
        Tx.StoresDigests (Tx.issue statement) :=
    fun allowed => ⟨allowed, fun _ => trivial⟩
  cases tx with
  | refresh refreshToken csrfCookie now context draws =>
      exact absurd rfl (other _ _ _ _ _)
  | login =>
      rw [ServiceTx.body, login_eq]
      refine .bind (reads trivial) fun user => .ite ?_ ?_
      · exact .bind
          (.of_within recordPasswordFailure_within (by simp) (by simp))
          fun _ => .pure _
      · split
        · exact .throw _
        · exact .bind
            (.of_within applyPasswordVerification_within (by simp) (by simp))
            fun _ => opening_stores
  | changePassword =>
      refine .bind (.of_within requirePrincipalUser_within (by simp) (by simp))
        fun user => ?_
      split
      · exact .throw _
      split
      · exact .throw _
      · exact .bind (.ofExcept _) fun _ =>
          .bind (.bind (reads trivial) fun _ => .ofExcept _) fun _ =>
            .bind (reads trivial) fun _ => opening_stores
  | emailLinkLogin =>
      exact consuming_stores (fun _ => opening_stores) fun _ => .record
  | finishAuthentication =>
      refine .bind
        (.of_within verifyAndUpdatePasskey_within (by simp) (by simp))
        fun verification => ?_
      split
      · exact .bind .record fun _ => .pure _
      split
      · exact .throw _
      · exact opening_stores
  | googleLogin =>
      refine .bind ?_ fun result => ?_
      · refine .bind (reads trivial) fun identity => ?_
        split
        · exact loginLinked_stores
        · exact loginUnlinked_stores
      · split
        · exact .pure _
        · exact .bind .record fun _ => .pure _
  | loginLinkedAfterConflict =>
      refine .bind (reads trivial) fun identity => ?_
      split
      · exact .throw _
      · exact loginLinked_stores
  | _ =>
      exact .of_within (ServiceTx.body_within _) (by simp [ServiceTx.kinds])
        (by simp [ServiceTx.kinds])

end EpokAuth
