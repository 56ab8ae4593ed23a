import EpokAuth.DeliveredLinks
import EpokAuth.RouteConclusions
import EpokAuth.ServedOrigins

namespace EpokAuth

open Transactional

/-!
# Whom the links of a server reach

A link is of use only after its delivery was reported.  A server reports one in
a background task, after the mail system accepted the email of the very link
that the response before it had left to deliver; or the application around it
does, which may have a dispatcher of its own.
-/

/-- What a background task may report: a delivery that was accepted. -/
def Deployment.mails :
    Request → Trail Ask.Answer → Ask → Prop
  | .task task, trail, .transaction tx =>
      ∀ linkId, tx.delivering = some linkId →
        ∃ pending,
          task = .deliver pending ∧
            pending.linkId = linkId ∧
            (⟨.send pending.email, true⟩ : Performed Ask.Answer) ∈ trail
  | _, _, _ => True

/-- An operation that reports no delivery may be performed by any task. -/
theorem mails_of_makes
    {task : BackgroundTask}
    {operation : Operation α}
    {trail : Trail Ask.Answer}
    (makes : operation.Makes fun tx => tx.delivering = none) :
    operation.Keeps (Deployment.mails (.task task)) trail := by
  refine keeps_of_makes makes fun longer ask within => ?_
  cases ask with
  | transaction tx =>
      intro linkId delivering
      rw [within] at delivering
      cases delivering
  | _ => trivial

/-- A server reports the delivery of the links that its tasks are to deliver. -/
theorem Deployment.server_mails (deployment : Deployment) :
    deployment.server.Conducts Deployment.mails fun _ _ _ => True := by
  intro request
  cases request with
  | http request endpoint =>
      exact Prog.wp_mono (permitting_monotone _)
        (deployment.server_backs (.http request endpoint))
        (fun _ _ _ => trivial) (fun _ _ _ => trivial)
  | task task =>
      cases task with
      | sendNotice notice =>
          exact mails_of_makes
            ((EmailLinkMailer.sendNotice_makes fun _ _ => rfl).bind
              fun _ => Operation.makes_done _)
      | deliver pending =>
          refine ⟨trivial, fun accepted => ?_⟩
          cases accepted with
          | false =>
              have fails :
                  Operation.Makes (fun tx => tx.delivering = none)
                    (do
                      EmailLinkService.markDeliveryFailed pending.linkId
                      throw EmailLinkMailer.deliveryFailed : Operation Bool) :=
                (EmailLinkService.markDeliveryFailed_makes fun _ => rfl).bind
                  fun _ => Operation.makes_throw _
              exact mails_of_makes
                (fails.bind fun _ => Operation.makes_done ({} : HttpResponse))
          | true =>
              -- the clock is read between the email and its report
              refine ⟨trivial, fun now => ⟨?_, fun answer => ?_⟩⟩
              · intro linkId delivering
                exact ⟨pending, rfl, Option.some.inj delivering, by simp⟩
              · cases answer with
                | error failure => trivial
                | ok delivered => trivial

section Runs

variable
  {Client : Type}
  [DecidableEq Client]
  (deployment : Deployment)
  (initial : World)

/-- No identifier of a link is drawn for two links of a run. -/
def HandsOutOnce (labels : List (WebLabel Client)) : Prop :=
  ∀ linkId,
    MakesOnce deployment.showing (ServiceStep deployment.toEnvironment)
      (ServerStep deployment.server) (.opened initial)
      (fun _ _ executed _ =>
        ∃ pending, executed.handsOut = some pending ∧ pending.linkId = linkId)
      labels

/-- The application has reported the delivery of a link by itself. -/
def WasReported (linkId : Uuid) (labels : List (WebLabel Client)) : Prop :=
  PassesMade deployment.showing (ServiceStep deployment.toEnvironment)
    (ServerStep deployment.server) (.opened initial)
    (fun label _ executed _ =>
      label = .drifted ∧ executed.tx.delivering = some linkId)
    labels

/--
The mail system accepted an email with the token of a link, which was for the
address that its account had when the link was handed out.
-/
structure WasEmailed
    (link : EmailLink)
    (pending : PendingEmailLink)
    (labels : List (WebLabel Client)) :
    Prop where
  accepted : ∃ client,
    HasPerformed deployment.server initial client (.task (.deliver pending))
      ⟨.send pending.email, true⟩ labels
  announces : pending.Announces deployment.toDependencies link
  handedOut :
    PassesMade deployment.showing (ServiceStep deployment.toEnvironment)
      (ServerStep deployment.server) (.opened initial)
      (fun _ _ executed after =>
        executed.handsOut = some pending ∧
          ∃ user,
            after.users.get? link.userId = some user ∧
              pending.email.recipient = user.email)
      labels

variable
  {deployment initial}
  {labels : List (WebLabel Client)}
  {link : EmailLink}
  {pending : PendingEmailLink}

/-- What a request performs tells the transaction and its answer. -/
theorem executed_of_performed
    {tx : ServiceTx}
    {answer : Except Failure tx.Answer}
    {executed : Executed}
    (same :
      (⟨.transaction tx, answer⟩ : Performed Ask.Answer) =
        ⟨.transaction executed.tx, executed.answer⟩) :
    executed = { tx := tx, answer := answer } := by
  obtain ⟨otherTx, otherAnswer⟩ := executed
  cases same
  rfl

/-- Only a background task of a server reports a delivery. -/
theorem reported_by_task
    {before after : WebState Client}
    {client : Client}
    {request : Request}
    {tx : ServiceTx}
    {answer : Except Failure tx.Answer}
    {linkId : Uuid}
    (run : ServerRun deployment.server initial labels before)
    (step :
      ServerStep deployment.server before
        (.performed client request ⟨.transaction tx, answer⟩) after)
    (delivering : tx.delivering = some linkId) :
    ∃ pending,
      request = .task (.deliver pending) ∧
        pending.linkId = linkId ∧
        HasPerformed deployment.server initial client request
          ⟨.send pending.email, true⟩ labels ∧
        HasSpawned deployment.server initial request labels := by
  cases request with
  | http head endpoint =>
      obtain ⟨trail, permitted, _⟩ :=
        run.permitted deployment.server_conducts step
      have permitted : MayMake deployment head trail tx := permitted
      have shows := permitted.shows
      cases tx with
      | markDelivered => exact shows.elim
      | _ => cases delivering
  | task task =>
      obtain ⟨trail, mails, performed, spawned⟩ :=
        run.permitted deployment.server_mails step
      obtain ⟨pending, rfl, named, sent⟩ := mails linkId delivering
      exact ⟨pending, rfl, named, performed _ sent, spawned trivial⟩

/-- What a task delivers was handed out by a transaction of some request. -/
theorem handedOut_of_spawned
    (spawned :
      HasSpawned deployment.server initial (.task (.deliver pending)) labels) :
    ∃ (client : Client) (request : Request) (tx : ServiceTx)
        (answer : tx.Answer),
      HasPerformed deployment.server initial client request
          ⟨.transaction tx, .ok answer⟩ labels ∧
        tx.pendingIn answer = some pending := by
  obtain ⟨client, request, response, trail, earlier, later, rfl, left, backed,
    performed⟩ := spawned.concluded deployment.server_backs
  have backed : response.Backed trail deployment := backed
  obtain ⟨task, member, isTask⟩ := List.mem_map.mp left
  obtain rfl := Request.task.inj isTask
  obtain ⟨tx, answer, made, hands⟩ := backed.tasks _ member
  exact ⟨client, request, tx, answer, (performed _ made).append _, hands⟩

/-- A link that a task of the server delivers is the one that it is stored as. -/
theorem WasEmailed.of_spawned
    (once : HandsOutOnce deployment initial labels)
    (origin :
      HasLinkOrigin deployment.showing deployment.toEnvironment
        (ServerStep deployment.server) (.opened initial) link labels)
    (named : pending.linkId = link.id)
    (accepted : ∃ client,
      HasPerformed deployment.server initial client (.task (.deliver pending))
        ⟨.send pending.email, true⟩ labels)
    (spawned :
      HasSpawned deployment.server initial (.task (.deliver pending)) labels) :
    WasEmailed deployment initial link pending labels := by
  obtain ⟨client, request, tx, answer, performed, hands⟩ :=
    handedOut_of_spawned spawned
  -- the two transactions that hand out the link are one and the same
  obtain ⟨earlier, label, later, split, makes, makesToo⟩ :=
    (once link.id).unique (passesMade_of_performed performed) origin.announced
      (fun _ _ executed _ made => ⟨pending, by rw [made.2]; exact hands, named⟩)
      (fun _ _ executed _ ⟨other, _, handsOther, _, _, announces⟩ =>
        ⟨other, handsOther, announces.named⟩)
  obtain ⟨_, _, _, _, _, _, _, rfl, _⟩ := makes
  obtain ⟨before, after, executed, run, taken, shown, made, other, user,
    handsOther, account, addressed, announces⟩ := makesToo
  have isPending : executed.handsOut = some pending := by
    rcases shown with ⟨otherClient, otherRequest, isPerformed⟩ | ⟨isDrift, _⟩
    · rw [executed_of_performed (Served.performed.inj isPerformed).2.2]
      exact hands
    · cases isDrift
  obtain rfl := Option.some.inj (isPending.symm.trans handsOther)
  exact
    { accepted := accepted
      announces := announces
      handedOut := ⟨earlier, _, later, split, before, after, executed, run,
        taken, shown, made, isPending, user, account, addressed⟩ }

/--
A link is active, or was consumed, only after the mail system accepted an email
with its token for the address that its account had when it was issued, unless
the application around the server has reported its delivery.
-/
theorem used_links_were_emailed
    {finish : WebState Client}
    {id : Uuid}
    (run : ServerRun deployment.server initial labels finish)
    (fresh : ∀ id, initial.store.links.get? id = none)
    (once : HandsOutOnce deployment initial labels)
    (found : finish.state.store.links.get? id = some link)
    (used : link.state.Used) :
    WasReported deployment initial id labels ∨
      ∃ pending, WasEmailed deployment initial link pending labels := by
  have isLink : link.id = id := Table.key_of_get? found
  have origin :=
    linkOrigins_of_faithful deployment.showing_faithful run fresh id link found
  obtain ⟨earlier, label, later, rfl, before, after, executed, start, taken,
    shown, made, delivering⟩ := origin.delivered used
  rcases shown with ⟨client, request, rfl⟩ | ⟨rfl, byApplication⟩
  · obtain ⟨pending, rfl, named, accepted, spawned⟩ :=
      reported_by_task start taken delivering
    exact .inr ⟨pending, .of_spawned once origin named
      ⟨client, accepted.append _⟩ (spawned.append _)⟩
  · exact .inl ⟨earlier, _, later, rfl, before, after, executed, start, taken,
      .inr ⟨rfl, byApplication⟩, made, rfl, isLink ▸ delivering⟩

/-! ### A password reset by link -/

/-- The link that a step hands out, as far as it can be seen. -/
def linkHandedOut? : WebLabel Client → Option Uuid
  | .performed _ _ ⟨.transaction tx, answer⟩ =>
      (Executed.handsOut { tx := tx, answer := answer }).map
        PendingEmailLink.linkId
  | _ => none

/-- Where the application keeps quiet, every link that is handed out is seen. -/
theorem handsOutOnce_of_nodup
    (quiet : labels.any isDrift = false)
    (distinct : (labels.filterMap linkHandedOut?).Nodup) :
    HandsOutOnce deployment initial labels := by
  have reads :
      (linkHandedOut? : WebLabel Client → Option Uuid) =
        readLabel fun executed =>
          executed.handsOut.map PendingEmailLink.linkId :=
    rfl
  rw [reads] at distinct
  intro linkId
  refine makesOnce_of_nodup quiet distinct fun _ _ executed _ made =>
    (?_ : executed.handsOut.map PendingEmailLink.linkId = some linkId)
  obtain ⟨pending, hands, named⟩ := made
  rw [hands]
  exact congrArg some named

/-- Somebody has an account with a password, and no link has been issued. -/
def accountCreated : World where
  store :=
    (executeAll referenceEnvironment
      [.createUser 1 "user@example.test" "User" "password" [] [] false 0 {}]
      {}).2
  now := 10

/-- A link to reset the password is requested, delivered, and used. -/
def resetScript : List Deployment.Next :=
  [ .asks { origin := some "https://example.test" }
      (.requestPasswordReset "user@example.test"
        { linkId := 3, token := "reset" }),
    .works,
    .asks { origin := some "https://example.test" }
      (.consumePasswordReset "reset" "new password" 0) ]

/-- Where the application keeps quiet, it reports no delivery. -/
theorem not_wasReported_of_quiet
    {id : Uuid}
    (quiet : labels.any isDrift = false) :
    ¬ WasReported deployment initial id labels := by
  rintro ⟨earlier, label, later, rfl, _, _, _, _, _, _, _, rfl, _⟩
  simp [isDrift] at quiet

/-- The link of the script was consumed, and it was emailed before. -/
theorem used_links_were_emailed_reset :
    ∃ (labels : List (WebLabel Nat)) (link : EmailLink)
        (pending : PendingEmailLink),
      link.state = .consumed ∧
        WasEmailed browserDeployment accountCreated link pending labels := by
  obtain ⟨finish, run, ends⟩ :=
    Deployment.exists_run_of_isScript
      (by decide +kernel :
        browserDeployment.isScript true .invalid resetScript accountCreated [] =
          true)
  have quiet :
      (browserDeployment.scriptLabels true .invalid resetScript
          accountCreated).any isDrift =
        false := by
    decide +kernel
  have once :
      HandsOutOnce browserDeployment accountCreated
        (browserDeployment.scriptLabels true .invalid resetScript
          accountCreated) :=
    handsOutOnce_of_nodup quiet (by decide +kernel)
  have stored :
      ((browserDeployment.scriptWorld true .invalid resetScript
            accountCreated).store.links.get? 3).map EmailLink.state =
        some .consumed := by
    decide +kernel
  rw [← ends] at stored
  obtain ⟨link, found, consumed⟩ := Option.map_eq_some_iff.mp stored
  rcases used_links_were_emailed run (fun _ => rfl) once found
      (.inr consumed) with reported | ⟨pending, emailed⟩
  · exact absurd reported (not_wasReported_of_quiet quiet)
  · exact ⟨_, link, pending, consumed, emailed⟩

end Runs

end EpokAuth
