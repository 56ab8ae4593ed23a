import EpokAuth.LinkRequest
import EpokAuth.ScriptedRun

namespace EpokAuth

open Transactional

/-!
# The generations of links

Every request removes the links that are older than the retention, whoever they
were issued to.  The retention covers every lifetime a link can be issued with
and the window of the limit, so what is removed can no longer be used or
counted.  The links that are left stand in the order in which they were issued,
and for one account and purpose their generations rise in that order, also where
the count has started again because all earlier links were removed.
-/

/-! ## The order of issue -/

/-- The links that a run has handed out, in the order in which it did. -/
def issueOrder (labels : List Executed) : List Uuid :=
  labels.foldl
    (fun order executed =>
      match executed.handsOut with
      | none => order
      | some pending =>
          order.filter (fun linkId => linkId ≠ pending.linkId) ++
            [pending.linkId])
    []

/-- The stored links of an account and purpose in the order of issue. -/
def storedInOrder
    (labels : List Executed)
    (store : Store)
    (userId : Uuid)
    (purpose : EmailLinkPurpose) :
    List EmailLink :=
  ((issueOrder labels).filterMap store.links.get?).filter
    (Store.requestedFor userId purpose)

/-- A link is still of use: it has not expired, or the limit counts it. -/
def EmailLink.IsOfUse
    (link : EmailLink)
    (settings : AuthSettings)
    (now : Instant) :
    Prop :=
  now < link.expiresAt ∨
    now - seconds settings.emailLinkRequestWindowSeconds ≤ link.createdAt

/--
Removing old links removes none that is of use, and the generations of the links
that are left tell the order in which they were issued.
-/
structure LinkGenerations
    (env : Environment)
    (labels : List Executed)
    (store : Store) :
    Prop where
  purges :
    ∀ now id link,
      store.links.get? id = some link →
      link.IsOfUse env.settings now →
      (store.purged env.settings now).links.get? id = some link
  retains :
    ∀ executed after id link,
      ServiceStep env store executed after →
      store.links.get? id = some link →
      (∀ now,
        executed.tx.clock = some now → link.IsOfUse env.settings now) →
      ∃ later,
        after.links.get? id = some later ∧ later.asIssued = link.asIssued
  complete :
    ∀ userId purpose id link,
      store.links.get? id = some link →
      Store.requestedFor userId purpose link = true →
      link ∈ storedInOrder labels store userId purpose
  rising :
    ∀ userId purpose,
      ((storedInOrder labels store userId purpose).map
        EmailLink.generation).Pairwise (· < ·)
  latest :
    ∀ userId purpose,
      Store.latestEmailLink userId purpose store =
        (storedInOrder labels store userId purpose).getLast?
  unused :
    ∀ (user : UserAccount) purpose now browserNonce draws id other,
      (store.purged env.settings now).links.get? id = some other →
      Store.requestedFor user.id purpose other = true →
      other.generation <
        (requestedLink env.toDependencies store user purpose now browserNonce
          draws).generation
  inserts :
    ∀ user purpose now context browserNonce draws,
      Tx.wp
        (issueLink env.toDependencies user purpose now context browserNonce
          draws)
        (fun _ _ => True)
        (fun failure _ =>
          failure = .storeConflict "email link uniqueness constraint failed" →
          ∃ id other,
            (store.purged env.settings now).links.get? id = some other ∧
              (other.id = draws.linkId ∨
                other.tokenHash = env.toDependencies.tokenHash draws.token))
        store

/-! ## What steps do to what was issued -/

/-- A link that was issued with a lifetime that the settings provide. -/
structure EmailLink.Lasting (settings : AuthSettings) (link : EmailLink) :
    Prop where
  expires :
    link.expiresAt =
      link.createdAt + seconds (emailLinkTtl settings link.purpose)
  configured : ∃ url, emailLinkUrl settings link.purpose = .ok url

/-- An earlier link of the same account and purpose is of a lower generation. -/
def EmailLink.Precedes (earlier later : EmailLink) : Prop :=
  Store.requestedFor later.userId later.purpose earlier = true →
    earlier.generation < later.generation

/-- How a step changes what was issued. -/
inductive IssueChange
    (deps : Dependencies)
    (before : Store)
    (executed : Executed) :
    List EmailLink → Prop where
  | kept
      (nothing : executed.handsOut = none) :
      IssueChange deps before executed before.issuedLinks
  | purged
      {now : Instant}
      (reads : executed.tx.clock = some now)
      (nothing : executed.handsOut = none) :
      IssueChange deps before executed
        (before.purged deps.settings now).issuedLinks
  | issued
      {user : UserAccount}
      {purpose : EmailLinkPurpose}
      {now : Instant}
      {browserNonce : Option String}
      {draws : LinkDraws}
      {pending : PendingEmailLink}
      {url : String}
      (reads : executed.tx.clock = some now)
      (hands : executed.handsOut = some pending)
      (named : pending.linkId = draws.linkId)
      (configured : emailLinkUrl deps.settings purpose = .ok url)
      (free :
        ¬ Store.linkTaken
          (requestedLink deps before user purpose now browserNonce draws)
          (before.purged deps.settings now) = true) :
      IssueChange deps before executed
        ((before.purged deps.settings now).issuedLinks ++
          [requestedLink deps before user purpose now browserNonce draws])

section Changes

variable
  {env : Environment}
  {settings : AuthSettings}
  {deps : Dependencies}
  {store before after : Store}
  {executed : Executed}
  {labels : List Executed}
  {links : List EmailLink}
  {user : UserAccount}
  {userId id : Uuid}
  {purpose : EmailLinkPurpose}
  {now : Instant}
  {link : EmailLink}

/-- Every step changes what was issued in one of these ways. -/
theorem ServiceStep.issueChange
    (step : ServiceStep env before executed after) :
    IssueChange env.toDependencies before executed after.issuedLinks := by
  by_cases issues : executed.tx.issuing = none
  · rw [step.issuedLinks_kept issues]
    exact .kept (Executed.handsOut_of_no_issue issues)
  cases step.requestResult issues with
  | idle links nothing =>
      rw [Store.issuedLinks, links]
      exact .kept nothing
  | @requested userId purpose now requests reads result =>
      generalize hands : executed.handsOut = pending at result
      generalize left : after.links = links at result
      cases result with
      | refused full =>
          rw [Store.issuedLinks, left]
          exact .purged reads hands
      | issued owner room configured free named =>
          rw [Store.issuedLinks, left,
            Table.rows_put_of_absent (absent_of_not_linkTaken free),
            List.map_append]
          exact .issued reads hands named configured free

/-- Removing old links removes them from what was issued. -/
theorem issuedLinks_purged :
    (store.purged settings now).issuedLinks =
      store.issuedLinks.filter fun link =>
        !decide
          (link.createdAt < now - seconds settings.emailLinkRetentionSeconds) := by
  simp only [Store.issuedLinks, Store.purged, Table.reject, List.filter_map]
  rfl

/-- What was issued is stored under its identifier. -/
theorem mem_issuedLinks_iff :
    link ∈ store.issuedLinks ↔
      ∃ stored,
        store.links.get? link.id = some stored ∧ stored.asIssued = link := by
  rw [Store.issuedLinks, List.mem_map]
  constructor
  · rintro ⟨stored, member, rfl⟩
    exact ⟨stored, Table.mem_rows_iff.mp member, rfl⟩
  · rintro ⟨stored, found, same⟩
    exact ⟨stored, Table.mem_of_get? found, same⟩

/-- A requested link is of a higher generation than all that are left. -/
theorem generation_lt_requestedLink
    {browserNonce : Option String}
    {draws : LinkDraws}
    {other : EmailLink}
    (found :
      (store.purged deps.settings now).links.get? id = some other)
    (requested : Store.requestedFor user.id purpose other = true) :
    other.generation <
      (requestedLink deps store user purpose now browserNonce
        draws).generation := by
  obtain ⟨latest, isLatest, le⟩ := generation_le_latest found requested
  have next :
      (requestedLink deps store user purpose now browserNonce
        draws).generation = latest.generation + 1 := by
    rw [requestedLink, isLatest]
    rfl
  rw [next]
  exact Nat.lt_succ_of_le le

/-! ## Links that are of use -/

/-- The retention covers every lifetime that a link can be issued with. -/
theorem emailLinkTtl_le_retention
    {url : String}
    (configured : emailLinkUrl settings purpose = .ok url) :
    emailLinkTtl settings purpose ≤ settings.emailLinkRetentionSeconds := by
  obtain ⟨login, reset, invitation, _, activation⟩ :=
    settings.retentionCoversTtls
  cases purpose with
  | login => exact login
  | passwordReset => exact reset
  | invitation => exact invitation
  | activation =>
      refine activation ?_
      cases isUrl : settings.emailLinkActivationUrl with
      | none =>
          rw [emailLinkUrl, isUrl] at configured
          cases configured
      | some url => rfl

/-- A link that is of use is younger than the retention. -/
theorem EmailLink.Lasting.young
    (lasting : link.Lasting settings)
    (ofUse : link.IsOfUse settings now) :
    ¬ link.createdAt < now - seconds settings.emailLinkRetentionSeconds := by
  have window :
      seconds settings.emailLinkRequestWindowSeconds ≤
        seconds settings.emailLinkRetentionSeconds :=
    settings.linkLimit.covers
  obtain ⟨url, configured⟩ := lasting.configured
  have lifetime :
      seconds (emailLinkTtl settings link.purpose) ≤
        seconds settings.emailLinkRetentionSeconds :=
    seconds_le_seconds (emailLinkTtl_le_retention configured)
  rcases ofUse with unexpired | counted
  · rw [lasting.expires] at unexpired
    grind
  · grind

/-! ## What holds along a run -/

/-- The order of issue after one more transaction. -/
theorem issueOrder_append
    (labels : List Executed)
    (executed : Executed) :
    issueOrder (labels ++ [executed]) =
      match executed.handsOut with
      | none => issueOrder labels
      | some pending =>
          (issueOrder labels).filter (fun linkId => linkId ≠ pending.linkId) ++
            [pending.linkId] := by
  rw [issueOrder, List.foldl_append]
  rfl

/-- What holds of the links that a run has issued and not removed. -/
structure IssueBooks
    (settings : AuthSettings)
    (labels : List Executed)
    (store : Store) :
    Prop where
  distinct : (issueOrder labels).Nodup
  ordered : (store.issuedLinks.map EmailLink.id).Sublist (issueOrder labels)
  rising : store.issuedLinks.Pairwise EmailLink.Precedes
  lasting : ∀ link ∈ store.issuedLinks, link.Lasting settings

/-- Removing some links keeps the books. -/
theorem IssueBooks.of_sublist
    (books : IssueBooks settings labels before)
    (nothing : executed.handsOut = none)
    (left : after.issuedLinks.Sublist before.issuedLinks) :
    IssueBooks settings (labels ++ [executed]) after := by
  have same : issueOrder (labels ++ [executed]) = issueOrder labels := by
    rw [issueOrder_append, nothing]
  exact
    { distinct := same ▸ books.distinct
      ordered := same ▸ (left.map EmailLink.id).trans books.ordered
      rising := books.rising.sublist left
      lasting := fun link member => books.lasting link (left.subset member) }

/-- Every step keeps the books. -/
theorem IssueBooks.step
    (books : IssueBooks env.settings labels before)
    (step : ServiceStep env before executed after) :
    IssueBooks env.settings (labels ++ [executed]) after := by
  have change := step.issueChange
  generalize isChange : after.issuedLinks = links at change
  have purges :
      ∀ now,
        (before.purged env.settings now).issuedLinks.Sublist
          before.issuedLinks := by
    intro now
    rw [issuedLinks_purged]
    exact List.filter_sublist
  cases change with
  | kept nothing =>
      exact books.of_sublist nothing (isChange ▸ List.Sublist.refl _)
  | @purged now reads nothing =>
      exact books.of_sublist nothing (isChange ▸ purges now)
  | @issued user purpose now browserNonce draws pending url reads hands named
      configured free =>
      have grown :
          issueOrder (labels ++ [executed]) =
            (issueOrder labels).filter (fun linkId => linkId ≠ draws.linkId) ++
              [draws.linkId] := by
        rw [issueOrder_append, hands, ← named]
      have absent :
          (before.purged env.settings now).links.get? draws.linkId = none :=
        absent_of_not_linkTaken free
      have others :
          ∀ link ∈ (before.purged env.settings now).issuedLinks,
            link.id ≠ draws.linkId := by
        intro link member same
        obtain ⟨stored, found, _⟩ := mem_issuedLinks_iff.mp member
        rw [same, absent] at found
        cases found
      refine ⟨?_, ?_, ?_, ?_⟩
      · rw [grown, List.nodup_append]
        refine ⟨books.distinct.filter _, List.nodup_singleton _, ?_⟩
        intro linkId member other isOther
        rw [List.mem_singleton.mp isOther]
        exact of_decide_eq_true (List.mem_filter.mp member).2
      · rw [grown, isChange, List.map_append]
        refine List.Sublist.append ?_ (List.Sublist.refl _)
        have among :=
          (((purges now).map EmailLink.id).trans books.ordered).filter
            fun linkId => linkId ≠ draws.linkId
        rw [List.filter_eq_self.mpr] at among
        · exact among
        · intro linkId member
          obtain ⟨link, isLink, rfl⟩ := List.mem_map.mp member
          exact decide_eq_true (others link isLink)
      · rw [isChange, List.pairwise_append]
        refine ⟨books.rising.sublist (purges now),
          List.pairwise_singleton _ _, ?_⟩
        intro earlier member later isLater requested
        rw [List.mem_singleton.mp isLater] at requested ⊢
        obtain ⟨stored, found, rfl⟩ := mem_issuedLinks_iff.mp member
        have lower :
            stored.generation <
              (requestedLink env.toDependencies before user purpose now
                browserNonce draws).generation :=
          generation_lt_requestedLink found requested
        exact lower
      · intro link member
        rw [isChange, List.mem_append, List.mem_singleton] at member
        rcases member with left | rfl
        · exact books.lasting link ((purges now).subset left)
        · exact ⟨rfl, url, configured⟩

/-- The books hold of every run. -/
theorem ServiceRun.issueBooks
    (run : ServiceRun env {} labels store) :
    IssueBooks env.settings labels store := by
  refine run.accumulates (IssueBooks env.settings) ?_ ?_
  · intro earlier before executed after _ books step
    exact books.step step
  · exact
      { distinct := List.nodup_nil
        ordered := List.Sublist.refl _
        rising := List.Pairwise.nil
        lasting := fun link member => by cases member }

/-! ## What the books say of the links -/

/-- The stored links in the order of issue are those of the account. -/
theorem IssueBooks.storedInOrder_eq
    (books : IssueBooks settings labels store)
    (userId : Uuid)
    (purpose : EmailLinkPurpose) :
    storedInOrder labels store userId purpose =
      store.links.select (Store.requestedFor userId purpose) := by
  have among :
      (store.links.rows.map (key : EmailLink → Uuid)).Sublist
        (issueOrder labels) := by
    have ordered := books.ordered
    rw [Store.issuedLinks, List.map_map] at ordered
    exact ordered
  rw [storedInOrder, Table.filterMap_get?_of_sublist among books.distinct]
  rfl

/-- The generations of an account and purpose rise in the order of issue. -/
theorem IssueBooks.generations_rising
    (books : IssueBooks settings labels store)
    (userId : Uuid)
    (purpose : EmailLinkPurpose) :
    (storedInOrder labels store userId purpose).Pairwise
      fun earlier later => earlier.generation < later.generation := by
  have rising := books.rising
  rw [Store.issuedLinks, List.pairwise_map] at rising
  rw [books.storedInOrder_eq]
  refine (List.pairwise_filter.mpr ?_)
  refine rising.imp ?_
  intro earlier later precedes isEarlier isLater
  refine precedes ?_
  rw [Store.requestedFor, Bool.and_eq_true, decide_eq_true_eq,
    decide_eq_true_eq] at isLater
  obtain ⟨rfl, rfl⟩ := isLater
  exact isEarlier

/-- The maximum of a list that rises is its last element. -/
theorem argmax_eq_getLast?_of_rising
    {Row : Type}
    {column : Row → Nat}
    {rows : List Row}
    (rising :
      rows.Pairwise fun earlier later => column earlier < column later) :
    rows.argmax column = rows.getLast? := by
  induction rows using List.reverseRecOn with
  | nil => rfl
  | append_singleton front last _ =>
      rw [List.getLast?_append, List.argmax_concat]
      cases chosen : front.argmax column with
      | none => rfl
      | some greatest =>
          have below : column greatest < column last :=
            (List.pairwise_append.mp rising).2.2 greatest
              (List.argmax_mem chosen) last List.mem_cons_self
          simp only [below, ↓reduceIte]
          rfl

/-- A stored link lasts as long as its purpose says. -/
theorem IssueBooks.lasting_of_stored
    (books : IssueBooks settings labels store)
    (found : store.links.get? id = some link) :
    link.Lasting settings := by
  have lasting :=
    books.lasting link.asIssued
      (List.mem_map_of_mem (Table.mem_of_get? found))
  exact ⟨lasting.expires, lasting.configured⟩

/-- Links that are of use outlive a step. -/
theorem IssueBooks.retains
    (books : IssueBooks env.settings labels before)
    (step : ServiceStep env before executed after)
    (found : before.links.get? id = some link)
    (ofUse :
      ∀ now,
        executed.tx.clock = some now → link.IsOfUse env.settings now) :
    ∃ later,
      after.links.get? id = some later ∧ later.asIssued = link.asIssued := by
  have member : link.asIssued ∈ before.issuedLinks :=
    List.mem_map_of_mem (Table.mem_of_get? found)
  have left :
      ∀ now,
        executed.tx.clock = some now →
        link.asIssued ∈ (before.purged env.settings now).issuedLinks := by
    intro now reads
    have young := (books.lasting_of_stored found).young (ofUse now reads)
    rw [issuedLinks_purged, List.mem_filter, Bool.not_eq_true']
    exact ⟨member, decide_eq_false young⟩
  have kept : link.asIssued ∈ after.issuedLinks := by
    have change := step.issueChange
    generalize isChange : after.issuedLinks = links at change
    cases change with
    | kept nothing => exact member
    | purged reads nothing => exact left _ reads
    | issued reads hands named configured free =>
        exact List.mem_append_left _ (left _ reads)
  obtain ⟨later, stored, same⟩ := mem_issuedLinks_iff.mp kept
  have isId : link.id = id := Table.key_of_get? found
  exact ⟨later, isId ▸ stored, same⟩

/-- An address that is not configured is no conflict. -/
theorem emailLinkUrl_ne_conflict
    {reason : String} :
    emailLinkUrl settings purpose ≠ .error (.storeConflict reason) := by
  intro isUrl
  cases purpose <;> dsimp only [emailLinkUrl] at isUrl <;>
    split at isUrl <;> cases isUrl

/-- An issued link is refused only for its identifier or its token. -/
theorem wp_issueLink_conflict
    {browserNonce : Option String}
    {context : RequestContext}
    {draws : LinkDraws} :
    Tx.wp (issueLink deps user purpose now context browserNonce draws)
      (fun _ _ => True)
      (fun failure _ =>
        failure = .storeConflict "email link uniqueness constraint failed" →
        ∃ id other,
          (store.purged deps.settings now).links.get? id = some other ∧
            (other.id = draws.linkId ∨
              other.tokenHash = deps.tokenHash draws.token))
      store := by
  simp only [issueLink, Tx.wp_bind, Tx.wp_deleteOldEmailLinks,
    Tx.wp_countEmailLinkRequests, Tx.wp_ite, Tx.wp_pure,
    Tx.wp_getLatestEmailLink, Tx.wp_insertEmailLink]
  split
  · trivial
  split
  · rename_i taken
    intro _
    change
      Store.linkTaken
        (requestedLink deps store user purpose now browserNonce draws)
        (store.purged deps.settings now) = true at taken
    obtain ⟨id, other, found, clashes⟩ := Table.isSome_find?_iff.mp taken
    refine ⟨id, other, found, ?_⟩
    simp only [Bool.or_eq_true, Bool.and_eq_true, decide_eq_true_eq]
      at clashes
    rcases clashes with (sameId | sameToken) | ⟨⟨owner, aim⟩, same⟩
    · exact .inl sameId
    · exact .inr sameToken
    · have requested : Store.requestedFor user.id purpose other = true := by
        rw [Store.requestedFor, Bool.and_eq_true, decide_eq_true_eq,
          decide_eq_true_eq]
        exact ⟨owner, aim⟩
      exact absurd same
        (Nat.ne_of_lt (generation_lt_requestedLink found requested))
  · simp only [Tx.wp_bind, wp_recordSecurityEvent]
    cases isUrl : emailLinkUrl deps.settings purpose with
    | ok url => trivial
    | error failure =>
        intro isConflict
        subst isConflict
        exact absurd isUrl emailLinkUrl_ne_conflict

end Changes

/-! ## Purging and generations -/

/--
In every run, whatever else happens in it and in whatever order the clock is
read, removing old links removes none that is of use, and the generations of the
links that are left tell the order in which they were issued.
-/
theorem link_generations
    {env : Environment}
    {labels : List Executed}
    {store : Store}
    (run : ServiceRun env {} labels store) :
    LinkGenerations env labels store where
  purges := fun now id link found ofUse =>
    Table.get?_reject_eq_some_iff.mpr
      ⟨found,
        decide_eq_false ((run.issueBooks.lasting_of_stored found).young ofUse)⟩
  retains := fun _ _ _ _ step found ofUse =>
    run.issueBooks.retains step found ofUse
  complete := fun userId purpose _ _ found requested => by
    rw [run.issueBooks.storedInOrder_eq]
    exact List.mem_filter.mpr ⟨Table.mem_of_get? found, requested⟩
  rising := fun userId purpose =>
    List.pairwise_map.mpr (run.issueBooks.generations_rising userId purpose)
  latest := fun userId purpose => by
    have rising := run.issueBooks.generations_rising userId purpose
    rw [← argmax_eq_getLast?_of_rising rising, run.issueBooks.storedInOrder_eq]
    rfl
  unused := fun _ _ _ _ _ _ _ found requested =>
    generation_lt_requestedLink found requested
  inserts := fun _ _ _ _ _ _ => wp_issueLink_conflict

/-- An activation link is replaced until the first one is removed. -/
def activationsOutlived : List ServiceTx :=
  [ .provision 1 "user@example.test" "User" "unusable" [] [] (seconds 0) {}
      { linkId := 2, token := "first" },
    .replaceActivation 1 (seconds 1000) {} { linkId := 3, token := "second" },
    .provision 4 "other@example.test" "Other" "unusable" [] [] (seconds 1500) {}
      { linkId := 5, token := "other" },
    .replaceActivation 1
      (seconds referenceEnvironment.settings.emailLinkRetentionSeconds +
        seconds 500)
      {} { linkId := 6, token := "third" } ]

/-- The third link follows the second one after the first one is gone. -/
theorem link_generations_activationsOutlived :
    (storedInOrder (executeAll referenceEnvironment activationsOutlived {}).1
          (executeAll referenceEnvironment activationsOutlived {}).2 1
          .activation).map EmailLink.generation =
        [2, 3] ∧
      LinkGenerations referenceEnvironment
        (executeAll referenceEnvironment activationsOutlived {}).1
        (executeAll referenceEnvironment activationsOutlived {}).2 :=
  ⟨by decide +kernel, link_generations (run_executeAll (by decide +kernel))⟩

end EpokAuth
