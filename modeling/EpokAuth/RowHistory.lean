import EpokAuth.OpenTransaction

namespace Transactional

/-!
# One row along a run

What is committed of a row, and what a client sees of it, change in few ways:
the client acts, somebody else's row becomes visible, or the client commits its
own row or gives it up.  So a property of the row that statements keep is true
of it everywhere, and a client whose commit takes the property from the row
lost it by a statement of the transaction that it commits.
-/

variable
  {Client σ Write Resource Target Statement Failure Call : Type}
  {Answer : Statement → Type}
  {Result : Call → Type}
  {system : System σ Write Resource Target Answer Failure Result}

/-- A statement of the client takes effect, on one row or on all of them. -/
def Event.Acts (client : Client) (event : Event Client system) : Prop :=
  (∃ statement, event = .issues client statement) ∨
    ∃ target, event = .visits client target

/-- Only the client itself acts. -/
theorem Event.Acts.client_eq
    {client : Client}
    {event : Event Client system}
    (acts : event.Acts client) :
    event.client = client := by
  rcases acts with ⟨_, rfl⟩ | ⟨_, rfl⟩
  · rfl
  · rfl

/-- A client that acts is in the middle of a call. -/
theorem Event.Acts.not_ends
    {client other : Client}
    {event : Event Client system}
    (acts : event.Acts client) :
    ¬ event.Ends other := by
  rcases acts with ⟨_, rfl⟩ | ⟨_, rfl⟩
  · rintro (isCommit | isRollback)
    · cases isCommit
    · cases isRollback
  · rintro (isCommit | isRollback)
    · cases isCommit
    · cases isRollback

theorem Event.Acts.not_leaves
    {client other : Client}
    {event : Event Client system}
    (acts : event.Acts client) :
    ¬ event.Leaves other := by
  rcases acts with ⟨_, rfl⟩ | ⟨_, rfl⟩
  · rintro (isRollback | ⟨_, _, isReturn⟩)
    · cases isRollback
    · cases isReturn
  · rintro (isRollback | ⟨_, _, isReturn⟩)
    · cases isRollback
    · cases isReturn

section Rows

variable
  [DecidableEq Client]
  {resource : Resource}
  {Seen : Type}

/-- What one step does to a row, as committed and as a client sees it. -/
inductive RowStep
    (observation : Observation system.engine resource Seen)
    (client : Client)
    (config next : Config Client system)
    (event : Event Client system) :
    Prop where
  | kept
      (committed :
        observation.observe next.committed =
          observation.observe config.committed)
      (seen :
        observation.observe (next.sees client) =
          observation.observe (config.sees client))
  | acted
      (acts : event.Acts client)
      (committed : next.committed = config.committed)
  | taken
      (other : Client)
      (different : client ≠ other)
      (isCommit : event = .commits other)
      (free : ¬ Locked (config.locks client) resource)
      (committed :
        observation.observe next.committed =
          observation.observe (config.sees other))
      (seen :
        observation.observe (next.sees client) =
          observation.observe (config.sees other))
  | landed
      (isCommit : event = .commits client)
      (committed : next.committed = config.sees client)
      (seen : next.sees client = config.sees client)
  | dropped
      (isRollback : event = .rollsBack client)
      (committed : next.committed = config.committed)
      (seen : next.sees client = config.committed)

variable
  [DecidableEq Resource]
  {pool : Client → Call → Prop}
  {config next start : Config Client system}
  {client : Client}
  {event : Event Client system}
  {labels : List (Event Client system)}

/-- Every step changes a row in one of these ways. -/
theorem Step.rowStep
    (step : Step pool config event next)
    (proper : config.toLedger.Proper system.engine)
    (observation : Observation system.engine resource Seen)
    (client : Client) :
    RowStep observation client config next event := by
  have advanced :
      ∀ {actor : Client} {phase : Phase system}
        {locks : List (Lock Resource)} {writes : List Write}
        {taken : Event Client system},
        taken.Acts actor →
          RowStep observation client config
            (config.advance actor phase locks writes) taken := by
    intro actor phase locks writes taken acts
    by_cases isActor : client = actor
    · exact .acted (isActor ▸ acts) rfl
    · exact .kept rfl
        (congrArg observation.observe (Ledger.view_extend_of_ne isActor))
  cases step with
  | calls => exact .kept rfl rfl
  | point => exact advanced (.inl ⟨_, rfl⟩)
  | sweep => exact .kept rfl rfl
  | visit => exact advanced (.inr ⟨_, rfl⟩)
  | finish => exact .kept rfl rfl
  | returned => exact .kept rfl rfl
  | raised => exact .kept rfl rfl
  | @commit committer =>
      by_cases isCommitter : client = committer
      · subst isCommitter
        exact .landed rfl rfl Ledger.view_commit_self
      · by_cases locked : Locked (config.locks client) resource
        · have kept :=
            observation.view_commit_of_locked proper isCommitter locked
          exact .kept kept.2 kept.1
        · exact .taken committer isCommitter rfl locked rfl
            (observation.view_commit_of_free proper isCommitter locked).2
  | @rollback leaver =>
      by_cases isLeaver : client = leaver
      · subst isLeaver
        exact .dropped rfl rfl Ledger.view_release_self
      · exact .kept rfl
          (congrArg observation.observe (Ledger.view_release_of_ne isLeaver))

/--
What statements keep of a row, given the labels so far, is true of the row as
committed and as every client sees it.
-/
theorem observed_of_run
    (observation : Observation system.engine resource Seen)
    (run : Run (Step pool) start labels config)
    (proper : start.toLedger.Proper system.engine)
    (property : List (Event Client system) → Seen → Prop)
    (lasting :
      ∀ earlier event seen,
        property earlier seen → property (earlier ++ [event]) seen)
    (acted :
      ∀ earlier state event after client,
        Run (Step pool) start earlier state →
        Step pool state event after → event.Acts client →
        property earlier (observation.observe (state.sees client)) →
        property (earlier ++ [event])
          (observation.observe (after.sees client)))
    (initial :
      property [] (observation.observe start.committed) ∧
        ∀ client, property [] (observation.observe (start.sees client))) :
    property labels (observation.observe config.committed) ∧
      ∀ client, property labels (observation.observe (config.sees client)) := by
  refine run.accumulates
    (fun earlier state =>
      property earlier (observation.observe state.committed) ∧
        ∀ client, property earlier (observation.observe (state.sees client)))
    ?_ initial
  intro earlier state event after before holds step
  have stillProper := proper_of_run before proper
  refine ⟨?_, fun client => ?_⟩
  · -- only a commit changes what is committed
    cases step with
    | @commit committer => exact lasting _ _ _ (holds.2 committer)
    | _ => exact lasting _ _ _ holds.1
  · cases step.rowStep stillProper observation client with
    | kept committed seen =>
        rw [seen]
        exact lasting _ _ _ (holds.2 client)
    | acted acts committed =>
        exact acted _ _ _ _ _ before step acts (holds.2 client)
    | taken other _ _ _ committed seen =>
        rw [seen]
        exact lasting _ _ _ (holds.2 other)
    | landed _ committed seen =>
        rw [seen]
        exact lasting _ _ _ (holds.2 client)
    | dropped _ committed seen =>
        rw [seen]
        exact lasting _ _ _ holds.1

/-! ## Steps as one client sees them -/

/-- What one step is to a client, whoever takes it. -/
inductive ClientStep
    (client : Client)
    (config next : Config Client system)
    (event : Event Client system) :
    Prop where
  | stays
      (call : (next.phases client).call? = (config.phases client).call?)
      (began : (next.phases client).before? = (config.phases client).before?)
      (ledger :
        next.writes client = config.writes client ∧
          next.sees client = config.sees client)
  | begins
      (idle : config.phases client = .idle)
      (ledger : next.toLedger = config.toLedger)
  | acts
      (acts : event.Acts client)
      (call : (next.phases client).call? = (config.phases client).call?)
      (began : (next.phases client).before? = (config.phases client).before?)
  | returns
      {call : Call}
      {before : List Write}
      {answer : Except Failure (Result call)}
      (isReturn : event = .returns client call answer)
      (issuing :
        config.phases client = .issuing call before (Prog.ofExcept answer))
      (ledger : next.toLedger = config.toLedger)
  | taken
      (other : Client)
      (different : client ≠ other)
      (idle : config.phases other = .idle)
      (phase : next.phases client = config.phases client)
      (ledger : next.toLedger = config.toLedger.commit system.engine other)
  | commits
      (idle : config.phases client = .idle)
      (sees : next.sees client = config.sees client)
  | rollsBack
      (isRollback : event = .rollsBack client)
      (sees : next.sees client = config.committed)

/-- Every step is one of these to every client. -/
theorem Step.clientStep
    (step : Step pool config event next)
    (client : Client) :
    ClientStep client config next event := by
  have entered :
      ∀ {actor : Client} {phase : Phase system}
        {taken : Event Client system},
        client ≠ actor →
          ClientStep client config (config.enter actor phase) taken := by
    intro actor phase taken isOther
    exact .stays (by rw [Config.phases_enter_of_ne isOther])
      (by rw [Config.phases_enter_of_ne isOther]) ⟨rfl, rfl⟩
  have advanced :
      ∀ {actor : Client} {phase : Phase system}
        {locks : List (Lock Resource)} {writes : List Write}
        {taken : Event Client system},
        taken.Acts actor →
        phase.call? = (config.phases actor).call? →
        phase.before? = (config.phases actor).before? →
          ClientStep client config (config.advance actor phase locks writes)
            taken := by
    intro actor phase locks writes taken acts call began
    by_cases isActor : client = actor
    · subst isActor
      exact .acts acts (by rw [Config.phases_advance_self, call])
        (by rw [Config.phases_advance_self, began])
    · exact .stays (by rw [Config.phases_advance_of_ne isActor])
        (by rw [Config.phases_advance_of_ne isActor])
        ⟨Ledger.writes_extend_of_ne isActor, Ledger.view_extend_of_ne isActor⟩
  cases step with
  | @calls actor call idle allowed =>
      by_cases isActor : client = actor
      · exact .begins (isActor ▸ idle) rfl
      · exact entered isActor
  | point issuing =>
      exact advanced (.inl ⟨_, rfl⟩) (issuing ▸ rfl) (issuing ▸ rfl)
  | @sweep actor _ _ _ _ _ _ _ _ issuing =>
      by_cases isActor : client = actor
      · subst isActor
        exact .acts (.inl ⟨_, rfl⟩) (by rw [Config.phases_enter_self, issuing]; rfl)
          (by rw [Config.phases_enter_self, issuing]; rfl)
      · exact entered isActor
  | visit sweeping =>
      exact advanced (.inr ⟨_, rfl⟩) (sweeping ▸ rfl) (sweeping ▸ rfl)
  | @finish actor _ _ _ _ _ _ _ _ _ sweeping =>
      by_cases isActor : client = actor
      · subst isActor
        exact .stays (by rw [Config.phases_enter_self, sweeping]; rfl)
          (by rw [Config.phases_enter_self, sweeping]; rfl) ⟨rfl, rfl⟩
      · exact entered isActor
  | @returned actor _ _ _ issuing =>
      by_cases isActor : client = actor
      · subst isActor
        exact .returns rfl issuing rfl
      · exact entered isActor
  | @raised actor _ _ _ issuing =>
      by_cases isActor : client = actor
      · subst isActor
        exact .returns rfl issuing rfl
      · exact entered isActor
  | @commit committer idle =>
      by_cases isCommitter : client = committer
      · subst isCommitter
        exact .commits idle Ledger.view_commit_self
      · exact .taken committer isCommitter idle rfl rfl
  | @rollback leaver =>
      by_cases isLeaver : client = leaver
      · subst isLeaver
        exact .rollsBack rfl Ledger.view_release_self
      · exact .stays (by rw [Config.phases_abandon_of_ne isLeaver])
          (by rw [Config.phases_abandon_of_ne isLeaver])
          ⟨Ledger.writes_release_of_ne isLeaver,
            Ledger.view_release_of_ne isLeaver⟩

/-! ## Steps taken since some point -/

/-- A step was taken, and no step since then was a barrier. -/
def TookSince
    (pool : Client → Call → Prop)
    (start : Config Client system)
    (barrier : Event Client system → Prop)
    (taken :
      Config Client system → Event Client system → Config Client system →
        Prop)
    (labels : List (Event Client system)) :
    Prop :=
  ∃ earlier event later before after,
    labels = earlier ++ event :: later ∧
      Run (Step pool) start earlier before ∧
      Step pool before event after ∧
      (∀ other ∈ later, ¬ barrier other) ∧
      taken before event after

namespace TookSince

variable
  {barrier : Event Client system → Prop}
  {taken :
    Config Client system → Event Client system → Config Client system → Prop}

theorem last
    (run : Run (Step pool) start labels config)
    (step : Step pool config event next)
    (holds : taken config event next) :
    TookSince pool start barrier taken (labels ++ [event]) :=
  ⟨labels, event, [], config, next, rfl, run, step, by simp, holds⟩

theorem append
    {more : List (Event Client system)}
    (took : TookSince pool start barrier taken labels)
    (pass : ∀ event ∈ more, ¬ barrier event) :
    TookSince pool start barrier taken (labels ++ more) := by
  rcases took with
    ⟨earlier, label, later, before, after, rfl, run, step, free, holds⟩
  refine ⟨earlier, label, later ++ more, before, after, by simp, run, step, ?_,
    holds⟩
  intro other member
  rcases List.mem_append.mp member with inLater | inMore
  · exact free other inLater
  · exact pass other inMore

theorem extend
    (took : TookSince pool start barrier taken labels)
    (passes : ¬ barrier event) :
    TookSince pool start barrier taken (labels ++ [event]) :=
  took.append fun _ member => List.mem_singleton.mp member ▸ passes

end TookSince

/--
A client that sees a row without a property of the row as committed took the
property from it in the transaction that is open.
-/
theorem lost_in_transaction
    (observation : Observation system.engine resource Seen)
    (client : Client)
    (run : Run (Step pool) start labels config)
    (proper : start.toLedger.Proper system.engine)
    (property : Seen → Prop)
    (unwritten : start.sees client = start.committed)
    (committed : property (observation.observe config.committed))
    (lost : ¬ property (observation.observe (config.sees client))) :
    TookSince pool start (Event.Ends client)
      (fun before event after =>
        event.Acts client ∧
          property (observation.observe (before.sees client)) ∧
          ¬ property (observation.observe (after.sees client)))
      labels := by
  refine run.accumulates
    (fun earlier state =>
      property (observation.observe state.committed) →
        ¬ property (observation.observe (state.sees client)) →
          TookSince pool start (Event.Ends client)
            (fun before event after =>
              event.Acts client ∧
                property (observation.observe (before.sees client)) ∧
                ¬ property (observation.observe (after.sees client)))
            earlier)
    ?_ ?_ committed lost
  · intro earlier state event after before losing step holds lostNow
    have stillProper := proper_of_run before proper
    have isOpen :
        property (observation.observe state.committed) →
          ¬ property (observation.observe (state.sees client)) →
            ¬ event.Ends client → _ :=
      fun heldBefore lostBefore passes =>
        (losing heldBefore lostBefore).extend passes
    by_cases ends : event.Ends client
    · -- what the client sees is committed after its transaction ends
      have ended : after.sees client = after.committed := by
        rcases ends with rfl | rfl
        · cases step with
          | commit => exact Ledger.view_commit_self
        · cases step with
          | rollback => exact Ledger.view_release_self
      exact absurd (ended ▸ holds) lostNow
    · cases step.rowStep stillProper observation client with
      | kept committed seen =>
          exact isOpen (committed ▸ holds) (seen ▸ lostNow) ends
      | acted acts committed =>
          by_cases heldBefore : property (observation.observe (state.sees client))
          · exact .last before step ⟨acts, heldBefore, lostNow⟩
          · exact isOpen (committed ▸ holds) heldBefore ends
      | taken other _ _ _ committed seen =>
          exact absurd (seen ▸ committed ▸ holds) lostNow
      | landed isCommit => exact absurd (.inl isCommit) ends
      | dropped isRollback => exact absurd (.inr isRollback) ends
  · intro holds lostNow
    exact absurd (unwritten ▸ holds) lostNow

/-- A client writes a row in the middle of a call. -/
def WritesRow
    (client : Client)
    (call : Call)
    (write : Write)
    (config : Config Client system)
    (event : Event Client system)
    (next : Config Client system) :
    Prop :=
  event.Acts client ∧
    (config.phases client).call? = some call ∧
    ∃ more,
      next.writes client = config.writes client ++ more ∧ write ∈ more

/-- The rows written in a call, each by some step since the call began. -/
def WrittenInCall
    (pool : Client → Call → Prop)
    (start : Config Client system)
    (client : Client)
    (labels : List (Event Client system))
    (config : Config Client system) :
    Prop :=
  ∀ call before,
    (config.phases client).call? = some call →
    (config.phases client).before? = some before →
      ∃ issued,
        config.writes client = before ++ issued ∧
          ∀ write ∈ issued,
            TookSince pool start (Event.Leaves client)
              (WritesRow client call write) labels

namespace WrittenInCall

/-- Nothing changes for a client whose call goes on without a statement. -/
theorem of_unmoved
    (written : WrittenInCall pool start client labels config)
    (passes : ¬ event.Leaves client)
    (inCall : (next.phases client).call? = (config.phases client).call?)
    (began : (next.phases client).before? = (config.phases client).before?)
    (writes : next.writes client = config.writes client) :
    WrittenInCall pool start client (labels ++ [event]) next := by
  intro call before isCall isBefore
  rcases written call before (inCall ▸ isCall) (began ▸ isBefore) with
    ⟨issued, same, took⟩
  exact ⟨issued, writes.trans same, fun write member =>
    (took write member).extend passes⟩

/-- A client that is not in a call has written nothing in it. -/
theorem of_idle
    (idle : (config.phases client).before? = none) :
    WrittenInCall pool start client labels config := by
  intro call before _ isBefore
  rw [idle] at isBefore
  cases isBefore

/-- A client that enters another phase has written what it had written. -/
theorem enter
    {actor : Client}
    {phase : Phase system}
    (written : WrittenInCall pool start client labels config)
    (passes : ¬ event.Leaves client)
    (inCall : phase.call? = (config.phases actor).call?)
    (began : phase.before? = (config.phases actor).before?) :
    WrittenInCall pool start client (labels ++ [event])
      (config.enter actor phase) := by
  by_cases isActor : client = actor
  · subst isActor
    refine written.of_unmoved passes ?_ ?_ rfl
    · rw [Config.phases_enter_self, inCall]
    · rw [Config.phases_enter_self, began]
  · refine written.of_unmoved passes ?_ ?_ rfl
    · rw [Config.phases_enter_of_ne isActor]
    · rw [Config.phases_enter_of_ne isActor]

/-- What a client writes in a call is written by its last step. -/
theorem advance
    {actor : Client}
    {phase : Phase system}
    {locks : List (Lock Resource)}
    {writes : List Write}
    (written : WrittenInCall pool start client labels config)
    (run : Run (Step pool) start labels config)
    (step : Step pool config event (config.advance actor phase locks writes))
    (acts : event.Acts actor)
    (inCall : phase.call? = (config.phases actor).call?)
    (began : phase.before? = (config.phases actor).before?) :
    WrittenInCall pool start client (labels ++ [event])
      (config.advance actor phase locks writes) := by
  by_cases isActor : client = actor
  · subst isActor
    intro call before isCall isBefore
    rw [Config.phases_advance_self, inCall] at isCall
    rw [Config.phases_advance_self, began] at isBefore
    rcases written call before isCall isBefore with ⟨issued, sameWrites, took⟩
    refine ⟨issued ++ writes, ?_, ?_⟩
    · rw [Config.writes_advance_self, sameWrites, List.append_assoc]
    · intro write member
      rcases List.mem_append.mp member with earlier | new
      · exact (took write earlier).extend acts.not_leaves
      · exact .last run step
          ⟨acts, isCall, writes, Config.writes_advance_self, new⟩
  · refine written.of_unmoved acts.not_leaves ?_ ?_
      (Ledger.writes_extend_of_ne isActor)
    · rw [Config.phases_advance_of_ne isActor]
    · rw [Config.phases_advance_of_ne isActor]

end WrittenInCall

/-- What a client has written in its call, it has written since it began. -/
theorem writtenInCall_of_run
    (run : Run (Step pool) start labels config)
    (idle : start.phases client = .idle) :
    WrittenInCall pool start client labels config := by
  refine run.accumulates (WrittenInCall pool start client) ?_
    (.of_idle (congrArg Phase.before? idle))
  intro earlier state event after before written step
  cases step with
  | @calls caller call callerIdle allowed =>
      by_cases isCaller : client = caller
      · subst isCaller
        intro _ preceding _ isPreceding
        rw [Config.phases_enter_self] at isPreceding
        obtain rfl := Option.some.inj isPreceding
        exact ⟨[], (List.append_nil _).symm, by simp⟩
      · refine written.of_unmoved (by simp [Event.Leaves]) ?_ ?_ rfl
        · rw [Config.phases_enter_of_ne isCaller]
        · rw [Config.phases_enter_of_ne isCaller]
  | point issuing executes granted =>
      exact written.advance before (.point issuing executes granted)
        (.inl ⟨_, rfl⟩) (issuing ▸ rfl) (issuing ▸ rfl)
  | sweep issuing executes =>
      exact written.enter
        (Event.Acts.not_leaves (.inl ⟨_, rfl⟩ : Event.Acts _ _))
        (issuing ▸ rfl) (issuing ▸ rfl)
  | visit sweeping executes granted =>
      exact written.advance before (.visit sweeping executes granted)
        (.inr ⟨_, rfl⟩) (sweeping ▸ rfl) (sweeping ▸ rfl)
  | finish sweeping executes =>
      exact written.enter (by simp [Event.Leaves]) (sweeping ▸ rfl)
        (sweeping ▸ rfl)
  | @returned caller call preceding value issuing =>
      by_cases isCaller : client = caller
      · subst isCaller
        exact .of_idle (by rw [Config.phases_enter_self]; rfl)
      · refine written.of_unmoved ?_ ?_ ?_ rfl
        · simp [Event.Leaves, Ne.symm isCaller]
        · rw [Config.phases_enter_of_ne isCaller]
        · rw [Config.phases_enter_of_ne isCaller]
  | @raised caller call preceding failure issuing =>
      by_cases isCaller : client = caller
      · subst isCaller
        exact .of_idle (by rw [Config.phases_enter_self]; rfl)
      · refine written.of_unmoved ?_ ?_ ?_ rfl
        · simp [Event.Leaves, Ne.symm isCaller]
        · rw [Config.phases_enter_of_ne isCaller]
        · rw [Config.phases_enter_of_ne isCaller]
  | @commit committer committerIdle =>
      by_cases isCommitter : client = committer
      · subst isCommitter
        exact .of_idle (congrArg Phase.before? committerIdle)
      · exact written.of_unmoved (by simp [Event.Leaves]) rfl rfl
          (Ledger.writes_commit_of_ne isCommitter)
  | @rollback leaver =>
      by_cases isLeaver : client = leaver
      · subst isLeaver
        exact .of_idle (by rw [Config.phases_abandon_self]; rfl)
      · refine written.of_unmoved ?_ ?_ ?_
          (Ledger.writes_release_of_ne isLeaver)
        · simp [Event.Leaves, Ne.symm isLeaver]
        · rw [Config.phases_abandon_of_ne isLeaver]
        · rw [Config.phases_abandon_of_ne isLeaver]

/-- Who is in the middle of a call has written its rows since, one by one. -/
theorem written_in_call
    {call : Call}
    {before issued : List Write}
    {write : Write}
    (run : Run (Step pool) start labels config)
    (idle : start.phases client = .idle)
    (inCall : (config.phases client).call? = some call)
    (began : (config.phases client).before? = some before)
    (written : config.writes client = before ++ issued)
    (member : write ∈ issued) :
    TookSince pool start (Event.Leaves client) (WritesRow client call write)
      labels := by
  rcases writtenInCall_of_run run idle call before inCall began with
    ⟨issuedToo, writtenToo, took⟩
  have same : issued = issuedToo :=
    List.append_cancel_left (written.symm.trans writtenToo)
  exact took write (same ▸ member)

end Rows

end Transactional
