import EpokAuth.LinkConduct
import EpokAuth.RowHistory

namespace EpokAuth

open Transactional

/-!
# Runs of the services under the discipline of email links

Identifiers of links are drawn at random, so that no two links of a run share
one; what was issued under an identifier is then a matter of the identifier.
Every statement that takes effect on a link is permitted where it does, also in
the middle of a sweep.
-/

variable
  {Client : Type}
  {env : Environment}
  {book : Uuid → EmailLink}
  {config next : Config Client (services env)}
  {client : Client}
  {event : Event Client (services env)}
  {labels : List (Event Client (services env))}

/-! ## What is issued in a run -/

/-- The link that is inserted. -/
def insertedLink? : Event Client (services env) → Option EmailLink
  | .issues _ (.insertEmailLink link) => some link
  | _ => none

/-- No identifier of a link is drawn twice. -/
def LinksDrawnOnce (labels : List (Event Client (services env))) : Prop :=
  ((labels.filterMap insertedLink?).map EmailLink.id).Nodup

/-- The identifiers drawn in part of a run are drawn once. -/
theorem LinksDrawnOnce.of_append
    {later : List (Event Client (services env))}
    (once : LinksDrawnOnce (labels ++ later)) :
    LinksDrawnOnce labels := by
  rw [LinksDrawnOnce, List.filterMap_append, List.map_append] at once
  exact once.of_append_left

/-- An identifier that is drawn later was not drawn before. -/
theorem LinksDrawnOnce.fresh
    {later : List (Event Client (services env))}
    {link earlier : EmailLink}
    {issuer : Client}
    (once : LinksDrawnOnce (labels ++ later))
    (drawn :
      (.issues issuer (.insertEmailLink earlier) : Event Client _) ∈ labels)
    (draws :
      (.issues client (.insertEmailLink link) : Event Client _) ∈ later) :
    earlier.id ≠ link.id := by
  rw [LinksDrawnOnce, List.filterMap_append, List.map_append] at once
  intro same
  have before :
      link.id ∈ (labels.filterMap insertedLink?).map EmailLink.id :=
    List.mem_map.mpr
      ⟨earlier, List.mem_filterMap.mpr ⟨_, drawn, rfl⟩, same⟩
  have after : link.id ∈ (later.filterMap insertedLink?).map EmailLink.id :=
    List.mem_map.mpr ⟨link, List.mem_filterMap.mpr ⟨_, draws, rfl⟩, rfl⟩
  exact List.disjoint_of_nodup_append once before after

/-- A link that was never issued. -/
def unissued : EmailLink where
  id := 0
  userId := 0
  purpose := .login
  generation := 0
  tokenHash := ""
  recipientHash := ""
  securityVersion := 0
  createdAt := 0
  expiresAt := 0

/-- What is drawn once is written in some book. -/
theorem LinksDrawnOnce.exists_book
    (once : LinksDrawnOnce labels) :
    ∃ book, ∀ event ∈ labels, event.Admitted (LinkAdmitted book) := by
  refine ⟨fun id =>
    ((labels.filterMap insertedLink?).find? fun link => link.id = id).getD
      unissued, ?_⟩
  intro event member
  cases event with
  | issues issuer statement =>
      cases statement with
      | insertEmailLink link =>
          have inserted : link ∈ labels.filterMap insertedLink? :=
            List.mem_filterMap.mpr ⟨_, member, rfl⟩
          change link =
            ((labels.filterMap insertedLink?).find? fun other =>
              other.id = link.id).getD unissued
          cases found :
              (labels.filterMap insertedLink?).find? fun other =>
                other.id = link.id with
          | none =>
              have absent := List.find?_eq_none.mp found link inserted
              simp at absent
          | some other =>
              have same : other.id = link.id := by
                simpa using List.find?_some found
              exact List.inj_on_of_nodup_map once inserted
                (List.mem_of_find?_eq_some found) same.symm
      | _ => trivial
  | _ => trivial

variable [DecidableEq Client]

/-- What every client keeps while the services run. -/
abbrev LinksHold
    (book : Uuid → EmailLink)
    (config : Config Client (services env)) :
    Prop :=
  ((linkDiscipline env book).contract env).Holds (linkPromise env)
    (Protection.Everywhere (linkProtection env) (LinksSane book))
    config

variable
  {pool : Client → ServiceTx → Prop}

/-- The discipline of links is sound for sane views. -/
theorem links_sound :
    ((linkDiscipline env book).contract env).Sound (linkPromise env) pool
      (LinkAdmitted book)
      (Protection.Everywhere (linkProtection env) (LinksSane book)) :=
  Protection.sound (fun _ call _ => link_callKeeps call)
    linkDiscipline_protects (fun _ sane => sane) linksSane_kept

theorem LinksHold.step
    (holds : LinksHold book config)
    (admitted : event.Admitted (LinkAdmitted book))
    (step : Step pool config event next) :
    LinksHold book next :=
  Contract.Holds.step links_sound holds admitted step

/-- The services keep the discipline of links in every run. -/
theorem links_hold
    (admitted : ∀ event ∈ labels, event.Admitted (LinkAdmitted book))
    (run : Run (Step pool) (.quiescent {}) labels config) :
    LinksHold book config :=
  Contract.Holds.run links_sound
    (.quiescent
      (Protection.everywhere_quiescent
        { issued := fun _ _ found => by cases found
          owned := fun _ _ found => by cases found
          generations := fun _ _ _ _ found => by cases found }))
    admitted run

/-! ## In the middle of a sweep -/

/-- All rows of an identifier in a store are of one that was issued before. -/
def IssuedBefore (id : Uuid) (earlier later : Store) : Prop :=
  ∀ link,
    later.links.get? id = some link →
      ∃ before,
        earlier.links.get? id = some before ∧
          before.asIssued = link.asIssued

/-- A sweep inserts no link. -/
theorem issuedBefore_of_touch
    {statement : Statement}
    {targets : Store → List Uuid}
    {lock : Uuid → Lock Resource}
    {touch : Uuid → Store → List Write}
    {answer : Nat → Answer statement}
    (executes :
      Store.execution statement = .sweep targets lock touch answer)
    (id target : Uuid)
    (view : Store) :
    IssuedBefore id view (applyAll Store.apply (touch target view) view) := by
  have may := Store.execution_writesLinks statement
  rw [executes] at may
  refine (may target view).apply_cases (fun link found => ⟨link, found, rfl⟩)
    fun write mayWrite link found => mayWrite.source ?_ found
  rintro link ⟨rfl, _⟩
  cases executes

omit [DecidableEq Client] in
/-- While the account is held, a sweep finds the links that were there. -/
theorem asIssued_of_sweeps
    {statement : Statement}
    {targets : Store → List Uuid}
    {lock : Uuid → Lock Resource}
    {touch : Uuid → Store → List Write}
    {answer : Nat → Answer statement}
    {locks : List (Lock Resource)}
    {first second : Sweep Store Write Uuid}
    {userId : Uuid}
    (executes :
      Store.execution statement = .sweep targets lock touch answer)
    (owner : Locked locks (.user userId))
    (swept :
      ((linkDiscipline env book).contract env).Sweeps locks touch first
        second) :
    ∀ id link,
      second.view.links.get? id = some link → link.userId = userId →
        ∃ before,
          first.view.links.get? id = some before ∧
            before.asIssued = link.asIssued := by
  induction swept with
  | refl =>
      exact fun id link found _ => ⟨link, found, rfl⟩
  | @tail middle last _ step inductionHypothesis =>
      intro id link found owned
      have source :
          ∃ before,
            middle.view.links.get? id = some before ∧
              before.asIssued = link.asIssued := by
        cases step with
        | relied relies =>
            rcases (linkSpared_of_spared (relies.spared _ owner) id).source
                found owned with
              ⟨before, foundBefore, same, _⟩
            exact ⟨before, foundBefore, same⟩
        | visited => exact issuedBefore_of_touch executes id _ _ link found
      rcases source with ⟨before, foundBefore, same⟩
      rcases inductionHypothesis id before foundBefore
          ((EmailLink.of_asIssued EmailLink.userId
            (fun _ => rfl) same).trans owned) with
        ⟨first, foundFirst, sameFirst⟩
      exact ⟨first, foundFirst, sameFirst.trans same⟩

/-- What was permitted when a sweep began is permitted while it goes on. -/
theorem linkPermits_of_sweeps
    {call : ServiceTx}
    {statement : Statement}
    {targets : Store → List Uuid}
    {lock : Uuid → Lock Resource}
    {touch : Uuid → Store → List Write}
    {answer : Nat → Answer statement}
    {held gained : List (Lock Resource)}
    {issued more : List Write}
    {pending : List Uuid}
    {base view : Store}
    (executes :
      Store.execution statement = .sweep targets lock touch answer)
    (permitted :
      linkPermits env call { view := base, locks := held, issued := issued }
        statement)
    (swept :
      ((linkDiscipline env book).contract env).Sweeps held touch
        ⟨targets base, base, []⟩ ⟨pending, view, more⟩) :
    linkPermits env call
      { view := view
        locks := held ++ gained
        issued := issued ++ more }
      statement := by
  cases statement with
  | revokeOtherActiveEmailLinks userId purpose linkId now =>
      obtain ⟨link, rfl, rfl, rfl, replaces⟩ := permitted
      have fewer : held ⊆ held ++ gained := List.subset_append_left _ _
      refine ⟨link, rfl, rfl, rfl,
        { reported := replaces.reported
          holds := ⟨replaces.holds.locked.mono fewer, ?_⟩
          owner := replaces.owner.mono fewer
          active := replaces.active
          activated := List.mem_append_left _ replaces.activated
          newest := ?_ }⟩
      · obtain ⟨rfl, rfl, rfl, rfl⟩ := Execution.sweep.inj executes
        have kept :=
          StoreRow.read_of_sweeps (.link link.id) replaces.holds.locked
            others_elsewhere swept
        exact kept.trans replaces.holds.seen
      · intro id other found requested
        rcases asIssued_of_sweeps executes replaces.owner swept id other found
            (userId_of_requestedFor requested) with
          ⟨before, foundBefore, same⟩
        rw [← requestedFor_eq_of_asIssued same] at requested
        rw [← EmailLink.of_asIssued EmailLink.generation (fun _ => rfl) same]
        exact replaces.newest id before foundBefore requested
  | deleteOldEmailLinks before => exact permitted
  | _ => trivial

/-! ## Statements that take effect -/

/-- The event with which a statement takes effect, wholly or on one row. -/
def Statement.TakesEffect
    (statement : Statement)
    (client : Client)
    (event : Event Client (services env)) :
    Prop :=
  match Store.execution statement with
  | .point _ _ => event = .issues client statement
  | .sweep _ _ _ _ => ∃ target, event = .visits client target

/-- What a client does to links when it acts. -/
inductive LinkAct
    (env : Environment)
    (config next : Config Client (services env))
    (client : Client)
    (event : Event Client (services env)) :
    Prop where
  | quiet
      (sees : next.sees client = config.sees client)
      (writes : next.writes client = config.writes client)
  | writes
      {issued : List Write}
      {call : ServiceTx}
      {before : List Write}
      {statement : Statement}
      {write : Write}
      (inCall :
        (config.phases client).call? = some call ∧
          (config.phases client).before? = some before)
      (written : config.writes client = before ++ issued)
      (permitted :
        linkPermits env call
          { view := config.sees client
            locks := config.locks client
            issued := issued }
          statement)
      (takes : statement.TakesEffect client event)
      (may : statement.MayWriteLink (config.sees client) write)
      (sees : next.sees client = Store.apply write (config.sees client))
      (writes : next.writes client = config.writes client ++ [write])

/-- A statement that takes effect is permitted where it does. -/
theorem LinksHold.acts
    (holds : LinksHold book config)
    (step : Step pool config event next)
    (acts : event.Acts client) :
    LinkAct env config next client event := by
  cases step with
  | @point actor call before statement following locks effect issuing executes
      granted =>
      have isActor : actor = client := by
        rcases acts with ⟨_, same⟩ | ⟨_, same⟩
        · cases same
          rfl
        · cases same
      subst isActor
      rcases ((holds.stands_in issuing).point (holds.invariant.views _)
          executes).1 with
        ⟨issued, written, permitted⟩
      have isPoint : Store.execution statement = .point locks effect :=
        executes
      have may := Store.execution_writesLinks statement
      rw [isPoint] at may
      rcases may (config.sees actor) with none | ⟨write, one, mayWrite⟩
      · refine .quiet ?_ ?_
        · rw [Config.sees_advance_self, none]
          rfl
        · rw [Config.writes_advance_self, none, List.append_nil]
      · refine .writes ⟨issuing ▸ rfl, issuing ▸ rfl⟩ written permitted
          ?_ mayWrite ?_ ?_
        · rw [Statement.TakesEffect, isPoint]
        · rw [Config.sees_advance_self, one]
          rfl
        · rw [Config.writes_advance_self, one]
  | sweep issuing executes =>
      exact .quiet rfl rfl
  | @visit actor call before statement visited first last target following
      targets lock touch answer sweeping executes granted =>
      have isActor : actor = client := by
        rcases acts with ⟨_, same⟩ | ⟨_, same⟩
        · cases same
        · cases same
          rfl
      subst isActor
      have isSweep :
          Store.execution statement = .sweep targets lock touch answer :=
        executes
      have may := Store.execution_writesLinks statement
      rw [isSweep] at may
      rcases may target (config.sees actor) with none | ⟨write, one, mayWrite⟩
      · refine .quiet ?_ ?_
        · rw [Config.sees_advance_self, none]
          rfl
        · rw [Config.writes_advance_self, none, List.append_nil]
      · have stood := holds.stands_in sweeping
        cases stood with
        | @sweeping _ _ issued more _ _ _ _ _ _ _ _ base held gained
            executesToo permitted written locked swept keeps =>
            obtain ⟨rfl, rfl, rfl, rfl⟩ :=
              Execution.sweep.inj (executes.symm.trans executesToo)
            have permittedNow :=
              @linkPermits_of_sweeps _ _ _ _ _ _ _ _ _ gained _ _ _ _ _
                isSweep permitted swept
            rw [← locked] at permittedNow
            refine .writes ⟨sweeping ▸ rfl, sweeping ▸ rfl⟩ written
              permittedNow ?_ mayWrite ?_ ?_
            · rw [Statement.TakesEffect, isSweep]
              exact ⟨target, rfl⟩
            · rw [Config.sees_advance_self, one]
              rfl
            · rw [Config.writes_advance_self, one]
  | _ =>
      rcases acts with ⟨_, same⟩ | ⟨_, same⟩
      · cases same
      · cases same

end EpokAuth
