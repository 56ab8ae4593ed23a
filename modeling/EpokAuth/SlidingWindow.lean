import Mathlib.Algebra.Order.Group.Defs
import Mathlib.Algebra.Order.Group.Int
import Mathlib.Tactic.Abel

namespace Transactional

/-!
# Rate limits over a sliding window

A limit admits an entry while fewer than a maximum of the entries it still
stores lie in the window before it.  Every attempt first removes old entries,
and the readings that attempts carry need not increase.  As long as no reading
runs ahead of a later entry by more than what is retained beyond the window,
no window ever contains more than the maximum of all entries admitted.
-/

/-- The bounds of a rate limit; whatever is in the window is retained. -/
structure RateLimit (Time : Type) [LE Time] where
  window : Time
  retention : Time
  maximum : Nat
  covers : window ≤ retention

/--
A reading that matters later: that of an admitted entry, or of a removal that
others perform.
-/
inductive Reading (Time : Type) where
  | admitted (time : Time)
  | foreign (time : Time)
  deriving Repr, DecidableEq

namespace Reading

variable {Time : Type}

/-- When the clock was read. -/
def time : Reading Time → Time
  | .admitted time => time
  | .foreign time => time

/-- Whether the reading was one for an admission. -/
def isAdmitted : Reading Time → Bool
  | .admitted _ => true
  | .foreign _ => false

/-- The time of an admission. -/
def admitted? : Reading Time → Option Time
  | .admitted time => some time
  | .foreign _ => none

end Reading

/-- The times of all entries that were admitted, removed or not. -/
def admittedTimes {Time : Type} (readings : List (Reading Time)) : List Time :=
  readings.filterMap Reading.admitted?

@[simp] theorem admittedTimes_append_admitted
    {Time : Type}
    (readings : List (Reading Time))
    (now : Time) :
    admittedTimes (readings ++ [.admitted now]) =
      admittedTimes readings ++ [now] :=
  List.filterMap_append

@[simp] theorem admittedTimes_append_foreign
    {Time : Type}
    (readings : List (Reading Time))
    (now : Time) :
    admittedTimes (readings ++ [.foreign now]) = admittedTimes readings :=
  List.filterMap_append.trans (List.append_nil _)

namespace RateLimit

variable
  {Time : Type}
  [AddCommGroup Time]
  [LinearOrder Time]

section Definitions

variable (limit : RateLimit Time)

/-- A time is in the window before a reading, or after it. -/
def isRecent (now time : Time) : Bool :=
  now - limit.window ≤ time

/-- A time is in the closed window that starts at another. -/
def isWithin (start time : Time) : Bool :=
  start ≤ time && time ≤ start + limit.window

/-- A removal at a reading takes entries older than the retention only. -/
def Removes (now : Time) (live kept : List Time) : Prop :=
  ∃ keeps : Time → Bool,
    (∀ time, now - limit.retention ≤ time → keeps time = true) ∧
      kept = live.filter keeps

/-- The readings of a limit so far, with the entries that it still stores. -/
inductive Log : List (Reading Time) → List Time → Prop where
  | start : Log [] []
  | admitted
      {readings : List (Reading Time)}
      {live kept : List Time}
      {now : Time}
      (log : Log readings live)
      (removes : limit.Removes now live kept)
      (room : kept.countP (limit.isRecent now) < limit.maximum) :
      Log (readings ++ [.admitted now]) (kept ++ [now])
  | refused
      {readings : List (Reading Time)}
      {live kept : List Time}
      {now : Time}
      (log : Log readings live)
      (removes : limit.Removes now live kept)
      (full : limit.maximum ≤ kept.countP (limit.isRecent now)) :
      Log readings kept
  | foreign
      {readings : List (Reading Time)}
      {live kept : List Time}
      {now : Time}
      (log : Log readings live)
      (removes : limit.Removes now live kept) :
      Log (readings ++ [.foreign now]) kept

/--
No reading is ahead of an entry admitted after it by more than what is retained
beyond the window.
-/
def NearlyOrdered (readings : List (Reading Time)) : Prop :=
  readings.Pairwise fun earlier later =>
    later.isAdmitted = true →
      earlier.time - later.time ≤ limit.retention - limit.window

instance (readings : List (Reading Time)) :
    Decidable (limit.NearlyOrdered readings) :=
  inferInstanceAs
    (Decidable
      (readings.Pairwise fun earlier later =>
        later.isAdmitted = true →
          earlier.time - later.time ≤ limit.retention - limit.window))

/--
What an attempt would find at a reading: another reading was too far ahead of
it, or it is refused, or every entry in its window is still stored.
-/
inductive Accounts
    (readings : List (Reading Time))
    (live : List Time)
    (now : Time) :
    Prop where
  | overtaken
      (reading : Reading Time)
      (member : reading ∈ readings)
      (ahead : limit.retention - limit.window < reading.time - now)
  | full (enough : limit.maximum ≤ live.countP (limit.isRecent now))
  | complete
      (same :
        (admittedTimes readings).filter (limit.isRecent now) =
          live.filter (limit.isRecent now))

end Definitions

variable
  {limit : RateLimit Time}
  {readings : List (Reading Time)}
  {live kept : List Time}
  {now other : Time}

/-- Removing nothing is a removal. -/
theorem Removes.none : limit.Removes now live live :=
  ⟨fun _ => true, fun _ _ => rfl, (List.filter_eq_self.mpr fun _ _ => rfl).symm⟩

/-- A further reading may be too far ahead of what is accounted for. -/
theorem Accounts.of_reading
    {reading : Reading Time}
    (accounts :
      reading.time - now ≤ limit.retention - limit.window →
        limit.Accounts (readings ++ [reading]) kept now) :
    limit.Accounts (readings ++ [reading]) kept now := by
  by_cases behind : reading.time - now ≤ limit.retention - limit.window
  · exact accounts behind
  · exact .overtaken reading (by simp) (not_le.mp behind)

section Ordered

variable [IsOrderedAddMonoid Time]

/-- A removal that is not too far ahead spares the window of a reading. -/
theorem Removes.filter_isRecent
    (removes : limit.Removes other live kept)
    (behind : other - now ≤ limit.retention - limit.window) :
    kept.filter (limit.isRecent now) = live.filter (limit.isRecent now) := by
  rcases removes with ⟨keeps, spares, rfl⟩
  rw [List.filter_filter]
  refine List.filter_congr fun time _ => ?_
  by_cases recent : limit.isRecent now time = true
  · have inWindow : now - limit.window ≤ time := by simpa [isRecent] using recent
    have retained : other - limit.retention ≤ time := by grind
    simp [recent, spares time retained]
  · simp [recent]

/-- What an attempt at one reading finds survives a harmless removal. -/
theorem Accounts.removes
    (accounts : limit.Accounts readings live now)
    (removes : limit.Removes other live kept)
    (behind : other - now ≤ limit.retention - limit.window) :
    limit.Accounts readings kept now := by
  have same := removes.filter_isRecent behind
  cases accounts with
  | overtaken reading member ahead =>
      exact .overtaken reading member ahead
  | full enough =>
      refine .full ?_
      rw [List.countP_eq_length_filter] at enough ⊢
      rw [same]
      exact enough
  | complete complete =>
      exact .complete (complete.trans same.symm)

/-- A window before a later reading contains no more than one before. -/
theorem countP_isRecent_mono
    (earlier : now ≤ other) :
    live.countP (limit.isRecent other) ≤ live.countP (limit.isRecent now) := by
  refine List.countP_mono_left fun time _ recent => ?_
  have inWindow : other - limit.window ≤ time := by
    simpa [isRecent] using recent
  have inLarger : now - limit.window ≤ time := by grind
  simpa [isRecent] using inLarger

/-- Every reading is accounted for, at any time. -/
theorem Log.accounts
    (log : limit.Log readings live)
    (now : Time) :
    limit.Accounts readings live now := by
  induction log with
  | start =>
      exact .complete rfl
  | @admitted readings live kept other log removes room accounts =>
      refine Accounts.of_reading fun behind => ?_
      cases accounts.removes removes behind with
      | overtaken reading member ahead =>
          exact .overtaken reading (List.mem_append_left _ member) ahead
      | full enough =>
          refine .full ?_
          rw [List.countP_append]
          exact Nat.le_add_right_of_le enough
      | complete same =>
          refine .complete ?_
          rw [admittedTimes_append_admitted, List.filter_append,
            List.filter_append, same]
  | @refused readings live kept other log removes full accounts =>
      by_cases behind : other - now ≤ limit.retention - limit.window
      · exact accounts.removes removes behind
      · -- an attempt that far ahead was refused, and so is one at this reading
        have later : now ≤ other := by
          have covers := limit.covers
          grind
        exact .full (full.trans (countP_isRecent_mono later))
  | @foreign readings live kept other log removes accounts =>
      refine Accounts.of_reading fun behind => ?_
      cases accounts.removes removes behind with
      | overtaken reading member ahead =>
          exact .overtaken reading (List.mem_append_left _ member) ahead
      | full enough => exact .full enough
      | complete same =>
          refine .complete ?_
          rw [admittedTimes_append_foreign]
          exact same

/-- What is admitted in order finds fewer entries than the maximum before it. -/
theorem Log.recent_lt
    (log : limit.Log readings live)
    (removes : limit.Removes now live kept)
    (room : kept.countP (limit.isRecent now) < limit.maximum)
    (ordered : limit.NearlyOrdered (readings ++ [.admitted now])) :
    (admittedTimes readings).countP (limit.isRecent now) < limit.maximum := by
  have behind : now - now ≤ limit.retention - limit.window := by
    have covers := limit.covers
    grind
  cases (log.accounts now).removes removes behind with
  | overtaken reading member ahead =>
      have near :=
        (List.pairwise_append.mp ordered).2.2 reading member _
          (List.mem_singleton.mpr rfl) rfl
      exact absurd near (not_le.mpr ahead)
  | full enough =>
      exact absurd room (Nat.not_lt.mpr enough)
  | complete same =>
      rw [List.countP_eq_length_filter] at room ⊢
      rw [same]
      exact room

/-- No window contains more than the maximum of the entries ever admitted. -/
theorem Log.within_le
    (log : limit.Log readings live)
    (ordered : limit.NearlyOrdered readings)
    (start : Time) :
    (admittedTimes readings).countP (limit.isWithin start) ≤
      limit.maximum := by
  induction log with
  | start =>
      exact Nat.zero_le _
  | @admitted readings live kept now log removes room bounded =>
      have orderedBefore : limit.NearlyOrdered readings :=
        (List.pairwise_append.mp ordered).1
      rw [admittedTimes_append_admitted, List.countP_append]
      by_cases inside : limit.isWithin start now = true
      · -- whatever else is in the window is recent to the last one admitted
        have recent :
            (admittedTimes readings).countP (limit.isWithin start) ≤
              (admittedTimes readings).countP (limit.isRecent now) := by
          refine List.countP_mono_left fun time _ within => ?_
          simp only [isWithin, isRecent, Bool.and_eq_true,
            decide_eq_true_eq] at inside within ⊢
          grind
        have fewer := log.recent_lt removes room ordered
        have one : [now].countP (limit.isWithin start) ≤ 1 :=
          List.countP_le_length
        exact (Nat.add_le_add_right recent _).trans
          ((Nat.add_le_add_left one _).trans fewer)
      · have nothing : [now].countP (limit.isWithin start) = 0 := by
          simp [inside]
        rw [nothing]
        exact bounded orderedBefore
  | refused _ _ _ bounded =>
      exact bounded ordered
  | @foreign readings live kept now log removes bounded =>
      rw [admittedTimes_append_foreign]
      exact bounded (List.pairwise_append.mp ordered).1

end Ordered

end RateLimit

end Transactional
