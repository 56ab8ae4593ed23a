import Mathlib.Data.List.Basic

namespace Transactional

/-!
# Chains of successors

A partial function that names a successor orders some elements linearly when
they can be listed so that each names the next one and the last names none.
Such a list is determined by its first element, so it has no repetitions, no
cycles and no branches.
-/

/-- A list in which each element names the next and the last names none. -/
inductive SuccessorChain (next : α → Option α) : List α → Prop where
  | last
      {element : α} :
      next element = none →
      SuccessorChain next [element]
  | link
      {element following : α}
      {rest : List α} :
      next element = some following →
      SuccessorChain next (following :: rest) →
      SuccessorChain next (element :: following :: rest)

namespace SuccessorChain

variable
  {next changed : α → Option α}
  {chain first second : List α}
  {element other following root : α}

/-- A chain is determined by its first element. -/
theorem unique
    (one : SuccessorChain next (root :: first))
    (another : SuccessorChain next (root :: second)) :
    first = second := by
  induction first generalizing root second with
  | nil =>
      cases one with
      | last ends =>
          cases another with
          | last _ =>
              rfl
          | link names _ =>
              rw [ends] at names
              cases names
  | cons following rest inductionHypothesis =>
      cases one with
      | link names later =>
          cases another with
          | last ends =>
              rw [ends] at names
              cases names
          | link namesToo laterToo =>
              rw [names] at namesToo
              obtain rfl := Option.some.inj namesToo
              rw [inductionHypothesis later laterToo]

/-- From every member on, a chain is a chain. -/
theorem exists_suffix
    (linked : SuccessorChain next chain)
    (member : element ∈ chain) :
    ∃ earlier rest,
      chain = earlier ++ element :: rest ∧
        SuccessorChain next (element :: rest) := by
  induction linked with
  | @last final ends =>
      obtain rfl := List.mem_singleton.mp member
      exact ⟨[], [], rfl, .last ends⟩
  | @link head following rest names later inductionHypothesis =>
      rcases List.mem_cons.mp member with rfl | inRest
      · exact ⟨[], following :: rest, rfl, .link names later⟩
      · obtain ⟨earlier, after, split, suffix⟩ := inductionHypothesis inRest
        exact ⟨head :: earlier, after, by rw [split]; rfl, suffix⟩

/-- A chain does not return to its first element. -/
theorem root_not_mem
    (linked : SuccessorChain next (root :: chain)) :
    root ∉ chain := by
  intro member
  cases linked with
  | last _ =>
      exact absurd member (by simp)
  | link names later =>
      obtain ⟨earlier, after, split, suffix⟩ := later.exists_suffix member
      have same := unique (.link names later) suffix
      have lengths := congrArg List.length (split.trans (by rw [← same]))
      simp only [List.length_cons, List.length_append] at lengths
      omega

/-- A chain has no repetitions. -/
theorem nodup (linked : SuccessorChain next chain) : chain.Nodup := by
  induction linked with
  | last ends =>
      simp
  | link names later inductionHypothesis =>
      exact List.nodup_cons.mpr
        ⟨root_not_mem (.link names later), inductionHypothesis⟩

/-- The successor of a member is a member. -/
theorem mem_of_next
    (linked : SuccessorChain next chain)
    (member : element ∈ chain)
    (names : next element = some following) :
    following ∈ chain := by
  obtain ⟨earlier, rest, rfl, suffix⟩ := linked.exists_suffix member
  cases suffix with
  | last ends =>
      rw [ends] at names
      cases names
  | link namesToo later =>
      rw [namesToo] at names
      obtain rfl := Option.some.inj names
      simp

/-- Some member names no successor. -/
theorem exists_end
    (linked : SuccessorChain next chain) :
    ∃ final ∈ chain, next final = none := by
  induction linked with
  | @last final ends =>
      exact ⟨final, by simp, ends⟩
  | link names later inductionHypothesis =>
      obtain ⟨final, member, ends⟩ := inductionHypothesis
      exact ⟨final, List.mem_cons_of_mem _ member, ends⟩

/-- At most one member names no successor. -/
theorem end_unique
    (linked : SuccessorChain next chain)
    (member : element ∈ chain)
    (ends : next element = none)
    (otherMember : other ∈ chain)
    (otherEnds : next other = none) :
    element = other := by
  induction linked with
  | last _ =>
      rw [List.mem_singleton.mp member, List.mem_singleton.mp otherMember]
  | link names later inductionHypothesis =>
      rcases List.mem_cons.mp member with rfl | inRest
      · rw [names] at ends
        cases ends
      · rcases List.mem_cons.mp otherMember with rfl | otherInRest
        · rw [names] at otherEnds
          cases otherEnds
        · exact inductionHypothesis inRest otherInRest

/-- The first element is nobody's successor. -/
theorem next_ne_root
    (linked : SuccessorChain next (root :: chain))
    (member : element ∈ root :: chain) :
    next element ≠ some root := by
  intro names
  obtain ⟨earlier, rest, split, suffix⟩ := linked.exists_suffix member
  cases suffix with
  | last ends =>
      rw [ends] at names
      cases names
  | link namesToo later =>
      rw [namesToo] at names
      obtain rfl := Option.some.inj names
      have distinct := linked.nodup
      rw [split] at distinct
      cases earlier with
      | nil =>
          obtain ⟨rfl, rfl⟩ := List.cons.inj split
          simp at distinct
      | cons head tail =>
          obtain ⟨rfl, _⟩ := List.cons.inj split
          simp at distinct

/-- Members with the same successor are the same. -/
theorem next_injective
    (linked : SuccessorChain next chain)
    (member : element ∈ chain)
    (names : next element = some following)
    (otherMember : other ∈ chain)
    (otherNames : next other = some following) :
    element = other := by
  induction linked with
  | last _ =>
      rw [List.mem_singleton.mp member, List.mem_singleton.mp otherMember]
  | link headNames later inductionHypothesis =>
      -- only the head names the second element, which starts the rest
      rcases List.mem_cons.mp member with rfl | inRest
      · rcases List.mem_cons.mp otherMember with rfl | otherInRest
        · rfl
        · rw [headNames] at names
          obtain rfl := Option.some.inj names
          exact absurd otherNames (later.next_ne_root otherInRest)
      · rcases List.mem_cons.mp otherMember with rfl | otherInRest
        · rw [headNames] at otherNames
          obtain rfl := Option.some.inj otherNames
          exact absurd names (later.next_ne_root inRest)
        · exact inductionHypothesis inRest otherInRest

/-- A chain depends on the successors of its members only. -/
theorem congr
    (linked : SuccessorChain next chain)
    (agrees : ∀ member ∈ chain, changed member = next member) :
    SuccessorChain changed chain := by
  induction linked with
  | last ends =>
      exact .last ((agrees _ (by simp)).trans ends)
  | link names later inductionHypothesis =>
      refine .link ((agrees _ (by simp)).trans names) ?_
      exact inductionHypothesis fun member inRest =>
        agrees member (List.mem_cons_of_mem _ inRest)

/-- Naming a successor for the end of a chain extends it by one element. -/
theorem extend
    (linked : SuccessorChain next chain)
    (member : element ∈ chain)
    (ends : next element = none)
    (names : changed element = some following)
    (final : changed following = none)
    (agrees :
      ∀ other ∈ chain, other ≠ element → changed other = next other) :
    SuccessorChain changed (chain ++ [following]) := by
  induction linked with
  | last _ =>
      obtain rfl := List.mem_singleton.mp member
      exact .link names (.last final)
  | @link head successor rest headNames later inductionHypothesis =>
      have isLater : element ∈ successor :: rest := by
        rcases List.mem_cons.mp member with rfl | inRest
        · rw [headNames] at ends
          cases ends
        · exact inRest
      have headDiffers : head ≠ element := by
        rintro rfl
        rw [headNames] at ends
        cases ends
      refine .link ((agrees head (by simp) headDiffers).trans headNames) ?_
      exact inductionHypothesis isLater fun other inRest =>
        agrees other (List.mem_cons_of_mem _ inRest)

end SuccessorChain

end Transactional
