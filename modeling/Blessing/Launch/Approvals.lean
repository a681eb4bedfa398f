import Blessing.Launch.Lifecycle
import Mathlib.Data.List.Pairwise

/-! # Continuation approvals

An activation stores its continuation approval in the session, and the unique index keeps the stored
approvals apart. A session that is fenced and activated again loses the approval it had: the table
knows nothing about it any more, and an activation with the approval the session still has changes
nothing the index could object to. So the approvals of successful activations are different exactly
if no activation brings back its own session's approval or one that was replaced. -/

namespace Blessing.Launch.Approvals

open Blessing.Lib Blessing.Lib.Machine Blessing.Lib.Table
open Blessing.Launch.Repository Blessing.Launch.Lifecycle

/-- The continuation approval of a successful call of `activate_mainnet_autonomous`. -/
def approval (w : World) (event : Event) : Option String :=
  match event, (step w event).1 with
  | .call (.activateAutonomous _ continuationApprovalId _), .session _ =>
    some continuationApprovalId
  | _, _ => none

/-- The approvals of the successful activations of a run. -/
def approvals (w : World) : List Event → List String
  | [] => []
  | event :: events => (approval w event).toList ++ approvals (step w event).2 events

/-- The approval the session of an activation has before the call. -/
def previous (w : World) (event : Event) : Option String :=
  match event with
  | .call (.activateAutonomous launchId _ _) =>
    (w.sessions.get launchId).bind Session.continuationApprovalId
  | _ => none

/-- The approvals that activations have replaced so far. -/
def replaced (w : World) (before : List String) (event : Event) : List String :=
  if (approval w event).isSome then before ++ (previous w event).toList else before

/-- No successful activation of the run brings back the approval of its own session or a replaced
one. -/
def Fresh (w : World) (before : List String) : List Event → Prop
  | [] => True
  | event :: events =>
    (∀ id, approval w event = some id → previous w event ≠ some id ∧ id ∉ before) ∧
      Fresh (step w event).2 (replaced w before event) events

/-! ### Stored approvals -/

/-- Some session has the approval. -/
def Stored (t : Sessions) (id : String) : Prop :=
  ∃ launchId r, t.get launchId = some r ∧ r.continuationApprovalId = some id

/-- The unique index. -/
theorem stored_unique {t : Sessions} {launchId launchId' id : String} {r r' : Session}
    (hr : t.get launchId = some r) (hr' : t.get launchId' = some r')
    (h : r.continuationApprovalId = some id) (h' : r'.continuationApprovalId = some id) :
    launchId = launchId' := by
  by_contra hne
  have hrows : r ≠ r' := by
    rintro rfl
    exact hne ((launchId_of_get hr).symm.trans (launchId_of_get hr'))
  have hnodup := t.valid.continuation
  rw [List.Nodup, List.pairwise_filterMap] at hnodup
  have hsymm : Std.Symm fun r r' : Session => ∀ a, r.continuationApprovalId = some a →
      ∀ b, r'.continuationApprovalId = some b → a ≠ b :=
    ⟨fun r r' hrel a ha b hb he => hrel b hb a ha he.symm⟩
  exact hnodup.forall (mem_of_get hr) (mem_of_get hr') hrows id h id h' rfl

/-- A successful activation ran its statement on the session of its launch. -/
theorem activation_ok {w : World} {launchId id imageDigest : String} {row : Session}
    (h : (step w (.call (.activateAutonomous launchId id imageDigest))).1 = .session row) :
    ∃ n r, w.sessions.get launchId = some r ∧
      (Statement.activateAutonomous launchId id imageDigest).selects r = true ∧
      w.sessions.exec (.activateAutonomous launchId id imageDigest) =
        some (n, (step w (.call (.activateAutonomous launchId id imageDigest))).2.sessions) := by
  simp only [step] at h ⊢
  cases hrefused : (Statement.activateAutonomous launchId id imageDigest).refused with
  | some message => simp [hrefused] at h
  | none =>
    cases hexec : w.sessions.exec (.activateAutonomous launchId id imageDigest) with
    | none => simp [hrefused, hexec] at h
    | some result =>
      obtain ⟨n, sessions⟩ := result
      simp only [hrefused, hexec, Statement.answer] at h
      split_ifs at h with hn
      rw [exec_count hexec] at hn
      obtain ⟨r, hr, hselects⟩ := List.countP_pos_iff.mp (Nat.pos_of_ne_zero hn)
      have hid : r.launchId = launchId := by
        simp only [Statement.selects, Bool.and_eq_true, decide_eq_true_eq] at hselects
        exact hselects.1.1.1
      exact ⟨n, r, hid ▸ get_of_mem hr, hselects, rfl⟩

/-- What a successful activation does: it stores its approval in its session, and nothing else. -/
theorem approval_some {w : World} {event : Event} {id : String} (h : approval w event = some id) :
    ∃ launchId r r', w.sessions.get launchId = some r ∧
    previous w event = r.continuationApprovalId ∧
      (step w event).2.sessions.get launchId = some r' ∧ r'.continuationApprovalId = some id ∧
      ∀ other, other ≠ launchId →
        (step w event).2.sessions.get other = w.sessions.get other := by
  unfold approval at h
  split at h
  · rename_i launchId _ imageDigest row hanswer
    cases h
    obtain ⟨n, r, hr, hselects, hexec⟩ := activation_ok hanswer
    refine ⟨launchId, r, (Statement.activateAutonomous launchId id imageDigest).changes r, hr,
      by simp [previous, hr], ?_, rfl, fun other hother => ?_⟩
    · rw [get_exec hexec, hr, Option.map_some, if_pos hselects]
    · rw [get_exec hexec]
      cases hget : w.sessions.get other with
      | none => rfl
      | some r' =>
        have hne : (Statement.activateAutonomous launchId id imageDigest).selects r' = false := by
          simp [Statement.selects, launchId_of_get hget, hother]
        simp [hne]
  · cases h

theorem continuation_of_none {w : World} {event : Event} (h : approval w event = none)
    (launchId : String) :
    ((step w event).2.sessions.get launchId).bind Session.continuationApprovalId =
      (w.sessions.get launchId).bind Session.continuationApprovalId := by
  have hmoves := moves_step w event launchId
  generalize hbefore : w.sessions.get launchId = before at hmoves
  generalize hafter : (step w event).2.sessions.get launchId = after at hmoves
  cases hmoves with
  | same => rfl
  | inserted args => rfl
  | @changed st r hruns hselects =>
    cases st with
    | activateAutonomous launchId' id imageDigest =>
      have hid : launchId' = launchId := by
        simp only [Statement.selects, Bool.and_eq_true, decide_eq_true_eq] at hselects
        rw [← hselects.1.1.1, launchId_of_get hbefore]
      subst hid
      rcases hruns with rfl | ⟨-, symbol, approvalId, he⟩
      · by_cases hsame :
          (step w (.call (.activateAutonomous launchId' id imageDigest))).2.sessions.get
            launchId' = some r
        · rw [← hafter, hsame]
        · -- the call changed the session, so it returned its row
          obtain ⟨_, _, row, he, hanswer⟩ := activates_of_changed hbefore hselects hsame
          cases he
          simp [approval, hanswer] at h
      · cases he
    | _ => rfl

theorem stored_iff {t : Sessions} {id : String} :
    Stored t id ↔ ∃ launchId, (t.get launchId).bind Session.continuationApprovalId = some id := by
  simp only [Stored, Option.bind_eq_some_iff]

theorem stored_of_none {w : World} {event : Event} (h : approval w event = none) (id : String) :
    Stored (step w event).2.sessions id ↔ Stored w.sessions id := by
  simp only [stored_iff, continuation_of_none h]

/-- After a successful activation the table has its approval in the place of the session's previous
one. -/
theorem stored_of_some {w : World} {event : Event} {id : String} (h : approval w event = some id)
    (c : String) :
    Stored (step w event).2.sessions c ↔ c = id ∨ Stored w.sessions c ∧
    previous w event ≠ some c := by
  obtain ⟨launchId, r, r', hr, hprevious, hr', hid, hother⟩ := approval_some h
  constructor
  · rintro ⟨launchId', r₁, hr₁, hc⟩
    by_cases hsame : launchId' = launchId
    · subst hsame
      rw [hr'] at hr₁
      cases hr₁
      rw [hid] at hc
      exact .inl (Option.some.inj hc).symm
    · rw [hother launchId' hsame] at hr₁
      refine .inr ⟨⟨launchId', r₁, hr₁, hc⟩, fun hp => hsame ?_⟩
      rw [hprevious] at hp
      exact stored_unique hr₁ hr hc hp
  · rintro (rfl | ⟨⟨launchId', r₁, hr₁, hc⟩, hp⟩)
    · exact ⟨launchId, r', hr', hid⟩
    · have hne : launchId' ≠ launchId := by
        rintro rfl
        rw [hr] at hr₁
        cases hr₁
        exact hp (hprevious.trans hc)
      exact ⟨launchId', r₁, (hother launchId' hne).trans hr₁, hc⟩

/-- The unique index refuses an approval that another session has. -/
theorem previous_of_stored {w : World} {event : Event} {id : String}
    (h : approval w event = some id) (hstored : Stored w.sessions id) :
    previous w event = some id := by
  obtain ⟨launchId, r, r', hr, hprevious, hr', hid, hother⟩ := approval_some h
  obtain ⟨launchId', r₁, hr₁, hc⟩ := hstored
  by_cases hsame : launchId' = launchId
  · subst hsame
    rw [hr] at hr₁
    cases hr₁
    exact hprevious.trans hc
  · exact absurd (stored_unique ((hother launchId' hsame).trans hr₁) hr' hc hid) hsame

/-! ### Runs -/

/-- The approvals seen so far are those in the table and those replaced. -/
def Seen (w : World) (before seen : List String) : Prop :=
  ∀ c, c ∈ seen ↔ Stored w.sessions c ∨ c ∈ before

theorem seen_of_none {w : World} {event : Event} {before seen : List String}
    (h : approval w event = none) (hseen : Seen w before seen) :
    Seen (step w event).2 (replaced w before event) seen := by
  intro c
  rw [hseen c, stored_of_none h]
  simp [replaced, h]

theorem seen_of_some {w : World} {event : Event} {id : String} {before seen : List String}
    (h : approval w event = some id) (hseen : Seen w before seen) :
    Seen (step w event).2 (replaced w before event) (seen ++ [id]) := by
  intro c
  have hprevious : previous w event = some c → Stored w.sessions c := by
    obtain ⟨launchId, r, r', hr, hp, -⟩ := approval_some h
    exact fun hc => ⟨launchId, r, hr, hp.symm.trans hc⟩
  have hmem : c ∈ (previous w event).toList ↔ previous w event = some c := Option.mem_toList
  simp only [replaced, h, Option.isSome_some, if_true, List.mem_append, List.mem_singleton, hseen c,
    stored_of_some h, hmem]
  by_cases hc : previous w event = some c
  · simp [hc, hprevious hc]
  · simp only [hc, not_false_eq_true, and_true, or_false, ne_eq]
    tauto

/-- An activation with an approval not seen before is one that brings back neither its session's
approval nor a replaced one. -/
theorem not_seen_iff {w : World} {event : Event} {id : String} {before seen : List String}
    (h : approval w event = some id) (hseen : Seen w before seen) :
    id ∉ seen ↔ previous w event ≠ some id ∧ id ∉ before := by
  rw [hseen id, not_or]
  refine and_congr_left fun _ => not_congr ⟨previous_of_stored h, fun hp => ?_⟩
  obtain ⟨launchId, r, r', hr, hprevious, -⟩ := approval_some h
  exact ⟨launchId, r, hr, hprevious.symm.trans hp⟩

theorem nodup_approvals_iff (events : List Event) (w : World) (before seen : List String)
    (hnodup : seen.Nodup) (hseen : Seen w before seen) :
    (seen ++ approvals w events).Nodup ↔ Fresh w before events := by
  induction events generalizing w before seen with
  | nil => simpa [approvals, Fresh] using hnodup
  | cons event events ih =>
    cases h : approval w event with
    | none =>
      have hrun := ih _ _ _ hnodup (seen_of_none h hseen)
      simp only [approvals, h, Option.toList_none, List.nil_append, hrun, Fresh, reduceCtorEq,
        false_implies, implies_true, true_and]
    | some id =>
      have hnew := not_seen_iff h hseen
      by_cases hid : id ∈ seen
      · have hnot : ¬ (seen ++ approvals w (event :: events)).Nodup := by
          simp only [approvals, h, Option.toList_some, List.singleton_append]
          intro hall
          exact (List.nodup_append.mp hall).2.2 id hid id (by simp) rfl
        have hnotFresh : ¬ Fresh w before (event :: events) := fun hfresh =>
          hnew.mpr (hfresh.1 id h) hid
        simp only [hnot, hnotFresh]
      · have hrun := ih _ _ (seen ++ [id]) (by
          rw [List.nodup_append]
          refine ⟨hnodup, List.nodup_singleton id, fun a ha b hb => ?_⟩
          rw [List.mem_singleton.mp hb]
          exact fun he => hid (he ▸ ha)) (seen_of_some h hseen)
        rw [List.append_assoc] at hrun
        simp only [approvals, h, Option.toList_some, hrun, Fresh, Option.some.injEq, forall_eq',
          hnew.mp hid, ne_eq, not_false_eq_true, and_self, true_and]

/-- **Continuation approvals**: along every run from an empty table, the approvals of the successful
activations are different exactly if no activation brings back its own session's approval or one
that an earlier activation replaced. -/
theorem approvals_distinct_iff (events : List Event) :
    (approvals start events).Nodup ↔ Fresh start [] events := by
  refine nodup_approvals_iff events start [] [] List.nodup_nil fun c => ?_
  have hnone : ¬ Stored start.sessions c := by
    rintro ⟨launchId, r, hr, -⟩
    cases hr
  simp [hnone]

/-- A worker restarts and fences its autonomous launch; the same approval activates it again. -/
theorem approvals_not_distinct :
    approvals start (launched ++ [.call (.activateAutonomous "L1" "C1" sampleDigest),
      .call (.markReauthRequired "ETHUSDC"), .call (.activateAutonomous "L1" "C1" sampleDigest)]) =
        ["C1", "C1"] ∧
      ¬ (approvals start (launched ++ [.call (.activateAutonomous "L1" "C1" sampleDigest),
        .call (.markReauthRequired "ETHUSDC"),
        .call (.activateAutonomous "L1" "C1" sampleDigest)])).Nodup := by
  decide +kernel

end Blessing.Launch.Approvals
