import Blessing.Launch.Repository

/-! # The lifecycle of a launch session

Along every run the counters of a session stay in order, a staged session has at most one
reservation and never becomes active again, and only an activation makes a session autonomous. -/

namespace Blessing.Launch.Lifecycle

open Blessing.Lib Blessing.Lib.Machine Blessing.Lib.Table
open Blessing.Launch.Repository

/-- What holds of every session. -/
structure Inv (r : Session) : Prop where
  submitted : 0 ≤ r.submittedOrders
  reserved : r.submittedOrders ≤ r.reservedOrders
  active : r.state = .active → r.policy = .stagedFirstOrder
  autonomous : r.state = .autonomousActive → r.policy = .autonomousAfterReview

theorem inv_row (args : CreateArgs) : Inv args.row :=
  ⟨le_rfl, le_rfl, fun _ => rfl, (fun h => by cases h)⟩

theorem inv_changes {st : Statement} {r : Session} (h : Inv r) (hs : st.selects r = true) :
    Inv (st.changes r) := by
  obtain ⟨h1, h2, h3, h4⟩ := h
  cases st with
  | closeOthers symbol approvalId => exact ⟨h1, h2, (fun h => by cases h), (fun h => by cases h)⟩
  | reserve launchId =>
    refine ⟨h1, ?_, h3, h4⟩
    simp only [Statement.changes]
    omega
  | releaseReservation launchId =>
    simp only [Statement.selects, Bool.and_eq_true, decide_eq_true_eq] at hs
    refine ⟨h1, ?_, h3, h4⟩
    simp only [Statement.changes]
    omega
  | markSubmitted launchId =>
    simp only [Statement.selects, Bool.and_eq_true, decide_eq_true_eq] at hs
    refine ⟨?_, ?_, ?_, ?_⟩
    · simp only [Statement.changes]
      omega
    · simp only [Statement.changes]
      omega
    · simp only [Statement.changes]
      intro h
      split_ifs at h
    · simp only [Statement.changes]
      intro h
      split_ifs at h with hpolicy
      cases hp : r.policy with
      | stagedFirstOrder => exact absurd hp hpolicy
      | autonomousAfterReview => rfl
  | markReconciliationRequired launchId =>
    exact ⟨h1, h2, (fun h => by cases h), (fun h => by cases h)⟩
  | markReconciled launchId =>
    refine ⟨h1, h2, fun h => ?_, fun h => ?_⟩
    · simp only [Statement.changes] at h
      split_ifs at h
    · simp only [Statement.changes] at h
      split_ifs at h
  | activateAutonomous launchId continuationApprovalId imageDigest =>
    exact ⟨h1, h2, (fun h => by cases h), fun _ => rfl⟩
  | markReauthRequired symbol => exact ⟨h1, h2, (fun h => by cases h), (fun h => by cases h)⟩

/-! ### One step -/

theorem mem_of_get {t : Sessions} {launchId : String} {r : Session} (h : t.get launchId = some r) :
    r ∈ t.rows := mem_of_lookup h

theorem get_of_mem {t : Sessions} {r : Session} (h : r ∈ t.rows) : t.get r.launchId = some r :=
  lookup_of_mem t.valid.launch h

/-- Every session has the invariant. -/
def AllInv (w : World) : Prop := ∀ launchId r, w.sessions.get launchId = some r → Inv r

theorem allInv_step (w : World) (event : Event) (h : AllInv w) : AllInv (step w event).2 := by
  intro launchId r hr
  have hmoves := moves_step w event launchId
  rw [hr] at hmoves
  generalize hbefore : w.sessions.get launchId = before at hmoves
  cases hmoves with
  | same => exact h launchId r hbefore
  | changed hruns hselects => exact inv_changes (h launchId _ hbefore) hselects
  | inserted args => exact inv_row args

/-- No statement touches a closed session. -/
theorem selects_closed {st : Statement} {r : Session} (h : r.state = .closed) :
    st.selects r = false := by
  cases st <;> simp [Statement.selects, h]

/-- No statement makes a session active again. -/
theorem changes_active {st : Statement} {r : Session} (h : (st.changes r).state = .active) :
    r.state = .active := by
  cases st with
  | reserve launchId => exact h
  | releaseReservation launchId => exact h
  | markSubmitted launchId =>
    simp only [Statement.changes] at h
    split_ifs at h
  | markReconciled launchId =>
    simp only [Statement.changes] at h
    split_ifs at h
  | _ => cases h

/-- Only an activation makes a session autonomous. -/
theorem changes_autonomous {st : Statement} {r : Session} (hinv : Inv r) (hs : st.selects r = true)
    (h : (st.changes r).state = .autonomousActive) (hr : r.state ≠ .autonomousActive) :
    ∃ continuationApprovalId imageDigest,
      st = .activateAutonomous r.launchId continuationApprovalId imageDigest ∧
        (r.state = .pausedNewRisk ∧ r.submittedOrders = 1 ∨ r.state = .reauthRequired) := by
  cases st with
  | reserve launchId => exact absurd h hr
  | releaseReservation launchId => exact absurd h hr
  | markSubmitted launchId =>
    simp only [Statement.changes] at h
    split_ifs at h with hpolicy
    have hactive : r.state = .active := by
      simp only [Statement.selects, Bool.and_eq_true, List.contains_cons, List.contains_nil,
        Bool.or_false, Bool.or_eq_true, beq_iff_eq] at hs
      rcases hs.1.1.2 with hs | hs
      · exact hs
      · exact absurd hs hr
    exact absurd (hinv.active hactive) hpolicy
  | markReconciled launchId =>
    simp only [Statement.changes] at h
    split_ifs at h
  | activateAutonomous launchId continuationApprovalId imageDigest =>
    simp only [Statement.selects, Bool.and_eq_true, Bool.or_eq_true, decide_eq_true_eq] at hs
    obtain ⟨⟨⟨hid, -⟩, -⟩, hs⟩ := hs
    refine ⟨continuationApprovalId, imageDigest, by rw [hid], ?_⟩
    rcases hs with hs | hs
    · exact .inl ⟨hs.1.1.1.2, hs.1.1.2⟩
    · exact .inr hs.1.2
  | _ => cases h

/-- The states in which no order can be reserved. -/
def Barred (r : Session) : Prop := r.state ≠ .active ∧ r.state ≠ .autonomousActive

theorem barred_changes {st : Statement} {r : Session} (hinv : Inv r) (hs : st.selects r = true)
    (h : Barred r) (hst : ∀ continuationApprovalId imageDigest,
      st ≠ .activateAutonomous r.launchId continuationApprovalId imageDigest) :
    Barred (st.changes r) := by
  refine ⟨fun hactive => h.1 (changes_active hactive), fun hauto => ?_⟩
  obtain ⟨continuationApprovalId, imageDigest, rfl, -⟩ := changes_autonomous hinv hs hauto h.2
  exact hst _ _ rfl

theorem selects_barred {r : Session} (h : Barred r) (launchId : String) :
    (Statement.reserve launchId).selects r = false := by
  simp [Statement.selects, h.1, h.2]

/-! ### Activations and reservations -/

/-- A launch activated by an event: the call that returned its row. -/
def Activates (launchId : String) (w : World) (event : Event) : Prop :=
  ∃ continuationApprovalId imageDigest row,
    event = .call (.activateAutonomous launchId continuationApprovalId imageDigest) ∧
      (step w event).1 = .session row

theorem launchId_of_get {t : Sessions} {launchId : String} {r : Session}
    (h : t.get launchId = some r) : r.launchId = launchId := key_of_lookup h

/-- A call of `activate_mainnet_autonomous` that changed the session returned its row. -/
theorem activates_of_changed {w : World} {launchId continuationApprovalId imageDigest : String}
    {r : Session} (hr : w.sessions.get launchId = some r)
    (hs : (Statement.activateAutonomous launchId continuationApprovalId imageDigest).selects r =
      true) (hchanged : (step w
      (.call (.activateAutonomous launchId continuationApprovalId imageDigest))).2.sessions.get
      launchId ≠ some r) :
    Activates launchId w
      (.call (.activateAutonomous launchId continuationApprovalId imageDigest)) := by
  simp only [Activates, step] at hchanged ⊢
  cases hrefused :
    (Statement.activateAutonomous launchId continuationApprovalId imageDigest).refused with
  | some message => exact absurd (by simpa [hrefused] using hr) hchanged
  | none =>
    cases hexec :
      w.sessions.exec (.activateAutonomous launchId continuationApprovalId imageDigest) with
    | none => exact absurd (by simpa [hrefused, hexec] using hr) hchanged
    | some result =>
      obtain ⟨changed, sessions⟩ := result
      have hpos : changed ≠ 0 := by
        rw [exec_count hexec]
        exact (List.countP_pos_iff.mpr ⟨r, mem_of_get hr, hs⟩).ne'
      have hget := get_exec hexec launchId
      rw [hr, Option.map_some, if_pos hs] at hget
      refine ⟨continuationApprovalId, imageDigest,
        (Statement.activateAutonomous launchId continuationApprovalId imageDigest).changes r, rfl,
        ?_⟩
      simp only [Statement.answer, if_neg hpos, hget, Option.map_some, Option.getD_some]

/-- A session that is barred stays so until it is activated. -/
theorem barred_step {w : World} {event : Event} {launchId : String} {r : Session} (hinv : AllInv w)
    (hr : w.sessions.get launchId = some r) (hbarred : Barred r)
    (hevent : ¬ Activates launchId w event) :
    ∃ r', (step w event).2.sessions.get launchId = some r' ∧ Barred r' := by
  have hmoves := moves_step w event launchId
  rw [hr] at hmoves
  generalize hafter : (step w event).2.sessions.get launchId = after at hmoves
  cases hmoves with
  | same => exact ⟨r, rfl, hbarred⟩
  | @changed st _ hruns hselects =>
    refine ⟨st.changes r, rfl, barred_changes (hinv launchId r hr) hselects hbarred ?_⟩
    rintro continuationApprovalId imageDigest rfl
    rw [launchId_of_get hr] at hruns hselects hafter
    rcases hruns with rfl | ⟨-, symbol, approvalId, he⟩
    · refine hevent (activates_of_changed hr hselects ?_)
      rw [hafter]
      intro he
      exact hbarred.2 (by rw [← Option.some.inj he]; rfl)
    · cases he

theorem reserve_barred {w : World} {launchId : String} {r : Session}
    (hr : w.sessions.get launchId = some r) (hbarred : Barred r) :
    (step w (.call (.reserve launchId))).1 = .bool false := by
  have hnone : ∀ r' ∈ w.sessions.rows, (Statement.reserve launchId).selects r' = false := by
    intro r' hr'
    by_cases hid : r'.launchId = launchId
    · have hget := get_of_mem hr'
      rw [hid, hr] at hget
      rw [← Option.some.inj hget]
      exact selects_barred hbarred launchId
    · simp [Statement.selects, hid]
  simp [step, Statement.refused, exec_none hnone, Statement.answer]

/-! ### Runs -/

theorem admitted_true (w : World) (events : List Event) :
    Admitted step (fun _ _ => True) w events :=
  admitted_of_forall fun _ _ => trivial

theorem allInv_run (events : List Event) : AllInv (run step start events).2 :=
  run_inv (fun w event h _ => allInv_step w event h) (fun launchId r hr => by cases hr)
    (admitted_true start events)

/-- A session stays in the table; it never becomes active again, and if it is closed it stays as it
is. -/
theorem session_step {w : World} (event : Event) {launchId : String} {r : Session}
    (hr : w.sessions.get launchId = some r) :
    ∃ r', (step w event).2.sessions.get launchId = some r' ∧
      (r.state ≠ .active → r'.state ≠ .active) ∧ (r.state = .closed → r' = r) := by
  have hmoves := moves_step w event launchId
  rw [hr] at hmoves
  generalize (step w event).2.sessions.get launchId = after at hmoves
  cases hmoves with
  | same => exact ⟨r, rfl, id, fun _ => rfl⟩
  | changed hruns hselects =>
    refine ⟨_, rfl, fun h hactive => h (changes_active hactive), fun hclosed => ?_⟩
    rw [selects_closed hclosed] at hselects
    cases hselects

theorem session_run {w : World} (events : List Event) {launchId : String} {r : Session}
    (hr : w.sessions.get launchId = some r) :
    ∃ r', (run step w events).2.sessions.get launchId = some r' ∧
      (r.state ≠ .active → r'.state ≠ .active) ∧ (r.state = .closed → r' = r) := by
  induction events generalizing w r with
  | nil => exact ⟨r, hr, id, fun _ => rfl⟩
  | cons event events ih =>
    obtain ⟨r₁, hr₁, hactive₁, hclosed₁⟩ := session_step event hr
    obtain ⟨r₂, hr₂, hactive₂, hclosed₂⟩ := ih hr₁
    refine ⟨r₂, hr₂, fun h => hactive₂ (hactive₁ h), fun h => ?_⟩
    have hsame := hclosed₁ h
    rw [hclosed₂ (by rw [hsame, h]), hsame]

/-- A launch becomes autonomous only by an activation, after its first order or a fence. -/
theorem autonomous_step {w : World} (hinv : AllInv w) (event : Event) {launchId : String}
    {r' : Session} (hr' : (step w event).2.sessions.get launchId = some r')
    (hauto : r'.state = .autonomousActive)
    (hbefore : ∀ r, w.sessions.get launchId = some r → r.state ≠ .autonomousActive) :
    ∃ r continuationApprovalId imageDigest, w.sessions.get launchId = some r ∧
      event = .call (.activateAutonomous launchId continuationApprovalId imageDigest) ∧
      (r.state = .pausedNewRisk ∧ r.submittedOrders = 1 ∨ r.state = .reauthRequired) := by
  have hmoves := moves_step w event launchId
  rw [hr'] at hmoves
  generalize hget : w.sessions.get launchId = before at hmoves
  cases hmoves with
  | same => exact absurd hauto (hbefore r' hget)
  | @changed st r hruns hselects =>
    obtain ⟨continuationApprovalId, imageDigest, rfl, hfrom⟩ :=
      changes_autonomous (hinv launchId r hget) hselects hauto (hbefore r hget)
    rw [launchId_of_get hget] at hruns
    rcases hruns with rfl | ⟨-, symbol, approvalId, he⟩
    · exact ⟨r, continuationApprovalId, imageDigest, rfl, rfl, hfrom⟩
    · cases he
  | inserted args => cases hauto

/-- No order is reserved for a barred session until it is activated. -/
theorem barred_run {w : World} (hinv : AllInv w) (events : List Event) {launchId : String}
    {r : Session} (hr : w.sessions.get launchId = some r) (hbarred : Barred r)
    (hno : ∀ before event, StepOf step w events before event → ¬ Activates launchId before event) :
    ∃ r', (run step w events).2.sessions.get launchId = some r' ∧ Barred r' := by
  induction events generalizing w r with
  | nil => exact ⟨r, hr, hbarred⟩
  | cons event events ih =>
    obtain ⟨r₁, hr₁, hbarred₁⟩ := barred_step hinv hr hbarred (hno w event ⟨[], events, rfl, rfl⟩)
    refine ih (allInv_step w event hinv) hr₁ hbarred₁ ?_
    rintro before event' ⟨pre, post, rfl, rfl⟩
    exact hno _ event' ⟨event :: pre, post, rfl, rfl⟩

/-- What holds of every session in every state that a run reaches. -/
structure Orderly (w : World) : Prop where
  counters : ∀ r ∈ w.sessions.rows, 0 ≤ r.submittedOrders ∧ r.submittedOrders ≤ r.reservedOrders
  staged : ∀ r ∈ w.sessions.rows, r.policy = .stagedFirstOrder → r.reservedOrders ≤ 1
  autonomous : ∀ r ∈ w.sessions.rows, r.state = .autonomousActive →
    r.policy = .autonomousAfterReview
  oneOpen : ∀ r ∈ w.sessions.rows, ∀ r' ∈ w.sessions.rows, r.state ≠ .closed → r'.state ≠ .closed →
    r.symbol = r'.symbol → r = r'

theorem orderly_of_inv {w : World} (h : AllInv w) : Orderly w := by
  have hinv : ∀ r ∈ w.sessions.rows, Inv r := fun r hr => h r.launchId r (get_of_mem hr)
  refine ⟨fun r hr => ⟨(hinv r hr).submitted, (hinv r hr).reserved⟩, fun r hr hpolicy => ?_,
    fun r hr => (hinv r hr).autonomous, fun r hr r' hr' hopen hopen' hsymbol => ?_⟩
  · obtain ⟨hlimit, ⟨-, hreserved⟩, -⟩ := w.sessions.valid.checked r hr
    rcases hlimit with ⟨-, hmax⟩ | ⟨hpolicy', -⟩
    · exact hreserved 1 hmax
    · rw [hpolicy] at hpolicy'
      cases hpolicy'
  · refine List.inj_on_of_nodup_map w.sessions.valid.oneActive ?_ ?_ hsymbol
    · simpa using ⟨hr, hopen⟩
    · simpa using ⟨hr', hopen'⟩

/-- **Session lifecycle**: every interleaving of the statements keeps the sessions in order; from
any state of a run on, a session that has left `ACTIVE` never is active again, a closed one stays as
it is, only an activation of a reviewed or fenced launch makes it autonomous, and after a fence
nothing is reserved until the launch is activated. -/
theorem session_lifecycle (before after : List Event) :
    let reached := (run step start before).2
    let later := (run step reached after).2
    Orderly reached ∧
    (∀ launchId r, reached.sessions.get launchId = some r →
      ∃ r', later.sessions.get launchId = some r' ∧
        (r.state ≠ .active → r'.state ≠ .active) ∧ (r.state = .closed → r' = r)) ∧
    (∀ event launchId r', (step reached event).2.sessions.get launchId = some r' →
      r'.state = .autonomousActive →
      (∀ r, reached.sessions.get launchId = some r → r.state ≠ .autonomousActive) →
      ∃ r continuationApprovalId imageDigest, reached.sessions.get launchId = some r ∧
        event = .call (.activateAutonomous launchId continuationApprovalId imageDigest) ∧
        (r.state = .pausedNewRisk ∧ r.submittedOrders = 1 ∨ r.state = .reauthRequired)) ∧
    ∀ launchId r, reached.sessions.get launchId = some r →
      (r.state = .reauthRequired ∨ r.state = .reconciliationRequired) →
      (∀ w event, StepOf step reached after w event → ¬ Activates launchId w event) →
      (step later (.call (.reserve launchId))).1 = .bool false := by
  intro reached later
  have hinv : AllInv reached := allInv_run before
  refine ⟨orderly_of_inv hinv, fun launchId r hr => session_run after hr, ?_, ?_⟩
  · exact fun event launchId r' hr' hauto hbefore => autonomous_step hinv event hr' hauto hbefore
  · intro launchId r hr hfence hno
    have hbarred : Barred r := by
      rcases hfence with h | h <;> simp [Barred, h]
    obtain ⟨r', hr', hbarred'⟩ := barred_run hinv after hr hbarred hno
    exact reserve_barred hr' hbarred'

/-- A launch that was activated and then fenced by a restart. -/
def fencedLaunch : List Event :=
  launched ++ [.call (.activateAutonomous "L1" "C1" sampleDigest),
    .call (.markReauthRequired "ETHUSDC")]

theorem session_lifecycle_fenced :
    ((run step start fencedLaunch).2.sessions.get "L1").map Session.state = some .reauthRequired ∧
      (step (run step start fencedLaunch).2 (.call (.reserve "L1"))).1 = .bool false := by
  have hstate : ((run step start fencedLaunch).2.sessions.get "L1").map Session.state =
      some .reauthRequired := by decide +kernel
  obtain ⟨r, hr, hstate'⟩ := Option.map_eq_some_iff.mp hstate
  obtain ⟨-, -, -, hfence⟩ := session_lifecycle fencedLaunch []
  have hreserve := hfence "L1" r hr (.inl hstate')
  rw [run_nil] at hreserve
  refine ⟨hstate, hreserve ?_⟩
  rintro w event ⟨pre, post, h, -⟩
  simp at h

end Blessing.Launch.Lifecycle
